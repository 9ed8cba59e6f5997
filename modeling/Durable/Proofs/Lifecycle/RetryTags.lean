import Durable.Lifecycle.Retries

/-! The tags of a new run: which of the tags it is given it has, and when those of another run give
it the same ones as that run's user tags do. -/

namespace Durable.Retries

section Lists

variable {Item : Type} [BEq Item] [LawfulBEq Item]

theorem filter_eraseDups (keep : Item → Bool) (items : List Item) :
    items.eraseDups.filter keep = (items.filter keep).eraseDups := by
  -- Each turn takes the later repeats of the first item away, so the list gets shorter.
  induction length : items.length using Nat.strongRecOn generalizing items with
  | _ bound ih =>
    cases items with
    | nil => rfl
    | cons item rest =>
      have shorter : (rest.filter fun other => !other == item).length < bound := by
        have := List.length_filter_le (fun other => !other == item) rest
        rw [← length, List.length_cons]
        omega
      have rested := ih _ shorter (rest.filter fun other => !other == item) rfl
      rw [List.eraseDups_cons, List.filter_cons, List.filter_cons, rested]
      split
      · rw [List.eraseDups_cons, List.filter_filter, List.filter_filter]
        congr 3
        funext other
        exact Bool.and_comm _ _
      · rename_i dropped
        -- The item is dropped, and so are its repeats.
        rw [List.filter_filter]
        congr 1
        apply List.filter_congr
        intro other _
        cases same : other == item with
        | true => simp [eq_of_beq same, dropped]
        | false => simp

theorem eraseDups_of_nodup {items : List Item} (distinct : items.Nodup) :
    items.eraseDups = items := by
  induction items with
  | nil => rfl
  | cons item rest ih =>
    obtain ⟨absent, rested⟩ := List.nodup_cons.mp distinct
    have others : rest.filter (fun other => !other == item) = rest := by
      apply List.filter_eq_self.mpr
      intro other listed
      have apart : other ≠ item := fun same => absent (same ▸ listed)
      simp [apart]
    rw [List.eraseDups_cons, others, ih rested]

end Lists

theorem append_left_over {Item : Type} {whole part minted rest : List Item}
    (longer : part.length ≤ whole.length) (same : whole ++ rest = part ++ minted) :
    ∃ own, own <+: minted ∧ whole = part ++ own := by
  obtain ⟨own, rfl⟩ : part <+: whole :=
    List.prefix_of_prefix_length_le (same ▸ List.prefix_append part minted)
      (List.prefix_append whole rest) longer
  rw [List.append_assoc] at same
  exact ⟨own, ⟨rest, List.append_cancel_left same⟩, rfl⟩

section Kinds

variable {tag : String}

theorem tagged_apart {pre other : String} (here : tagged pre tag = true)
    (apart : ¬ (other.toList <+: pre.toList ∨ pre.toList <+: other.toList)) :
    tagged other tag = false := by
  rw [← Bool.not_eq_true]
  intro there
  have one : pre.toList <+: tag.toList := List.isPrefixOf_iff_prefix.mp here
  have second : other.toList <+: tag.toList := List.isPrefixOf_iff_prefix.mp there
  exact apart (List.prefix_or_prefix_of_prefix second one)

theorem tagged_append (pre rest : String) : tagged pre (pre ++ rest) = true := by
  unfold tagged
  rw [String.toList_append]
  exact List.isPrefixOf_iff_prefix.mpr (List.prefix_append _ _)

theorem not_key_of_lifecycle (lifecycle : isLifecycleTag tag = true) : isKeyTag tag = false := by
  unfold isLifecycleTag at lifecycle
  simp only [Bool.or_eq_true, beq_iff_eq] at lifecycle
  unfold isKeyTag
  rcases lifecycle with ((((rfl | here) | here) | here) | here) | here
  · decide +kernel
  all_goals
    rw [Bool.or_eq_false_iff]
    exact ⟨tagged_apart here (by decide +kernel), tagged_apart here (by decide +kernel)⟩

theorem not_key_of_onError (here : tagged onErrorTagPrefix tag = true) :
    isKeyTag tag = false := by
  unfold isKeyTag
  rw [Bool.or_eq_false_iff]
  exact ⟨tagged_apart here (by decide +kernel), tagged_apart here (by decide +kernel)⟩

theorem not_stripped_of_key (key : isKeyTag tag = true) : isStripped tag = false := by
  rw [← Bool.not_eq_true]
  intro stripped
  unfold isStripped at stripped
  simp only [Bool.or_eq_true, List.contains_iff_mem, singletonReservedTags, List.mem_cons,
    List.not_mem_nil, or_false, beq_iff_eq] at stripped
  rcases stripped with (rfl | rfl) | rfl
  all_goals
    revert key
    decide +kernel

theorem isEngineTag_of_key (key : isKeyTag tag = true) : isEngineTag tag = true := by
  unfold isEngineTag
  simp [key]

theorem isEngineTag_of_lifecycle (lifecycle : isLifecycleTag tag = true) :
    isEngineTag tag = true := by
  unfold isEngineTag
  simp [lifecycle]

theorem retentionKeeps_eq_false {tags : List String}
    (plain : ∀ tag ∈ tags, isEngineTag tag = false ∨ isKeyTag tag = true) :
    Retention.retentionKeeps tags = false := by
  rw [← Bool.not_eq_true]
  intro keeps
  unfold Retention.retentionKeeps at keeps
  rw [Bool.or_eq_true, List.contains_iff_mem, List.contains_iff_mem] at keeps
  rcases keeps with pending | registry
  · rcases plain _ pending with label | key
    · revert label
      decide +kernel
    · revert key
      decide +kernel
  · rcases plain _ registry with label | key
    · revert label
      decide +kernel
    · revert key
      decide +kernel

end Kinds

section Minted

variable {reg : Registration} {quota : Option ConcurrencyQuota} {workflow : String}
  {input : Option Value}

theorem isKeyTag_singleton (single : Singleton) : isKeyTag single.tag = true := by
  have here : tagged singletonTagPrefix single.tag = true := tagged_append _ _
  unfold isKeyTag
  rw [here, Bool.true_or]

theorem isKeyTag_concurrency (key : String) : isKeyTag (concurrencyTag key) = true := by
  have here : tagged concurrencyTagPrefix (concurrencyTag key) = true := tagged_append _ _
  unfold isKeyTag
  rw [here, Bool.or_true]

theorem isKeyTag_of_minted {tag : String} (minted : tag ∈ mintedTags reg quota workflow input) :
    isKeyTag tag = true := by
  unfold mintedTags at minted
  rw [List.mem_append, Option.mem_toList, Option.mem_toList] at minted
  simp only [Option.map_eq_some_iff] at minted
  rcases minted with ⟨cfg, -, rfl⟩ | ⟨given, -, rfl⟩
  · exact isKeyTag_singleton _
  · exact isKeyTag_concurrency _

theorem mintedTags_nodup : (mintedTags reg quota workflow input).Nodup := by
  unfold mintedTags
  cases reg.singleton with
  | none =>
    cases quota with
    | none => exact List.nodup_nil
    | some given => exact List.nodup_singleton _
  | some cfg =>
    cases quota with
    | none => exact List.nodup_singleton _
    | some given =>
      -- The one begins with another word than the other.
      have here : tagged singletonTagPrefix (cfg.singleton workflow input).tag = true :=
        tagged_append _ _
      have there : tagged concurrencyTagPrefix (concurrencyTag given.key) = true :=
        tagged_append _ _
      have apart : (cfg.singleton workflow input).tag ≠ concurrencyTag given.key := by
        intro same
        rw [same, tagged_apart there (by decide +kernel)] at here
        cases here
      simpa using apart

end Minted

section NewRuns

variable (reg : Registration) {request : StartRequest} {tag : String}

/-- The tags that a start takes over: those that it does not strip and its workflow does not have
anyway. -/
def copiedTags (tags : List String) : List String :=
  ((tags.filter (!isStripped ·)).filter (!reg.tags.contains ·)).eraseDups

/-- The tags that a run is minted. -/
def StartRequest.minted (request : StartRequest) : List String :=
  mintedTags reg (resolveConcurrency request.concurrency reg.concurrency request.input)
    request.workflow request.input

theorem newRun_merged (request : StartRequest) :
    (newRun reg request).tags =
      (mergeTags reg.tags (request.tags ++ request.minted reg)).filter (!isStripped ·) := by
  unfold newRun startedRun isStripped StartRequest.minted
  simp only [Bool.not_or]
  rfl

theorem mem_newRun_tags : tag ∈ (newRun reg request).tags ↔
      (tag ∈ reg.tags ∨ tag ∈ request.tags ∨ tag ∈ request.minted reg) ∧
        isStripped tag = false := by
  rw [newRun_merged, List.mem_filter]
  unfold mergeTags
  rw [List.mem_eraseDups, List.mem_append, List.mem_append, Bool.not_eq_true']

/-- A new run has the tags of its workflow, those that it takes over, and those that it is
minted. -/
theorem newRun_tags (request : StartRequest) :
    (newRun reg request).tags =
      reg.tags.eraseDups.filter (!isStripped ·) ++
        (copiedTags reg request.tags ++ (request.minted reg).filter
          fun tag => !(copiedTags reg request.tags).contains tag) := by
  have tags := newRun_merged reg request
  have minted : ∀ tag ∈ request.minted reg, isStripped tag = false ∧ tag ∉ reg.tags := by
    intro tag listed
    have key := isKeyTag_of_minted listed
    refine ⟨not_stripped_of_key key, ?_⟩
    intro label
    have user := reg.labels tag label
    rw [isEngineTag_of_key key] at user
    cases user
  have mintedKept : ((request.minted reg).filter (!isStripped ·)).filter
      (!reg.tags.contains ·) = request.minted reg := by
    rw [List.filter_filter, List.filter_eq_self]
    intro tag listed
    simp [minted tag listed]
  rw [tags]
  unfold mergeTags
  rw [List.eraseDups_append, List.filter_append]
  congr 1
  -- What is stripped and what the workflow has may be taken away in either order.
  have swapped (items : List String) : (items.removeAll reg.tags).filter (!isStripped ·) =
      (items.filter (!isStripped ·)).filter (!reg.tags.contains ·) := by
    unfold List.removeAll
    rw [List.filter_filter, List.filter_filter]
    apply List.filter_congr
    intro tag _
    exact Bool.and_comm _ _
  rw [filter_eraseDups, swapped, List.filter_append, List.filter_append, mintedKept,
    List.eraseDups_append]
  unfold copiedTags
  congr 1
  have distinct : (request.minted reg).Nodup := mintedTags_nodup
  unfold List.removeAll
  rw [eraseDups_of_nodup (distinct.filter _)]
  apply List.filter_congr
  intro tag _
  rw [Bool.eq_iff_iff]
  simp

theorem copiedTags_userTags (tags : List String) :
    copiedTags reg (userTags tags) = (copiedTags reg tags).filter (!isEngineTag ·) := by
  unfold copiedTags userTags
  rw [filter_eraseDups, List.filter_filter, List.filter_filter, List.filter_filter,
    List.filter_filter]
  congr 1
  apply List.filter_congr
  intro tag _
  cases isEngineTag tag <;> simp

/-- The engine's tags that a start takes over come behind the user's, and are the first of those
that the new run is minted. -/
def StandsAlone (request : StartRequest) : Prop :=
  ∃ own, own <+: request.minted reg ∧
    copiedTags reg request.tags = (copiedTags reg request.tags).filter (!isEngineTag ·) ++ own

/-- A start with only the user tags of those it is given. -/
def StartRequest.fresh (request : StartRequest) : StartRequest :=
  { request with tags := userTags request.tags }

theorem fresh_tags (listed : tag ∈ (newRun reg request.fresh).tags) :
    isEngineTag tag = false ∨ tag ∈ request.minted reg := by
  rcases ((mem_newRun_tags reg).mp listed).1 with label | user | minted
  · exact Or.inl (reg.labels tag label)
  · have plain := (List.mem_filter.mp user).2
    exact Or.inl ((Bool.not_eq_true' _).mp plain)
  · exact Or.inr minted

theorem newRun_tags_eq_iff (request : StartRequest) :
    (newRun reg request).tags = (newRun reg request.fresh).tags ↔ StandsAlone reg request := by
  have minted : request.fresh.minted reg = request.minted reg := rfl
  have fresh : (copiedTags reg request.fresh.tags) =
      (copiedTags reg request.tags).filter (!isEngineTag ·) := copiedTags_userTags reg _
  -- No tag that is minted is a user's.
  have apart : (request.minted reg).filter (fun tag =>
      !((copiedTags reg request.tags).filter (!isEngineTag ·)).contains tag) =
        request.minted reg := by
    rw [List.filter_eq_self]
    intro tag listed
    have engine := isEngineTag_of_key (isKeyTag_of_minted listed)
    simp [engine]
  rw [newRun_tags, newRun_tags, minted, fresh, apart, List.append_cancel_left_eq]
  constructor
  · intro same
    exact append_left_over (List.length_filter_le _ _) same
  · rintro ⟨own, ⟨rest, split⟩, copied⟩
    have distinct : (own ++ rest).Nodup := split ▸ mintedTags_nodup
    have others : (request.minted reg).filter (fun tag =>
        !(copiedTags reg request.tags).contains tag) = rest := by
      rw [copied, ← split, List.filter_append]
      have left : own.filter (fun tag => !((copiedTags reg request.tags).filter
          (!isEngineTag ·) ++ own).contains tag) = [] := by
        apply List.filter_eq_nil_iff.mpr
        intro tag listed
        simp [listed]
      have right : rest.filter (fun tag => !((copiedTags reg request.tags).filter
          (!isEngineTag ·) ++ own).contains tag) = rest := by
        rw [List.filter_eq_self]
        intro tag listed
        have engine := isEngineTag_of_key (isKeyTag_of_minted
          (split ▸ List.mem_append_right own listed))
        have unowned : tag ∉ own := fun owned =>
          (List.nodup_append.mp distinct).2.2 tag owned tag listed rfl
        simp [engine, unowned]
      rw [left, right, List.nil_append]
    rw [others, ← split, ← List.append_assoc, ← copied]

end NewRuns

end Durable.Retries
