import Durable.Transport.WorkerKeys

/-! Which rows of the shared table the reads of a transport pick out, and when these are the rows of
its own namespace. -/

namespace Durable.WorkerKeys

variable {row : Row} {token group marker text : String} {namespace_ reader : Option String}

section Texts

theorem includes_iff : includes text marker = true ↔ marker.toList <:+: text.toList := by
  unfold includes
  exact Markers.isSome_afterFirst

theorem startsWith_iff : startsWith text marker = true ↔ marker.toList <+: text.toList := by
  unfold startsWith
  exact List.isPrefixOf_iff_prefix

theorem not_suffix {word other front : List Char} (nonempty : word ≠ []) (nonempty' : other ≠ [])
    (apart : word.getLast? ≠ other.getLast?) : ¬ word <:+ front ++ other := by
  rintro ⟨before, same⟩
  have lasts := congrArg List.getLast? same
  rw [List.getLast?_append_of_ne_nil _ nonempty, List.getLast?_append_of_ne_nil _ nonempty']
    at lasts
  exact apart lasts

end Texts

section Names

def poolOf : Option String → String
  | none => "default"
  | some name => if name = "" then "default" else name

theorem effectivePrefix_eq : effectivePrefix keyPrefix namespace_ =
    if poolOf namespace_ = "default" then keyPrefix else keyPrefix ++ "-" ++ poolOf namespace_ := by
  unfold effectivePrefix poolOf
  cases namespace_ with
  | none => rfl
  | some name =>
    dsimp only
    by_cases unset : name = ""
    · simp [unset]
    · simp [unset]

theorem keyPrefix_ne (name : String) : keyPrefix ≠ keyPrefix ++ "-" ++ name := by
  intro same
  have lengths := congrArg (fun text => text.toList.length) same
  simp only [String.toList_append, List.length_append] at lengths
  have one : "-".toList.length = 1 := by decide
  omega

theorem effectivePrefix_inj : effectivePrefix keyPrefix namespace_ =
    effectivePrefix keyPrefix reader ↔ poolOf namespace_ = poolOf reader := by
  constructor
  · intro same
    rw [effectivePrefix_eq, effectivePrefix_eq] at same
    split at same
    · rename_i bare
      split at same
      · rename_i bare'
        rw [bare, bare']
      · exact absurd same (keyPrefix_ne _)
    · split at same
      · exact absurd same.symm (keyPrefix_ne _)
      · simp only [← String.toList_inj, String.toList_append] at same
        exact String.toList_inj.mp (List.append_cancel_left same)
  · intro same
    rw [effectivePrefix_eq, effectivePrefix_eq, same]

theorem unmarked_token (row : Row) : ':' ∉ row.token.toList := by
  have base : ':' ∉ (sanitizeQueueToken row.handler).toList := by
    unfold sanitizeQueueToken
    rw [String.toList_map, List.mem_map]
    rintro ⟨char, -, replaced⟩
    split at replaced
    · exact absurd replaced (by decide)
    · rename_i other
      exact other replaced
  unfold Row.token routingToken tenantGroup
  cases row.worker.partition with
  | none => exact base
  | some partition =>
    dsimp only [Option.map_some]
    split
    · exact base
    · rw [String.toList_append, String.toList_append, List.mem_append, List.mem_append]
      rintro ((listed | listed) | listed)
      · exact base listed
      · exact absurd listed (by decide)
      · exact partition.2 listed

end Names

section Keys

/-- The name of what a worker writes. -/
def Kind.segment : Kind → String
  | .descriptor => "-worker-descriptor"
  | .heartbeat => "-worker-heartbeat"

/-- What stands in a row's key in front of its token. -/
def Row.front (row : Row) : String :=
  effectivePrefix keyPrefix row.worker.namespace_ ++ row.kind.segment

/-- A row is of the pool of a namespace. -/
def Row.own (row : Row) (reader : Option String) : Prop :=
  poolOf row.worker.namespace_ = poolOf reader

theorem colon_toList : ":".toList = [':'] := by decide

theorem key_toList : row.key.toList = row.front.toList ++ ':' ::
    (row.token.toList ++ ':' :: row.worker.instanceId.1.toList) := by
  unfold Row.key Row.front
  cases row.kind with
  | descriptor =>
    have segment : "-worker-descriptor:" = Kind.segment .descriptor ++ ":" := by decide
    simp only [workerDescriptorKey, segment, String.toList_append, colon_toList,
      List.append_assoc, List.cons_append, List.nil_append]
  | heartbeat =>
    have segment : "-worker-heartbeat:" = Kind.segment .heartbeat ++ ":" := by decide
    simp only [workerHeartbeatKey, workerHeartbeatKeyPrefix, segment, String.toList_append,
      colon_toList, List.append_assoc, List.cons_append, List.nil_append]

theorem segment_suffix_iff (kind : Kind) :
    kind.segment.toList <:+ row.front.toList ↔ row.kind = kind := by
  unfold Row.front
  rw [String.toList_append]
  constructor
  · intro ends
    by_contra other
    revert ends
    cases kind with
    | descriptor =>
      cases known : row.kind with
      | descriptor => exact absurd known other
      | heartbeat => exact not_suffix (by decide) (by decide) (by decide)
    | heartbeat =>
      cases known : row.kind with
      | descriptor => exact not_suffix (by decide) (by decide) (by decide)
      | heartbeat => exact absurd known other
  · rintro rfl
    exact List.suffix_append _ _

def descriptorMarker (token : String) : String := "-worker-descriptor:" ++ token ++ ":"

theorem descriptorMarker_toList : (descriptorMarker token).toList =
    (Kind.segment .descriptor).toList ++ ':' :: token.toList ++ [':'] := by
  have segment : "-worker-descriptor:".toList = (Kind.segment .descriptor).toList ++ [':'] := by
    decide
  unfold descriptorMarker
  rw [String.toList_append, String.toList_append, segment, colon_toList]
  simp only [List.append_assoc, List.cons_append, List.nil_append]

/-- A key includes the marker of a token, just if it is a descriptor's on that token, or its front
includes the marker. -/
theorem includes_key (unmarked : ':' ∉ token.toList) :
    includes row.key (descriptorMarker token) = true ↔
      (row.kind = .descriptor ∧ row.token = token) ∨
        includes (row.front ++ ":") (descriptorMarker token) = true := by
  have front : (row.front ++ ":").toList = row.front.toList ++ [':'] := by
    rw [String.toList_append, colon_toList]
  rw [includes_iff, includes_iff, descriptorMarker_toList, key_toList, front]
  apply (Markers.infix_words_iff unmarked (unmarked_token row) row.worker.instanceId.2).trans
  rw [segment_suffix_iff, String.toList_inj]
  constructor
  · rintro (⟨kind, same⟩ | further)
    · exact .inl ⟨kind, same.symm⟩
    · exact .inr further
  · rintro (⟨kind, same⟩ | further)
    · exact .inl ⟨kind, same.symm⟩
    · exact .inr further

theorem front_eq_iff {kind : Kind} :
    effectivePrefix keyPrefix reader ++ kind.segment = row.front ↔
      row.kind = kind ∧ row.own reader := by
  constructor
  · intro same
    have ends : kind.segment.toList <:+ row.front.toList := by
      rw [← same, String.toList_append]
      exact List.suffix_append _ _
    have known := segment_suffix_iff kind |>.mp ends
    subst known
    refine ⟨rfl, ?_⟩
    unfold Row.front at same
    rw [← String.toList_inj, String.toList_append, String.toList_append] at same
    have prefixes := String.toList_inj.mp (List.append_cancel_right same)
    exact effectivePrefix_inj.mp prefixes.symm
  · rintro ⟨rfl, own⟩
    unfold Row.front
    rw [effectivePrefix_inj.mpr own]

theorem heartbeatMarker_toList : (workerHeartbeatKey (effectivePrefix keyPrefix reader) group
    "").toList = (effectivePrefix keyPrefix reader ++ Kind.segment .heartbeat).toList ++
      ':' :: group.toList ++ [':'] := by
  have segment : "-worker-heartbeat:" = Kind.segment .heartbeat ++ ":" := by decide
  have nothing : "".toList = [] := by decide
  simp only [workerHeartbeatKey, workerHeartbeatKeyPrefix, segment, String.toList_append,
    colon_toList, nothing, List.append_assoc, List.cons_append, List.append_nil, List.nil_append]

/-- A key starts with the marker of a namespace and a token, just if it is a heartbeat of the
namespace on that token, or its front starts with the marker. -/
theorem startsWith_key (unmarked : ':' ∉ group.toList) :
    startsWith row.key (workerHeartbeatKey (effectivePrefix keyPrefix reader) group "") = true ↔
      ((row.kind = .heartbeat ∧ row.own reader) ∧ row.token = group) ∨
        startsWith (row.front ++ ":")
          (workerHeartbeatKey (effectivePrefix keyPrefix reader) group "") = true := by
  have front : (row.front ++ ":").toList = row.front.toList ++ [':'] := by
    rw [String.toList_append, colon_toList]
  rw [startsWith_iff, startsWith_iff, heartbeatMarker_toList, key_toList, front]
  apply (Markers.prefix_words_iff unmarked (unmarked_token row) row.worker.instanceId.2).trans
  rw [String.toList_inj, String.toList_inj, front_eq_iff]
  constructor
  · rintro (⟨kind, same⟩ | further)
    · exact .inl ⟨kind, same.symm⟩
    · exact .inr further
  · rintro (⟨kind, same⟩ | further)
    · exact .inl ⟨kind, same.symm⟩
    · exact .inr further

def heartbeatStem : List Char := "-worker-heartbeat".toList

/-- What the key of a row shows as the token of a heartbeat: what stands behind the segment in its
front, if it has a colon there; the token of a heartbeat; or the id of a worker whose descriptor is
on a token that ends with the segment. -/
def Row.shown (row : Row) : Option String :=
  match Markers.afterFirst (heartbeatStem ++ [':']) row.front.toList with
  | some rest => some (upToColon rest)
  | none =>
    match row.kind with
    | .heartbeat => some row.token
    | .descriptor =>
      if heartbeatStem <:+ row.token.toList then some row.worker.instanceId else none

theorem upToColon_append (unmarked : ':' ∉ text.toList) (more : List Char) :
    upToColon (text.toList ++ ':' :: more) = text := by
  unfold upToColon
  rw [Markers.takeWhile_append_mark, Markers.takeWhile_of_unmarked unmarked, String.ofList_toList]

theorem upToColon_self (unmarked : ':' ∉ text.toList) : upToColon text.toList = text := by
  unfold upToColon
  rw [Markers.takeWhile_of_unmarked unmarked, String.ofList_toList]

theorem not_holds (unmarked : ':' ∉ text.toList) : ¬ heartbeatStem ++ [':'] <:+: text.toList := by
  intro holds
  exact unmarked (holds.subset (by simp))

theorem groupOf_some {rest : List Char}
    (found : Markers.afterFirst (heartbeatStem ++ [':']) row.key.toList = some rest) :
    groupOf row.key = (some (upToColon rest)).filter fun group => group ≠ "" := by
  have marker : "-worker-heartbeat:".toList = heartbeatStem ++ [':'] := by decide
  unfold groupOf
  rw [marker, found]
  dsimp only
  by_cases empty : upToColon rest = ""
  · simp [empty, Option.filter]
  · simp [empty, Option.filter]

/-- The token read from a key is what it shows, unless that is empty. -/
theorem groupOf_key : groupOf row.key = row.shown.filter fun group => group ≠ "" := by
  have unmarked : ':' ∉ heartbeatStem := by decide
  unfold Row.shown
  cases found : Markers.afterFirst (heartbeatStem ++ [':']) row.front.toList with
  | some rest =>
    dsimp only
    have behind : Markers.afterFirst (heartbeatStem ++ [':']) row.key.toList =
        some (rest ++ ':' :: (row.token.toList ++ ':' :: row.worker.instanceId.1.toList)) := by
      rw [key_toList]
      exact Markers.afterFirst_append found _
    rw [groupOf_some behind]
    unfold upToColon
    rw [Markers.takeWhile_append_mark]
  | none =>
    dsimp only
    have absent : ¬ heartbeatStem ++ [':'] <:+: row.front.toList := by
      rw [← Markers.isSome_afterFirst, found]
      exact Bool.false_ne_true
    cases kind : row.kind with
    | heartbeat =>
      have ends : heartbeatStem <:+ row.front.toList := (segment_suffix_iff .heartbeat).mpr kind
      have behind : Markers.afterFirst (heartbeatStem ++ [':']) row.key.toList =
          some (row.token.toList ++ ':' :: row.worker.instanceId.1.toList) := by
        rw [key_toList]
        exact Markers.afterFirst_here ends absent
      rw [groupOf_some behind, upToColon_append (unmarked_token row)]
    | descriptor =>
      have ends : ¬ heartbeatStem <:+ row.front.toList := by
        intro ends
        have heartbeat := (segment_suffix_iff .heartbeat).mp ends
        rw [kind] at heartbeat
        cases heartbeat
      have skipped : Markers.afterFirst (heartbeatStem ++ [':']) row.key.toList =
          Markers.afterFirst (heartbeatStem ++ [':'])
            (row.token.toList ++ ':' :: row.worker.instanceId.1.toList) := by
        rw [key_toList]
        exact Markers.afterFirst_skip unmarked ends absent
      have inToken := not_holds (unmarked_token row)
      dsimp only
      split
      · -- The token ends with the segment, so that the worker's id stands behind the marker.
        rename_i last
        have behind := skipped.trans (Markers.afterFirst_here last inToken)
        rw [groupOf_some behind, upToColon_self row.worker.instanceId.2]
      · rename_i apart
        have nowhere := skipped.trans ((Markers.afterFirst_skip unmarked apart inToken).trans
          (Markers.afterFirst_eq_none (not_holds row.worker.instanceId.2)))
        have marker : "-worker-heartbeat:".toList = heartbeatStem ++ [':'] := by decide
        unfold groupOf
        rw [marker, nowhere]
        rfl

end Keys

section Fleet

variable {Descriptor Beat : Type} (parse : String → Option Descriptor)
  (parseHeartbeatValue : String → Beat) (scan : Scan) (rows : List Row) (now : Nat)
  (reader : Option String)

instance (row : Row) (reader : Option String) : Decidable (row.own reader) :=
  inferInstanceAs (Decidable (poolOf row.worker.namespace_ = poolOf reader))

/-- The live descriptors that workers of a namespace advertised on a token. -/
def ownDescriptors (token : String) : List Descriptor :=
  (liveRows rows now).filterMap fun row =>
    if row.kind = .descriptor ∧ row.own reader ∧ row.token = token then parse row.value else none

def Beats (group : String) : Prop :=
  ∃ row ∈ liveRows rows now, row.kind = .heartbeat ∧ row.own reader ∧ row.token = group

def ownWorkers (group : String) : List (WorkerHeartbeat Beat) :=
  (liveRows rows now).filterMap fun row =>
    if row.kind = .heartbeat ∧ row.own reader ∧ row.token = group then
      some ⟨group, row.worker.instanceId, parseHeartbeatValue row.value⟩
    else none

/-- The reads of a namespace's transports stay within it, and agree with each other. -/
structure FleetReads : Prop where
  descriptors : ∀ token : Segment, listWorkerDescriptors parse rows now token =
    ownDescriptors parse rows now reader token
  groups : ∀ group, group ∈ listWorkerGroups rows now ↔ Beats rows now reader group
  health : ∀ group : Segment, groupHealth parseHeartbeatValue rows now reader group =
    ownWorkers parseHeartbeatValue rows now reader group
  agree : ∀ group : Segment, group.1 ∈ listWorkerGroups rows now ↔
    groupHealth parseHeartbeatValue rows now reader group ≠ []
  /-- A BullMQ transport lists the same descriptors, tokens and workers, where the names stand for
  themselves in a pattern. A namespace with a colon has no queues there. -/
  scannedDescriptors : literal (effectivePrefix keyPrefix reader) = true → ∀ token : Segment,
    literal token = true → ∀ descriptor,
      descriptor ∈ scannedDescriptors parse rows now reader scan token ↔
        descriptor ∈ listWorkerDescriptors parse rows now token
  scannedGroups : literal (effectivePrefix keyPrefix reader) = true → ':' ∉ (poolOf reader).toList →
    ∀ group, group ∈ scannedGroups rows now reader scan ↔ group ∈ listWorkerGroups rows now
  scannedWorkers : literal (effectivePrefix keyPrefix reader) = true → ∀ group : Segment, ∀ worker,
    worker ∈ listLiveWorkers parseHeartbeatValue rows now reader scan group ↔
      worker ∈ groupHealth parseHeartbeatValue rows now reader group

/-- No row of another namespace is in the way. -/
structure Apart : Prop where
  descriptors : ∀ row ∈ liveRows rows now, (parse row.value).isSome = true →
    row.kind = .descriptor → row.own reader
  /-- What a key shows as the token of a heartbeat is one on which a worker of the namespace
  beats. -/
  shown : ∀ row ∈ liveRows rows now, ∀ group, row.shown = some group → group ≠ "" →
    Beats rows now reader group
  /-- Each token on which a worker of the namespace beats has a name, and a key shows it. -/
  beats : ∀ group, Beats rows now reader group → group ≠ "" ∧
    ∃ row ∈ liveRows rows now, row.shown = some group
  /-- The front of a key, which has a colon only if the namespace has one, holds no marker of a
  descriptor, except of the row's own. -/
  descriptorFronts : ∀ row ∈ liveRows rows now, (parse row.value).isSome = true →
    ∀ token : Segment, includes (row.front ++ ":") (descriptorMarker token) = true →
      row.kind = .descriptor ∧ row.own reader ∧ row.token = token
  /-- Nor does it begin with what the heartbeats of the namespace begin with. -/
  heartbeatFronts : ∀ row ∈ liveRows rows now, ∀ group : Segment,
    startsWith (row.front ++ ":")
      (workerHeartbeatKey (effectivePrefix keyPrefix reader) group "") = false

end Fleet

section Picks

variable {α β : Type} {picks own : α → Option β}

/-- Two selections of which one picks no more, and the same, pick one list just if they agree on
every item. -/
theorem filterMap_eq_iff (fewer : ∀ item, own item = none ∨ own item = picks item)
    (items : List α) :
    items.filterMap picks = items.filterMap own ↔ ∀ item ∈ items, picks item = own item := by
  constructor
  · have shorter : ∀ rest : List α,
        (rest.filterMap own).length ≤ (rest.filterMap picks).length := by
      intro rest
      induction rest with
      | nil => exact Nat.le_refl _
      | cons item rest ih =>
        rcases fewer item with none | same
        · rw [List.filterMap_cons_none none]
          cases picked : picks item with
          | none =>
            rw [List.filterMap_cons_none picked]
            exact ih
          | some value =>
            rw [List.filterMap_cons_some picked, List.length_cons]
            omega
        · cases picked : picks item with
          | none =>
            rw [List.filterMap_cons_none picked, List.filterMap_cons_none (same.trans picked)]
            exact ih
          | some value =>
            rw [List.filterMap_cons_some picked, List.filterMap_cons_some (same.trans picked),
              List.length_cons, List.length_cons]
            omega
    induction items with
    | nil =>
      intro _ item listed
      cases listed
    | cons item rest ih =>
      intro same
      cases picked : picks item with
      | none =>
        have owned : own item = none := by
          rcases fewer item with none | same
          · exact none
          · exact same.trans picked
        rw [List.filterMap_cons_none picked, List.filterMap_cons_none owned] at same
        intro other listed
        rcases List.mem_cons.mp listed with rfl | later
        · rw [picked, owned]
        · exact ih same other later
      | some value =>
        rcases fewer item with none | owned
        · -- The other selection lacks the item, so that it is shorter.
          rw [List.filterMap_cons_some picked, List.filterMap_cons_none none] at same
          have lengths := congrArg List.length same
          have bound := shorter rest
          rw [List.length_cons] at lengths
          omega
        · rw [List.filterMap_cons_some picked, List.filterMap_cons_some (owned.trans picked)]
            at same
          intro other listed
          rcases List.mem_cons.mp listed with rfl | later
          · exact owned.symm
          · exact ih (List.cons.inj same).2 other later
  · intro agree
    exact List.filterMap_congr agree

end Picks

section Reads

variable {Descriptor Beat : Type} {parse : String → Option Descriptor}
  {parseHeartbeatValue : String → Beat} {scan : Scan} {rows : List Row} {now : Nat}

theorem listWorkerDescriptors_eq : listWorkerDescriptors parse rows now token =
    (liveRows rows now).filterMap fun row =>
      if includes row.key (descriptorMarker token) then parse row.value else none := by
  unfold listWorkerDescriptors descriptorsOn live descriptorMarker
  rw [List.filterMap_map]
  rfl

theorem mem_listWorkerGroups : group ∈ listWorkerGroups rows now ↔
    group ≠ "" ∧ ∃ row ∈ liveRows rows now, row.shown = some group := by
  unfold listWorkerGroups liveGroupsOf live
  rw [Grouping.mem_firsts, List.filterMap_map, List.mem_filterMap]
  constructor
  · rintro ⟨row, listed, shown⟩
    have shown : groupOf row.key = some group := shown
    rw [groupOf_key, Option.filter_eq_some_iff] at shown
    exact ⟨of_decide_eq_true shown.2, row, listed, shown.1⟩
  · rintro ⟨named, row, listed, shown⟩
    refine ⟨row, listed, ?_⟩
    show groupOf row.key = some group
    rw [groupOf_key, Option.filter_eq_some_iff]
    exact ⟨shown, decide_eq_true named⟩

theorem groupHealth_eq : groupHealth parseHeartbeatValue rows now reader group =
    (liveRows rows now).filterMap fun row =>
      if startsWith row.key (workerHeartbeatKey (effectivePrefix keyPrefix reader) group "") then
        some ⟨group, String.ofList (row.key.toList.drop
          (workerHeartbeatKey (effectivePrefix keyPrefix reader) group "").toList.length),
          parseHeartbeatValue row.value⟩
      else none := by
  unfold groupHealth liveWorkersOf live
  rw [List.filterMap_map]
  rfl

/-- The descriptors listed for a token are those of the namespace, just if every readable row whose
key holds the token's marker is one of them. -/
theorem listWorkerDescriptors_token_iff (token : Segment) :
    listWorkerDescriptors parse rows now token = ownDescriptors parse rows now reader token ↔
      ∀ row ∈ liveRows rows now, (parse row.value).isSome = true →
        includes row.key (descriptorMarker token) = true →
        row.kind = .descriptor ∧ row.own reader ∧ row.token = token := by
  rw [listWorkerDescriptors_eq]
  unfold ownDescriptors
  rw [filterMap_eq_iff]
  · constructor
    · intro same row listed readable included
      have picked := same row listed
      rw [if_pos included] at picked
      by_contra other
      rw [if_neg other] at picked
      rw [picked] at readable
      cases readable
    · intro own row listed
      split
      · rename_i included
        split
        · rfl
        · rename_i other
          -- A row that is picked in vain has no readable value.
          cases value : parse row.value with
          | none => rfl
          | some descriptor =>
            exact absurd (own row listed (by rw [value]; rfl) included) other
      · rename_i excluded
        split
        · rename_i owned
          exact absurd ((includes_key token.2).mpr (.inl ⟨owned.1, owned.2.2⟩)) excluded
        · rfl
  · intro row
    split
    · rename_i owned
      right
      rw [if_pos ((includes_key token.2).mpr (.inl ⟨owned.1, owned.2.2⟩))]
    · exact .inl rfl

/-- The descriptors listed for every token are those of the namespace, just if no other readable
descriptor is live and no front holds a marker. -/
theorem listWorkerDescriptors_iff :
    (∀ token : Segment, listWorkerDescriptors parse rows now token =
      ownDescriptors parse rows now reader token) ↔
    ∀ row ∈ liveRows rows now, (parse row.value).isSome = true →
      (row.kind = .descriptor → row.own reader) ∧
      ∀ token : Segment, includes (row.front ++ ":") (descriptorMarker token) = true →
        row.kind = .descriptor ∧ row.own reader ∧ row.token = token := by
  constructor
  · intro same row listed readable
    constructor
    · intro kind
      have included : includes row.key (descriptorMarker row.token) = true :=
        (includes_key (unmarked_token row)).mpr (.inl ⟨kind, rfl⟩)
      have owned := (listWorkerDescriptors_token_iff ⟨row.token, unmarked_token row⟩).mp (same _)
      exact (owned row listed readable included).2.1
    · intro token held
      exact (listWorkerDescriptors_token_iff token).mp (same token) row listed readable
        ((includes_key token.2).mpr (.inr held))
  · intro apart token
    rw [listWorkerDescriptors_token_iff]
    intro row listed readable included
    obtain ⟨own, fronts⟩ := apart row listed readable
    rcases (includes_key token.2).mp included with ⟨kind, same⟩ | held
    · exact ⟨kind, own kind, same⟩
    · exact fronts token held

theorem front_short (own : row.kind = .heartbeat ∧ row.own reader) :
    startsWith (row.front ++ ":")
      (workerHeartbeatKey (effectivePrefix keyPrefix reader) group "") = false := by
  rw [← Bool.not_eq_true, startsWith_iff, heartbeatMarker_toList, ← front_eq_iff.mpr own,
    String.toList_append (t := ":"), colon_toList]
  intro begins
  have bound := begins.length_le
  simp only [List.length_append, List.length_cons, List.length_nil] at bound
  omega

theorem key_drop (own : row.kind = .heartbeat ∧ row.own reader) (same : row.token = group) :
    String.ofList (row.key.toList.drop (workerHeartbeatKey (effectivePrefix keyPrefix reader) group
      "").toList.length) = row.worker.instanceId := by
  have key : row.key.toList = (workerHeartbeatKey (effectivePrefix keyPrefix reader) group
      "").toList ++ row.worker.instanceId.1.toList := by
    rw [key_toList, heartbeatMarker_toList, front_eq_iff.mpr own, same]
    simp
  rw [key, List.drop_left, String.ofList_toList]

/-- The workers reported for a token are those of the namespace, just if no front begins with what is
looked for. -/
theorem groupHealth_token_iff (group : Segment) :
    groupHealth parseHeartbeatValue rows now reader group =
        ownWorkers parseHeartbeatValue rows now reader group ↔
      ∀ row ∈ liveRows rows now, startsWith (row.front ++ ":")
        (workerHeartbeatKey (effectivePrefix keyPrefix reader) group "") = false := by
  rw [groupHealth_eq]
  unfold ownWorkers
  rw [filterMap_eq_iff]
  · constructor
    · intro same row listed
      rw [← Bool.not_eq_true]
      intro begins
      have picked := same row listed
      rw [if_pos ((startsWith_key group.2).mpr (.inr begins))] at picked
      by_cases owned : row.kind = .heartbeat ∧ row.own reader ∧ row.token = group
      · rw [front_short ⟨owned.1, owned.2.1⟩] at begins
        cases begins
      · rw [if_neg owned] at picked
        cases picked
    · intro apart row listed
      split
      · rename_i begins
        rcases (startsWith_key group.2).mp begins with ⟨own, same⟩ | front
        · rw [if_pos ⟨own.1, own.2, same⟩, key_drop own same]
        · rw [apart row listed] at front
          cases front
      · rename_i other
        split
        · rename_i owned
          exact absurd ((startsWith_key group.2).mpr
            (.inl ⟨⟨owned.1, owned.2.1⟩, owned.2.2⟩)) other
        · rfl
  · intro row
    split
    · rename_i owned
      right
      rw [if_pos ((startsWith_key group.2).mpr (.inl ⟨⟨owned.1, owned.2.1⟩, owned.2.2⟩)),
        key_drop ⟨owned.1, owned.2.1⟩ owned.2.2]
    · exact .inl rfl

/-- The workers reported for every token are those of the namespace, just if no front begins with
what is looked for. -/
theorem groupHealth_iff :
    (∀ group : Segment, groupHealth parseHeartbeatValue rows now reader group =
      ownWorkers parseHeartbeatValue rows now reader group) ↔
    ∀ row ∈ liveRows rows now, ∀ group : Segment, startsWith (row.front ++ ":")
      (workerHeartbeatKey (effectivePrefix keyPrefix reader) group "") = false := by
  constructor
  · intro same row listed group
    exact (groupHealth_token_iff group).mp (same group) row listed
  · intro apart group
    rw [groupHealth_token_iff]
    intro row listed
    exact apart row listed group

theorem ownWorkers_ne_nil : ownWorkers parseHeartbeatValue rows now reader group ≠ [] ↔
    Beats rows now reader group := by
  unfold ownWorkers Beats
  rw [ne_eq, List.filterMap_eq_nil_iff]
  constructor
  · intro some
    by_contra none
    apply some
    intro row listed
    rw [if_neg]
    intro owned
    exact none ⟨row, listed, owned⟩
  · rintro ⟨row, listed, owned⟩ none
    have picked := none row listed
    rw [if_pos owned] at picked
    cases picked

end Reads

section Scans

variable {Descriptor Beat : Type} {parse : String → Option Descriptor}
  {parseHeartbeatValue : String → Beat} {scan : Scan} {rows : List Row} {now : Nat}

theorem literal_append {other : String} :
    literal (text ++ other) = true ↔ literal text = true ∧ literal other = true := by
  unfold literal
  rw [String.toList_append, List.all_append, Bool.and_eq_true]

theorem mem_under (plain : literal text = true) {entry : Entry} :
    entry ∈ scan.under text (live rows now) ↔ ∃ row ∈ liveRows rows now,
      startsWith row.key text = true ∧ entry = ⟨row.key, row.value⟩ := by
  rw [scan.matching text plain]
  unfold live
  rw [List.mem_map]
  constructor
  · rintro ⟨⟨row, listed, rfl⟩, begins⟩
    exact ⟨row, listed, begins, rfl⟩
  · rintro ⟨row, listed, begins, rfl⟩
    exact ⟨⟨row, listed, rfl⟩, begins⟩

/-- The descriptors that a walk finds are those listed, where these are of the namespace. -/
theorem mem_scannedDescriptors (plain : literal (effectivePrefix keyPrefix reader) = true)
    (token : Segment) (plain' : literal token = true)
    (exact : listWorkerDescriptors parse rows now token =
      ownDescriptors parse rows now reader token) (descriptor : Descriptor) :
    descriptor ∈ scannedDescriptors parse rows now reader scan token ↔
      descriptor ∈ listWorkerDescriptors parse rows now token := by
  have whole : workerDescriptorTokenPrefix (effectivePrefix keyPrefix reader) token =
      effectivePrefix keyPrefix reader ++ descriptorMarker token := by
    unfold workerDescriptorTokenPrefix descriptorMarker
    rw [String.append_assoc, String.append_assoc, String.append_assoc]
  have stands : literal (workerDescriptorTokenPrefix (effectivePrefix keyPrefix reader) token) =
      true := by
    unfold workerDescriptorTokenPrefix
    have segment : literal "-worker-descriptor:" = true := by decide
    have colon : literal ":" = true := by decide
    rw [literal_append, literal_append, literal_append]
    exact ⟨⟨⟨plain, segment⟩, plain'⟩, colon⟩
  unfold scannedDescriptors
  rw [List.mem_filterMap]
  constructor
  · rintro ⟨entry, visited, readable⟩
    obtain ⟨row, listed, begins, rfl⟩ := (mem_under stands).mp visited
    rw [listWorkerDescriptors_eq, List.mem_filterMap]
    refine ⟨row, listed, ?_⟩
    have included : includes row.key (descriptorMarker token) = true := by
      rw [includes_iff]
      rw [startsWith_iff, whole, String.toList_append] at begins
      exact (List.suffix_append _ _).isInfix.trans begins.isInfix
    rw [if_pos included]
    exact readable
  · intro among
    rw [exact] at among
    unfold ownDescriptors at among
    obtain ⟨row, listed, picked⟩ := List.mem_filterMap.mp among
    rw [Option.ite_none_right_eq_some] at picked
    obtain ⟨⟨kind, own, same⟩, readable⟩ := picked
    refine ⟨⟨row.key, row.value⟩, (mem_under stands).mpr ⟨row, listed, ?_, rfl⟩, readable⟩
    -- The row's own front is the one that the walk looks for.
    have front := front_eq_iff.mpr ⟨kind, own⟩
    have segment : "-worker-descriptor:" = Kind.segment .descriptor ++ ":" := by decide
    rw [startsWith_iff, key_toList, ← front, same]
    unfold workerDescriptorTokenPrefix
    rw [segment]
    refine ⟨row.worker.instanceId.1.toList, ?_⟩
    simp only [String.toList_append, colon_toList, List.append_assoc, List.cons_append,
      List.nil_append]

theorem heartbeatPrefix_toList :
    (workerHeartbeatKeyPrefix (effectivePrefix keyPrefix reader)).toList =
      (effectivePrefix keyPrefix reader ++ Kind.segment .heartbeat).toList ++ [':'] := by
  have segment : "-worker-heartbeat:" = Kind.segment .heartbeat ++ ":" := by decide
  unfold workerHeartbeatKeyPrefix
  rw [segment]
  simp only [String.toList_append, colon_toList, List.append_assoc]

theorem literal_heartbeatPrefix (plain : literal (effectivePrefix keyPrefix reader) = true) :
    literal (workerHeartbeatKeyPrefix (effectivePrefix keyPrefix reader)) = true := by
  have segment : literal "-worker-heartbeat:" = true := by decide
  unfold workerHeartbeatKeyPrefix
  rw [literal_append]
  exact ⟨plain, segment⟩

theorem unmarked_heartbeats (unmarked : ':' ∉ (poolOf reader).toList) :
    ':' ∉ (effectivePrefix keyPrefix reader ++ Kind.segment .heartbeat).toList := by
  have bare : ':' ∉ keyPrefix.toList := by decide
  have dash : ':' ∉ "-".toList := by decide
  have segment : ':' ∉ (Kind.segment .heartbeat).toList := by decide
  rw [String.toList_append, List.mem_append, effectivePrefix_eq]
  split
  · rintro (listed | listed)
    · exact bare listed
    · exact segment listed
  · rw [String.toList_append, String.toList_append, List.mem_append, List.mem_append]
    rintro (((listed | listed) | listed) | listed)
    · exact bare listed
    · exact dash listed
    · exact unmarked listed
    · exact segment listed

/-- A key that begins with what the heartbeats of a namespace without a colon begin with is one of
theirs, or its front goes on behind that. -/
theorem begins_cases (unmarked : ':' ∉ (poolOf reader).toList)
    (begins : startsWith row.key (workerHeartbeatKeyPrefix (effectivePrefix keyPrefix reader)) =
      true) :
    (row.kind = .heartbeat ∧ row.own reader) ∨ ∃ group : Segment,
      startsWith (row.front ++ ":")
        (workerHeartbeatKey (effectivePrefix keyPrefix reader) group "") = true := by
  rw [startsWith_iff, heartbeatPrefix_toList, key_toList] at begins
  rcases Markers.prefix_cases begins with same | ⟨between, longer⟩ | ⟨more, goesOn⟩
  · exact .inl (front_eq_iff.mp (String.toList_inj.mp same))
  · -- The prefix would hold the colon behind the front.
    exact absurd (by rw [longer]; simp) (unmarked_heartbeats unmarked)
  · right
    have free : ':' ∉ (upToColon more).toList := by
      unfold upToColon
      rw [String.toList_ofList]
      exact Markers.unmarked_takeWhile
    refine ⟨⟨upToColon more, free⟩, ?_⟩
    rw [startsWith_iff, heartbeatMarker_toList, String.toList_append (t := ":"), colon_toList,
      ← goesOn]
    have first : (upToColon more).toList ++ [':'] <+: more ++ [':'] := by
      unfold upToColon
      rw [String.toList_ofList]
      exact Markers.takeWhile_concat_prefix
    simpa [List.append_assoc] using first

/-- The tokens that a walk finds are those on which the namespace beats, where no front begins with
what is looked for. -/
theorem mem_scannedGroups (plain : literal (effectivePrefix keyPrefix reader) = true)
    (unmarked : ':' ∉ (poolOf reader).toList)
    (fronts : ∀ row ∈ liveRows rows now, ∀ group : Segment, startsWith (row.front ++ ":")
      (workerHeartbeatKey (effectivePrefix keyPrefix reader) group "") = false) (group : String) :
    group ∈ scannedGroups rows now reader scan ↔ group ≠ "" ∧ Beats rows now reader group := by
  -- A heartbeat of the namespace goes on with its token.
  have behind : ∀ row : Row, row.kind = .heartbeat ∧ row.own reader →
      upToColon (row.key.toList.drop
        (workerHeartbeatKeyPrefix (effectivePrefix keyPrefix reader)).toList.length) =
          row.token := by
    intro row own
    have key : row.key.toList =
        (workerHeartbeatKeyPrefix (effectivePrefix keyPrefix reader)).toList ++
          (row.token.toList ++ ':' :: row.worker.instanceId.1.toList) := by
      rw [key_toList, heartbeatPrefix_toList, front_eq_iff.mpr own]
      simp
    rw [key, List.drop_left, upToColon_append (unmarked_token row)]
  unfold scannedGroups liveHeartbeats
  dsimp only
  rw [Grouping.mem_firsts, List.mem_filterMap]
  constructor
  · rintro ⟨entry, visited, read⟩
    obtain ⟨row, listed, begins, rfl⟩ := (mem_under (literal_heartbeatPrefix plain)).mp visited
    rw [Option.ite_none_left_eq_some] at read
    obtain ⟨named, same⟩ := read
    obtain rfl := Option.some.inj same
    refine ⟨named, ?_⟩
    rcases begins_cases unmarked begins with own | ⟨group, front⟩
    · exact ⟨row, listed, own.1, own.2, (behind row own).symm⟩
    · rw [fronts row listed group] at front
      cases front
  · rintro ⟨named, row, listed, kind, own, same⟩
    refine ⟨⟨row.key, row.value⟩, ?_, ?_⟩
    · apply (mem_under (literal_heartbeatPrefix plain)).mpr
      refine ⟨row, listed, ?_, rfl⟩
      rw [startsWith_iff, heartbeatPrefix_toList, key_toList, front_eq_iff.mpr ⟨kind, own⟩]
      exact ⟨row.token.toList ++ ':' :: row.worker.instanceId.1.toList, by simp⟩
    · rw [behind row ⟨kind, own⟩, same, if_neg named]

theorem mem_listLiveWorkers (plain : literal (effectivePrefix keyPrefix reader) = true)
    (group : String) (worker : WorkerHeartbeat Beat) :
    worker ∈ listLiveWorkers parseHeartbeatValue rows now reader scan group ↔
      worker ∈ groupHealth parseHeartbeatValue rows now reader group := by
  unfold listLiveWorkers groupHealth liveWorkersOf liveHeartbeats
  dsimp only
  rw [List.mem_filterMap, List.mem_filterMap]
  constructor
  · rintro ⟨entry, visited, read⟩
    rw [scan.matching _ (literal_heartbeatPrefix plain)] at visited
    exact ⟨entry, visited.1, read⟩
  · rintro ⟨entry, listed, read⟩
    refine ⟨entry, ?_, read⟩
    rw [scan.matching _ (literal_heartbeatPrefix plain)]
    refine ⟨listed, ?_⟩
    -- What is looked for goes on behind what the walk looks for.
    rw [Option.ite_none_right_eq_some] at read
    have begins := read.1
    rw [startsWith_iff] at begins ⊢
    refine List.IsPrefix.trans ?_ begins
    rw [heartbeatPrefix_toList, heartbeatMarker_toList]
    exact ⟨group.toList ++ [':'], by simp⟩

end Scans

section Theorem

variable {Descriptor Beat : Type}

/-- The reads of a namespace's transports stay within it, exactly if no row of another namespace is
in the way: for every content of the table, at every time, and whatever the values say. -/
theorem fleet_reads_iff (parse : String → Option Descriptor) (parseHeartbeatValue : String → Beat)
    (scan : Scan) (rows : List Row) (now : Nat) (reader : Option String) :
    FleetReads parse parseHeartbeatValue scan rows now reader ↔ Apart parse rows now reader := by
  constructor
  · intro reads
    have descriptors := listWorkerDescriptors_iff.mp reads.descriptors
    constructor
    · intro row listed readable
      exact (descriptors row listed readable).1
    · intro row listed group shown named
      exact (reads.groups group).mp (mem_listWorkerGroups.mpr ⟨named, row, listed, shown⟩)
    · intro group beats
      exact mem_listWorkerGroups.mp ((reads.groups group).mpr beats)
    · intro row listed readable
      exact (descriptors row listed readable).2
    · exact groupHealth_iff.mp reads.health
  · intro apart
    have descriptors : ∀ token : Segment, listWorkerDescriptors parse rows now token =
        ownDescriptors parse rows now reader token := by
      apply listWorkerDescriptors_iff.mpr
      intro row listed readable
      exact ⟨apart.descriptors row listed readable, apart.descriptorFronts row listed readable⟩
    have groups : ∀ group, group ∈ listWorkerGroups rows now ↔ Beats rows now reader group := by
      intro group
      rw [mem_listWorkerGroups]
      constructor
      · rintro ⟨named, row, listed, shown⟩
        exact apart.shown row listed group shown named
      · exact apart.beats group
    have health : ∀ group : Segment, groupHealth parseHeartbeatValue rows now reader group =
        ownWorkers parseHeartbeatValue rows now reader group :=
      groupHealth_iff.mpr apart.heartbeatFronts
    constructor
    · exact descriptors
    · exact groups
    · exact health
    · intro group
      rw [groups, health, ownWorkers_ne_nil]
    · intro plain token plain'
      exact mem_scannedDescriptors plain token plain' (descriptors token)
    · intro plain unmarked group
      rw [mem_scannedGroups plain unmarked apart.heartbeatFronts, groups]
      constructor
      · exact And.right
      · intro beats
        exact ⟨(apart.beats group beats).1, beats⟩
    · intro plain group worker
      exact mem_listLiveWorkers plain group worker

def plainScan : Scan where
  under text entries := entries.filter fun entry => startsWith entry.key text
  matching _ _ _ _ := List.mem_filter

/-- A worker of another namespace, that serves the handler `charge`. -/
def acmeRows : List Row :=
  let worker : Worker := ⟨some "acme", none, ⟨"w1", by decide⟩⟩
  [⟨worker, .descriptor, "charge", "acme-w1", 100⟩, ⟨worker, .heartbeat, "charge", "1", 100⟩]

/-- A transport of the default namespace lists the descriptor and the token of a worker of another
one, for which it reports no worker at all. -/
theorem other_fleet_listed :
    listWorkerDescriptors some acmeRows 50 "charge" = ["acme-w1"] ∧
      listWorkerGroups acmeRows 50 = ["charge"] ∧ groupHealth id acmeRows 50 none "charge" = [] ∧
      ¬ FleetReads some id plainScan acmeRows 50 none := by
  have listed : listWorkerDescriptors some acmeRows 50 "charge" = ["acme-w1"] := by
    decide +kernel
  refine ⟨listed, by decide +kernel, by decide +kernel, ?_⟩
  intro reads
  have exact := reads.descriptors ⟨"charge", by decide⟩
  rw [listed] at exact
  revert exact
  decide +kernel

end Theorem

end Durable.WorkerKeys
