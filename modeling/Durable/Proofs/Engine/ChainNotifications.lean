import Durable.Proofs.Ctx.ChainIds
import Durable.Proofs.Engine.AddressTexts

/-! Which waits are told when a run of a continue-as-new chain settles. -/

namespace Durable.Addresses

section Notifications

variable {runId base earlier : String} {digits : List Char} {waiter : Waiter}
  {waiters : List Waiter} {workflow : Option String}

/-- A waiter is listed for a settled run, and what is read from its token is the run or one before
it. -/
def Selects (runId : String) (waiter : Waiter) : Prop :=
  startsWith waiter.token (listingFront runId) = true ∧
    (runWaitTargetOf waiter).getD "" ∈ runId :: chainPredecessorsOf runId

theorem mem_notifyRunWaiters : waiter ∈ notifyRunWaiters waiters runId workflow ↔
    isInternal workflow = false ∧ waiter ∈ waiters ∧ Selects runId waiter := by
  unfold notifyRunWaiters Selects
  cases internal : isInternal workflow with
  | true => simp
  | false =>
    rw [if_neg Bool.false_ne_true, List.mem_filter, List.mem_filter,
      List.contains_iff_mem, and_assoc]
    simp

theorem mem_chainPredecessorsOf (parts : continuationParts runId = some (base, digits)) :
    earlier ∈ chainPredecessorsOf runId ↔
      ∃ number, chainNumber digits ≤ number + 100 ∧ number < chainNumber digits ∧
        earlier = numbered base number := by
  unfold chainPredecessorsOf runWaitMaxHops
  rw [parts]
  dsimp only
  rw [List.mem_map]
  constructor
  · rintro ⟨number, listed, rfl⟩
    rw [List.mem_range'_1] at listed
    exact ⟨number, by omega, by omega, rfl⟩
  · rintro ⟨number, near, before, rfl⟩
    exact ⟨number, List.mem_range'_1.mpr (by omega), rfl⟩

theorem chainPredecessorsOf_none (unread : continuationParts runId = none) :
    chainPredecessorsOf runId = [] := by
  unfold chainPredecessorsOf
  rw [unread]

theorem listingFront_eq (parts : continuationParts runId = some (base, digits)) :
    listingFront runId = if chainNumber digits = 0 then runWaitPrefix runId
      else runWaitTokenPrefix ++ numbered base (chainNumber digits - 100) := by
  unfold listingFront chainPredecessorsOf runWaitMaxHops
  rw [parts]
  dsimp only
  by_cases first : chainNumber digits = 0
  · rw [if_pos first, first]
    rfl
  · rw [if_neg first]
    cases count : chainNumber digits - (chainNumber digits - 100) with
    | zero => omega
    | succ rest => rw [List.range'_succ, List.map_cons]

theorem ne_longer (base back : String) : base ≠ base ++ "~" ++ back := by
  intro same
  have lengths := congrArg String.length same
  have mark : "~".length = 1 := by decide
  simp only [String.length_append] at lengths
  omega

theorem digits_inj {digits' : List Char} : base ++ "~" ++ String.ofList digits =
    base ++ "~" ++ String.ofList digits' ↔ digits = digits' := by
  rw [String.append_right_inj, String.ofList_inj]

theorem numbered_eq_iff {number : Nat} :
    numbered base number = base ++ "~" ++ String.ofList digits ↔
      number ≠ 0 ∧ digits = (toString number).toList := by
  unfold numbered
  split
  · rename_i zero
    simp [zero, ne_longer]
  · rename_i some_
    rw [← String.ofList_toList (s := toString number), digits_inj]
    simp [some_, eq_comm]

theorem numbered_inj {number other : Nat} (same : numbered base number = numbered base other) :
    number = other := by
  by_cases zero : other = 0
  · by_cases zero' : number = 0
    · omega
    · unfold numbered at same
      rw [if_pos zero, if_neg zero'] at same
      exact absurd same.symm (ne_longer base _)
  · have written : numbered base other = base ++ "~" ++ String.ofList (toString other).toList :=
      numbered_eq_iff.mpr ⟨zero, rfl⟩
    rw [written, numbered_eq_iff] at same
    exact (number_injective (String.toList_inj.mp same.2)).symm

/-- The listing for a run by its number finds a run by its digits: it is for the whole chain, or the
digits begin with those of the number a hundred before. -/
def Reaches (number : Nat) (digits : List Char) : Prop :=
  number ≤ 100 ∨ (toString (number - 100)).toList <+: digits

theorem startsWith_runWaitPrefix (waits : WaitsOn waiter earlier) :
    startsWith waiter.token (runWaitPrefix earlier) = true := by
  rw [startsWith_iff, waits]
  unfold runWaitToken
  rw [String.append_assoc, String.append_assoc, String.toList_append]
  exact List.prefix_append _ _

theorem startsWith_base (waits : WaitsOn waiter (base ++ earlier)) :
    startsWith waiter.token (runWaitTokenPrefix ++ base) = true := by
  rw [startsWith_iff, waits, runWaitToken_toList, String.toList_append, String.toList_append,
    List.prefix_append_right_inj, List.append_assoc]
  exact List.prefix_append _ _

/-- The token of a wait on a run by its digits begins with another number just when the digits
do. -/
theorem startsWith_digits (number : Nat)
    (waits : WaitsOn waiter (base ++ "~" ++ String.ofList digits)) :
    startsWith waiter.token (runWaitTokenPrefix ++ (base ++ "~" ++ toString number)) = true ↔
      (toString number).toList <+: digits := by
  rw [startsWith_iff, waits, runWaitToken_toList]
  simp only [String.toList_append, String.toList_ofList, List.append_assoc,
    List.prefix_append_right_inj]
  constructor
  · intro begins
    rcases List.prefix_or_prefix_of_prefix begins (List.prefix_append _ _) with shorter | longer
    · exact shorter
    · -- The number would go on with the hash behind the digits.
      obtain ⟨rest, whole⟩ := longer
      cases rest with
      | nil =>
        rw [List.append_nil] at whole
        exact ⟨[], by rw [List.append_nil, whole]⟩
      | cons char rest =>
        rw [← whole, List.prefix_append_right_inj, List.cons_prefix_cons] at begins
        obtain ⟨rfl, -⟩ := begins
        exact absurd (by rw [← whole]; simp) (unmarked_number number)
  · intro begins
    exact begins.trans (List.prefix_append _ _)

theorem selects_of_none (unread : continuationParts runId = none)
    (waits : WaitsOn waiter earlier) : Selects runId waiter ↔ earlier = runId := by
  have front : listingFront runId = runWaitPrefix runId := by
    unfold listingFront
    rw [chainPredecessorsOf_none unread]
  unfold Selects
  rw [getD_runWaitTargetOf waits, chainPredecessorsOf_none unread, front, List.mem_singleton]
  constructor
  · exact And.right
  · rintro rfl
    exact ⟨startsWith_runWaitPrefix waits, rfl⟩

/-- A wait is selected for a run that reads as a continuation, if it is on that run or on one of the
hundred before, and the listing reaches it. -/
theorem selects_of_parts (parts : continuationParts runId = some (base, digits))
    (waits : WaitsOn waiter earlier) : Selects runId waiter ↔
      (earlier = runId ∧ Reaches (chainNumber digits) digits) ∨
      ∃ number, chainNumber digits ≤ number + 100 ∧ number < chainNumber digits ∧
        earlier = numbered base number ∧
        Reaches (chainNumber digits) (toString number).toList := by
  obtain ⟨whole, -⟩ := continuationParts_eq_some_text_iff.mp parts
  -- Whether the listing finds a run by its digits.
  have listed : ∀ {other : List Char}, chainNumber digits ≠ 0 →
      WaitsOn waiter (base ++ "~" ++ String.ofList other) →
      (startsWith waiter.token (listingFront runId) = true ↔
        Reaches (chainNumber digits) other) := by
    intro other some_ waits
    rw [listingFront_eq parts, if_neg some_]
    unfold Reaches
    by_cases near : chainNumber digits ≤ 100
    · have first : chainNumber digits - 100 = 0 := by omega
      rw [String.append_assoc] at waits
      rw [first]
      exact iff_of_true (startsWith_base waits) (.inl near)
    · have far : chainNumber digits - 100 ≠ 0 := by omega
      unfold numbered
      rw [if_neg far, startsWith_digits _ waits]
      simp [near]
  unfold Selects
  rw [getD_runWaitTargetOf waits, List.mem_cons, mem_chainPredecessorsOf parts]
  by_cases zero : chainNumber digits = 0
  · -- Nothing comes before the run, and it is listed by its own id.
    rw [listingFront_eq parts, if_pos zero, zero]
    constructor
    · rintro ⟨-, rfl | ⟨number, -, before, -⟩⟩
      · exact .inl ⟨rfl, .inl (Nat.zero_le _)⟩
      · omega
    · rintro (⟨rfl, -⟩ | ⟨number, -, before, -⟩)
      · exact ⟨startsWith_runWaitPrefix waits, .inl rfl⟩
      · omega
  · constructor
    · rintro ⟨begins, rfl | ⟨number, near, before, rfl⟩⟩
      · rw [whole] at waits
        exact .inl ⟨rfl, (listed zero waits).mp begins⟩
      · refine .inr ⟨number, near, before, rfl, ?_⟩
        by_cases first : number = 0
        · exact .inl (by omega)
        · have written : numbered base number =
              base ++ "~" ++ String.ofList (toString number).toList :=
            numbered_eq_iff.mpr ⟨first, rfl⟩
          rw [written] at waits
          exact (listed zero waits).mp begins
    · rintro (⟨rfl, reached⟩ | ⟨number, near, before, rfl, reached⟩)
      · have waits' := waits
        rw [whole] at waits'
        exact ⟨(listed zero waits').mpr reached, .inl rfl⟩
      · refine ⟨?_, .inr ⟨number, near, before, rfl⟩⟩
        by_cases first : number = 0
        · have near' : chainNumber digits - 100 = 0 := by omega
          have own : WaitsOn waiter (base ++ "") := by
            rw [first] at waits
            rw [String.append_empty]
            exact waits
          rw [listingFront_eq parts, if_neg zero, near']
          exact startsWith_base own
        · have written : numbered base number =
              base ++ "~" ++ String.ofList (toString number).toList :=
            numbered_eq_iff.mpr ⟨first, rfl⟩
          rw [written] at waits
          exact (listed zero waits).mpr reached

/-- A wait on a run is to be told when another settles: that run itself, or one that continues it. -/
def Awaited (runId earlier : String) : Prop := earlier = runId ∨ ContinuesAs earlier runId

/-- The digits that no positive number is written with: those of zero, or with leading zeros. -/
def OddDigits (digits : List Char) : Prop :=
  IsNumber digits ∧ ∀ number : Nat, number ≠ 0 → digits ≠ (toString number).toList

/-- The waits on runs of a chain that its settled run misses. -/
inductive Missed : String → String → Prop
  /-- Past the hundredth run: a wait on the settled run itself, which is not listed. -/
  | own {base : String} {digits : List Char} (unbroken : Unbroken base) (figures : IsNumber digits)
      (unlisted : ¬ Reaches (chainNumber digits) digits) :
      Missed (base ++ "~" ++ String.ofList digits) (base ++ "~" ++ String.ofList digits)
  /-- Past the hundredth run: a wait on one of the hundred runs before, which is not listed. -/
  | unlisted {base : String} {number earlier : Nat} (unbroken : Unbroken base)
      (before : earlier < number) (near : number ≤ earlier + 100)
      (unlisted : ¬ Reaches number (toString earlier).toList) :
      Missed (base ++ "~" ++ toString number) (numbered base earlier)
  | far {base : String} {number earlier : Nat} (unbroken : Unbroken base)
      (far : earlier + 100 < number) (first : earlier = 0 → continuationParts base = none) :
      Missed (base ++ "~" ++ toString number) (numbered base earlier)
  /-- A wait on a run whose number is written with leading zeros, or as zero. -/
  | zeros {base : String} {number : Nat} {digits : List Char} (unbroken : Unbroken base)
      (odd : OddDigits digits) (before : chainNumber digits < number) :
      Missed (base ++ "~" ++ toString number) (base ++ "~" ++ String.ofList digits)
  | lineEnd {earlier : String} (broken : ¬ Unbroken earlier) (hops : Nat) :
      Missed (lengthened earlier (hops + 1)) earlier

/-- The waits on other runs that a settled run takes for ones of its chain. -/
inductive Mistaken : String → String → Prop
  /-- The settled run's number is written with leading zeros, so it continues no run. -/
  | zeros {base : String} {digits : List Char} {earlier : Nat} (unbroken : Unbroken base)
      (figures : IsNumber digits) (odd : ∀ number : Nat, digits ≠ (toString number).toList)
      (before : earlier < chainNumber digits) (near : chainNumber digits ≤ earlier + 100)
      (reached : Reaches (chainNumber digits) (toString earlier).toList) :
      Mistaken (base ++ "~" ++ String.ofList digits) (numbered base earlier)
  /-- What stands before the settled run's number is itself numbered, so that it is continued by
  other ids. -/
  | base {base : String} {number : Nat} (inner : continuationParts base ≠ none)
      (some_ : 0 < number) (near : number ≤ 100) : Mistaken (base ++ "~" ++ toString number) base

theorem chain_of_parts (parts : continuationParts earlier = some (base, digits)) :
    chainBase earlier = base ∧ chainPosition earlier = chainNumber digits := by
  unfold chainBase chainPosition
  rw [parts]
  exact ⟨rfl, rfl⟩

theorem chain_of_none (unread : continuationParts earlier = none) :
    chainBase earlier = earlier ∧ chainPosition earlier = 0 := by
  unfold chainBase chainPosition
  rw [unread]
  exact ⟨rfl, rfl⟩

theorem continuesAs_numbered (unbroken : Unbroken base) {number earlier : Nat}
    (before : earlier < number) (first : earlier = 0 → continuationParts base = none) :
    ContinuesAs (numbered base earlier) (base ++ "~" ++ toString number) := by
  rw [continuesAs_of_parts (continuationParts_numbered unbroken number), chainNumber_toString]
  unfold numbered
  by_cases zero : earlier = 0
  · rw [if_pos zero]
    obtain ⟨own, place⟩ := chain_of_none (first zero)
    exact ⟨unbroken, own, rfl, by omega⟩
  · rw [if_neg zero]
    have parts := continuationParts_numbered unbroken earlier
    obtain ⟨own, place⟩ := chain_of_parts parts
    rw [chainNumber_toString] at place
    exact ⟨unbroken_of_parts parts, own, rfl, by omega⟩

/-- The waits that are missed are those that are awaited and not selected. -/
theorem missed_iff (waits : WaitsOn waiter earlier) :
    Missed runId earlier ↔ Awaited runId earlier ∧ ¬ Selects runId waiter := by
  constructor
  · intro missed
    cases missed with
    | own unbroken figures unlisted =>
      rename_i base digits
      have parts := continuationParts_eq_some_text_iff.mpr ⟨rfl, figures, unbroken⟩
      refine ⟨.inl rfl, ?_⟩
      rw [selects_of_parts parts waits]
      rintro (⟨-, reached⟩ | ⟨number, -, before, same, -⟩)
      · exact unlisted reached
      · -- The run would come before itself.
        obtain ⟨-, rfl⟩ := numbered_eq_iff.mp same.symm
        rw [chainNumber_toString] at before
        omega
    | unlisted unbroken before near unlisted =>
      rename_i base number earlier
      have parts := continuationParts_numbered unbroken number
      have some_ : earlier ≠ 0 := by
        rintro rfl
        exact unlisted (.inl (by omega))
      refine ⟨.inr (continuesAs_numbered unbroken before fun zero => absurd zero some_), ?_⟩
      rw [selects_of_parts parts waits, chainNumber_toString]
      rintro (⟨same, -⟩ | ⟨other, -, -, same, reached⟩)
      · have written := numbered_eq_iff.mp (same.trans (by rw [String.ofList_toList]))
        have numbers := number_injective (String.toList_inj.mp written.2)
        omega
      · obtain rfl := numbered_inj same
        exact unlisted reached
    | far unbroken far first =>
      rename_i base number earlier
      have parts := continuationParts_numbered unbroken number
      refine ⟨.inr (continuesAs_numbered unbroken (by omega) first), ?_⟩
      rw [selects_of_parts parts waits, chainNumber_toString]
      rintro (⟨same, -⟩ | ⟨other, near, -, same, -⟩)
      · have written := numbered_eq_iff.mp (same.trans (by rw [String.ofList_toList]))
        have numbers := number_injective (String.toList_inj.mp written.2)
        omega
      · obtain rfl := numbered_inj same
        omega
    | zeros unbroken odd before =>
      rename_i base number digits
      have parts := continuationParts_numbered unbroken number
      have own := continuationParts_eq_some_text_iff.mpr ⟨rfl, odd.1, unbroken⟩
      obtain ⟨first, place⟩ := chain_of_parts own
      constructor
      · right
        rw [continuesAs_of_parts parts, chainNumber_toString, place]
        exact ⟨unbroken_of_parts own, first, rfl, before⟩
      · rw [selects_of_parts parts waits]
        rintro (⟨same, -⟩ | ⟨other, -, -, same, -⟩)
        · rw [← String.ofList_toList (s := toString number), digits_inj] at same
          exact odd.2 number (by omega) same
        · obtain ⟨some_, rfl⟩ := numbered_eq_iff.mp same.symm
          exact odd.2 other some_ rfl
    | lineEnd broken hops =>
      obtain ⟨-, still⟩ := iterate_broken broken (hops + 1)
      have unread : continuationParts (lengthened earlier (hops + 1)) = none := by
        rw [Option.eq_none_iff_forall_ne_some]
        rintro ⟨base, digits⟩ parts
        exact still (unbroken_of_parts parts)
      refine ⟨.inr ((continuesAs_of_none unread).mpr ⟨broken, hops, rfl⟩), ?_⟩
      rw [selects_of_none unread waits]
      intro same
      have lengths := congrArg String.length same
      rw [length_lengthened] at lengths
      omega
  · rintro ⟨awaited, unselected⟩
    cases parts : continuationParts runId with
    | none =>
      rw [selects_of_none parts waits] at unselected
      rcases awaited with own | continues
      · exact absurd own unselected
      · obtain ⟨broken, hops, rfl⟩ := (continuesAs_of_none parts).mp continues
        exact .lineEnd broken hops
    | some found =>
      obtain ⟨base, digits⟩ := found
      obtain ⟨rfl, figures, unbroken⟩ := continuationParts_eq_some_text_iff.mp parts
      rw [selects_of_parts parts waits] at unselected
      rcases awaited with rfl | continues
      · exact .own unbroken figures fun reached => unselected (.inl ⟨rfl, reached⟩)
      · obtain ⟨-, first, plain, before⟩ := (continuesAs_of_parts parts).mp continues
        -- The settled run is the one of its base with this number.
        generalize chainNumber digits = number at plain before unselected
        subst plain
        rw [String.ofList_toList]
        cases inner : continuationParts earlier with
        | none =>
          obtain ⟨own, -⟩ := chain_of_none inner
          rw [first] at own
          subst own
          -- It is the first run of the chain, so it would be found among the first hundred.
          have far : 100 < number := by
            by_contra near
            exact unselected (.inr ⟨0, by omega, by omega, rfl, .inl (by omega)⟩)
          exact .far unbroken (show 0 + 100 < number by omega) fun _ => inner
        | some found =>
          obtain ⟨own, digits⟩ := found
          obtain ⟨bases, place⟩ := chain_of_parts inner
          rw [first] at bases
          rw [place] at before
          subst bases
          obtain ⟨rfl, figures', -⟩ := continuationParts_eq_some_text_iff.mp inner
          by_cases written : ∃ number : Nat, number ≠ 0 ∧ digits = (toString number).toList
          · obtain ⟨other, some_, rfl⟩ := written
            have same : numbered base other =
                base ++ "~" ++ String.ofList (toString other).toList :=
              numbered_eq_iff.mpr ⟨some_, rfl⟩
            rw [chainNumber_toString] at before
            rw [← same] at unselected ⊢
            by_cases near : number ≤ other + 100
            · exact .unlisted unbroken before near fun reached =>
                unselected (.inr ⟨other, near, before, rfl, reached⟩)
            · exact .far unbroken (by omega) fun zero => absurd zero some_
          · refine .zeros unbroken ⟨figures', fun other some_ same => ?_⟩ before
            exact written ⟨other, some_, same⟩

/-- The waits that are taken for others are those that are selected and not awaited. -/
theorem mistaken_iff (waits : WaitsOn waiter earlier) :
    Mistaken runId earlier ↔ Selects runId waiter ∧ ¬ Awaited runId earlier := by
  constructor
  · intro mistaken
    cases mistaken with
    | zeros unbroken figures odd before near reached =>
      rename_i base digits earlier
      have parts := continuationParts_eq_some_text_iff.mpr ⟨rfl, figures, unbroken⟩
      rw [selects_of_parts parts waits]
      refine ⟨.inr ⟨earlier, near, before, rfl, reached⟩, ?_⟩
      rintro (same | continues)
      · exact odd earlier (numbered_eq_iff.mp same).2
      · obtain ⟨-, -, plain, -⟩ := (continuesAs_of_parts parts).mp continues
        exact odd _ plain
    | base inner some_ near =>
      rename_i number
      obtain ⟨found, innerParts⟩ := Option.ne_none_iff_exists'.mp inner
      have parts := continuationParts_numbered (unbroken_of_parts innerParts) number
      rw [selects_of_parts parts waits, chainNumber_toString]
      refine ⟨.inr ⟨0, by omega, some_, rfl, .inl near⟩, ?_⟩
      rintro (same | continues)
      · exact ne_longer earlier _ same
      · -- The chain of the base began before the base.
        obtain ⟨-, first, -⟩ := (continuesAs_of_parts parts).mp continues
        rw [(chain_of_parts innerParts).1] at first
        obtain ⟨whole, -⟩ := continuationParts_eq_some_text_iff.mp innerParts
        rw [first] at whole
        exact ne_longer earlier _ whole
  · rintro ⟨selected, unawaited⟩
    cases parts : continuationParts runId with
    | none =>
      rw [selects_of_none parts waits] at selected
      exact absurd (.inl selected) unawaited
    | some found =>
      obtain ⟨base, digits⟩ := found
      obtain ⟨rfl, figures, unbroken⟩ := continuationParts_eq_some_text_iff.mp parts
      rw [selects_of_parts parts waits] at selected
      rcases selected with ⟨same, -⟩ | ⟨number, near, before, rfl, reached⟩
      · exact absurd (.inl same) unawaited
      · by_cases plain : ∃ own : Nat, digits = (toString own).toList
        · obtain ⟨own, rfl⟩ := plain
          rw [chainNumber_toString] at near before
          rw [String.ofList_toList] at unawaited ⊢
          -- The settled run is plainly numbered, so only a first run that is none is left.
          have inner : number = 0 ∧ continuationParts base ≠ none := by
            by_contra other
            refine unawaited (.inr (continuesAs_numbered unbroken before fun zero => ?_))
            by_contra inner
            exact other ⟨zero, inner⟩
          obtain ⟨rfl, numbered_⟩ := inner
          exact .base numbered_ before near
        · refine .zeros unbroken figures (fun own same => ?_) before near reached
          exact plain ⟨own, same⟩

/-- A waiter of another kind is taken for one on a run without an id: its token begins as that of a
wait for a run, and the settled run has no id itself, or nothing stands before its number. -/
def TakesUnread (runId token : String) : Prop :=
  (runId = "" ∧ startsWith token (runWaitPrefix "") = true) ∨
  ∃ digits, runId = "~" ++ String.ofList digits ∧ IsNumber digits ∧ 0 < chainNumber digits ∧
    chainNumber digits ≤ 100 ∧ startsWith token runWaitTokenPrefix = true

theorem unbroken_empty : Unbroken "" := by
  intro char listed
  cases listed

/-- A waiter of another kind is selected where it is taken for one on a run without an id. -/
theorem selects_other (other : ∀ target, ¬ WaitsOn waiter target) :
    Selects runId waiter ↔ TakesUnread runId waiter.token := by
  unfold Selects TakesUnread
  rw [getD_runWaitTargetOf_other other]
  cases parts : continuationParts runId with
  | none =>
    have front : listingFront runId = runWaitPrefix runId := by
      unfold listingFront
      rw [chainPredecessorsOf_none parts]
    rw [front, chainPredecessorsOf_none parts, List.mem_singleton]
    constructor
    · rintro ⟨begins, rfl⟩
      exact .inl ⟨rfl, begins⟩
    · rintro (⟨rfl, begins⟩ | ⟨digits, rfl, figures, -⟩)
      · exact ⟨begins, rfl⟩
      · -- Such a run reads as a continuation.
        have read := continuationParts_eq_some_text_iff.mpr ⟨rfl, figures, unbroken_empty⟩
        rw [String.empty_append, parts] at read
        cases read
  | some found =>
    obtain ⟨base, digits⟩ := found
    obtain ⟨rfl, figures, -⟩ := continuationParts_eq_some_text_iff.mp parts
    have some_ : base ++ "~" ++ String.ofList digits ≠ "" := by
      intro empty
      have none := congrArg String.toList empty
      simp [tilde_toList] at none
    rw [List.mem_cons, mem_chainPredecessorsOf parts, listingFront_eq parts]
    constructor
    · rintro ⟨begins, same | ⟨number, near, before, same⟩⟩
      · exact absurd same.symm some_
      · -- Only the first run of a chain can be without an id.
        have first : number = 0 ∧ base = "" := by
          unfold numbered at same
          split at same
          · rename_i zero
            exact ⟨zero, same.symm⟩
          · have none := congrArg String.toList same
            simp [tilde_toList] at none
        obtain ⟨rfl, rfl⟩ := first
        have farthest : chainNumber digits - 100 = 0 := by omega
        have later : chainNumber digits ≠ 0 := by omega
        rw [if_neg later, farthest] at begins
        refine .inr ⟨digits, by rw [String.empty_append], figures, before, near, ?_⟩
        have bare : runWaitTokenPrefix ++ numbered "" 0 = runWaitTokenPrefix := by decide
        rw [bare] at begins
        exact begins
    · rintro (⟨empty, -⟩ | ⟨other, same, figures', before, near, begins⟩)
      · exact absurd empty some_
      · have own := continuationParts_eq_some_text_iff.mpr ⟨rfl, figures', unbroken_empty⟩
        rw [String.empty_append, ← same, parts, Option.some.injEq, Prod.mk.injEq] at own
        obtain ⟨rfl, rfl⟩ := own
        have farthest : chainNumber digits - 100 = 0 := by omega
        have later : chainNumber digits ≠ 0 := by omega
        rw [if_neg later, farthest]
        exact ⟨begins, .inr ⟨0, near, before, rfl⟩⟩

end Notifications

end Durable.Addresses
