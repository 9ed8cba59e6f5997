import Durable.Ctx.Waits
import Durable.Data.Ids
import Mathlib.Data.List.TakeDrop
import Mathlib.Logic.Function.Iterate

/-! The ids of a continue-as-new chain. -/

namespace Durable

theorem toString_digits (number : Nat) :
    (toString number).toList = Nat.toDigits 10 number := Nat.toList_repr

theorem chainNumber_toString (number : Nat) : chainNumber (toString number).toList = number := by
  unfold chainNumber
  rw [toString_digits]
  exact Nat.ofDigitChars_ten_toDigits

theorem span_separator {id digits base : List Char} {mark : Char}
    (split : id.reverse.span (· != '~') = (digits, mark :: base)) :
    mark = '~' ∧ id = base.reverse ++ '~' :: digits.reverse := by
  rw [List.span_eq_takeWhile_dropWhile, Prod.mk.injEq] at split
  obtain ⟨front, back⟩ := split
  have marked : mark = '~' := by
    have head := List.head?_dropWhile_not (· != '~') id.reverse
    rw [back] at head
    simpa using head
  refine ⟨marked, ?_⟩
  have whole : id.reverse.takeWhile (· != '~') ++ id.reverse.dropWhile (· != '~') = id.reverse :=
    List.takeWhile_append_dropWhile
  rw [front, back, marked] at whole
  have turned := congrArg List.reverse whole
  rw [List.reverse_reverse] at turned
  rw [← turned]
  simp

theorem tilde_toList : "~".toList = ['~'] := by decide

/-- Digits that make up a number behind a mark. -/
def IsNumber (digits : List Char) : Prop := digits ≠ [] ∧ ∀ digit ∈ digits, digit.isDigit = true

/-- A text without line ends. -/
def Unbroken (text : String) : Prop := ∀ char ∈ text.toList, isLineEnd char = false

/-- An id reads as one of a continuation just when digits stand behind a mark, and no line ends
before it. -/
theorem continuationParts_eq_some_iff {runId base : String} {digits : List Char} :
    continuationParts runId = some (base, digits) ↔
      runId.toList = base.toList ++ '~' :: digits ∧ IsNumber digits ∧ Unbroken base := by
  unfold continuationParts IsNumber Unbroken
  constructor
  · intro parts
    cases split : runId.toList.reverse.span (· != '~') with
    | mk back rest =>
      rw [split] at parts
      cases rest with
      | nil => cases parts
      | cons mark front =>
        obtain ⟨-, whole⟩ := span_separator split
        dsimp only at parts
        rw [Option.ite_none_right_eq_some, Option.some.injEq, Prod.mk.injEq] at parts
        obtain ⟨reads, rfl, rfl⟩ := parts
        simp only [Bool.and_eq_true, Bool.not_eq_true', List.isEmpty_eq_false_iff, List.all_eq_true,
          List.any_eq_false, Bool.not_eq_true] at reads
        obtain ⟨⟨nonempty, figures⟩, unbroken⟩ := reads
        rw [String.toList_ofList]
        refine ⟨whole, ⟨by simpa using nonempty, ?_⟩, ?_⟩
        · intro digit listed
          exact figures digit (List.mem_reverse.mp listed)
        · intro char listed
          exact unbroken char (List.mem_reverse.mp listed)
  · rintro ⟨whole, ⟨nonempty, figures⟩, unbroken⟩
    -- No digit is the mark, so the mark before them is the last one.
    have apart : ∀ char ∈ digits.reverse, (char != '~') = true := by
      intro char listed
      rw [bne_iff_ne]
      rintro rfl
      have figure := figures '~' (List.mem_reverse.mp listed)
      revert figure
      decide
    have split : runId.toList.reverse.span (· != '~') =
        (digits.reverse, '~' :: base.toList.reverse) := by
      rw [List.span_eq_takeWhile_dropWhile, whole, List.reverse_append, List.reverse_cons,
        List.append_assoc, List.singleton_append, List.takeWhile_append_of_pos apart,
        List.dropWhile_append_of_pos apart]
      simp
    rw [split]
    dsimp only
    rw [if_pos]
    · simp
    · simp only [Bool.and_eq_true, Bool.not_eq_true', List.isEmpty_eq_false_iff, List.all_eq_true,
        List.any_eq_false, Bool.not_eq_true, List.mem_reverse, ne_eq, List.reverse_eq_nil_iff]
      exact ⟨⟨nonempty, figures⟩, unbroken⟩

theorem nextContinuationId_ne (runId : String) : nextContinuationId runId ≠ runId := by
  have longer : runId ++ "~1" ≠ runId := by
    intro same
    have lengths := congrArg String.length same
    rw [String.length_append] at lengths
    have two : "~1".length = 2 := rfl
    omega
  unfold nextContinuationId
  cases parts : continuationParts runId with
  | none => exact longer
  | some found =>
    obtain ⟨base, digits⟩ := found
    obtain ⟨text, -⟩ := continuationParts_eq_some_iff.mp parts
    -- The number behind the mark has grown.
    intro same
    have texts := congrArg String.toList same
    dsimp only at texts
    rw [text, String.toList_append, String.toList_append, List.append_assoc, tilde_toList,
      List.singleton_append] at texts
    obtain ⟨-, numbers⟩ := List.cons.inj (List.append_cancel_left texts)
    have values := congrArg chainNumber numbers
    rw [chainNumber_toString] at values
    omega

section Positions

variable {runId base earlier : String} {digits : List Char}

theorem isLineEnd_of_isDigit {char : Char} (figure : char.isDigit = true) :
    isLineEnd char = false := by
  have bound : char.toNat ≤ 57 := by
    simp only [Char.isDigit, Bool.and_eq_true, decide_eq_true_eq] at figure
    exact figure.2
  have apart : char ≠ '\n' ∧ char ≠ '\r' := by
    refine ⟨?_, ?_⟩ <;>
    · rintro rfl
      revert figure
      decide
  have code : char.toNat ≠ 0x2028 ∧ char.toNat ≠ 0x2029 := by omega
  simp [isLineEnd, apart, code]

theorem continuationParts_eq_some_text_iff : continuationParts runId = some (base, digits) ↔
    runId = base ++ "~" ++ String.ofList digits ∧ IsNumber digits ∧ Unbroken base := by
  rw [continuationParts_eq_some_iff, ← String.toList_inj]
  simp only [String.toList_append, tilde_toList, String.toList_ofList, List.append_assoc,
    List.singleton_append]

theorem isNumber_toString (number : Nat) : IsNumber (toString number).toList := by
  refine ⟨toString_ne_nil number, fun digit listed => isDigit_of_mem listed⟩

theorem continuationParts_numbered (unbroken : Unbroken base) (number : Nat) :
    continuationParts (base ++ "~" ++ toString number) = some (base, (toString number).toList) := by
  rw [continuationParts_eq_some_text_iff, String.ofList_toList]
  exact ⟨rfl, isNumber_toString number, unbroken⟩

theorem unbroken_of_parts (parts : continuationParts runId = some (base, digits)) :
    Unbroken runId := by
  obtain ⟨whole, figures, unbroken⟩ := continuationParts_eq_some_iff.mp parts
  intro char listed
  rw [whole, List.mem_append, List.mem_cons] at listed
  -- Neither the front, nor the mark, nor a digit ends a line.
  rcases listed with front | rfl | figure
  · exact unbroken char front
  · decide
  · exact isLineEnd_of_isDigit (figures.2 char figure)

/-- The id that the chain of a run began with. -/
def chainBase (runId : String) : String :=
  match continuationParts runId with
  | some (base, _) => base
  | none => runId

/-- How far a run is behind the beginning of its chain. -/
def chainPosition (runId : String) : Nat :=
  match continuationParts runId with
  | some (_, digits) => chainNumber digits
  | none => 0

/-- A run's id as it goes on where it holds a line end. -/
def lengthened (runId : String) : Nat → String
  | 0 => runId
  | hops + 1 => lengthened runId hops ++ "~1"

theorem length_lengthened (runId : String) (hops : Nat) :
    (lengthened runId hops).length = runId.length + 2 * hops := by
  induction hops with
  | zero => rfl
  | succ hops ih =>
    have two : "~1".length = 2 := by decide
    rw [lengthened, String.length_append, ih, two]
    omega

/-- A run is continued by another, in one hop or more. -/
def ContinuesAs (earlier runId : String) : Prop :=
  ∃ hops, runId = nextContinuationId^[hops + 1] earlier

theorem unbroken_chainBase (unbroken : Unbroken runId) : Unbroken (chainBase runId) := by
  unfold chainBase
  split
  · rename_i base digits parts
    exact (continuationParts_eq_some_iff.mp parts).2.2
  · exact unbroken

theorem nextContinuationId_eq (runId : String) :
    nextContinuationId runId =
      chainBase runId ++ "~" ++ toString (chainPosition runId + 1) := by
  unfold nextContinuationId chainBase chainPosition
  cases parts : continuationParts runId with
  | none =>
    have one : "~" ++ toString (0 + 1) = "~1" := by decide
    dsimp only
    rw [String.append_assoc, one]
  | some found => rfl

theorem iterate_unbroken (unbroken : Unbroken earlier) (hops : Nat) :
    nextContinuationId^[hops + 1] earlier =
      chainBase earlier ++ "~" ++ toString (chainPosition earlier + (hops + 1)) := by
  induction hops with
  | zero => exact nextContinuationId_eq earlier
  | succ hops ih =>
    have parts := continuationParts_numbered (unbroken_chainBase unbroken)
      (chainPosition earlier + (hops + 1))
    rw [Function.iterate_succ_apply', ih]
    unfold nextContinuationId
    rw [parts]
    dsimp only
    rw [chainNumber_toString]
    rfl

theorem iterate_broken (broken : ¬ Unbroken earlier) (hops : Nat) :
    nextContinuationId^[hops] earlier = lengthened earlier hops ∧
      ¬ Unbroken (lengthened earlier hops) := by
  induction hops with
  | zero => exact ⟨rfl, broken⟩
  | succ hops ih =>
    obtain ⟨same, still⟩ := ih
    have unread : continuationParts (lengthened earlier hops) = none := by
      rw [Option.eq_none_iff_forall_ne_some]
      rintro ⟨base, digits⟩ parts
      exact still (unbroken_of_parts parts)
    rw [Function.iterate_succ_apply', same]
    unfold nextContinuationId
    rw [unread]
    refine ⟨rfl, fun unbroken => still fun char listed => unbroken char ?_⟩
    rw [lengthened, String.toList_append]
    exact List.mem_append_left _ listed

/-- A run that reads as a continuation continues the runs of its base with smaller numbers, if its
own number is written without leading zeros. -/
theorem continuesAs_of_parts (parts : continuationParts runId = some (base, digits)) :
    ContinuesAs earlier runId ↔ Unbroken earlier ∧ chainBase earlier = base ∧
      digits = (toString (chainNumber digits)).toList ∧
      chainPosition earlier < chainNumber digits := by
  obtain ⟨whole, -, unbrokenBase⟩ := continuationParts_eq_some_text_iff.mp parts
  unfold ContinuesAs
  constructor
  · rintro ⟨hops, same⟩
    by_cases unbroken : Unbroken earlier
    · have hopped := iterate_unbroken unbroken hops
      have read := continuationParts_numbered (unbroken_chainBase unbroken)
        (chainPosition earlier + (hops + 1))
      rw [← hopped, ← same, parts, Option.some.injEq, Prod.mk.injEq] at read
      obtain ⟨bases, rfl⟩ := read
      rw [chainNumber_toString]
      exact ⟨unbroken, bases.symm, rfl, by omega⟩
    · obtain ⟨longer, still⟩ := iterate_broken unbroken (hops + 1)
      rw [← longer, ← same] at still
      exact absurd (unbroken_of_parts parts) still
  · rintro ⟨unbroken, rfl, plain, before⟩
    refine ⟨chainNumber digits - chainPosition earlier - 1, ?_⟩
    have reached : chainPosition earlier + (chainNumber digits - chainPosition earlier - 1 + 1) =
        chainNumber digits := by omega
    rw [iterate_unbroken unbroken, reached, whole, plain, chainNumber_toString,
      String.ofList_toList]

/-- A run that does not read as a continuation continues those that it is longer than, whose ids
hold line ends. -/
theorem continuesAs_of_none (unread : continuationParts runId = none) :
    ContinuesAs earlier runId ↔
      ¬ Unbroken earlier ∧ ∃ hops, runId = lengthened earlier (hops + 1) := by
  unfold ContinuesAs
  constructor
  · rintro ⟨hops, same⟩
    by_cases unbroken : Unbroken earlier
    · have read := continuationParts_numbered (unbroken_chainBase unbroken)
        (chainPosition earlier + (hops + 1))
      rw [← iterate_unbroken unbroken hops, ← same, unread] at read
      cases read
    · exact ⟨unbroken, hops, by rw [same, (iterate_broken unbroken (hops + 1)).1]⟩
  · rintro ⟨broken, hops, same⟩
    exact ⟨hops, by rw [same, (iterate_broken broken (hops + 1)).1]⟩

theorem continuations_differ {runId : String} {first second : Nat} (later : first < second) :
    nextContinuationId^[first] runId ≠ nextContinuationId^[second] runId := by
  intro same
  -- A run is not continued by itself.
  obtain ⟨hops, rfl⟩ := Nat.exists_eq_add_of_lt later
  rw [Nat.add_assoc, Nat.add_comm, Function.iterate_add_apply] at same
  generalize nextContinuationId^[first] runId = earlier at same
  cases parts : continuationParts earlier with
  | some found =>
    have before := ((continuesAs_of_parts parts).mp ⟨hops, same⟩).2.2.2
    simp only [chainPosition, parts] at before
    omega
  | none =>
    obtain ⟨-, more, longer⟩ := (continuesAs_of_none parts).mp ⟨hops, same⟩
    have lengths := congrArg String.length longer
    rw [length_lengthened] at lengths
    omega

theorem continuations_differ_zeros :
    nextContinuationId^[0] "r~007" ≠ nextContinuationId^[2] "r~007" :=
  continuations_differ (by decide)

end Positions

end Durable
