import Durable.Data.FirstMentions
import Mathlib.Data.List.Basic

/-! The order of texts by their UTF-16 code units, and what is sorted by it. -/

namespace CodeUnits

open Durable.Grouping (sortBy firsts)

/-- The code units of a character. -/
def unitsOfChar (char : Char) : List Nat :=
  if char.toNat < 0x10000 then [char.toNat]
  else [0xD800 + (char.toNat - 0x10000) / 0x400, 0xDC00 + (char.toNat - 0x10000) % 0x400]

/-- The code units of a text. -/
def units (text : String) : List Nat := text.toList.flatMap unitsOfChar

/-- The order of two texts by their code units. -/
def byUnits (first second : String) : Ordering := compare (units first) (units second)

/-- Sort texts by their code units. -/
def sortUnits (texts : List String) : List String := sortBy byUnits texts

/-- No character has the code of a surrogate. -/
theorem not_surrogate (char : Char) : ¬(0xD800 ≤ char.toNat ∧ char.toNat < 0xE000) := by
  have valid := char.valid
  simp only [UInt32.isValidChar, Nat.isValidChar] at valid
  have code : char.val.toNat = char.toNat := rfl
  omega

/-- No character has a code beyond the last plane. -/
theorem toNat_lt (char : Char) : char.toNat < 0x110000 := by
  have valid := char.valid
  simp only [UInt32.isValidChar, Nat.isValidChar] at valid
  have code : char.val.toNat = char.toNat := rfl
  omega

/-- The code units of a character are no other's, nor do they start another's. -/
theorem unitsOfChar_append_inj {first second : Char} {left right : List Nat}
    (same : unitsOfChar first ++ left = unitsOfChar second ++ right) :
    first = second ∧ left = right := by
  have one := not_surrogate first
  have other := not_surrogate second
  have bound := toNat_lt first
  have bound' := toNat_lt second
  have codes : first.toNat = second.toNat ∧ left = right := by
    unfold unitsOfChar at same
    split at same <;> split at same <;>
      simp only [List.cons_append, List.nil_append, List.cons.injEq] at same
    · exact same
    · -- A pair starts with a surrogate.
      omega
    · omega
    · exact ⟨by omega, same.2.2⟩
  exact ⟨Char.ext (UInt32.toNat_inj.mp codes.1), codes.2⟩

/-- Different texts have different code units. -/
theorem units_inj {first second : String} (same : units first = units second) :
    first = second := by
  have chars : ∀ left right : List Char, left.flatMap unitsOfChar = right.flatMap unitsOfChar →
      left = right := by
    intro left
    have some_ : ∀ char rest, (char :: rest).flatMap unitsOfChar ≠ [] := by
      intro char rest
      simp only [List.flatMap_cons, unitsOfChar]
      split <;> simp
    induction left with
    | nil =>
      intro right same
      cases right with
      | nil => rfl
      | cons char rest => exact absurd same.symm (some_ char rest)
    | cons char rest ih =>
      intro right same
      cases right with
      | nil => exact absurd same (some_ char rest)
      | cons char' rest' =>
        rw [List.flatMap_cons, List.flatMap_cons] at same
        obtain ⟨rfl, later⟩ := unitsOfChar_append_inj same
        rw [ih rest' later]
  exact String.toList_inj.mp (chars _ _ same)

instance : Std.TransCmp byUnits where
  eq_swap {first second} := by
    have swapped : compare (units first) (units second) =
      (compare (units second) (units first)).swap := Std.OrientedCmp.eq_swap
    exact swapped
  isLE_trans {first second third} one other := by
    have climbs : (compare (units first) (units second)).isLE = true := one
    have climbs' : (compare (units second) (units third)).isLE = true := other
    have whole : (compare (units first) (units third)).isLE = true :=
      Std.TransCmp.isLE_trans climbs climbs'
    exact whole

/-- Only a text itself comes with it. -/
theorem eq_of_byUnits {first second : String} (tie : byUnits first second = .eq) :
    first = second := by
  have same : compare (units first) (units second) = .eq := tie
  exact units_inj (Std.LawfulEqCmp.eq_of_compare same)

/-- The same texts are sorted alike, whatever their order, and repeated or not. -/
theorem sortUnits_firsts_congr {texts others : List String}
    (members : ∀ text, text ∈ texts ↔ text ∈ others) :
    sortUnits (firsts texts) = sortUnits (firsts others) := by
  apply Durable.Grouping.sortBy_congr (Durable.Grouping.nodup_firsts _)
    (Durable.Grouping.nodup_firsts _)
  · simpa using members
  · intro first second tie pair
    have apart := pair.nodup (Durable.Grouping.nodup_firsts _)
    simp [eq_of_byUnits tie] at apart

end CodeUnits
