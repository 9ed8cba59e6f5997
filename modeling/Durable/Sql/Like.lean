import Mathlib.Data.List.Infix

/-! The texts that match a pattern of SQL's `LIKE`. -/

namespace Sql

/-- A part of a pattern. -/
inductive LikePart where
  | anyText
  | anyChar
  | exactly (char : Char)
deriving Repr, DecidableEq

/-- What a character stands for that is not escaped. -/
def likePart (char : Char) : LikePart :=
  if char = '%' then .anyText else if char = '_' then .anyChar else .exactly char

/-- The parts of a pattern with an escape character. -/
def likeParts (escape : Char) : List Char → List LikePart
  | [] => []
  | [char] => [likePart char]
  | char :: next :: rest =>
    if char = escape then .exactly next :: likeParts escape rest
    else likePart char :: likeParts escape (next :: rest)

/-- Whether a text is made of the parts of a pattern. -/
def matchesParts : List LikePart → List Char → Bool
  | [], text => text.isEmpty
  | .anyText :: rest, text => text.tails.any fun after => matchesParts rest after
  | .anyChar :: _, [] => false
  | .anyChar :: rest, _ :: text => matchesParts rest text
  | .exactly _ :: _, [] => false
  | .exactly char :: rest, first :: text => char == first && matchesParts rest text

/-- Whether a text matches a pattern with an escape character. -/
def like (escape : Char) (pattern text : List Char) : Bool :=
  matchesParts (likeParts escape pattern) text

section Patterns

variable {escape : Char}

/-- A character that is not the escape is a part of its own. -/
theorem likeParts_cons {char : Char} (plain : char ≠ escape) (rest : List Char) :
    likeParts escape (char :: rest) = likePart char :: likeParts escape rest := by
  cases rest with
  | nil => rfl
  | cons next rest => rw [likeParts, if_neg plain]

/-- An escaped character stands for itself. -/
theorem likeParts_escape (char : Char) (rest : List Char) :
    likeParts escape (escape :: char :: rest) = .exactly char :: likeParts escape rest := by
  rw [likeParts, if_pos rfl]

/-- Characters that stand for themselves match themselves, and the rest matches the rest. -/
theorem matchesParts_exactly (word : List Char) (rest : List LikePart) (text : List Char) :
    matchesParts (word.map .exactly ++ rest) text = true ↔
      ∃ after, text = word ++ after ∧ matchesParts rest after = true := by
  induction word generalizing text with
  | nil => simp
  | cons char word ih =>
    cases text with
    | nil => simp [matchesParts]
    | cons first text =>
      simp only [List.map_cons, List.cons_append, matchesParts, Bool.and_eq_true, beq_iff_eq, ih,
        List.cons.injEq]
      constructor
      · rintro ⟨rfl, after, rfl, later⟩
        exact ⟨after, ⟨rfl, rfl⟩, later⟩
      · rintro ⟨after, ⟨rfl, rfl⟩, later⟩
        exact ⟨rfl, after, rfl, later⟩

/-- What comes behind any text matches some end of the text. -/
theorem matchesParts_anyText (rest : List LikePart) (text : List Char) :
    matchesParts (.anyText :: rest) text = true ↔
      ∃ after, after <:+ text ∧ matchesParts rest after = true := by
  simp [matchesParts, List.any_eq_true]

/-- A word between any texts is matched by the texts that contain it. -/
theorem matchesParts_infix (word text : List Char) :
    matchesParts (.anyText :: (word.map .exactly ++ [.anyText])) text = true ↔
      word <:+: text := by
  rw [matchesParts_anyText]
  constructor
  · rintro ⟨after, ⟨before, rfl⟩, later⟩
    obtain ⟨rest, rfl, -⟩ := (matchesParts_exactly word _ _).mp later
    exact ⟨before, rest, by simp⟩
  · rintro ⟨before, after, rfl⟩
    refine ⟨word ++ after, ⟨before, by simp⟩, ?_⟩
    refine (matchesParts_exactly word _ _).mpr ⟨after, rfl, ?_⟩
    exact (matchesParts_anyText [] after).mpr ⟨[], List.nil_suffix, rfl⟩

end Patterns

end Sql
