import Durable.Store.TagFilter
import Durable.Text.Pieces

/-! The SQL store's tag filter is membership for the tags that JSON writes as they are, but for what
stands between two quotation marks of the text by accident. -/

namespace Durable.Tags

open JsonValue (isEscaped escaped_plain forall_isEscaped noNumbers)

def IsPlain (tag : String) : Prop := ∀ char ∈ tag.toList, isEscaped char = false

def HasControl (tag : String) : Prop := ∃ char ∈ tag.toList, char.toNat < 32

/-- The pieces of a tag as JSON writes it, between its quotation marks. -/
def pieces (tag : List Char) : List (List Char) := (tag.flatMap JsonValue.escaped).splitOn '"'

/-- What stands between each two quotation marks of the JSON text, one after the other: the pieces
of the tags, and the commas between the tags. -/
def segments : List String → List (List Char)
  | [] => []
  | tag :: rest => pieces tag.toList ++ rest.flatMap fun tag => [','] :: pieces tag.toList

/-- The pieces of a tag, as it is, stand one after the other in the JSON text. -/
def Spelled (tags : List String) (tag : String) : Prop :=
  tag.toList.splitOn '"' <:+: segments tags

/-- When the filter agrees with membership. -/
structure Agrees (tags : List String) (tag : String) : Prop where
  /-- A tag that is written as it is: it is a member, or the end of none behind a quotation mark,
  nor a comma between two. -/
  plain : IsPlain tag → tag ∈ tags ∨
    (∀ other ∈ tags, ¬ '"' :: tag.toList <:+ other.toList) ∧ (tag = "," → tags.length < 2)
  control : HasControl tag → tag ∉ tags
  quoted : ¬IsPlain tag → ¬HasControl tag → (tag ∈ tags ↔ Spelled tags tag)

section Patterns

theorem likeParts_escapeLike (value rest : List Char) :
    Sql.likeParts '!' (escapeLike value ++ rest) =
      value.map .exactly ++ Sql.likeParts '!' rest := by
  induction value with
  | nil => rfl
  | cons char value ih =>
    unfold escapeLike at ih ⊢
    by_cases special : char ∈ ['!', '%', '_']
    · rw [List.flatMap_cons, if_pos special, List.append_assoc, List.cons_append,
        List.cons_append, List.nil_append, Sql.likeParts_escape, ih]
      rfl
    · rw [List.flatMap_cons, if_neg special, List.cons_append, List.nil_append, List.cons_append]
      simp only [List.mem_cons, List.not_mem_nil, or_false, not_or] at special
      rw [Sql.likeParts_cons special.1, ih, Sql.likePart, if_neg special.2.1, if_neg special.2.2]
      rfl

theorem hasTag_iff (tags : List String) (tag : String) :
    hasTag (some tags) tag = true ↔ '"' :: tag.toList ++ ['"'] <:+: tagsText tags := by
  have parts : Sql.likeParts '!' (tagPattern tag) =
      .anyText :: (('"' :: tag.toList ++ ['"']).map .exactly ++ [.anyText]) := by
    have around : tagPattern tag = '%' :: '"' :: (escapeLike tag.toList ++ ['"', '%']) := by
      simp [tagPattern]
    have last : Sql.likeParts '!' ['"', '%'] = [.exactly '"', .anyText] := by decide
    rw [around, Sql.likeParts_cons (by decide), Sql.likeParts_cons (by decide),
      likeParts_escapeLike, last]
    simp [Sql.likePart]
  rw [hasTag, Sql.like, parts]
  exact Sql.matchesParts_infix _ _

end Patterns

section Segments

theorem moreItems_str (tag : String) (rest : List String) :
    JsonValue.moreItems noNumbers ((tag :: rest).map .str) =
      [','] ++ '"' :: (tag.toList.flatMap JsonValue.escaped ++
        '"' :: JsonValue.moreItems noNumbers (rest.map .str)) := by
  simp [JsonValue.moreItems, JsonValue.chars, JsonValue.quoted]

theorem splitOn_moreItems (tags : List String) :
    (JsonValue.moreItems noNumbers (tags.map .str)).splitOn '"' =
      (tags.flatMap fun tag => [','] :: pieces tag.toList) ++ [[']']] := by
  induction tags with
  | nil => exact List.splitOn_eq_singleton (by decide)
  | cons tag rest ih =>
    rw [moreItems_str, List.splitOn_append_cons_self, List.splitOn_append_cons_self, ih,
      List.splitOn_eq_singleton (by decide)]
    simp [pieces]

theorem segments_eq (tags : List String) :
    ((tagsText tags).splitOn '"').tail.dropLast = segments tags := by
  cases tags with
  | nil =>
    have text : (tagsText []).splitOn '"' = [['[', ']']] := List.splitOn_eq_singleton (by decide)
    rw [text]
    rfl
  | cons tag rest =>
    have text : tagsText (tag :: rest) = ['['] ++ '"' :: (tag.toList.flatMap JsonValue.escaped ++
        '"' :: JsonValue.moreItems noNumbers (rest.map .str)) := by
      simp [tagsText, JsonValue.chars, JsonValue.itemsChars, JsonValue.quoted]
    rw [text, List.splitOn_append_cons_self, List.splitOn_append_cons_self, splitOn_moreItems,
      List.splitOn_eq_singleton (by decide), List.singleton_append, List.tail_cons,
      ← List.append_assoc, List.dropLast_concat]
    rfl

theorem hasTag_iff_spelled (tags : List String) (tag : String) :
    hasTag (some tags) tag = true ↔ Spelled tags tag := by
  rw [hasTag_iff, Pieces.between_iff, segments_eq, Spelled]

theorem mem_segments {segment : List Char} {tags : List String} :
    segment ∈ segments tags ↔
      (∃ tag ∈ tags, segment ∈ pieces tag.toList) ∨ segment = [','] ∧ 2 ≤ tags.length := by
  cases tags with
  | nil => simp [segments]
  | cons tag rest =>
    simp only [segments, List.mem_append, List.mem_flatMap, List.mem_cons, exists_eq_or_imp,
      List.length_cons]
    constructor
    · rintro (first | ⟨other, listed, rfl | piece⟩)
      · exact .inl (.inl first)
      · have pos := List.length_pos_of_mem listed
        exact .inr ⟨rfl, by omega⟩
      · exact .inl (.inr ⟨other, listed, piece⟩)
    · rintro ((first | ⟨other, listed, piece⟩) | ⟨rfl, two⟩)
      · exact .inl first
      · exact .inr ⟨other, listed, .inr piece⟩
      · obtain ⟨other, listed⟩ := List.exists_mem_of_length_pos (l := rest) (by omega)
        exact .inr ⟨other, listed, .inl rfl⟩

end Segments

section Pieces

theorem pieces_quote (rest : List Char) : pieces ('"' :: rest) = ['\\'] :: pieces rest := by
  have text : ('"' :: rest).flatMap JsonValue.escaped =
      ['\\'] ++ '"' :: rest.flatMap JsonValue.escaped := rfl
  rw [pieces, text, List.splitOn_append_cons_self, List.splitOn_eq_singleton (by decide)]
  rfl

theorem notMem_escaped {char : Char} (other : char ≠ '"') : '"' ∉ JsonValue.escaped char := by
  cases special : isEscaped char with
  | false =>
    rw [escaped_plain special, List.mem_singleton]
    exact fun same => other same.symm
  | true =>
    revert other
    refine forall_isEscaped (fun char => char ≠ '"' → '"' ∉ JsonValue.escaped char) ?_ char special
    decide +kernel

theorem pieces_cons {char : Char} (other : char ≠ '"') (rest : List Char) :
    pieces (char :: rest) = (pieces rest).modifyHead (JsonValue.escaped char ++ ·) := by
  rw [pieces, List.flatMap_cons, Pieces.splitOn_append_of_notMem (notMem_escaped other)]
  rfl

theorem pieces_cons_eq {char : Char} (other : char ≠ '"') {text first : List Char}
    {rest : List (List Char)} (split : pieces (char :: text) = first :: rest) :
    ∃ head, pieces text = head :: rest ∧ first = JsonValue.escaped char ++ head := by
  obtain ⟨head, tail, later⟩ :=
    List.exists_cons_of_ne_nil (List.splitOn_ne_nil '"' (text.flatMap JsonValue.escaped))
  rw [pieces_cons other, pieces, later] at split
  obtain ⟨rfl, rfl⟩ := List.cons.inj split
  exact ⟨head, later, rfl⟩

theorem first_piece_iff : ∀ {text word first : List Char} {rest : List (List Char)},
    (∀ char ∈ word, isEscaped char = false) → pieces text = first :: rest →
      (word = first ↔ text = word)
  | [], word, first, rest, plain, split => by
    obtain ⟨rfl, -⟩ := List.cons.inj (split : [[]] = first :: rest)
    exact eq_comm
  | char :: text, word, first, rest, plain, split => by
    by_cases quote : char = '"'
    · subst quote
      rw [pieces_quote] at split
      obtain ⟨rfl, -⟩ := List.cons.inj split
      constructor
      · rintro rfl
        cases plain '\\' (by simp)
      · rintro rfl
        cases plain '"' (by simp)
    · obtain ⟨head, later, rfl⟩ := pieces_cons_eq quote split
      cases special : isEscaped char with
      | true =>
        -- An escape starts with a backslash, which the word does not hold.
        constructor
        · rintro rfl
          obtain ⟨rest, starts⟩ :=
            List.head?_eq_some_iff.mp (JsonValue.escaped_head char special)
          cases plain '\\' (by simp [starts])
        · rintro rfl
          rw [plain char (by simp)] at special
          cases special
      | false =>
        rw [escaped_plain special, List.singleton_append]
        cases word with
        | nil => simp
        | cons other word =>
          have ih := first_piece_iff (fun char listed => plain char (List.mem_cons_of_mem _ listed))
            later
          rw [List.cons.injEq, List.cons.injEq, ih]
          exact and_congr_left' eq_comm

/-- A text that needs no escape is a later piece of the texts that end in it behind a quotation
mark. -/
theorem later_piece_iff : ∀ {text word first : List Char} {rest : List (List Char)},
    (∀ char ∈ word, isEscaped char = false) → pieces text = first :: rest →
      (word ∈ rest ↔ '"' :: word <:+ text)
  | [], word, first, rest, plain, split => by
    obtain ⟨-, rfl⟩ := List.cons.inj (split : [[]] = first :: rest)
    simp
  | char :: text, word, first, rest, plain, split => by
    rw [List.suffix_cons_iff]
    by_cases quote : char = '"'
    · subst quote
      rw [pieces_quote] at split
      obtain ⟨-, rfl⟩ := List.cons.inj split
      obtain ⟨head, tail, later⟩ :=
        List.exists_cons_of_ne_nil (List.splitOn_ne_nil '"' (text.flatMap JsonValue.escaped))
      have later : pieces text = head :: tail := later
      rw [later, List.mem_cons, first_piece_iff plain later, later_piece_iff plain later,
        List.cons.injEq, eq_comm (a := text)]
      simp
    · obtain ⟨head, later, -⟩ := pieces_cons_eq quote split
      rw [later_piece_iff plain later]
      have apart : '"' :: word ≠ char :: text := fun same => quote (List.cons.inj same).1.symm
      simp [apart]

/-- A text that needs no escape is a piece of itself, and of those that end in it behind a quotation
mark. -/
theorem mem_pieces_iff {text word : List Char} (plain : ∀ char ∈ word, isEscaped char = false) :
    word ∈ pieces text ↔ text = word ∨ '"' :: word <:+ text := by
  obtain ⟨first, rest, split⟩ :=
    List.exists_cons_of_ne_nil (List.splitOn_ne_nil '"' (text.flatMap JsonValue.escaped))
  have split : pieces text = first :: rest := split
  rw [split, List.mem_cons, first_piece_iff plain split, later_piece_iff plain split]

end Pieces

section Filters

variable {tags : List String} {tag : String}

theorem hasTag_iff_of_plain (plain : IsPlain tag) :
    hasTag (some tags) tag = true ↔
      tag ∈ tags ∨ (∃ other ∈ tags, '"' :: tag.toList <:+ other.toList) ∨
        tag = "," ∧ 2 ≤ tags.length := by
  have whole : tag.toList.splitOn '"' = [tag.toList] := by
    apply List.splitOn_eq_singleton
    intro listed
    cases plain '"' listed
  have comma : tag.toList = [','] ↔ tag = "," := by
    rw [← String.toList_inj]
    rfl
  rw [hasTag_iff_spelled, Spelled, whole, List.singleton_infix_iff, mem_segments, comma]
  simp only [mem_pieces_iff plain, String.toList_inj, and_or_left, exists_or, exists_eq_right]
  rw [or_assoc]

theorem printed_escaped (char : Char) :
    ∀ other ∈ JsonValue.escaped char, 32 ≤ other.toNat := by
  cases special : isEscaped char with
  | false =>
    rw [escaped_plain special]
    intro other listed
    obtain rfl := List.mem_singleton.mp listed
    simp only [isEscaped, Bool.or_eq_false_iff, decide_eq_false_iff_not] at special
    omega
  | true =>
    have all : (JsonValue.escaped char).all (fun other => decide (32 ≤ other.toNat)) = true := by
      refine forall_isEscaped (fun char =>
        (JsonValue.escaped char).all (fun other => decide (32 ≤ other.toNat)) = true) ?_ char
        special
      decide +kernel
    simpa using all

theorem printed_moreItems (tags : List String) :
    ∀ char ∈ JsonValue.moreItems noNumbers (tags.map .str), 32 ≤ char.toNat := by
  induction tags with
  | nil =>
    intro char listed
    obtain rfl := List.mem_singleton.mp listed
    decide
  | cons tag rest ih =>
    intro char listed
    rw [moreItems_str] at listed
    simp only [List.mem_append, List.mem_cons, List.mem_flatMap, List.not_mem_nil, or_false]
      at listed
    rcases listed with rfl | rfl | ⟨own, -, escape⟩ | rfl | later
    · decide
    · decide
    · exact printed_escaped own char escape
    · decide
    · exact ih char later

theorem printed_tagsText (tags : List String) : ∀ char ∈ tagsText tags, 32 ≤ char.toNat := by
  intro char listed
  cases tags with
  | nil =>
    have brackets : char = '[' ∨ char = ']' := by
      simpa [tagsText, JsonValue.chars, JsonValue.itemsChars] using listed
    rcases brackets with rfl | rfl <;> decide
  | cons tag rest =>
    -- The list is a bracket and the same text as behind a comma.
    have text : tagsText (tag :: rest) =
        '[' :: (JsonValue.moreItems noNumbers ((tag :: rest).map .str)).tail := by
      rw [moreItems_str]
      simp [tagsText, JsonValue.chars, JsonValue.itemsChars, JsonValue.quoted]
    rw [text] at listed
    rcases List.mem_cons.mp listed with rfl | later
    · decide
    · exact printed_moreItems _ char (List.mem_of_mem_tail later)

theorem not_hasTag_of_control (control : HasControl tag) : hasTag (some tags) tag = false := by
  rw [Bool.eq_false_iff]
  intro found
  obtain ⟨char, listed, code⟩ := control
  have within := ((hasTag_iff tags tag).mp found).subset
    (List.mem_append_left _ (List.mem_cons_of_mem _ listed))
  have printed := printed_tagsText tags char within
  omega

theorem hasTag_mem_iff : (hasTag (some tags) tag = true ↔ tag ∈ tags) ↔ Agrees tags tag := by
  constructor
  · intro agrees
    refine ⟨fun plain => ?_, fun control => ?_, fun _ _ => ?_⟩
    · rw [hasTag_iff_of_plain plain] at agrees
      by_cases member : tag ∈ tags
      · exact .inl member
      · right
        constructor
        · intro other listed ends
          exact member (agrees.mp (.inr (.inl ⟨other, listed, ends⟩)))
        · intro comma
          by_contra two
          exact member (agrees.mp (.inr (.inr ⟨comma, by omega⟩)))
    · rw [← agrees, not_hasTag_of_control control]
      exact Bool.false_ne_true
    · rw [← agrees, hasTag_iff_spelled]
  · intro agrees
    by_cases plain : IsPlain tag
    · rw [hasTag_iff_of_plain plain]
      constructor
      · rintro (member | ⟨other, listed, ends⟩ | ⟨comma, two⟩)
        · exact member
        · rcases agrees.plain plain with member | none
          · exact member
          · exact absurd ends (none.1 other listed)
        · rcases agrees.plain plain with member | none
          · exact member
          · have few := none.2 comma
            omega
      · exact .inl
    · by_cases control : HasControl tag
      · have none := agrees.control control
        simp [not_hasTag_of_control control, none]
      · rw [hasTag_iff_spelled, ← agrees.quoted plain control]

theorem hasTag_of_mem (member : tag ∈ tags) :
    hasTag (some tags) tag = true ↔ IsPlain tag ∨ Spelled tags tag := by
  constructor
  · intro found
    exact .inr ((hasTag_iff_spelled tags tag).mp found)
  · rintro (plain | spelled)
    · exact (hasTag_iff_of_plain plain).mpr (.inl member)
    · exact (hasTag_iff_spelled tags tag).mpr spelled

end Filters

/-- The filter agrees with the in-memory store's just when each list of tags is one of those on
which it does; and the rows read under the lock of a singleton's tag include every active run that
carries it just when the tag is plain, or spelled by the text of each of them. -/
theorem tagFilter_iff (tag : String) :
    (∀ stored : Option (List String),
      (hasTag stored tag = true ↔ includesTag stored tag = true) ↔
        ∀ tags ∈ stored, Agrees tags tag) ∧
    ∀ (runs : List SingletonRun) (workflow : String),
      (∀ run ∈ runs, isActive workflow run = true → tag ∈ run.tags →
          run ∈ sharing runs workflow tag) ↔
        ∀ run ∈ runs, isActive workflow run = true → tag ∈ run.tags →
          IsPlain tag ∨ Spelled run.tags tag := by
  constructor
  · intro stored
    cases stored with
    | none => simp [hasTag, includesTag]
    | some tags =>
      have member : includesTag (some tags) tag = true ↔ tag ∈ tags := by simp [includesTag]
      rw [member, hasTag_mem_iff]
      simp
  · intro runs workflow
    refine forall₂_congr fun run listed => forall₂_congr fun active member => ?_
    rw [sharing, List.mem_filter, ← hasTag_of_mem member]
    simp [listed, active]

/-- A tag with a quotation mark is not found in its own list. -/
theorem quoted_tag_missed :
    ¬∀ (tags : List String) (tag : String), tag ≠ "" →
      (hasTag (some tags) tag = true ↔ includesTag (some tags) tag = true) := by
  intro agrees
  have missed := agrees ["singleton:\"a\""] "singleton:\"a\"" (by decide)
  revert missed
  decide +kernel

end Durable.Tags
