import Durable.Data.Ids
import Durable.Engine.Addresses
import Durable.Text.Joined

/-! Which of the engine's addresses are told apart, and which of them read back as they were
made. -/

namespace Durable.Addresses

section Texts

variable {text front back : String}

theorem startsWith_iff : startsWith text front = true ↔ front.toList <+: text.toList :=
  List.isPrefixOf_iff_prefix

theorem endsWith_iff : endsWith text back = true ↔ back.toList <:+ text.toList :=
  List.isSuffixOf_iff_suffix

theorem sliced_eq {middle : String}
    (whole : text.toList = front.toList ++ middle.toList ++ back.toList) :
    sliced text front.toList.length back.toList.length = middle := by
  unfold sliced
  have behind : text.toList.length - back.toList.length =
      (front.toList ++ middle.toList).length := by
    rw [whole, List.length_append]
    omega
  rw [behind, whole, List.take_left, List.drop_left, String.ofList_toList]

theorem colon_toList : ":".toList = [':'] := by decide

theorem hash_toList : "#".toList = ['#'] := by decide

end Texts

section Entities

variable {name key name' key' : String} {configs : String → Bool}

/-- The name of one entity goes on with a colon and the beginning of the other's key. -/
def NameGoesOn (name key name' key' : String) : Prop :=
  ∃ more, name = name' ++ ":" ++ more ∧ key' = more ++ ":" ++ key

theorem entityRunId_toList (name key : String) :
    (entityRunId name key).toList = "entity:".toList ++ (name.toList ++ ':' :: key.toList) := by
  unfold entityRunId
  simp only [String.toList_append, colon_toList, List.append_assoc, List.singleton_append]

/-- Entities have one run id just when they are the same, or a name goes on with what the other's
key begins with. -/
theorem entityRunId_eq_iff : entityRunId name key = entityRunId name' key' ↔
    (name = name' ∧ key = key') ∨ NameGoesOn name key name' key' ∨
      NameGoesOn name' key' name key := by
  unfold entityRunId NameGoesOn
  -- Behind the common opening stand the name and the key, joined by a colon.
  simp only [String.append_assoc, String.append_right_inj]
  have joined := Joined.text_eq_iff colon_toList name key name' key'
  simpa only [String.append_assoc] using joined

/-- The id of an entity is kicked for the entity just when it is known, and its name is neither
empty nor holds a colon. -/
theorem kickRunId_iff : kickRunId configs (entityRunId name key) = some (name, key) ↔
    configs name = true ∧ name ≠ "" ∧ ':' ∉ name.toList := by
  have opened : startsWith (entityRunId name key) "entity:" = true := by
    rw [startsWith_iff, entityRunId_toList]
    exact List.prefix_append _ _
  unfold kickRunId
  rw [if_pos opened, entityRunId_toList, List.drop_left]
  dsimp only
  constructor
  · intro kicked
    cases found : (name.toList ++ ':' :: key.toList).idxOf? ':' with
    | none =>
      rw [found] at kicked
      cases kicked
    | some sep =>
      rw [found] at kicked
      dsimp only at kicked
      obtain ⟨within, unmarked⟩ := Joined.idxOf?_eq_some found
      rw [Option.ite_none_left_eq_some, Option.ite_none_right_eq_some, Option.some.injEq,
        Prod.mk.injEq] at kicked
      -- What was taken for the name stands before the first colon.
      obtain ⟨some_, known, taken, -⟩ := kicked
      rw [taken] at known
      rw [← taken, String.toList_ofList]
      refine ⟨by rw [taken]; exact known, ?_, unmarked⟩
      intro empty
      have none := congrArg String.toList empty
      rw [String.toList_ofList] at none
      have short := congrArg List.length none
      simp only [List.length_take, String.toList_empty, List.length_nil] at short
      omega
  · rintro ⟨known, named, unmarked⟩
    rw [Joined.idxOf?_append_mark unmarked]
    have some_ : name.toList.length ≠ 0 := by
      intro none
      exact named (String.toList_eq_nil_iff.mp (List.length_eq_zero_iff.mp none))
    simp only [List.take_left, String.ofList_toList, if_neg some_, if_pos known]
    -- The key stands behind the colon.
    rw [← List.drop_drop, List.drop_left]
    simp

end Entities

section Lifecycle

variable {source subscriber source' subscriber' : String} {kind kind' : LifecycleKind}

theorem unmarked_kind (kind : LifecycleKind) : ':' ∉ kind.text.toList := by
  cases kind <;> decide

theorem kindText_injective (same : kind.text = kind'.text) : kind = kind' := by
  revert same
  cases kind <;> cases kind' <;> decide

/-- The source of one run goes on with the other's ending, and its subscriber begins with what
follows there. -/
def SourceGoesOn (source : String) (kind : LifecycleKind) (subscriber source' : String)
    (kind' : LifecycleKind) (subscriber' : String) : Prop :=
  (source = source' ++ ":" ++ kind'.text ∧ subscriber' = kind.text ++ ":" ++ subscriber) ∨
  ∃ more, source = source' ++ ":" ++ kind'.text ++ ":" ++ more ∧
    subscriber' = more ++ ":" ++ kind.text ++ ":" ++ subscriber

theorem kind_subscriber_inj
    (same : kind.text ++ ":" ++ subscriber = kind'.text ++ ":" ++ subscriber') :
    kind = kind' ∧ subscriber = subscriber' := by
  rcases (Joined.text_eq_iff colon_toList _ _ _ _).mp same with
    ⟨kinds, subscribers⟩ | ⟨more, longer, -⟩ | ⟨more, longer, -⟩
  · exact ⟨kindText_injective kinds, subscribers⟩
  · exact absurd (by simp [longer, colon_toList]) (unmarked_kind kind)
  · exact absurd (by simp [longer, colon_toList]) (unmarked_kind kind')

theorem source_goesOn_iff :
    (∃ more, source = source' ++ ":" ++ more ∧
      kind'.text ++ ":" ++ subscriber' = more ++ ":" ++ (kind.text ++ ":" ++ subscriber)) ↔
    SourceGoesOn source kind subscriber source' kind' subscriber' := by
  unfold SourceGoesOn
  constructor
  · rintro ⟨more, sources, backs⟩
    rcases (Joined.text_eq_iff colon_toList _ _ _ _).mp backs with
      ⟨rfl, subscribers⟩ | ⟨rest, longer, -⟩ | ⟨rest, longer, subscribers⟩
    · exact .inl ⟨sources, subscribers⟩
    · -- The ending would hold a colon.
      exact absurd (by simp [longer, colon_toList]) (unmarked_kind kind')
    · refine .inr ⟨rest, ?_, ?_⟩
      · rw [sources, longer]
        simp only [String.append_assoc]
      · rw [subscribers]
        simp only [String.append_assoc]
  · rintro (⟨sources, subscribers⟩ | ⟨rest, sources, subscribers⟩)
    · exact ⟨kind'.text, sources, by rw [subscribers]⟩
    · refine ⟨kind'.text ++ ":" ++ rest, ?_, ?_⟩
      · rw [sources]
        simp only [String.append_assoc]
      · rw [subscribers]
        simp only [String.append_assoc]

theorem lifecycleRunId_eq_iff :
    lifecycleRunId source kind subscriber = lifecycleRunId source' kind' subscriber' ↔
      (source = source' ∧ kind = kind' ∧ subscriber = subscriber') ∨
      SourceGoesOn source kind subscriber source' kind' subscriber' ∨
      SourceGoesOn source' kind' subscriber' source kind subscriber := by
  have text : ∀ source (kind : LifecycleKind) subscriber, lifecycleRunId source kind subscriber =
      "evt:" ++ (source ++ ":" ++ (kind.text ++ ":" ++ subscriber)) := by
    intro source kind subscriber
    unfold lifecycleRunId
    simp only [String.append_assoc]
  rw [text, text, String.append_right_inj, Joined.text_eq_iff colon_toList, source_goesOn_iff,
    source_goesOn_iff]
  refine or_congr ⟨?_, ?_⟩ Iff.rfl
  · rintro ⟨rfl, backs⟩
    exact ⟨rfl, kind_subscriber_inj backs⟩
  · rintro ⟨rfl, rfl, rfl⟩
    exact ⟨rfl, rfl⟩

theorem lifecycleRunId_toList (source : String) (kind : LifecycleKind) (subscriber : String) :
    (lifecycleRunId source kind subscriber).toList =
      "evt:".toList ++ source.toList ++ (":" ++ kind.text ++ ":" ++ subscriber).toList := by
  unfold lifecycleRunId
  simp only [String.toList_append, List.append_assoc]

theorem lifecycleSourceAs_own : lifecycleSourceAs (lifecycleRunId source kind subscriber) subscriber
    kind = if source = "" then none else some (source, kind) := by
  have whole := lifecycleRunId_toList source kind subscriber
  have ends : endsWith (lifecycleRunId source kind subscriber)
      (":" ++ kind.text ++ ":" ++ subscriber) = true := by
    rw [endsWith_iff, whole]
    exact List.suffix_append _ _
  unfold lifecycleSourceAs
  dsimp only
  rw [ends, sliced_eq whole, whole, Bool.true_and]
  by_cases empty : source = ""
  · rw [if_pos empty, if_neg]
    simp only [empty, String.toList_empty, List.append_nil, List.length_append, decide_eq_true_eq]
    omega
  · rw [if_neg empty, if_pos]
    have some_ : source.toList.length ≠ 0 := by
      intro none
      exact empty (String.toList_eq_nil_iff.mp (List.length_eq_zero_iff.mp none))
    simp only [List.length_append, decide_eq_true_eq]
    omega

theorem lifecycleSourceAs_other (other : kind' ≠ kind) :
    lifecycleSourceAs (lifecycleRunId source kind subscriber) subscriber kind' = none := by
  have apart : endsWith (lifecycleRunId source kind subscriber)
      (":" ++ kind'.text ++ ":" ++ subscriber) = false := by
    rw [← Bool.not_eq_true, endsWith_iff, lifecycleRunId_toList]
    intro ends
    -- Both endings would stand before the same subscriber, one of them behind the other.
    have both := List.suffix_or_suffix_of_suffix ends (List.suffix_append _ _)
    simp only [String.toList_append, List.suffix_append_self_iff] at both
    revert both
    cases kind <;> cases kind'
    · exact absurd rfl other
    · decide
    · decide
    · exact absurd rfl other
  unfold lifecycleSourceAs
  dsimp only
  rw [apart, Bool.false_and, if_neg Bool.false_ne_true]

theorem lifecycleSourceOf_iff :
    lifecycleSourceOf (lifecycleRunId source kind subscriber) subscriber = some (source, kind) ↔
      source ≠ "" := by
  have opened : startsWith (lifecycleRunId source kind subscriber) "evt:" = true := by
    rw [startsWith_iff, lifecycleRunId_toList, List.append_assoc]
    exact List.prefix_append _ _
  have read : lifecycleSourceOf (lifecycleRunId source kind subscriber) subscriber =
      if source = "" then none else some (source, kind) := by
    unfold lifecycleSourceOf
    rw [if_pos opened]
    cases kind with
    | completed =>
      rw [lifecycleSourceAs_own, lifecycleSourceAs_other (by decide), Option.or_none]
    | failed => rw [lifecycleSourceAs_own, lifecycleSourceAs_other (by decide), Option.none_or]
  rw [read]
  by_cases empty : source = ""
  · simp [empty]
  · simp [empty]

end Lifecycle

section Accumulators

variable {target target' : String} {key key' : Option String}

def isKept (code : Nat) : Bool := Percent.isPlain code && code != 126

theorem escapeTilde_encodeByte (byte : UInt8) :
    (Percent.encodeByte byte).flatMap escapeTilde = Percent.writeByte isKept byte := by
  have bound := byte.toNat_lt_size
  simp only [UInt8.size] at bound
  have digit : ∀ number < 16, escapeTilde (Percent.hexDigit number) =
      [Percent.hexDigit number] := by
    decide
  unfold Percent.encodeByte Percent.writeByte isKept
  cases plain : Percent.isPlain byte.toNat with
  | false =>
    -- Neither the mark nor a digit is a tilde.
    have high := digit (byte.toNat / 16) (by omega)
    have low := digit (byte.toNat % 16) (by omega)
    have mark : escapeTilde '%' = ['%'] := by decide
    simp [high, low, mark]
  | true =>
    by_cases tilde : byte.toNat = 126
    · rw [tilde]
      decide
    · have other : Char.ofNat byte.toNat ≠ '~' := by
        intro same
        exact tilde (Percent.ofNat_inj bound (by omega) same)
      simp [escapeTilde, other, tilde]

theorem encodeKey_toList (key : String) :
    (encodeKey key).toList = (Percent.bytes key).flatMap (Percent.writeByte isKept) := by
  unfold encodeKey Percent.encode
  rw [String.toList_ofList, String.toList_ofList, List.flatMap_assoc]
  congr 1
  funext byte
  exact escapeTilde_encodeByte byte

theorem encodeKey_inj {one other : String} (same : encodeKey one = encodeKey other) :
    one = other := by
  have lists := congrArg String.toList same
  rw [encodeKey_toList, encodeKey_toList] at lists
  exact Percent.bytes_inj (Percent.flatMap_writeByte_inj (by decide) lists)

theorem unmarked_encodeKey (key : String) : '#' ∉ (encodeKey key).toList := by
  rw [encodeKey_toList, List.mem_flatMap]
  rintro ⟨byte, -, listed⟩
  have bound := byte.toNat_lt_size
  simp only [UInt8.size] at bound
  have digit : ∀ number < 16, Percent.hexDigit number ≠ '#' := by decide
  unfold Percent.writeByte at listed
  split at listed
  · rename_i kept
    have code : byte.toNat = 35 := by
      have same := List.mem_singleton.mp listed
      exact Percent.ofNat_inj bound (by omega) same.symm
    rw [code] at kept
    revert kept
    decide
  · simp only [List.mem_cons, List.not_mem_nil, or_false] at listed
    rcases listed with mark | high | low
    · revert mark
      decide
    · exact digit _ (by omega) high.symm
    · exact digit _ (by omega) low.symm

/-- A target without a key is written as another one with a key. -/
def ReadsAsKeyed (target : String) (key : Option String) (target' : String) (key' : Option String) :
    Prop :=
  key = none ∧ ∃ other, key' = some other ∧ target = target' ++ "#" ++ encodeKey other

/-- Accumulators have one id just when they are the same, or one without a key reads as the other
with its key. -/
theorem accumulatorRunId_eq_iff : accumulatorRunId target key = accumulatorRunId target' key' ↔
    (target = target' ∧ key = key') ∨ ReadsAsKeyed target key target' key' ∨
      ReadsAsKeyed target' key' target key := by
  unfold ReadsAsKeyed accumulatorRunId
  cases key with
  | none =>
    cases key' with
    | none => simp
    | some other => simp [String.append_assoc, String.append_right_inj]
  | some own =>
    cases key' with
    | none => simp [String.append_assoc, String.append_right_inj, eq_comm]
    | some other =>
      simp only [String.append_assoc, String.append_right_inj, reduceCtorEq, false_and, or_false,
        Option.some.injEq]
      constructor
      · intro same
        -- No key holds a hash, so the last one stands before the key.
        have lists := congrArg String.toList same
        simp only [String.toList_append, hash_toList, List.singleton_append] at lists
        obtain ⟨targets, keys⟩ := Joined.append_mark_inj_of_back (unmarked_encodeKey own)
          (unmarked_encodeKey other) lists
        exact ⟨String.toList_inj.mp targets, encodeKey_inj (String.toList_inj.mp keys)⟩
      · rintro ⟨rfl, rfl⟩
        rfl

end Accumulators

section Events

variable {Number : Type} (numbers : JsonValue.NumberFormat Number) {replaced : ByteArray → String}
  {name name' runId runId' : String} {asked asked' : Option (EventMatch Number)} {seq seq' : Nat}

theorem base64Digits_eq (bytes : List Nat) : base64Digits bytes = Base64.encode bytes := by
  fun_induction Base64.encode bytes with
  | case1 => rfl
  | case2 a => rfl
  | case3 a b => rfl
  | case4 a b c rest ih =>
    rw [base64Digits, ih]
    rfl

theorem enc_toList (text : String) :
    (enc text).toList = Base64.encode ((Percent.bytes text).map UInt8.toNat) := by
  unfold enc
  rw [String.toList_ofList, base64Digits_eq, Percent.toUTF8_toList]

theorem unmarked_enc (text : String) : ':' ∉ (enc text).toList := by
  rw [enc_toList]
  intro listed
  have digit := Base64.mem_encode listed
  revert digit
  decide

theorem dec_enc (replaced : ByteArray → String) (text : String) :
    dec replaced (enc text).toList = text := by
  have small : ∀ byte ∈ (Percent.bytes text).map UInt8.toNat, byte < 256 := by
    intro byte listed
    obtain ⟨own, -, rfl⟩ := List.mem_map.mp listed
    exact own.toNat_lt_size
  have back : ((Percent.bytes text).map UInt8.toNat).map UInt8.ofNat = Percent.bytes text := by
    rw [List.map_map]
    apply List.map_id''
    intro byte
    exact UInt8.ofNat_toNat
  have whole : (⟨(Percent.bytes text).toArray⟩ : ByteArray) = text.toByteArray := by
    unfold Percent.bytes
    exact ByteArray.ext Array.toArray_toList
  unfold dec
  dsimp only
  rw [enc_toList, Base64.decode_encode small, back, whole]
  unfold String.fromUTF8?
  rw [dif_pos text.isValidUTF8]
  rfl

theorem enc_inj (same : enc name = enc name') : name = name' := by
  rw [← dec_enc (fun _ => "") name, same, dec_enc]

def matchText (asked : Option (EventMatch Number)) : String :=
  (JsonValue.obj (criteria asked)).stringify numbers.toNumberText

theorem eventToken_toList (name : String) (asked : Option (EventMatch Number)) (runId : String)
    (seq : Nat) : (eventToken numbers name asked runId seq).toList =
      "event".toList ++ ':' :: ((enc name).toList ++
        ':' :: ((enc (matchText numbers asked)).toList ++
          ':' :: (runId ++ "#" ++ toString seq).toList)) := by
  have opening : "event:".toList = "event".toList ++ [':'] := by decide
  unfold eventToken eventPrefix matchText
  simp only [String.toList_append, colon_toList, opening, List.append_assoc, List.nil_append,
    List.cons_append]

theorem piece_eventToken :
    piece (eventToken numbers name asked runId seq) 1 = (enc name).toList ∧
      piece (eventToken numbers name asked runId seq) 2 =
        (enc (matchText numbers asked)).toList := by
  have opening : ':' ∉ "event".toList := by decide
  unfold piece
  rw [eventToken_toList, List.splitOn_append_cons_self, List.splitOn_append_cons_self,
    List.splitOn_append_cons_self, List.splitOn_eq_singleton opening,
    List.splitOn_eq_singleton (unmarked_enc _), List.splitOn_eq_singleton (unmarked_enc _)]
  exact ⟨rfl, rfl⟩

theorem eventNameOf_eventToken :
    eventNameOf replaced (eventToken numbers name asked runId seq) = name := by
  unfold eventNameOf
  rw [(piece_eventToken numbers).1, dec_enc]

theorem regular_criteria (asked : Option (EventMatch Number)) :
    (JsonValue.obj (criteria asked)).Regular := by
  cases asked with
  | none => exact ⟨by simp [criteria, JsonValue.objectOf, JsonValue.listed], trivial⟩
  | some own => exact own.regular

theorem eventMatchOf_eventToken :
    eventMatchOf numbers replaced (eventToken numbers name asked runId seq) =
      .obj (criteria asked) := by
  unfold eventMatchOf
  rw [(piece_eventToken numbers).2, dec_enc, matchText,
    JsonValue.parse_stringify numbers (regular_criteria asked)]
  rfl

theorem unmarked_number (number : Nat) : '#' ∉ (toString number).toList := by
  intro listed
  have figure := isDigit_of_mem listed
  revert figure
  decide

/-- Two event waits have one token just when they are of one event, ask for the same, and are one
call. -/
theorem eventToken_eq_iff : eventToken numbers name asked runId seq =
    eventToken numbers name' asked' runId' seq' ↔
      name = name' ∧ criteria asked = criteria asked' ∧ runId = runId' ∧ seq = seq' := by
  constructor
  · intro same
    have names := congrArg (eventNameOf fun _ => "") same
    rw [eventNameOf_eventToken, eventNameOf_eventToken] at names
    have matches_ := congrArg (eventMatchOf numbers fun _ => "") same
    rw [eventMatchOf_eventToken, eventMatchOf_eventToken, JsonValue.obj.injEq] at matches_
    -- What is left of the tokens are the calls, told apart at their last hash.
    have lists := congrArg String.toList same
    unfold eventToken at lists
    rw [names, matches_] at lists
    simp only [String.toList_append, hash_toList, List.append_assoc, List.append_cancel_left_eq,
      List.singleton_append] at lists
    obtain ⟨runs, numbers'⟩ := Joined.append_mark_inj_of_back (unmarked_number seq)
      (unmarked_number seq') lists
    exact ⟨names, matches_, String.toList_inj.mp runs,
      number_injective (String.toList_inj.mp numbers')⟩
  · rintro ⟨rfl, matches_, rfl, rfl⟩
    unfold eventToken
    rw [matches_]

theorem startsWith_eventPrefix :
    startsWith (eventToken numbers name asked runId seq) (eventPrefix name') = true ↔
      name = name' := by
  have opening : (eventPrefix name').toList =
      "event".toList ++ ':' :: ((enc name').toList ++ [':']) := by
    have opened : "event:".toList = "event".toList ++ [':'] := by decide
    unfold eventPrefix
    simp only [String.toList_append, colon_toList, opened, List.append_assoc,
      List.nil_append, List.cons_append]
  rw [startsWith_iff, eventToken_toList, opening, List.prefix_append_right_inj,
    List.cons_prefix_cons]
  constructor
  · rintro ⟨-, rest, whole⟩
    rw [List.append_assoc, List.singleton_append] at whole
    rcases Joined.append_mark_eq_iff.mp whole with
      ⟨names, -⟩ | ⟨more, longer, -⟩ | ⟨more, longer, -⟩
    · exact (enc_inj (String.toList_inj.mp names)).symm
    · exact absurd (by simp [longer]) (unmarked_enc name')
    · exact absurd (by simp [longer]) (unmarked_enc name)
  · rintro rfl
    refine ⟨rfl, ?_⟩
    rw [List.prefix_append_right_inj, List.cons_prefix_cons]
    exact ⟨rfl, List.nil_prefix⟩

end Events

section RunWaits

variable {target runId target' runId' : String} {seq seq' : Nat} {waiter : Waiter}

theorem runWaitToken_toList (target runId : String) (seq : Nat) :
    (runWaitToken target runId seq).toList = runWaitTokenPrefix.toList ++
      (target.toList ++ '#' :: (runId.toList ++ '#' :: (toString seq).toList)) := by
  unfold runWaitToken runWaitPrefix
  simp only [String.toList_append, hash_toList, List.append_assoc, List.nil_append,
    List.cons_append]

/-- The target of one wait goes on with a hash and the beginning of the other's run id. -/
def TargetGoesOn (target runId target' runId' : String) : Prop :=
  ∃ more, target = target' ++ "#" ++ more ∧ runId' = more ++ "#" ++ runId

/-- Two waits have one token just when they are made at one position, and are the same or a target
goes on with what the other's run id begins with. -/
theorem runWaitToken_eq_iff :
    runWaitToken target runId seq = runWaitToken target' runId' seq' ↔
      seq = seq' ∧ ((target = target' ∧ runId = runId') ∨ TargetGoesOn target runId target' runId' ∨
        TargetGoesOn target' runId' target runId) := by
  have joined := Joined.text_eq_iff hash_toList target runId target' runId'
  unfold TargetGoesOn
  rw [← joined]
  constructor
  · intro same
    -- No number holds a hash, so the last one stands before it.
    have lists := congrArg String.toList same
    rw [runWaitToken_toList, runWaitToken_toList, List.append_cancel_left_eq] at lists
    have split : ∀ (target runId : String) (seq : Nat),
        target.toList ++ '#' :: (runId.toList ++ '#' :: (toString seq).toList) =
          (target ++ "#" ++ runId).toList ++ '#' :: (toString seq).toList := by
      intro target runId seq
      simp only [String.toList_append, hash_toList, List.append_assoc, List.nil_append,
        List.cons_append]
    rw [split, split] at lists
    obtain ⟨fronts, numbers⟩ := Joined.append_mark_inj_of_back (unmarked_number seq)
      (unmarked_number seq') lists
    exact ⟨number_injective (String.toList_inj.mp numbers), String.toList_inj.mp fronts⟩
  · rintro ⟨rfl, fronts⟩
    have whole : ∀ target runId : String, runWaitToken target runId seq =
        runWaitTokenPrefix ++ (target ++ "#" ++ runId) ++ "#" ++ toString seq := by
      intro target runId
      unfold runWaitToken runWaitPrefix
      simp only [String.append_assoc]
    rw [whole, whole, fronts]

/-- A waiter's token is that of a wait for a run, by the waiter's own call. -/
def WaitsOn (waiter : Waiter) (target : String) : Prop :=
  waiter.token = runWaitToken target waiter.runId waiter.seq

theorem WaitsOn.unique (waits : WaitsOn waiter target) (waits' : WaitsOn waiter target') :
    target = target' := by
  have same := congrArg String.toList (waits.symm.trans waits')
  rw [runWaitToken_toList, runWaitToken_toList, List.append_cancel_left_eq,
    List.append_cancel_right_eq, String.toList_inj] at same
  exact same

/-- The run that is read from a token is the one that is waited for, unless that has no id. -/
theorem runWaitTargetOf_eq_some_iff :
    runWaitTargetOf waiter = some target ↔ WaitsOn waiter target ∧ target ≠ "" := by
  have whole : ∀ target : String, WaitsOn waiter target ↔ waiter.token.toList =
      runWaitTokenPrefix.toList ++ target.toList ++
        ("#" ++ waiter.runId ++ "#" ++ toString waiter.seq).toList := by
    intro target
    unfold WaitsOn
    rw [← String.toList_inj, runWaitToken_toList]
    simp only [String.toList_append, hash_toList, List.append_assoc, List.nil_append,
      List.cons_append]
  unfold runWaitTargetOf
  dsimp only
  constructor
  · intro read
    rw [Option.ite_none_right_eq_some, Option.ite_none_right_eq_some,
      Option.ite_none_left_eq_some, Option.some.injEq] at read
    obtain ⟨opens, ends, some_, rfl⟩ := read
    rw [startsWith_iff] at opens
    rw [endsWith_iff] at ends
    obtain ⟨rest, front⟩ := opens
    obtain ⟨before, back⟩ := ends
    -- The back begins with a hash, and the common opening holds none, so they do not overlap.
    have apart : ∃ middle : String, waiter.token.toList = runWaitTokenPrefix.toList ++
        middle.toList ++ ("#" ++ waiter.runId ++ "#" ++ toString waiter.seq).toList := by
      rcases List.append_eq_append_iff.mp (front.trans back.symm) with
        ⟨middle, longer, -⟩ | ⟨overlap, longer, later⟩
      · exact ⟨String.ofList middle, by rw [String.toList_ofList, ← longer, back]⟩
      · cases overlap with
        | nil =>
          refine ⟨"", ?_⟩
          rw [List.append_nil] at longer
          rw [String.toList_empty, List.append_nil, longer, back]
        | cons char overlap =>
          have hash : char = '#' := by
            simp only [String.toList_append, hash_toList, List.append_assoc, List.nil_append,
              List.cons_append, List.cons.injEq] at later
            exact later.1.symm
          have unmarked : '#' ∉ runWaitTokenPrefix.toList := by decide
          exact absurd (by simp [longer, hash]) unmarked
    obtain ⟨middle, split⟩ := apart
    rw [sliced_eq split] at some_ ⊢
    exact ⟨(whole middle).mpr split, some_⟩
  · rintro ⟨waits, some_⟩
    have split := (whole target).mp waits
    have opens : startsWith waiter.token runWaitTokenPrefix = true := by
      rw [startsWith_iff, split, List.append_assoc]
      exact List.prefix_append _ _
    have ends : endsWith waiter.token
        ("#" ++ waiter.runId ++ "#" ++ toString waiter.seq) = true := by
      rw [endsWith_iff, split]
      exact List.suffix_append _ _
    rw [if_pos opens, if_pos ends, sliced_eq split, if_neg some_]

theorem getD_runWaitTargetOf (waits : WaitsOn waiter target) :
    (runWaitTargetOf waiter).getD "" = target := by
  by_cases empty : target = ""
  · cases read : runWaitTargetOf waiter with
    | none => exact empty.symm
    | some other =>
      obtain ⟨waits', -⟩ := runWaitTargetOf_eq_some_iff.mp read
      exact waits'.unique waits
  · rw [runWaitTargetOf_eq_some_iff.mpr ⟨waits, empty⟩]
    rfl

theorem getD_runWaitTargetOf_other (other : ∀ target, ¬ WaitsOn waiter target) :
    (runWaitTargetOf waiter).getD "" = "" := by
  cases read : runWaitTargetOf waiter with
  | none => rfl
  | some target => exact absurd (runWaitTargetOf_eq_some_iff.mp read).1 (other target)

end RunWaits

end Durable.Addresses
