import Durable.Engine.FanWaiters
import Durable.Text.Joined

/-! The ids and the groups of fans are read back as what they were made from, and the waiters of a
fan, or of one wave, are those the join barrier counts. -/

namespace Durable

/-- What a child whose id the engine makes is started for. -/
inductive ChildOrigin where
  | all (firstSeq : Nat) (wave : Option Nat) (index : Nat)
  | child (seq : Nat)
  | onError (attempt : Nat)

def mintedId (runId : String) : ChildOrigin → String
  | .all firstSeq wave index => allChildId runId firstSeq index wave
  | .child seq => s!"{runId}.child.{seq}"
  | .onError attempt => onErrorRunId runId attempt

/-- Whether a pattern's `.+` matches a whole id: it is not empty, and one line. -/
def isOneLine (runId : String) : Bool := runId ≠ "" && !runId.toList.any isLineTerminator

section Numbers

theorem endNumber_append (number : Nat) {before : List Char}
    (apart : ∀ char ∈ before.head?, char.isDigit = false) :
    endNumber ((toString number).toList.reverse ++ before) =
      some (toString number, number, before) := by
  have every : ∀ char ∈ (toString number).toList.reverse, char.isDigit = true := by
    intro char listed
    exact isDigit_of_mem (List.mem_reverse.mp listed)
  have ends : before.takeWhile Char.isDigit = [] ∧ before.dropWhile Char.isDigit = before := by
    cases before with
    | nil => simp
    | cons char rest => simp [apart char (by simp)]
  unfold endNumber
  rw [List.takeWhile_append_of_pos every, List.dropWhile_append_of_pos every, ends.1, ends.2,
    List.append_nil, List.reverse_reverse]
  dsimp only
  rw [digitsOf_toString, String.ofList_toList]
  rfl

theorem endNumber_none {char : Char} (other : char.isDigit = false) (before : List Char) :
    endNumber (char :: before) = none := by
  simp [endNumber, other, digitsOf]

theorem endText_append (text : String) (before : List Char) :
    endText text (text.toList.reverse ++ before) = some before := by
  unfold endText
  rw [if_pos (by simp), List.drop_left' (by simp)]

theorem dotPlus_reverse {runId : String} (line : isOneLine runId = true) :
    dotPlus runId.toList.reverse = some runId := by
  unfold isOneLine at line
  rw [Bool.and_eq_true, decide_eq_true_eq, Bool.not_eq_true'] at line
  have filled : runId.toList ≠ [] := by simpa using line.1
  unfold dotPlus
  rw [if_neg (by simp [filled, line.2])]
  simp

end Numbers

section Ids

variable {runId : String}

theorem endFan_append (line : isOneLine runId = true) (firstSeq : Nat) :
    endFan ((toString firstSeq).toList.reverse ++
        (".all.".toList.reverse ++ runId.toList.reverse)) =
      some (runId, runId ++ ".all." ++ toString firstSeq ++ ".", firstSeq) := by
  unfold endFan
  rw [endNumber_append firstSeq (by simp)]
  dsimp only [Option.bind_eq_bind, Option.bind_some]
  rw [endText_append, Option.bind_some, dotPlus_reverse line, Option.bind_some]
  apply congrArg some
  simp only [Prod.mk.injEq, and_true, true_and]
  apply String.toList_inj.mp
  simp

theorem fanChildParts_unbounded (line : isOneLine runId = true) (firstSeq index : Nat) :
    fanChildParts (allChildId runId firstSeq index none) =
      some { parent := runId, root := runId ++ ".all." ++ toString firstSeq ++ ".", firstSeq
             wave := none, index } := by
  have text : (allChildId runId firstSeq index none).toList.reverse =
      (toString index).toList.reverse ++ (".".toList.reverse ++
        ((toString firstSeq).toList.reverse ++
          (".all.".toList.reverse ++ runId.toList.reverse))) := by
    have spelled : allChildId runId firstSeq index none =
        runId ++ ".all." ++ toString firstSeq ++ "." ++ toString index := rfl
    rw [spelled]
    simp
  unfold fanChildParts
  rw [text, endNumber_append index (by simp)]
  dsimp only [Option.bind_eq_bind, Option.bind_some]
  rw [endText_append, Option.bind_some, endFan_append line]
  rfl

theorem fanChildParts_wave (line : isOneLine runId = true) (firstSeq index wave : Nat) :
    fanChildParts (allChildId runId firstSeq index (some wave)) =
      some { parent := runId, root := runId ++ ".all." ++ toString firstSeq ++ ".", firstSeq
             wave := some (toString wave, wave), index } := by
  have text : (allChildId runId firstSeq index (some wave)).toList.reverse =
      (toString index).toList.reverse ++ (".".toList.reverse ++
        ((toString wave).toList.reverse ++ (".w".toList.reverse ++
          ((toString firstSeq).toList.reverse ++
            (".all.".toList.reverse ++ runId.toList.reverse))))) := by
    have spelled : allChildId runId firstSeq index (some wave) =
        runId ++ ".all." ++ toString firstSeq ++ ".w" ++ toString wave ++ "." ++
          toString index := rfl
    rw [spelled]
    simp
  -- What stands before the wave's digits is no fan's position.
  have unlike : ∀ before : List Char, endFan ((toString wave).toList.reverse ++
      (".w".toList.reverse ++ before)) = none := by
    intro before
    unfold endFan
    rw [endNumber_append wave (by simp)]
    dsimp only [Option.bind_eq_bind, Option.bind_some]
    rw [show endText ".all." (".w".toList.reverse ++ before) = none from rfl]
    rfl
  unfold fanChildParts
  rw [text, endNumber_append index (by simp)]
  dsimp only [Option.bind_eq_bind, Option.bind_some]
  rw [endText_append, Option.bind_some, unlike]
  dsimp only
  rw [endNumber_append wave (by simp), Option.bind_some]
  dsimp only
  rw [endText_append, Option.bind_some, endFan_append line]
  rfl

theorem fanChildParts_lone (word : String) (number : Nat)
    (letters : ∃ last rest, word.toList.reverse = last :: rest ∧ last.isDigit = false) :
    fanChildParts (runId ++ "." ++ word ++ "." ++ toString number) = none := by
  obtain ⟨last, rest, ends, letter⟩ := letters
  have text : (runId ++ "." ++ word ++ "." ++ toString number).toList.reverse =
      (toString number).toList.reverse ++ (".".toList.reverse ++
        (last :: (rest ++ (".".toList.reverse ++ runId.toList.reverse)))) := by
    simp [ends]
  unfold fanChildParts
  rw [text, endNumber_append number (by simp)]
  dsimp only [Option.bind_eq_bind, Option.bind_some]
  rw [endText_append, Option.bind_some]
  unfold endFan
  rw [endNumber_none letter]
  rfl

theorem endWord_append (word : String) (number : Nat) :
    endWord word (runId ++ "." ++ word ++ "." ++ toString number) =
      some (runId.toList.reverse, number) := by
  have text : (runId ++ "." ++ word ++ "." ++ toString number).toList.reverse =
      (toString number).toList.reverse ++
        (("." ++ word ++ ".").toList.reverse ++ runId.toList.reverse) := by
    simp
  have dotted : ∀ char ∈ (("." ++ word ++ ".").toList.reverse ++ runId.toList.reverse).head?,
      char.isDigit = false := by
    simp
  unfold endWord
  rw [text, endNumber_append number dotted]
  dsimp only [Option.bind_eq_bind, Option.bind_some]
  rw [endText_append]
  rfl

theorem endWord_onError (attempt : Nat) :
    endWord "child" (runId ++ "." ++ "onError" ++ "." ++ toString attempt) = none := by
  have text : (runId ++ "." ++ "onError" ++ "." ++ toString attempt).toList.reverse =
      (toString attempt).toList.reverse ++
        ("." ++ "onError" ++ ".").toList.reverse ++ runId.toList.reverse := by
    simp
  unfold endWord
  rw [text, List.append_assoc, endNumber_append attempt (by simp)]
  simp [endText]

theorem parentRunIdOf_minted (line : isOneLine runId = true) (origin : ChildOrigin) :
    parentRunIdOf (mintedId runId origin) = some runId := by
  unfold parentRunIdOf
  cases origin with
  | all firstSeq wave index =>
    cases wave with
    | none =>
      have parts := fanChildParts_unbounded line firstSeq index
      rw [mintedId, parts]
    | some wave =>
      have parts := fanChildParts_wave line firstSeq index wave
      rw [mintedId, parts]
  | child seq =>
    have spelled : mintedId runId (.child seq) =
        runId ++ "." ++ "child" ++ "." ++ toString seq := by
      simp [mintedId, String.append_assoc, toString]
    rw [spelled, fanChildParts_lone "child" seq ⟨'d', _, rfl, rfl⟩, endWord_append]
    dsimp only [Option.bind_some]
    rw [dotPlus_reverse line]
  | onError attempt =>
    have spelled : mintedId runId (.onError attempt) =
        runId ++ "." ++ "onError" ++ "." ++ toString attempt := by
      simp [mintedId, onErrorRunId, String.append_assoc, toString]
    -- It is read as no fan's child, nor as a lone child.
    have unlike : endWord "child" (runId ++ "." ++ "onError" ++ "." ++ toString attempt) = none :=
      endWord_onError attempt
    rw [spelled, fanChildParts_lone "onError" attempt ⟨'r', _, rfl, rfl⟩, unlike, endWord_append]
    dsimp only [Option.bind_some, Option.bind_none]
    exact dotPlus_reverse line

end Ids

section Groups

theorem colon_notMem (number : Nat) : ':' ∉ Nat.toDigits 10 number := notMem_toDigits rfl number

theorem allGroup_pieces (firstSeq size : Nat) (mode : FanMode) :
    (allGroup firstSeq size mode).toList.splitOn ':' =
      ["all".toList, (toString firstSeq).toList, 'n' :: (toString size).toList] ++
        if mode = .failFast then ["failFast".toList] else [] := by
  cases mode with
  | waitAll =>
    have text : (allGroup firstSeq size .waitAll).toList = [':'].intercalate
        ["all".toList, (toString firstSeq).toList, 'n' :: (toString size).toList] := by
      simp [allGroup, toString]
    rw [text]
    apply List.splitOn_intercalate
    · simp [colon_notMem]
    · simp
  | failFast =>
    have text : (allGroup firstSeq size .failFast).toList = [':'].intercalate
        ["all".toList, (toString firstSeq).toList, 'n' :: (toString size).toList,
          "failFast".toList] := by
      simp [allGroup, toString]
    rw [text]
    apply List.splitOn_intercalate
    · simp [colon_notMem]
    · simp

theorem stepFanGroup_pieces (firstSeq size : Nat) (mode : FanMode) :
    (stepFanGroup firstSeq size mode).toList.splitOn ':' =
      ["steps".toList, (toString firstSeq).toList, (toString size).toList] ++
        if mode = .failFast then ["failFast".toList] else [] := by
  cases mode with
  | waitAll =>
    have text : (stepFanGroup firstSeq size .waitAll).toList = [':'].intercalate
        ["steps".toList, (toString firstSeq).toList, (toString size).toList] := by
      simp [stepFanGroup, toString]
    rw [text]
    apply List.splitOn_intercalate
    · simp [colon_notMem]
    · simp
  | failFast =>
    have text : (stepFanGroup firstSeq size .failFast).toList = [':'].intercalate
        ["steps".toList, (toString firstSeq).toList, (toString size).toList,
          "failFast".toList] := by
      simp [stepFanGroup, toString]
    rw [text]
    apply List.splitOn_intercalate
    · simp [colon_notMem]
    · simp

theorem toDigits_ne_failFast (number : Nat) : Nat.toDigits 10 number ≠ "failFast".toList := by
  intro same
  have letter : 'f' ∈ Nat.toDigits 10 number := by
    rw [same]
    decide
  exact notMem_toDigits rfl number letter

/-- The size of a fan of steps is read back, with no mark before it. -/
@[simp]
theorem fanGroupSize_toDigits (number : Nat) :
    fanGroupSize (Nat.toDigits 10 number) = some number := by
  have read := digitsOf_toDigits number
  unfold fanGroupSize
  split
  · -- The mark of a size is not a digit.
    rename_i digits marked
    have letter : 'n' ∈ Nat.toDigits 10 number := by
      rw [marked]
      exact List.mem_cons_self
    exact absurd letter (notMem_toDigits rfl number)
  · exact read

/-- The size of a fan of children is read back behind its mark. -/
@[simp]
theorem fanGroupSize_marked (number : Nat) :
    fanGroupSize ('n' :: Nat.toDigits 10 number) = some number := digitsOf_toDigits number

theorem parseFanGroup_allGroup (firstSeq size : Nat) (mode : FanMode) :
    parseFanGroup (allGroup firstSeq size mode) =
      some { kind := .all, firstSeq, size := some size, failFast := mode = .failFast } := by
  unfold parseFanGroup fanGroupParts
  rw [allGroup_pieces]
  cases mode <;> simp [fanGroupKind]

theorem parseFanGroup_stepFanGroup (firstSeq size : Nat) (mode : FanMode) :
    parseFanGroup (stepFanGroup firstSeq size mode) =
      some { kind := .steps, firstSeq, size := some size, failFast := mode = .failFast } := by
  have unlike := toDigits_ne_failFast size
  unfold parseFanGroup fanGroupParts
  rw [stepFanGroup_pieces]
  cases mode <;> simp_all [fanGroupKind]

theorem parseStepFanGroup_stepFanGroup (firstSeq size : Nat) (mode : FanMode) :
    parseStepFanGroup (stepFanGroup firstSeq size mode) = some (firstSeq, size) := by
  -- A number begins with no mark.
  have unmarked : (Nat.toDigits 10 size).head? ≠ some 'n' := by
    intro marked
    exact notMem_toDigits rfl size (List.mem_of_mem_head? marked)
  unfold parseStepFanGroup
  rw [stepFanGroup_pieces]
  cases mode <;> simp [unmarked]

theorem parseStepFanGroup_allGroup (firstSeq size : Nat) (mode : FanMode) :
    parseStepFanGroup (allGroup firstSeq size mode) = none := by
  unfold parseStepFanGroup
  rw [allGroup_pieces]
  cases mode <;> simp

end Groups

section Slots

/-- Where a run records the outcome of a fan's child: a signal at the child's position, and the fold
of its fan or wave. -/
def ChildFan.slot (fan : ChildFan) (wave : Option Nat) (index : Nat) : ChildSlot where
  signal := childName (allChildId fan.runId fan.firstSeq index wave)
  signalSeq := some (fan.firstSeq + index)
  fan := some {
    fold := fan.allFoldedName wave, firstSeq := fan.firstSeq, index, wave
    waveZeroFold := if wave.isSome then fan.allFoldedName (some 0) else "" }

theorem slotOf_all (fan : ChildFan) (line : isOneLine fan.runId = true) (wave : Option Nat)
    (index : Nat) :
    slotOf (allChildId fan.runId fan.firstSeq index wave) = fan.slot wave index := by
  unfold slotOf
  cases wave with
  | none =>
    rw [fanChildParts_unbounded line]
    rfl
  | some wave =>
    rw [fanChildParts_wave line]
    have fold : "fan:" ++ (fan.runId ++ ".all." ++ toString fan.firstSeq ++ ".") ++ "w" ++
        toString wave ++ "." = fan.allFoldedName (some wave) := by
      apply String.toList_inj.mp
      simp [ChildFan.allFoldedName, ChildFan.allBase, foldedPrefix, toString]
    have zero : "fan:" ++ (fan.runId ++ ".all." ++ toString fan.firstSeq ++ ".") ++ "w0." =
        fan.allFoldedName (some 0) := by
      apply String.toList_inj.mp
      simp [ChildFan.allFoldedName, ChildFan.allBase, foldedPrefix, toString]
    dsimp only
    rw [fold, zero]
    rfl

theorem slotOf_child (host : CtxHost) (seq : Nat) :
    let row := (host.childWait (host.childIdAt none seq) seq none).checkpoint
    slotOf (host.childIdAt none seq) = { signal := row.name, signalSeq := some row.seq } := by
  have spelled : host.childIdAt none seq =
      host.runId ++ "." ++ "child" ++ "." ++ toString seq := by
    simp [CtxHost.childIdAt, String.append_assoc, toString]
  intro row
  unfold slotOf
  rw [spelled, fanChildParts_lone "child" seq ⟨'d', _, rfl, rfl⟩, endWord_append, ← spelled]
  rfl

theorem slotOf_onError (runId : String) (attempt : Nat) :
    slotOf (onErrorRunId runId attempt) = { signal := childName (onErrorRunId runId attempt) } := by
  have spelled : onErrorRunId runId attempt =
      runId ++ "." ++ "onError" ++ "." ++ toString attempt := by
    simp [onErrorRunId, String.append_assoc, toString]
  unfold slotOf
  rw [spelled, fanChildParts_lone "onError" attempt ⟨'r', _, rfl, rfl⟩, endWord_onError]
  rfl

theorem slot_placeholder (fan : ChildFan) (index : Nat) :
    (fan.slot (fan.waveOf index) index).signal = (fan.placeholder index).name ∧
      (fan.slot (fan.waveOf index) index).signalSeq = some (fan.placeholder index).seq :=
  ⟨rfl, rfl⟩

theorem slot_foldRow (fan : ChildFan) {index wave : Nat} (item : index ∈ fan.waveItems wave)
    (first : Nat) (values : List Value) :
    (fan.slot (fan.waveOf index) index).fan.map ChildFold.fold =
      some (fan.foldRow wave first values).name := by
  have same : fan.waveOf index = fan.waves.map fun _ => wave := by
    unfold ChildFan.waveOf
    cases bound : fan.waves with
    | none => rfl
    | some waves =>
      simp only [ChildFan.waveItems, bound, List.mem_filter, beq_iff_eq] at item
      simp [item.2]
  rw [same]
  rfl

end Slots

section Waiters

theorem waiterGroup_allGroup (firstSeq size : Nat) (mode : FanMode) :
    waiterGroup (allGroup firstSeq size mode) =
      some ⟨(toString firstSeq).toList, mode = .failFast⟩ := by
  have unlike : 'n' :: Nat.toDigits 10 size ≠ "failFast".toList := by
    intro same
    have heads := congrArg List.head? same
    simp at heads
  unfold waiterGroup
  rw [allGroup_pieces]
  cases mode <;> simp_all [isFigures, isMarkedSize]

theorem childWait_waiter (fan : ChildFan) (host : CtxHost) (own : host.runId = fan.runId)
    (index : Nat) :
    (host.childWait (fan.id index) (fan.firstSeq + index)
      (some (allGroup fan.firstSeq fan.size fan.mode))).waiter =
        fan.waiter (fan.waveOf index) index := by
  unfold CtxHost.childWait
  rw [own]
  rfl

theorem dot_notMem (number : Nat) : '.' ∉ Nat.toDigits 10 number := notMem_toDigits rfl number

theorem waveOpening_index (index : Nat) : waveOpening (toString index).toList = some [] := by
  have pieces : (toString index).toList.splitOn '.' = [(toString index).toList] := by
    have joined : (['.'].intercalate [(toString index).toList]).splitOn '.' =
        [(toString index).toList] := by
      apply List.splitOn_intercalate
      · simp [dot_notMem]
      · simp
    simpa using joined
  unfold waveOpening
  rw [pieces]
  simp [isFigures]

theorem waveOpening_wave (wave index : Nat) :
    waveOpening ('w' :: (toString wave).toList ++ '.' :: (toString index).toList) =
      some ('w' :: (toString wave).toList ++ ['.']) := by
  have pieces : ('w' :: (toString wave).toList ++ '.' :: (toString index).toList).splitOn '.' =
      ['w' :: (toString wave).toList, (toString index).toList] := by
    have joined : (['.'].intercalate
        ['w' :: (toString wave).toList, (toString index).toList]).splitOn '.' =
          ['w' :: (toString wave).toList, (toString index).toList] := by
      apply List.splitOn_intercalate
      · simp [dot_notMem]
      · simp
    simpa using joined
  unfold waveOpening
  rw [pieces]
  simp [isFigures]

theorem nameBehind_append (opening rest : String) :
    nameBehind opening (opening ++ rest) = rest := by
  unfold nameBehind
  rw [String.toList_append, ← String.length_toList, List.drop_left, String.ofList_toList]

theorem nameStartsWith_iff (opening name : String) :
    nameStartsWith opening name = true ↔ ∃ rest, name = opening ++ rest := by
  unfold nameStartsWith
  rw [List.isPrefixOf_iff_prefix]
  constructor
  · intro ⟨rest, spelled⟩
    refine ⟨String.ofList rest, String.toList_inj.mp ?_⟩
    rw [String.toList_append, String.toList_ofList, spelled]
  · intro ⟨rest, spelled⟩
    rw [spelled, String.toList_append]
    exact List.prefix_append opening.toList rest.toList

theorem allChildId_eq (fan : ChildFan) (wave : Option Nat) (index : Nat) :
    allChildId fan.runId fan.firstSeq index wave = fan.allBase wave ++ toString index := by
  cases wave <;> rfl

theorem fanOfWaiter_eq {waiter : SignalWaiter} {group : WaiterGroup} {rest : String}
    {opening : List Char} (grouped : waiter.parallelGroup.bind waiterGroup = some group)
    (token : waiter.token.text =
      s!"child:{waiter.runId}.all.{String.ofList group.firstSeq}." ++ rest)
    (read : waveOpening rest.toList = some opening) :
    fanOfWaiter waiter = some {
      waiterPrefix := s!"child:{waiter.runId}.all.{String.ofList group.firstSeq}." ++
        String.ofList opening
      failFast := group.failFast } := by
  obtain ⟨text, stored, grouped⟩ := Option.bind_eq_some_iff.mp grouped
  have begins := (nameStartsWith_iff _ _).mpr ⟨rest, token⟩
  unfold fanOfWaiter
  rw [stored, Option.bind_eq_bind, Option.bind_some, Option.bind_eq_bind, grouped, Option.bind_some]
  dsimp only
  rw [if_pos begins, token, nameBehind_append, read]
  rfl

theorem fanOfWaiter_waiter (fan : ChildFan) (wave : Option Nat) (index : Nat) :
    fanOfWaiter (fan.waiter wave index) =
      some { waiterPrefix := (fan.allWait wave).waiterPrefix
             failFast := fan.mode = .failFast } := by
  have grouped : (fan.waiter wave index).parallelGroup.bind waiterGroup =
      some ⟨(toString fan.firstSeq).toList, fan.mode = .failFast⟩ :=
    waiterGroup_allGroup fan.firstSeq fan.size fan.mode
  cases wave with
  | none =>
    have token : (fan.waiter none index).token.text =
        s!"child:{fan.runId}.all.{String.ofList (toString fan.firstSeq).toList}." ++
          toString index := by
      apply String.toList_inj.mp
      simp [ChildFan.waiter, childToken, Token.text, allChildId, toString]
    have whole : s!"child:{fan.runId}.all.{String.ofList (toString fan.firstSeq).toList}." ++
        String.ofList [] = (fan.allWait none).waiterPrefix := by
      apply String.toList_inj.mp
      simp [ChildFan.allWait, ChildFan.allBase, toString]
    rw [fanOfWaiter_eq grouped token (waveOpening_index index), ← whole]
    rfl
  | some wave =>
    have token : (fan.waiter (some wave) index).token.text =
        s!"child:{fan.runId}.all.{String.ofList (toString fan.firstSeq).toList}." ++
          String.ofList ('w' :: (toString wave).toList ++ '.' :: (toString index).toList) := by
      apply String.toList_inj.mp
      simp [ChildFan.waiter, childToken, Token.text, allChildId, toString]
    have read := waveOpening_wave wave index
    rw [← String.toList_ofList (l := _ ++ _)] at read
    have whole : s!"child:{fan.runId}.all.{String.ofList (toString fan.firstSeq).toList}." ++
        String.ofList ('w' :: (toString wave).toList ++ ['.']) =
          (fan.allWait (some wave)).waiterPrefix := by
      apply String.toList_inj.mp
      simp [ChildFan.allWait, ChildFan.allBase, toString]
    rw [fanOfWaiter_eq grouped token read, ← whole]
    rfl

end Waiters

section Openings

/-- The last part of a fan's opening: its position, or its wave with a mark. -/
def lastPart (firstSeq : Nat) : Option Nat → List Char
  | none => Nat.toDigits 10 firstSeq
  | some wave => 'w' :: Nat.toDigits 10 wave

/-- What stands before the last part of a fan's opening and the dot there. -/
def firstParts (runId : String) (firstSeq : Nat) : Option Nat → List Char
  | none => runId.toList ++ '.' :: "all".toList
  | some _ => runId.toList ++ '.' :: "all".toList ++ '.' :: Nat.toDigits 10 firstSeq

theorem allBase_toList (fan : ChildFan) (wave : Option Nat) :
    (fan.allBase wave).toList =
      firstParts fan.runId fan.firstSeq wave ++ '.' :: lastPart fan.firstSeq wave ++ ['.'] := by
  cases wave <;> simp [ChildFan.allBase, firstParts, lastPart, toString]

theorem dot_notMem_lastPart (firstSeq : Nat) (wave : Option Nat) :
    '.' ∉ lastPart firstSeq wave := by
  cases wave <;> simp [lastPart, dot_notMem]

/-- The word of a minted id, and what stands behind it and a dot. -/
def originParts : ChildOrigin → List Char × List Char
  | .all firstSeq none index =>
    ("all".toList, Nat.toDigits 10 firstSeq ++ '.' :: Nat.toDigits 10 index)
  | .all firstSeq (some wave) index =>
    ("all".toList, Nat.toDigits 10 firstSeq ++
      '.' :: ('w' :: Nat.toDigits 10 wave ++ '.' :: Nat.toDigits 10 index))
  | .child seq => ("child".toList, Nat.toDigits 10 seq)
  | .onError attempt => ("onError".toList, Nat.toDigits 10 attempt)

theorem mintedId_toList (runId : String) (origin : ChildOrigin) :
    (mintedId runId origin).toList =
      runId.toList ++ '.' :: (originParts origin).1 ++ '.' :: (originParts origin).2 := by
  cases origin with
  | all firstSeq wave index =>
    cases wave <;> simp [mintedId, allChildId, originParts, toString]
  | child seq => simp [mintedId, originParts, toString]
  | onError attempt => simp [mintedId, onErrorRunId, originParts, toString]

theorem toDigits_ne_mark (number : Nat) (rest : List Char) :
    Nat.toDigits 10 number ≠ 'w' :: rest := by
  intro same
  have letter : 'w' ∈ Nat.toDigits 10 number := by
    rw [same]
    exact List.mem_cons_self
  exact notMem_toDigits rfl number letter

theorem opening_inj {runId runId' : String} {firstSeq firstSeq' : Nat} {wave wave' : Option Nat}
    (same : firstParts runId firstSeq wave ++ '.' :: lastPart firstSeq wave =
      firstParts runId' firstSeq' wave' ++ '.' :: lastPart firstSeq' wave') :
    runId = runId' ∧ firstSeq = firstSeq' ∧ wave = wave' := by
  obtain ⟨firsts, lasts⟩ := Joined.append_mark_inj_of_back (dot_notMem_lastPart firstSeq wave)
    (dot_notMem_lastPart firstSeq' wave') same
  cases wave with
  | none =>
    cases wave' with
    | none =>
      have runs := (Joined.append_mark_inj_of_back (by decide) (by decide) firsts).1
      exact ⟨String.toList_inj.mp runs, toDigits_inj lasts, rfl⟩
    | some wave' => exact absurd lasts (toDigits_ne_mark _ _)
  | some wave =>
    cases wave' with
    | none => exact absurd lasts.symm (toDigits_ne_mark _ _)
    | some wave' =>
      obtain ⟨firsts, positions⟩ := Joined.append_mark_inj_of_back (dot_notMem firstSeq)
        (dot_notMem firstSeq') firsts
      have runs := (Joined.append_mark_inj_of_back (by decide) (by decide) firsts).1
      exact ⟨String.toList_inj.mp runs, toDigits_inj positions,
        congrArg some (toDigits_inj (List.cons.inj lasts).2)⟩

theorem lastPart_ne_word (firstSeq : Nat) (wave : Option Nat) (origin : ChildOrigin) :
    lastPart firstSeq wave ≠ (originParts origin).1 := by
  have word : ∃ first ∈ (originParts origin).1.head?, first.isDigit = false ∧ first ≠ 'w' := by
    cases origin with
    | all position sent index =>
      cases sent <;> exact ⟨'a', rfl, rfl, by decide⟩
    | child seq => exact ⟨'c', rfl, rfl, by decide⟩
    | onError attempt => exact ⟨'o', rfl, rfl, by decide⟩
  obtain ⟨first, heads, letter, unmarked⟩ := word
  intro same
  rw [← same] at heads
  cases wave with
  | none => exact notMem_toDigits letter firstSeq (List.mem_of_mem_head? heads)
  | some wave => exact unmarked (Option.some.inj heads).symm

theorem word_undotted (origin : ChildOrigin) : '.' ∉ (originParts origin).1 := by
  cases origin with
  | all firstSeq sent index => cases sent <;> simp [originParts]
  | child seq => simp [originParts]
  | onError attempt => simp [originParts]

def IsOfFan (fan : ChildFan) (wave : Option Nat) (runId : String) (origin : ChildOrigin) : Prop :=
  runId = fan.runId ∧ ∃ sent index, origin = .all fan.firstSeq sent index ∧
    (wave = none ∨ sent = wave)

/-- What stands behind the word of a minted id, where an opening ends there. -/
theorem isOfFan_of_tail {fan : ChildFan} {wave : Option Nat} {runId : String}
    {origin : ChildOrigin} {between rest : List Char}
    (opening : firstParts fan.runId fan.firstSeq wave ++ '.' :: lastPart fan.firstSeq wave =
      runId.toList ++ '.' :: ((originParts origin).1 ++ '.' :: between))
    (tail : (originParts origin).2 = between ++ '.' :: rest) : IsOfFan fan wave runId origin := by
  -- A number alone has no dot.
  have undotted : ∀ (number : Nat) (front : List Char),
      Nat.toDigits 10 number ≠ front ++ '.' :: rest := by
    intro number front same
    have dot : '.' ∈ Nat.toDigits 10 number := by simp [same]
    exact dot_notMem number dot
  cases origin with
  | child seq => exact absurd tail (undotted seq between)
  | onError attempt => exact absurd tail (undotted attempt between)
  | all firstSeq sent index =>
    cases sent with
    | none =>
      rcases Joined.append_mark_cases_of_front (dot_notMem firstSeq) tail.symm with
        ⟨position, -⟩ | ⟨later, -, index'⟩
      · -- The opening ends behind the position: it is the whole fan's.
        rw [position] at opening
        obtain ⟨runs, positions, waves⟩ :=
          opening_inj (opening.trans (show _ = firstParts runId firstSeq none ++
            '.' :: lastPart firstSeq none by simp [firstParts, lastPart, originParts]))
        exact ⟨runs.symm, none, index, by rw [positions], .inl waves⟩
      · exact absurd index' (undotted index later)
    | some sent =>
      rcases Joined.append_mark_cases_of_front (dot_notMem firstSeq) tail.symm with
        ⟨position, -⟩ | ⟨later, longer, index'⟩
      · rw [position] at opening
        obtain ⟨runs, positions, waves⟩ :=
          opening_inj (opening.trans (show _ = firstParts runId firstSeq none ++
            '.' :: lastPart firstSeq none by simp [firstParts, lastPart, originParts]))
        exact ⟨runs.symm, some sent, index, by rw [positions], .inl waves⟩
      · have marked : '.' ∉ 'w' :: Nat.toDigits 10 sent := dot_notMem_lastPart 0 (some sent)
        rcases Joined.append_mark_cases_of_front marked index'.symm with
          ⟨waves, -⟩ | ⟨last, -, index'⟩
        · -- The opening ends behind the wave: it is that wave's.
          rw [longer, waves] at opening
          obtain ⟨runs, positions, waves⟩ :=
            opening_inj (opening.trans (show _ = firstParts runId firstSeq (some sent) ++
              '.' :: lastPart firstSeq (some sent) by simp [firstParts, lastPart, originParts]))
          exact ⟨runs.symm, some sent, index, by rw [positions], .inr waves.symm⟩
        · exact absurd index' (undotted index last)

/-- The token of a minted child begins with a fan's opening just when the child is of the fan, and
of the wave, or when its run's own id begins like that. -/
theorem minted_startsWith_iff (fan : ChildFan) (wave : Option Nat) (runId : String)
    (origin : ChildOrigin) :
    nameStartsWith (fan.allWait wave).waiterPrefix (childToken (mintedId runId origin)).text =
        true ↔
      IsOfFan fan wave runId origin ∨ ∃ inner, runId ++ "." = fan.allBase wave ++ inner := by
  have text : (childToken (mintedId runId origin)).text = "child:" ++ mintedId runId origin := rfl
  have opening : (fan.allWait wave).waiterPrefix = "child:" ++ fan.allBase wave := rfl
  rw [nameStartsWith_iff, text, opening]
  constructor
  · intro ⟨rest, same⟩
    rw [String.append_assoc, String.append_right_inj] at same
    have lists : (firstParts fan.runId fan.firstSeq wave ++ '.' :: lastPart fan.firstSeq wave) ++
        '.' :: rest.toList =
          runId.toList ++ '.' :: ((originParts origin).1 ++ '.' :: (originParts origin).2) := by
      have parts := congrArg String.toList same
      rw [String.toList_append, mintedId_toList, allBase_toList] at parts
      simpa using parts.symm
    rcases Joined.append_mark_eq_iff.mp lists with
      ⟨own, -⟩ | ⟨between, longer, behind⟩ | ⟨between, longer, -⟩
    · -- The run's id is the opening without its last dot.
      refine .inr ⟨"", String.toList_inj.mp ?_⟩
      simp [allBase_toList, ← own]
    · rcases Joined.append_mark_cases_of_front (word_undotted origin) behind.symm with
        ⟨word, -⟩ | ⟨later, inside, tail⟩
      · -- An opening does not end in a word.
        rw [word] at longer
        have lasts := (Joined.append_mark_inj_of_back (dot_notMem_lastPart fan.firstSeq wave)
          (word_undotted origin) longer).2
        exact absurd lasts (lastPart_ne_word fan.firstSeq wave origin)
      · rw [inside] at longer
        exact .inl (isOfFan_of_tail longer tail)
    · -- The run's id goes on behind the opening.
      refine .inr ⟨String.ofList (between ++ ['.']), String.toList_inj.mp ?_⟩
      simp [allBase_toList, longer]
  · intro held
    rcases held with ⟨run, sent, index, kind, waves⟩ | ⟨inner, begins⟩
    · rw [run, kind]
      rcases waves with whole | one
      · cases sent with
        | none => exact ⟨toString index, by rw [whole]; rfl⟩
        | some sent =>
          refine ⟨"w" ++ toString sent ++ "." ++ toString index, String.toList_inj.mp ?_⟩
          simp [whole, mintedId, allChildId, ChildFan.allBase, toString]
      · refine ⟨toString index, ?_⟩
        rw [one, String.append_assoc, ← allChildId_eq]
        rfl
    · refine ⟨inner ++ String.ofList ((originParts origin).1 ++ '.' :: (originParts origin).2),
        String.toList_inj.mp ?_⟩
      have lists := congrArg String.toList begins
      rw [String.toList_append, String.toList_append] at lists
      have parts : runId.toList ++ '.' :: (originParts origin).1 ++ '.' :: (originParts origin).2 =
          (runId.toList ++ ".".toList) ++ ((originParts origin).1 ++
            '.' :: (originParts origin).2) := by
        simp
      rw [String.toList_append, mintedId_toList, parts, lists]
      simp

theorem run_apart (fan : ChildFan) (wave : Option Nat) :
    ¬∃ inner, fan.runId ++ "." = fan.allBase wave ++ inner := by
  intro ⟨inner, begins⟩
  have lengths := congrArg (fun text : String => text.toList.length) begins
  simp only [String.toList_append, allBase_toList, List.length_append, List.length_cons] at lengths
  have dot : ".".toList.length = 1 := by decide
  cases wave with
  | none =>
    simp only [firstParts, List.length_append, List.length_cons] at lengths
    omega
  | some wave =>
    simp only [firstParts, List.length_append, List.length_cons] at lengths
    omega

/-- The barrier of a fan counts the waiters of its run for its own children, and for no others the
engine makes. -/
theorem isOneOf_iff (fan : ChildFan) (wave : Option Nat) {waiter : SignalWaiter}
    {origin : ChildOrigin} (token : waiter.token = childToken (mintedId waiter.runId origin)) :
    waiter.isOneOf fan.runId (fan.allWait wave).waiterPrefix = true ↔
      IsOfFan fan wave waiter.runId origin := by
  unfold SignalWaiter.isOneOf
  rw [Bool.and_eq_true, decide_eq_true_eq, token, minted_startsWith_iff]
  constructor
  · intro ⟨own, begins⟩
    rcases begins with ofFan | nested
    · exact ofFan
    · rw [own] at nested
      exact absurd nested (run_apart fan wave)
  · intro ofFan
    exact ⟨ofFan.1, .inl ofFan⟩

/-- A fan waits on just while its run has a waiter of it, or of the wave, unless it fails fast and a
child has failed. -/
theorem fanStillWaiting_waiter (waiters : List SignalWaiter) (fan : ChildFan) (wave : Option Nat)
    (index : Nat) (payload : Option Value) :
    fanStillWaiting waiters (fan.waiter wave index) payload = true ↔
      ¬(fan.mode = .failFast ∧ isFailedCompletion payload = true) ∧
        ∃ waiter ∈ waiters, waiter.isOneOf fan.runId (fan.allWait wave).waiterPrefix = true := by
  unfold fanStillWaiting
  rw [fanOfWaiter_waiter]
  dsimp only
  split
  · simp_all
  · simp_all [hasSignalWaiter, ChildFan.waiter]

end Openings

/-- The ids of a run's children are read back: their run, and where a fan's child is recorded. -/
structure IdsRead (runId : String) : Prop where
  parent : ∀ origin, parentRunIdOf (mintedId runId origin) = some runId
  slot : ∀ fan : ChildFan, fan.runId = runId → ∀ wave index,
    slotOf (allChildId runId fan.firstSeq index wave) = fan.slot wave index

/-- The slots name the checkpoints that `ctx.all` and `ctx.child` record outcomes in; a handler's
id names no position. -/
structure SlotsNamed : Prop where
  placeholder : ∀ (fan : ChildFan) index,
    (fan.slot (fan.waveOf index) index).signal = (fan.placeholder index).name ∧
      (fan.slot (fan.waveOf index) index).signalSeq = some (fan.placeholder index).seq
  fold : ∀ (fan : ChildFan) index wave, index ∈ fan.waveItems wave → ∀ first values,
    (fan.slot (fan.waveOf index) index).fan.map ChildFold.fold =
      some (fan.foldRow wave first values).name
  child : ∀ (host : CtxHost) seq,
    let row := (host.childWait (host.childIdAt none seq) seq none).checkpoint
    slotOf (host.childIdAt none seq) = { signal := row.name, signalSeq := some row.seq }
  onError : ∀ runId attempt,
    slotOf (onErrorRunId runId attempt) = { signal := childName (onErrorRunId runId attempt) }

/-- The groups of fans are read back. -/
structure GroupsRead (firstSeq size : Nat) (mode : FanMode) : Prop where
  all : parseFanGroup (allGroup firstSeq size mode) =
    some { kind := .all, firstSeq, size := some size, failFast := mode = .failFast }
  steps : parseFanGroup (stepFanGroup firstSeq size mode) =
    some { kind := .steps, firstSeq, size := some size, failFast := mode = .failFast }
  block : parseStepFanGroup (stepFanGroup firstSeq size mode) = some (firstSeq, size)
  noBlock : parseStepFanGroup (allGroup firstSeq size mode) = none

/-- The waiters of a fan, or of one wave of it, are read back, and are those its barrier counts. -/
structure WaitersRead (fan : ChildFan) (wave : Option Nat) : Prop where
  registered : ∀ host : CtxHost, host.runId = fan.runId → ∀ index,
    (host.childWait (fan.id index) (fan.firstSeq + index)
      (some (allGroup fan.firstSeq fan.size fan.mode))).waiter =
        fan.waiter (fan.waveOf index) index
  belongs : ∀ index, fanOfWaiter (fan.waiter wave index) =
    some { waiterPrefix := (fan.allWait wave).waiterPrefix, failFast := fan.mode = .failFast }
  begins : ∀ runId origin,
    nameStartsWith (fan.allWait wave).waiterPrefix (childToken (mintedId runId origin)).text =
        true ↔
      IsOfFan fan wave runId origin ∨ ∃ inner, runId ++ "." = fan.allBase wave ++ inner
  counted : ∀ (waiter : SignalWaiter) origin,
    waiter.token = childToken (mintedId waiter.runId origin) →
      (waiter.isOneOf fan.runId (fan.allWait wave).waiterPrefix = true ↔
        IsOfFan fan wave waiter.runId origin)

/-- The ids of children and the groups and waiters of fans are read back as what they were made
from, and a barrier counts the waiters of its own fan, or wave, and of no other. -/
theorem fan_ids_read_back :
    (∀ runId, isOneLine runId = true → IdsRead runId) ∧ SlotsNamed ∧
      (∀ firstSeq size mode, GroupsRead firstSeq size mode) ∧
      ∀ fan wave, WaitersRead fan wave := by
  refine ⟨fun runId line => ?_, ?_, fun firstSeq size mode => ?_, fun fan wave => ?_⟩
  · exact ⟨parentRunIdOf_minted line, fun fan own wave index => by
      subst own
      exact slotOf_all fan line wave index⟩
  · exact ⟨slot_placeholder, fun fan _ _ item => slot_foldRow fan item, slotOf_child,
      slotOf_onError⟩
  · exact ⟨parseFanGroup_allGroup firstSeq size mode, parseFanGroup_stepFanGroup firstSeq size mode,
      parseStepFanGroup_stepFanGroup firstSeq size mode,
      parseStepFanGroup_allGroup firstSeq size mode⟩
  · exact ⟨childWait_waiter fan, fanOfWaiter_waiter fan wave, minted_startsWith_iff fan wave,
      fun _ _ token => isOneOf_iff fan wave token⟩

/-- The ids of the children of a child of a fan are read back. -/
theorem nested_ids_read_back : IdsRead "order-7.all.3.w0.1" :=
  fan_ids_read_back.1 "order-7.all.3.w0.1" (by decide)

/-- The token of a fan inside a child begins like those of the fan the child is of. -/
theorem nested_token_begins_alike :
    ¬∀ (fan : ChildFan) (wave : Option Nat) (runId : String) (origin : ChildOrigin),
      nameStartsWith (fan.allWait wave).waiterPrefix (childToken (mintedId runId origin)).text =
        true → runId = fan.runId := by
  intro claimed
  have same := claimed { runId := "order-7", firstSeq := 3, size := 6, mode := .waitAll } none
    "order-7.all.3.5" (.all 0 none 0) (by decide)
  exact absurd same (by decide)

end Durable
