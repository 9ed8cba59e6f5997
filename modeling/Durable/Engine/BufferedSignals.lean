import Durable.Ctx.FanFolds
import Durable.Data.Ids
import Durable.Store.Store

/-! Buffered child completions: which of them a parent may still take, and the sweep of the rest. -/

namespace Durable

open Interleaving

mutual

/-- A value with the fields of its objects sorted by key. -/
def Value.sorted : Value → Value
  | .arr items => .arr (sortedItems items)
  | .obj fields => .obj ((sortedFields fields).mergeSort fun left right => left.1 ≤ right.1)
  | value => value

/-- The items of an array, each with the fields of its objects sorted. -/
def sortedItems : List Value → List Value
  | [] => []
  | item :: rest => item.sorted :: sortedItems rest

/-- The fields of an object, each value with the fields of its objects sorted. -/
def sortedFields : List (String × Value) → List (String × Value)
  | [] => []
  | (key, value) :: rest => (key, value.sorted) :: sortedFields rest

end

/-- The serialization of a payload with its object keys sorted. -/
def canonicalJson (payload : Payload) : String :=
  ((payload.getD .null).sorted).stringify

section Ids

/-- A number at the end of a text, of which the characters are given backwards: its digits, its
value, and what precedes it. -/
def endNumber (backwards : List Char) : Option (String × Nat × List Char) :=
  let digits := (backwards.takeWhile Char.isDigit).reverse
  (digitsOf digits).map fun number =>
    (String.ofList digits, number, backwards.dropWhile Char.isDigit)

/-- What precedes a text at the end of another, of which the characters are given backwards. -/
def endText (text : String) (backwards : List Char) : Option (List Char) :=
  if text.toList.reverse.isPrefixOf backwards then some (backwards.drop text.toList.length)
  else none

/-- What the dot of a pattern does not match. -/
def isLineTerminator (char : Char) : Bool :=
  char = '\n' ∨ char = '\r' ∨ char.toNat = 0x2028 ∨ char.toNat = 0x2029

/-- A nonempty text without line terminators, of which the characters are given backwards. -/
def dotPlus (backwards : List Char) : Option String :=
  if backwards.isEmpty ∨ backwards.any isLineTerminator then none
  else some (String.ofList backwards.reverse)

/-- The parts of a fan child's id. -/
structure FanChildParts where
  parent : String
  root : String
  firstSeq : Nat
  wave : Option (String × Nat)
  index : Nat
deriving Repr, DecidableEq

/-- The fan at the end of a text, of which the characters are given backwards: the run, the text
with a dot behind it, and the fan's position. -/
def endFan (backwards : List Char) : Option (String × String × Nat) := do
  let (_, firstSeq, before) ← endNumber backwards
  let parent ← dotPlus (← endText ".all." before)
  return (parent, String.ofList ('.' :: backwards).reverse, firstSeq)

/-- The parts of an id of the form `<parent>.all.<first>.<i>` or `<parent>.all.<first>.w<k>.<i>`. -/
def fanChildParts (id : String) : Option FanChildParts := do
  let (_, index, beforeIndex) ← endNumber id.toList.reverse
  let rest ← endText "." beforeIndex
  match endFan rest with
  | some (parent, root, firstSeq) => return { parent, root, firstSeq, wave := none, index }
  | none =>
    let (digits, wave, beforeWave) ← endNumber rest
    let (parent, root, firstSeq) ← endFan (← endText ".w" beforeWave)
    return { parent, root, firstSeq, wave := some (digits, wave), index }

/-- What precedes `.<word>.<n>` at the end of an id, backwards, and the number. -/
def endWord (word id : String) : Option (List Char × Nat) := do
  let (_, number, before) ← endNumber id.toList.reverse
  return (← endText ("." ++ word ++ ".") before, number)

/-- The parent of a run whose id the engine minted for a child, and of no other run. -/
def parentRunIdOf (runId : String) : Option String :=
  match fanChildParts runId with
  | some parts => some parts.parent
  | none =>
    match (endWord "child" runId).bind fun found => dotPlus found.1 with
    | some parent => some parent
    | none => (endWord "onError" runId).bind fun found => dotPlus found.1

end Ids

/-- The fold a fan child's outcome is recorded in. -/
structure ChildFold where
  fold : String
  firstSeq : Nat
  index : Nat
  wave : Option Nat := none
  waveZeroFold : String := ""
deriving Repr, DecidableEq

/-- Where a parent records the outcome of a child. -/
structure ChildSlot where
  signal : String
  signalSeq : Option Nat := none
  fan : Option ChildFold := none
deriving Repr, DecidableEq

/-- The slot that a child's id says its outcome is recorded in. -/
def slotOf (childId : String) : ChildSlot :=
  let signal := "signal:child:" ++ childId
  match fanChildParts childId with
  | some parts =>
    let signalSeq := some (parts.firstSeq + parts.index)
    match parts.wave with
    | none =>
      { signal, signalSeq
        fan := some { fold := "fan:" ++ parts.root, firstSeq := parts.firstSeq
                      index := parts.index } }
    | some (digits, wave) =>
      { signal, signalSeq
        fan := some { fold := "fan:" ++ parts.root ++ "w" ++ digits ++ "."
                      firstSeq := parts.firstSeq, index := parts.index, wave := some wave
                      waveZeroFold := "fan:" ++ parts.root ++ "w0." } }
  | none => { signal, signalSeq := (endWord "child" childId).map Prod.snd }

/-- The children of a checkpoint that is the completed fold of a name. -/
def foldOf (checkpoint : Option StepCheckpoint) (name : String) : Option FoldedChildren := do
  let row ← checkpoint
  if row.status = .completed ∧ row.name = name then foldedChildren row.output else none

/-- Whether a fold stands for the child at an index. -/
def covers (fold : Option FoldedChildren) (index : Nat) : Bool :=
  fold.any fun folded => folded.first ≤ index ∧ index < folded.first + folded.values.length

/-- Whether a checkpoint is the completed signal checkpoint of a name with a completion. -/
def holdsSignal (row : StepCheckpoint) (signal expected : String) : Bool :=
  row.status = .completed ∧ row.name = signal ∧ canonicalJson row.output = expected

section Parents

variable (store : Store) (parentId : String)

/-- The checkpoints of a run at some positions. -/
def checkpointsAt (seqs : List Nat) (seq : Nat) : Option StepCheckpoint :=
  if seq ∈ seqs then store.checkpoints.get (parentId, seq) else none

/-- The checkpoints of a run with one of some names. -/
def parentCheckpointsNamed (names : List String) : List StepCheckpoint :=
  (store.checkpointsOf parentId).filter (·.name ∈ names)

/-- What a first look at a parent's checkpoints says of a child. -/
inductive FirstLook where
  | held (settled : Bool)
  | waveFold (seq : Nat)
  | byName
deriving Repr, DecidableEq

/-- The positions of a first look for a child. -/
def ChildSlot.firstSeqs (slot : ChildSlot) : List Nat :=
  slot.signalSeq.toList ++ (slot.fan.map (·.firstSeq)).toList

/-- The first look for a child. -/
def ChildSlot.firstLook (slot : ChildSlot) (expected : String)
    (first : Nat → Option StepCheckpoint) : FirstLook :=
  let own := slot.signalSeq.bind first
  match own.filter (·.name = slot.signal) with
  | some row => .held (holdsSignal row slot.signal expected)
  | none =>
    match slot.fan with
    | some fan =>
      -- A fold sits at its first child's position, which may be the child's own.
      if covers (foldOf own fan.fold) fan.index then .held true
      else
        let atFirst := first fan.firstSeq
        match fan.wave with
        | none | some 0 => .held (covers (foldOf atFirst fan.fold) fan.index)
        | some wave =>
          match (foldOf atFirst fan.waveZeroFold).filter (0 < ·.values.length) with
          | some waveZero => .waveFold (fan.firstSeq + wave * waveZero.values.length)
          | none => .byName
    -- A `.child.<n>` id with another name at `n` is awaited elsewhere.
    | none => if slot.signalSeq.isSome ∧ own.isNone then .held false else .byName

/-- The position of a first look that leaves it to the fold of a later wave. -/
def FirstLook.waveSeq : FirstLook → Option Nat
  | .waveFold seq => some seq
  | _ => none

/-- The names to read for a child whose first look leaves it to them. -/
def ChildSlot.names (slot : ChildSlot) : List String :=
  slot.signal :: (slot.fan.map (·.fold)).toList

/-- Whether checkpoints read by name settle a child. -/
def ChildSlot.settledByName (slot : ChildSlot) (expected : String)
    (named : List StepCheckpoint) : Bool :=
  named.any fun row => holdsSignal row slot.signal expected ||
    slot.fan.any fun fan => covers (foldOf (some row) fan.fold) fan.index

/-- What a look at the checkpoints of later reads makes of a first look. -/
def ChildSlot.lastLook (slot : ChildSlot) (expected : String)
    (second : Nat → Option StepCheckpoint) (named : List StepCheckpoint) : FirstLook → Bool
  | .held settled => settled
  | .waveFold seq => slot.fan.any fun fan => covers (foldOf (second seq) fan.fold) fan.index
  | .byName => slot.settledByName expected named

/-- Which of some children, each with the completion it would deliver, a parent already settles. -/
def parentSettles (children : List (String × Payload)) : List Bool :=
  let entries := children.map fun child => (slotOf child.1, canonicalJson child.2)
  let first := checkpointsAt store parentId (entries.flatMap fun entry => entry.1.firstSeqs)
  let looks := entries.map fun entry => (entry, entry.1.firstLook entry.2 first)
  let second := checkpointsAt store parentId (looks.filterMap fun look => look.2.waveSeq)
  let names := (looks.filter (·.2 = .byName)).flatMap fun look => look.1.1.names
  let named := parentCheckpointsNamed store parentId names
  looks.map fun look => look.1.1.lastLook look.1.2 second named look.2

/-- A run is gone, or has ended for good: a retry can still be made of one that failed. -/
def parentClosed (run : Option WorkflowRun) : Bool :=
  run.all fun run => isTerminalStatus run.status ∧ run.status ≠ .failed ∧ run.status ≠ .dead

/-- Whether a child's completion that found no waiter must be buffered for its parent. -/
def childCompletionNeedsBuffer (childId : String) (completion : Payload) : Bool :=
  match parentRunIdOf childId with
  | none => false
  | some parentId =>
    if parentClosed (store.runs.get parentId) then false
    else !((parentSettles store parentId [(childId, completion)]).head?.getD false)

end Parents

/-- A buffered signal. -/
structure BufferedChildRow where
  id : Nat
  token : String
  payload : Payload
deriving DecidableEq

/-- The child whose completion a row holds. -/
def BufferedChildRow.childId (row : BufferedChildRow) : Option String :=
  if "child:".toList.isPrefixOf row.token.toList then
    some (String.ofList (row.token.toList.drop "child:".length))
  else none

/-- What the sweep of a page runs into: the reads that throw, and the clock. -/
structure SweepAnswers where
  unread : String → Bool := fun _ => false
  unreadCheckpoints : String → Bool := fun _ => false
  /-- Whether the deadline has passed at the check before the checkpoints of a parent are read. -/
  late : Nat → Bool := fun _ => false

/-- What is decided about a page of buffered signals. -/
structure BufferedSignalVerdict where
  doomed : List BufferedChildRow
  decided : Nat
deriving DecidableEq

/-- A row to check against its parent's checkpoints, with its place in the page. -/
structure OpenRow where
  place : Nat
  row : BufferedChildRow
  childId : String
deriving DecidableEq

section Sweep

variable (store : Store) (answers : SweepAnswers)

/-- What a row's parent's run row says of it. -/
inductive RunRowsLook where
  | kept
  | doomed
  | undecided (parentId childId : String)
deriving DecidableEq

/-- What the run rows say of a row. -/
def BufferedChildRow.runLook (row : BufferedChildRow) : RunRowsLook :=
  match row.childId with
  | none => .kept
  | some childId =>
    match parentRunIdOf childId with
    | none => .doomed
    | some parentId =>
      if answers.unread parentId then .kept
      else if parentClosed (store.runs.get parentId) then .doomed
      else .undecided parentId childId

/-- Put a row into its parent's group, the groups being in the order of their first rows. -/
def addOpen (parentId : String) (row : OpenRow) :
    List (String × List OpenRow) → List (String × List OpenRow)
  | [] => [(parentId, [row])]
  | (other, group) :: rest =>
    if other = parentId then (other, group ++ [row]) :: rest
    else (other, group) :: addOpen parentId row rest

/-- Put a row into a group, if its parent's checkpoints have to be read for it. -/
def addRow (groups : List (String × List OpenRow)) (entry : BufferedChildRow × Nat) :
    List (String × List OpenRow) :=
  match entry.1.runLook store answers with
  | .undecided parentId childId =>
    addOpen parentId { place := entry.2, row := entry.1, childId } groups
  | .kept | .doomed => groups

/-- The rows to check, by parent. -/
def openRows (rows : List BufferedChildRow) : List (String × List OpenRow) :=
  rows.zipIdx.foldl (addRow store answers) []

/-- The places of the rows of a group that their parent settles. -/
def doomedOf (parentId : String) (group : List OpenRow) : List Nat :=
  if answers.unreadCheckpoints parentId then []
  else
    ((group.zip (parentSettles store parentId
      (group.map fun each => (each.childId, each.row.payload)))).filter (·.2)).map (·.1.place)

/-- Check the groups one after the other until the deadline passes: the places of the rows that
their parents settle, and how many leading rows are decided. -/
def checkGroups (length : Nat) : Nat → List (String × List OpenRow) → List Nat × Nat
  | _, [] => ([], length)
  | checked, (parentId, group) :: rest =>
    -- The first group is always checked, so that every call makes progress.
    if 0 < checked ∧ answers.late checked then ([], (group.head?.map (·.place)).getD length)
    else
      let (doomed, decided) := checkGroups length (checked + 1) rest
      (doomedOf store answers parentId group ++ doomed, decided)

/-- The child completions of a page that no parent will ever consume. -/
def unneededChildSignals (rows : List BufferedChildRow) : BufferedSignalVerdict :=
  let (settled, decided) := checkGroups store answers rows.length 0 (openRows store answers rows)
  let doomed := (rows.zipIdx).filter fun (row, place) =>
    row.runLook store answers = .doomed ∨ place ∈ settled
  { doomed := doomed.map Prod.fst, decided }

end Sweep

/-- How many rows a page of the sweep has. -/
def bufferedSweepPage : Nat := 500

/-- How many pages a call of the sweep walks. -/
def bufferedSweepPagesPerCall : Nat := 4

/-- How long the sweep rests after a pass over every row. -/
def bufferedSweepRestMs : Nat := 10 * 60000

/-- What a call of the sweep runs into, page by page. -/
structure SweepCallAnswers where
  page : Nat → SweepAnswers := fun _ => {}
  /-- Whether the deadline has passed, or the engine drains, at the check before a later page. -/
  stops : Nat → Bool := fun _ => false

/-- The buffered signals, in the order of their ids, and where the sweep has come to. -/
structure BufferedSweep where
  rows : List BufferedChildRow
  cursor : Option Nat := none
  lastEndedAt : Option Nat := none

/-- A page of the buffered signals whose tokens name a child. -/
def listBufferedSignals (rows : List BufferedChildRow) (cursor : Option Nat) (limit : Nat) :
    List BufferedChildRow :=
  (rows.filter fun row => row.childId.isSome ∧ cursor.all (· < row.id)).take limit

/-- The buffered signals without those of some ids. -/
def deleteBufferedSignals (rows : List BufferedChildRow) (ids : List Nat) :
    List BufferedChildRow :=
  rows.filter (·.id ∉ ids)

/-- The pages of a call, one after the other. -/
def sweepPages (store : Store) (answers : SweepCallAnswers) (now : Nat) :
    Nat → Nat → BufferedSweep → BufferedSweep
  | 0, _, sweep => sweep
  | left + 1, page, sweep =>
    if 0 < page ∧ answers.stops page then sweep
    else
      let rows := listBufferedSignals sweep.rows sweep.cursor bufferedSweepPage
      let verdict := unneededChildSignals store (answers.page page) rows
      let swept :=
        { sweep with rows := deleteBufferedSignals sweep.rows (verdict.doomed.map (·.id)) }
      if verdict.decided < rows.length then
        -- Out of time within the page: the next call resumes after the last row decided.
        if 0 < verdict.decided then
          { swept with cursor := (rows[verdict.decided - 1]?).map (·.id) }
        else swept
      else match rows.getLast? with
        | none => { swept with cursor := none, lastEndedAt := some now }
        | some last =>
          if rows.length < bufferedSweepPage then
            { swept with cursor := none, lastEndedAt := some now }
          else sweepPages store answers now left (page + 1) { swept with cursor := some last.id }

/-- A call of the sweep. -/
def sweepBufferedSignals (store : Store) (answers : SweepCallAnswers) (now : Nat)
    (skipped : Bool) (sweep : BufferedSweep) : BufferedSweep :=
  -- A draining engine, one with a namespace, and one that is sweeping already do nothing.
  if skipped then sweep
  else if sweep.cursor.isNone ∧ sweep.lastEndedAt.any (now < · + bufferedSweepRestMs) then sweep
  else sweepPages store answers now bufferedSweepPagesPerCall 0 sweep

end Durable
