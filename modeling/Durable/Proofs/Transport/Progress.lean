import Mathlib.Data.Finset.Card
import Durable.Transport.Attempts

/-! An instance that is left alone hands over every result row, sooner or later. -/

namespace Durable

open Interleaving

variable {id : String}

theorem lapsedFor_now (now leaseMs : Nat) : lapsedFor now leaseMs (some now) = false :=
  decide_eq_false (by simp)

theorem ClaimQuery.claimed_closed (query : ClaimQuery) {P : Type} {row : ClaimRow P}
    (claimed : row.claimedAt = some query.now) : query.open_ row = false := by
  simp [open_, claimed, lapsedFor_now]

theorem mem_candidateIds (which : Option Nat → Bool) {rows : List ResultRow} :
    id ∈ ((rows.map fun row => (row.stepId, row.claimedAt)).filter (which ·.2)).map Prod.fst ↔
      ∃ row ∈ rows, which row.claimedAt = true ∧ row.stepId = id := by
  simp only [List.mem_map, List.mem_filter, Prod.exists]
  constructor
  · rintro ⟨step, claimedAt, ⟨⟨row, listed, same⟩, chosen⟩, rfl⟩
    cases same
    exact ⟨row, listed, chosen, rfl⟩
  · rintro ⟨row, listed, chosen, rfl⟩
    exact ⟨row.stepId, row.claimedAt, ⟨⟨row, listed, rfl⟩, chosen⟩, rfl⟩

section Stamp

variable {query : ClaimQuery} {rows : List ResultRow} {row : ResultRow} {token : ClaimToken}

abbrev freshIds (rows : List ResultRow) : List String :=
  ((rows.map fun row => (row.stepId, row.claimedAt)).filter (·.2.isNone)).map Prod.fst

abbrev lapsedIds (rows : List ResultRow) : List String :=
  ((rows.map fun row => (row.stepId, row.claimedAt)).filter (·.2.isSome)).map Prod.fst

/-- What the two statements of a claim make of a row. -/
def stamped (query : ClaimQuery) (rows : List ResultRow) (token : ClaimToken) (row : ResultRow) :
    ResultRow :=
  (row.claimedFresh query.namespaceValue (freshIds rows) token query.now).claimedLapsed query
    (lapsedIds rows) token query.now

theorem stamped_mem (open_ : query.open_ row = true) (listed : row ∈ rows) :
    stamped query rows token row = row.claimed token query.now := by
  obtain ⟨namespaceOwn, free⟩ := Bool.and_eq_true_iff.mp open_
  have space : row.namespaceValue = query.namespaceValue := beq_iff_eq.mp namespaceOwn
  unfold stamped
  cases claimedAt : row.claimedAt with
  | none =>
    have fresh : row.stepId ∈ freshIds rows :=
      (mem_candidateIds Option.isNone).mpr ⟨row, listed, by simp [claimedAt], rfl⟩
    rw [ClaimRow.claimedFresh, if_pos ⟨space, fresh, claimedAt⟩]
    -- The claim it has now is not an old one.
    exact if_neg (by simp [ClaimRow.lapsedIn, ClaimRow.claimed, lapsedFor_now])
  | some stampedAt =>
    have lapsed : row.stepId ∈ lapsedIds rows :=
      (mem_candidateIds Option.isSome).mpr ⟨row, listed, by simp [claimedAt], rfl⟩
    have kept : row.claimedFresh query.namespaceValue (freshIds rows) token query.now = row :=
      if_neg (by simp [claimedAt])
    rw [kept]
    refine if_pos ?_
    simp only [claimedAt, Option.isNone_some, Bool.false_or] at free
    simp [ClaimRow.lapsedIn, space, lapsed, claimedAt, free]

theorem stamped_not_mem (left : row ∉ rows)
    (own : ∀ other ∈ rows, other.stepId = row.stepId → other = row) :
    stamped query rows token row = row := by
  have unlisted : ∀ which : Option Nat → Bool, row.stepId ∉
      ((rows.map fun row => (row.stepId, row.claimedAt)).filter (which ·.2)).map Prod.fst := by
    intro which member
    obtain ⟨other, listed, -, same⟩ := (mem_candidateIds which).mp member
    exact left (own other listed same ▸ listed)
  have fresh : row.claimedFresh query.namespaceValue (freshIds rows) token query.now = row :=
    if_neg fun both => unlisted Option.isNone both.2.1
  unfold stamped
  rw [fresh]
  exact if_neg (by simp [ClaimRow.lapsedIn, unlisted Option.isSome])

theorem stamped_stepId : (stamped query rows token row).stepId = row.stepId := by
  unfold stamped ClaimRow.claimedFresh ClaimRow.claimedLapsed
  split <;> split <;> rfl

end Stamp

section Alone

variable (settings : DbTransport) (transport : Transport)

def DbTransport.queryNow (limit : Nat) : ClaimQuery :=
  { namespaceValue := settings.namespaceValue
    now := transport.clock + transport.skews settings.instanceId
    leaseMs := settings.leaseMs, limit }

def DbTransport.tokenNow : ClaimToken :=
  { instanceId := settings.instanceId, stamp := transport.hrtime }

def DbTransport.rowsNow (limit : Nat) : List ResultRow :=
  (settings.queryNow transport limit).resultCandidates transport.results

variable {settings transport}

theorem claimedFresh_nil (row : ResultRow) (namespaceValue : String) (token : ClaimToken)
    (stampedAt : Nat) : row.claimedFresh namespaceValue [] token stampedAt = row :=
  if_neg (by simp)

theorem claimedLapsed_nil (row : ResultRow) (query : ClaimQuery) (token : ClaimToken)
    (stampedAt : Nat) : row.claimedLapsed query [] token stampedAt = row :=
  if_neg (by simp [ClaimRow.lapsedIn])

section Steps

variable {α : Type}

theorem alone_now (instanceId : String) (rest : Nat → TransportPath α) :
    (Statement.now instanceId >>= rest).alone Transport.exec transport =
      (rest (transport.clock + transport.skews instanceId)).alone Transport.exec transport := rfl

theorem alone_hrtime (instanceId : String) (rest : Nat → TransportPath α) :
    (Statement.hrtime instanceId >>= rest).alone Transport.exec transport =
      (rest transport.hrtime).alone Transport.exec
        { transport with hrtime := transport.hrtime + 1 } := rfl

theorem alone_freeSlots (rest : Nat → TransportPath α) :
    (Statement.freeSlots >>= rest).alone Transport.exec transport =
      (rest (transport.around.slots transport.asked)).alone Transport.exec transport.asks := rfl

theorem alone_candidates (query : ClaimQuery)
    (rest : List (String × Option Nat) → TransportPath α) :
    (Statement.candidates .results query >>= rest).alone Transport.exec transport =
      (rest ((query.resultCandidates transport.results).map fun row =>
        (row.stepId, row.claimedAt))).alone Transport.exec transport := rfl

theorem alone_handleResult (row : ResultRow) (rest : Bool → TransportPath α) :
    (Statement.handleResult row >>= rest).alone Transport.exec transport =
      (rest (transport.around.handles transport.asked)).alone Transport.exec
        (transport.exec (.handleResult row)).1 := rfl

end Steps

variable (settings transport) in
/-- Claiming result rows, left alone, stamps the candidates. -/
theorem stampClaim_alone (limit : Nat) :
    ∃ results, (settings.stampClaim .results limit none false false).alone Transport.exec
        transport =
        ({ transport with hrtime := transport.hrtime + 1, results },
          (settings.tokenNow transport,
            if (settings.rowsNow transport limit).isEmpty then none
            else some (settings.queryNow transport limit).now)) ∧
      ∀ id, results.get id = (transport.results.get id).map
        (stamped (settings.queryNow transport limit) (settings.rowsNow transport limit)
          (settings.tokenNow transport)) := by
  unfold DbTransport.stampClaim
  rw [alone_now, alone_hrtime, alone_now, alone_candidates]
  by_cases empty : settings.rowsNow transport limit = []
  · -- There is no candidate, and so no row is stamped.
    have nothing : (((settings.rowsNow transport limit).map
        fun row => (row.stepId, row.claimedAt)).isEmpty) = true := by rw [empty]; rfl
    refine ⟨transport.results,
      (congrArg (Program.alone Transport.exec · _) (if_pos nothing)).trans ?_, fun id => ?_⟩
    · rw [if_pos (List.isEmpty_iff.mpr empty)]
      rfl
    · cases transport.results.get id with
      | none => rfl
      | some row => rw [Option.map_some, empty, stamped_not_mem List.not_mem_nil (by simp)]
  have something : ¬ (((settings.rowsNow transport limit).map
      fun row => (row.stepId, row.claimedAt)).isEmpty) = true := by simpa using empty
  rw [if_neg (mt List.isEmpty_iff.mp empty)]
  -- Each of the two statements is left out where it would stamp nothing.
  have noFresh (row : ResultRow)
      (nothing : ¬ (!(freshIds (settings.rowsNow transport limit)).isEmpty) = true) :
      row.claimedFresh settings.namespaceValue (freshIds (settings.rowsNow transport limit))
        (settings.tokenNow transport) (settings.queryNow transport limit).now = row := by
    have nil : freshIds (settings.rowsNow transport limit) = [] := by simpa using nothing
    rw [nil, claimedFresh_nil]
  have noLapsed (row : ResultRow)
      (nothing : ¬ (!(lapsedIds (settings.rowsNow transport limit)).isEmpty) = true) :
      row.claimedLapsed (settings.queryNow transport limit)
        (lapsedIds (settings.rowsNow transport limit)) (settings.tokenNow transport)
        (settings.queryNow transport limit).now = row := by
    have nil : lapsedIds (settings.rowsNow transport limit) = [] := by simpa using nothing
    rw [nil, claimedLapsed_nil]
  by_cases noneFresh : (!(freshIds (settings.rowsNow transport limit)).isEmpty) = true <;>
    by_cases noneLapsed : (!(lapsedIds (settings.rowsNow transport limit)).isEmpty) = true
  · refine ⟨_, (congrArg (Program.alone Transport.exec · _) ((if_neg something).trans
      (if_pos noneFresh))).trans
      ((congrArg (Program.alone Transport.exec · _) (if_pos noneLapsed)).trans rfl), fun id => ?_⟩
    refine (Table.get_update _ _ id).trans ((congrArg (Option.map _) (Table.get_update
      transport.results _ id)).trans ?_)
    cases transport.results.get id <;> rfl
  · refine ⟨_, (congrArg (Program.alone Transport.exec · _) ((if_neg something).trans
      (if_pos noneFresh))).trans
      ((congrArg (Program.alone Transport.exec · _) (if_neg noneLapsed)).trans rfl), fun id => ?_⟩
    refine (Table.get_update _ _ id).trans (Option.map_congr fun row _ => ?_)
    exact (noLapsed _ noneLapsed).symm
  · refine ⟨_, (congrArg (Program.alone Transport.exec · _) ((if_neg something).trans
      (if_neg noneFresh))).trans
      ((congrArg (Program.alone Transport.exec · _) (if_pos noneLapsed)).trans rfl), fun id => ?_⟩
    refine (Table.get_update _ _ id).trans (Option.map_congr fun row _ => ?_)
    exact (congrArg (ClaimRow.claimedLapsed · _ _ _ _) (noFresh row noneFresh)).symm
  · refine ⟨transport.results, (congrArg (Program.alone Transport.exec · _) ((if_neg something).trans
      (if_neg noneFresh))).trans
      ((congrArg (Program.alone Transport.exec · _) (if_neg noneLapsed)).trans rfl), fun id => ?_⟩
    refine Option.map_id'.symm.trans (Option.map_congr fun row _ => ?_)
    exact ((noLapsed _ noneLapsed).trans (noFresh row noneFresh)).symm

variable (keyed : ∀ id row, transport.results.get id = some row → row.stepId = id) {row : ResultRow}
  {order : List ResultRow → List ResultRow}

include keyed

theorem rowsNow_stored {limit : Nat} (listed : row ∈ settings.rowsNow transport limit) :
    (settings.queryNow transport limit).open_ row = true ∧
      transport.results.get row.stepId = some row := by
  have chosen := List.mem_of_mem_take listed
  rw [List.mem_insertionSort, List.mem_filter] at chosen
  obtain ⟨id, found⟩ := (transport.results.mem_stored row).mp chosen.1
  exact ⟨chosen.2, keyed id row found ▸ found⟩

variable (settings transport) in
theorem claimResults_alone (limit : Nat) :
    ∃ results rows, (settings.claimResults limit).alone Transport.exec transport =
        ({ transport with hrtime := transport.hrtime + 1, results },
          (rows, settings.tokenNow transport)) ∧
      (∀ id, results.get id = (transport.results.get id).map
        (stamped (settings.queryNow transport limit) (settings.rowsNow transport limit)
          (settings.tokenNow transport))) ∧
      (∀ row ∈ settings.rowsNow transport limit,
        row.claimed (settings.tokenNow transport) (settings.queryNow transport limit).now ∈ rows) ∧
      ∀ row ∈ rows, results.get row.stepId = some row ∧
        row.claimedAt = some (settings.queryNow transport limit).now := by
  obtain ⟨results, ran, found⟩ := stampClaim_alone settings transport limit
  have step (id : String) (row : ResultRow) (stored : results.get id = some row) :
      row.stepId = id := by
    rw [found] at stored
    obtain ⟨before, was, rfl⟩ := Option.map_eq_some_iff.mp stored
    exact stamped_stepId.trans (keyed id before was)
  by_cases empty : settings.rowsNow transport limit = []
  · rw [if_pos (List.isEmpty_iff.mpr empty)] at ran
    refine ⟨results, [], (Program.alone_known ran _).trans rfl, found, ?_, by simp⟩
    rw [empty]
    simp
  rw [if_neg (mt List.isEmpty_iff.mp empty)] at ran
  refine ⟨results, _, (Program.alone_known ran _).trans rfl, found, fun row listed => ?_,
    fun row won => ?_⟩
  · -- The round has stamped the candidate, and reads what it has stamped.
    obtain ⟨open_, stored⟩ := rowsNow_stored keyed listed
    have claimed : results.get row.stepId =
        some (row.claimed (settings.tokenNow transport) (settings.queryNow transport limit).now) := by
      rw [found, stored, Option.map_some, stamped_mem open_ listed]
    refine List.mem_filter.mpr ⟨(results.mem_stored _).mpr ⟨row.stepId, claimed⟩, ?_⟩
    simp [ClaimRow.claimed, ClaimRow.heldBy, DbTransport.tokenNow]
  · obtain ⟨stored, mine⟩ := List.mem_filter.mp won
    obtain ⟨id, here⟩ := (results.mem_stored row).mp stored
    refine ⟨step id row here ▸ here, ?_⟩
    exact beq_iff_eq.mp (Bool.and_eq_true_iff.mp mine).2

omit keyed

theorem handleEach_alone (rows : List ResultRow) (transport : Transport) :
    ∃ asked handed ids, (DbTransport.handleEach rows).alone Transport.exec transport =
        ({ transport with asked, ledger := { transport.ledger with handed } }, ids) ∧
      (∀ entry ∈ transport.ledger.handed, entry ∈ handed) ∧
      (∀ row ∈ rows, (row.serial, row.carries) ∈ handed) ∧
      ∀ id ∈ ids, ∃ row ∈ rows, row.stepId = id := by
  induction rows generalizing transport with
  | nil => exact ⟨transport.asked, transport.ledger.handed, [], rfl, by simp, by simp, by simp⟩
  | cons row rest ih =>
    obtain ⟨asked, handed, ids, ran, grown, all, from_⟩ :=
      ih (transport.exec (.handleResult row)).1
    refine ⟨asked, handed, _, (alone_handleResult row _).trans
      ((Program.alone_known ran _).trans rfl), ?_, ?_, ?_⟩
    · exact fun entry before => grown entry (List.mem_cons_of_mem _ before)
    · intro other listed
      rcases List.mem_cons.mp listed with rfl | listed
      · exact grown _ List.mem_cons_self
      · exact all other listed
    · intro id chosen
      have either : id = row.stepId ∨ id ∈ ids := by
        split at chosen
        · exact List.mem_cons.mp chosen
        · exact .inr chosen
      rcases either with rfl | chosen
      · exact ⟨row, List.mem_cons_self, rfl⟩
      · obtain ⟨other, listed, same⟩ := from_ id chosen
        exact ⟨other, List.mem_cons_of_mem _ listed, same⟩

theorem Transport.deleteResult_alone (token : ClaimToken) (transport : Transport)
    (stepId : String) : ∃ results, deleteResult token transport stepId = { transport with results } ∧
      ∀ id, results.get id = transport.results.get id ∨ id = stepId ∧ results.get id = none := by
  unfold deleteResult
  split
  · exact ⟨_, rfl, fun _ => .inl rfl⟩
  · split
    · refine ⟨_, rfl, fun id => ?_⟩
      rw [Table.get_erase]
      split
      · rename_i same
        exact .inr ⟨same.symm, rfl⟩
      · exact .inl rfl
    · exact ⟨_, rfl, fun _ => .inl rfl⟩

theorem Transport.deleteResults_alone (token : ClaimToken) (ids : List String)
    (transport : Transport) :
    ∃ results, ids.foldl (deleteResult token) transport = { transport with results } ∧
      ∀ id, results.get id = transport.results.get id ∨ id ∈ ids ∧ results.get id = none := by
  induction ids generalizing transport with
  | nil => exact ⟨_, rfl, fun _ => .inl rfl⟩
  | cons stepId rest ih =>
    obtain ⟨results, deleted, first⟩ := deleteResult_alone token transport stepId
    obtain ⟨after, ran, others⟩ := ih (deleteResult token transport stepId)
    rw [deleted] at others
    refine ⟨after, ?_, fun id => ?_⟩
    · rw [List.foldl_cons, ran, deleted]
    · rcases others id with kept | ⟨listed, gone⟩
      · rcases first id with same | ⟨rfl, gone⟩
        · exact .inl (kept.trans same)
        · exact .inr ⟨List.mem_cons_self, kept.trans gone⟩
      · exact .inr ⟨List.mem_cons_of_mem _ listed, gone⟩

def DbTransport.mayClaim (settings : DbTransport) (transport : Transport) (row : ResultRow) :
    Bool :=
  (settings.queryNow transport 0).open_ row

/-- What a round of an instance that is left alone leads to. -/
structure Rounded (settings : DbTransport) (before after : Transport) : Prop where
  sameTime : ∀ row, settings.mayClaim after row = settings.mayClaim before row
  sameAround : after.around = before.around
  keyed : ∀ id row, after.results.get id = some row → row.stepId = id
  grown : ∀ entry ∈ before.ledger.handed, entry ∈ after.ledger.handed
  kept : ∀ id row, after.results.get id = some row → settings.mayClaim before row = true →
    before.results.get id = some row
  served : ∀ id row, before.results.get id = some row → settings.mayClaim before row = true →
    (row.serial, row.carries) ∈ after.ledger.handed ∨ after.results.get id = some row
  fewer : (∃ id row, before.results.get id = some row ∧ settings.mayClaim before row = true) →
    ∃ id row, before.results.get id = some row ∧ settings.mayClaim before row = true ∧
      after.results.get id ≠ some row

theorem stamped_unlisted (keyed : ∀ id row, transport.results.get id = some row → row.stepId = id)
    {limit : Nat} {token : ClaimToken} (stored : transport.results.get id = some row)
    (unlisted : row ∉ settings.rowsNow transport limit) :
    stamped (settings.queryNow transport limit) (settings.rowsNow transport limit) token row =
      row := by
  refine stamped_not_mem unlisted fun other listed same => ?_
  have there := (rowsNow_stored keyed listed).2
  rw [same, keyed id row stored, stored] at there
  exact (Option.some.inj there).symm

variable (settings) in
/-- Where a round of an instance that has slots and is left alone ends. -/
theorem resultTick_ends (keyed : ∀ id row, transport.results.get id = some row → row.stepId = id)
    (slots : ∀ asked, 0 < transport.around.slots asked)
    (permutes : ∀ rows, (order rows).Perm rows) : ∃ limit > 0, ∃ asked handed results,
      ((settings.resultTick order).alone Transport.exec transport).1 =
        { transport with
          hrtime := transport.hrtime + 1, asked, results
          ledger := { transport.ledger with handed } } ∧
      (∀ entry ∈ transport.ledger.handed, entry ∈ handed) ∧
      (∀ row ∈ settings.rowsNow transport limit, (row.serial, row.carries) ∈ handed) ∧
      ∀ id, results.get id = (transport.results.get id).map
          (stamped (settings.queryNow transport limit) (settings.rowsNow transport limit)
            (settings.tokenNow transport)) ∨
        results.get id = none ∧ ∀ row, transport.results.get id = some row →
          settings.mayClaim transport row = true → row ∈ settings.rowsNow transport limit := by
  have room : 0 < min (transport.around.slots transport.asked) resultRound :=
    Nat.lt_min.mpr ⟨slots _, by decide⟩
  refine ⟨_, room, ?_⟩
  have started : (settings.resultTick order).alone Transport.exec transport =
      (((settings.claimResults (min (transport.around.slots transport.asked) resultRound)) >>=
        fun claimed =>
          if claimed.1.isEmpty then return ()
          else DbTransport.handleEach (order claimed.1) >>= fun handled =>
            if handled.isEmpty then return ()
            else Statement.deleteResults claimed.2 handled).alone Transport.exec transport.asks) :=
    (alone_freeSlots _).trans (congrArg (Program.alone Transport.exec · _)
      (if_neg (Nat.ne_of_gt (slots _))))
  rw [started]
  generalize min (transport.around.slots transport.asked) resultRound = limit at room ⊢
  obtain ⟨results, rows, ran, found, all, won⟩ :=
    claimResults_alone settings transport.asks keyed limit
  rw [Program.alone_known ran]
  dsimp only
  by_cases empty : rows.isEmpty = true
  · -- Nothing was won, and so there was no candidate.
    have none_ (row : ResultRow) : row ∉ settings.rowsNow transport limit := fun listed => by
      have member := all row listed
      rw [List.isEmpty_iff.mp empty] at member
      cases member
    rw [if_pos empty]
    exact ⟨_, _, _, rfl, fun _ before => before, fun row listed => absurd listed (none_ row),
      fun id => .inl (found id)⟩
  rw [if_neg empty]
  obtain ⟨asked, handed, ids, handled, grown, handedAll, among⟩ := handleEach_alone (order rows)
    { transport.asks with hrtime := transport.asks.hrtime + 1, results }
  rw [Program.alone_known handled]
  have everyCandidate (row : ResultRow) (listed : row ∈ settings.rowsNow transport limit) :
      (row.serial, row.carries) ∈ handed :=
    handedAll (row.claimed _ _) ((permutes rows).mem_iff.mpr (all row listed))
  by_cases nothing : ids.isEmpty = true
  · rw [if_pos nothing]
    exact ⟨_, _, _, rfl, grown, everyCandidate, fun id => .inl (found id)⟩
  rw [if_neg nothing]
  obtain ⟨after, deleted, gone⟩ := Transport.deleteResults_alone (settings.tokenNow transport.asks)
    ids { transport.asks with
      hrtime := transport.asks.hrtime + 1, results, asked
      ledger := { transport.ledger with handed } }
  refine ⟨_, _, after, deleted, grown, everyCandidate, fun id => ?_⟩
  rcases gone id with kept | ⟨among_, deleted⟩
  · exact .inl (kept.trans (found id))
  · refine .inr ⟨deleted, fun row stored open_ => ?_⟩
    -- What was deleted had been won, and what was no candidate cannot have been.
    obtain ⟨winner, wonHere, rfl⟩ := among id among_
    obtain ⟨there, claimedAt⟩ := won winner ((permutes rows).mem_iff.mp wonHere)
    by_contra unlisted
    have same : results.get winner.stepId = some row :=
      (found winner.stepId).trans ((congrArg (Option.map _) stored).trans
        (congrArg some (stamped_unlisted keyed stored unlisted)))
    rw [there] at same
    cases same
    cases (ClaimQuery.claimed_closed (settings.queryNow transport limit) claimedAt).symm.trans open_

variable (settings) in
/-- A round of an instance that has slots and is left alone. -/
theorem resultTick_alone (keyed : ∀ id row, transport.results.get id = some row → row.stepId = id)
    (slots : ∀ asked, 0 < transport.around.slots asked)
    (permutes : ∀ rows, (order rows).Perm rows) : Rounded settings transport
      ((settings.resultTick order).alone Transport.exec transport).1 := by
  obtain ⟨limit, room, asked, handed, results, ended, grown, all, found⟩ :=
    resultTick_ends settings keyed slots permutes
  rw [ended]
  -- A row that can be claimed is claimed, or it is left as it is.
  have left {id : String} {row : ResultRow} (stored : transport.results.get id = some row)
      (open_ : settings.mayClaim transport row = true) :
      row ∈ settings.rowsNow transport limit ∨ results.get id = some row := by
    by_cases listed : row ∈ settings.rowsNow transport limit
    · exact .inl listed
    · rcases found id with stays | ⟨-, listed'⟩
      · rw [stays, stored, Option.map_some, stamped_unlisted keyed stored listed]
        exact .inr rfl
      · exact .inl (listed' row stored open_)
  refine
    { sameTime := fun _ => rfl, sameAround := rfl, keyed := fun id row after => ?_, grown
      kept := fun id row after open_ => ?_, served := fun id row stored open_ => ?_
      fewer := fun ⟨id, row, stored, open_⟩ => ?_ }
  · rcases found id with stays | ⟨gone, -⟩
    · obtain ⟨before, was, rfl⟩ := Option.map_eq_some_iff.mp (stays.symm.trans after)
      exact stamped_stepId.trans (keyed id before was)
    · cases gone.symm.trans after
  · rcases found id with stays | ⟨gone, -⟩
    · obtain ⟨before, was, rfl⟩ := Option.map_eq_some_iff.mp (stays.symm.trans after)
      by_cases listed : before ∈ settings.rowsNow transport limit
      · -- A candidate is claimed now, and cannot be claimed again.
        rw [stamped_mem (rowsNow_stored keyed listed).1 listed] at open_
        cases (ClaimQuery.claimed_closed _ rfl).symm.trans open_
      · rw [stamped_unlisted keyed was listed]
        exact was
    · cases gone.symm.trans after
  · exact (left stored open_).imp_left (all row)
  · have candidates : settings.rowsNow transport limit ≠ [] := by
      intro none_
      have sorted : row ∈ ((transport.results.stored.filter
          (settings.queryNow transport limit).open_).insertionSort ClaimQuery.resultsOrder) :=
        (List.mem_insertionSort _).mpr
          (List.mem_filter.mpr ⟨(transport.results.mem_stored row).mpr ⟨id, stored⟩, open_⟩)
      rcases List.take_eq_nil_iff.mp none_ with zero | nil
      · exact Nat.ne_of_gt room zero
      · rw [nil] at sorted
        cases sorted
    obtain ⟨first, listed⟩ := List.exists_mem_of_ne_nil _ candidates
    obtain ⟨free, there⟩ := rowsNow_stored keyed listed
    refine ⟨first.stepId, first, there, free, fun still => ?_⟩
    rcases found first.stepId with stays | ⟨gone, -⟩
    · have same := stays.symm.trans still
      rw [there, Option.map_some, stamped_mem free listed] at same
      have closed := ClaimQuery.claimed_closed (settings.queryNow transport limit)
        (congrArg ClaimRow.claimedAt (Option.some.inj same)).symm
      cases closed.symm.trans free
    · cases gone.symm.trans still

def DbTransport.openSteps (settings : DbTransport) (transport : Transport) : Finset String :=
  transport.results.keys.toFinset.filter fun id =>
    (transport.results.get id).any (settings.mayClaim transport)

theorem mem_openSteps : id ∈ settings.openSteps transport ↔
    ∃ row, transport.results.get id = some row ∧ settings.mayClaim transport row = true := by
  rw [DbTransport.openSteps, Finset.mem_filter, List.mem_toFinset, Table.mem_keys]
  cases stored : transport.results.get id with
  | none => simp
  | some row => simp

theorem Rounded.openSteps_lt {after : Transport} (round : Rounded settings transport after)
    (waiting : (settings.openSteps transport).Nonempty) :
    (settings.openSteps after).card < (settings.openSteps transport).card := by
  refine Finset.card_lt_card (Finset.ssubset_iff_subset_ne.mpr ⟨fun id after => ?_, fun same => ?_⟩)
  · obtain ⟨row, stored, open_⟩ := mem_openSteps.mp after
    rw [round.sameTime] at open_
    exact mem_openSteps.mpr ⟨row, round.kept id row stored open_, open_⟩
  · obtain ⟨id, opened⟩ := waiting
    obtain ⟨step, row, stored, open_, gone⟩ := round.fewer ⟨id, mem_openSteps.mp opened⟩
    -- The row that is gone would still be there.
    have still := mem_openSteps.mpr ⟨row, stored, open_⟩
    rw [← same] at still
    obtain ⟨other, there, otherOpen⟩ := mem_openSteps.mp still
    rw [round.sameTime] at otherOpen
    have before := round.kept step other there otherOpen
    rw [stored] at before
    exact gone ((Option.some.inj before) ▸ there)

theorem resultTicks_hand (permutes : ∀ rows, (order rows).Perm rows) (bound : Nat) :
    ∀ transport : Transport, (settings.openSteps transport).card ≤ bound →
      (∀ id row, transport.results.get id = some row → row.stepId = id) →
      (∀ asked, 0 < transport.around.slots asked) →
      ∀ id row, transport.results.get id = some row → settings.mayClaim transport row = true →
        ∃ rounds, (row.serial, row.carries) ∈
          ((settings.resultTicks order rounds).alone Transport.exec transport).1.ledger.handed := by
  -- A round hands the row over, or leaves it among fewer rows.
  induction bound with
  | zero =>
    intro transport few _ _ id row stored open_
    have member : id ∈ settings.openSteps transport := mem_openSteps.mpr ⟨row, stored, open_⟩
    rw [Finset.card_eq_zero.mp (Nat.le_zero.mp few)] at member
    exact absurd member (Finset.notMem_empty id)
  | succ bound ih =>
    intro transport few keyed slots id row stored open_
    have round := resultTick_alone settings keyed slots permutes
    rcases round.served id row stored open_ with handed | still
    · refine ⟨1, ?_⟩
      rw [DbTransport.resultTicks, Program.alone_bind]
      exact handed
    · have fewer := round.openSteps_lt ⟨id, mem_openSteps.mpr ⟨row, stored, open_⟩⟩
      obtain ⟨rounds, handed⟩ := ih _ (by omega) round.keyed
        (by rw [round.sameAround]; exact slots) id row still (by rw [round.sameTime]; exact open_)
      refine ⟨rounds + 1, ?_⟩
      rw [DbTransport.resultTicks, Program.alone_bind]
      exact handed

theorem Transport.hands_over
    (keyed : ∀ id row, transport.results.get id = some row → row.stepId = id)
    (stored : transport.results.get row.stepId = some row) : transport.HandsOver row := by
  intro slots instance_ order space permutes
  -- Once its claim has lapsed, the row may be claimed.
  have open_ : instance_.mayClaim
      (transport.elapse (row.claimedAt.getD 0 + instance_.leaseMs + 1)) row = true := by
    refine Bool.and_eq_true_iff.mpr ⟨beq_iff_eq.mpr space.symm, ?_⟩
    cases claimedAt : row.claimedAt with
    | none => rfl
    | some stampedAt =>
      rw [Option.isNone_some, Bool.false_or]
      refine decide_eq_true ?_
      simp only [DbTransport.queryNow, Transport.elapse, Option.getD_some]
      omega
  obtain ⟨rounds, handed⟩ := resultTicks_hand permutes _
    (transport.elapse (row.claimedAt.getD 0 + instance_.leaseMs + 1)) le_rfl keyed slots
    row.stepId row stored open_
  exact ⟨_, rounds, handed⟩

end Alone

end Durable
