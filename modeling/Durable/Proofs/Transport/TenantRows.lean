import Durable.Interleaving.Entries
import Durable.Transport.TenantEvents

/-! The rows addressed to one instance through its rounds: they stay in order, and what is handed
over is the oldest. -/

namespace Durable.TenantEvents

open Interleaving (getElem?_append_of_some)

variable {instanceId : String}

/-- The token of a round. -/
def Round.token : Round → Option ClaimToken
  | .idle => none
  | .picked token _ _ => some token
  | .freshStamped token _ => some token
  | .stamped token => some token
  | .handling token _ _ => some token

/-- The rows of a round that were handed over. -/
def Round.done : Round → List Nat
  | .handling _ _ done => done
  | _ => []

/-- The claimed rows are those of one round, and of the publisher's rows they are the oldest. -/
structure Front (token : ClaimToken) (rows : List MessageRow) : Prop where
  one : ∀ row ∈ rows, row.claimedBy = none ∨ row.claimedBy = some token
  oldest : ∀ row ∈ rows, ∀ other ∈ rows, row.number.isSome → other.number.isSome →
    row.claimedBy = some token → other.claimedBy = none → row.id < other.id

/-- What is known of the rows addressed to an instance while its loop is somewhere in a round. -/
def InRound (rows : List MessageRow) : Round → Prop
  | .idle => ∀ row ∈ rows, row.claimedBy = none
  | .picked _ fresh lapsed => (∀ row ∈ rows, row.claimedBy = none) ∧ lapsed = [] ∧
      (∀ id ∈ fresh, ∃ row ∈ rows, row.id = id) ∧
      ∀ row ∈ rows, ∀ other ∈ rows, row.number.isSome → other.number.isSome →
        other.id ∈ fresh → row.id < other.id → row.id ∈ fresh
  | .freshStamped token lapsed => lapsed = [] ∧ Front token rows
  | .stamped token => Front token rows
  | .handling token rest done => Front token rows ∧
      (∀ row, row ∈ rest ↔ row ∈ rows ∧ row.claimedBy = some token ∧ row.id ∉ done) ∧
      (∀ id ∈ done, ∃ row ∈ rows, row.id = id ∧ row.claimedBy = some token) ∧
      (rest.map (·.id)).Nodup ∧
      (rest.filter fun row => row.number.isSome).Pairwise fun row other => row.id < other.id

/-- The rows addressed to an instance agree with what it took. -/
structure Tidy (audiences : List (List String)) (instanceId : String) (rows : List MessageRow)
    (round : Round) (took : List Nat) : Prop where
  sameOrder : ∀ row ∈ rows, ∀ other ∈ rows, ∀ number later, row.number = some number →
    other.number = some later → row.id < other.id → number < later
  inRound : InRound rows round
  inOrder : took.Pairwise (· < ·)
  addressed : ∀ number ∈ took, ∃ owners, audiences[number]? = some owners ∧ instanceId ∈ owners
  ahead : ∀ number ∈ took, ∀ row ∈ rows, row.id ∉ round.done → ∀ later,
    row.number = some later → number < later
  complete : ∀ number owners, audiences[number]? = some owners → instanceId ∈ owners →
    number ∈ took ∨ ∃ row ∈ rows, row.id ∉ round.done ∧ row.number = some number

section Rows

variable {audiences more : List (List String)} {rows news : List MessageRow} {round : Round}
  {token : ClaimToken} {took : List Nat} {later : Round} {limit : Nat} {other : MessageRow}
  {lapsed : MessageRow → Bool}

theorem InRound.done_mem (inRound : InRound rows round) {id : Nat} (listed : id ∈ round.done) :
    ∃ row ∈ rows, row.id = id := by
  -- Only while rows are handed over are some of them done.
  cases round with
  | handling token rest done =>
    obtain ⟨row, held, same, -⟩ := inRound.2.2.1 id listed
    exact ⟨row, held, same⟩
  | _ => cases listed

/-- New rows are not claimed, and come after the publisher's rows. -/
structure Arrives (rows news : List MessageRow) : Prop where
  apart : ∀ row ∈ rows, ∀ new ∈ news, row.id ≠ new.id
  unclaimed : ∀ new ∈ news, new.claimedBy = none
  later : ∀ new ∈ news, new.number.isSome → ∀ row ∈ rows, row.number.isSome → row.id < new.id

theorem Front.append (front : Front token rows) (arrives : Arrives rows news) :
    Front token (rows ++ news) where
  one row held := by
    rcases List.mem_append.mp held with old | new
    · exact front.one row old
    · exact .inl (arrives.unclaimed row new)
  oldest row held other alike own alsoOwn claimed unclaimed := by
    -- A claimed row is an old one.
    rcases List.mem_append.mp held with old | new
    · rcases List.mem_append.mp alike with alsoOld | alsoNew
      · exact front.oldest row old other alsoOld own alsoOwn claimed unclaimed
      · exact arrives.later other alsoNew alsoOwn row old own
    · rw [arrives.unclaimed row new] at claimed
      cases claimed

/-- New rows do not disturb a round. -/
theorem InRound.append (inRound : InRound rows round) (arrives : Arrives rows news) :
    InRound (rows ++ news) round := by
  have unclaimed : (∀ row ∈ rows, row.claimedBy = none) →
      ∀ row ∈ rows ++ news, row.claimedBy = none := by
    intro before row held
    rcases List.mem_append.mp held with old | new
    · exact before row old
    · exact arrives.unclaimed row new
  cases round with
  | idle => exact unclaimed inRound
  | picked token fresh lapsed =>
    obtain ⟨before, none, present, closed⟩ := inRound
    refine ⟨unclaimed before, none, ?_, ?_⟩
    · intro id listed
      obtain ⟨row, held, same⟩ := present id listed
      exact ⟨row, List.mem_append_left _ held, same⟩
    · intro row held other alike own alsoOwn listed before
      -- The candidates are old rows, and so is what comes before one.
      rcases List.mem_append.mp alike with alsoOld | alsoNew
      · rcases List.mem_append.mp held with old | new
        · exact closed row old other alsoOld own alsoOwn listed before
        · have after := arrives.later row new own other alsoOld alsoOwn
          omega
      · obtain ⟨candidate, candidates, same⟩ := present other.id listed
        exact absurd same (arrives.apart candidate candidates other alsoNew)
  | freshStamped token lapsed => exact ⟨inRound.1, inRound.2.append arrives⟩
  | stamped token => exact Front.append inRound arrives
  | handling token rest done =>
    obtain ⟨front, listed, finished, distinct, ordered⟩ := inRound
    refine ⟨front.append arrives, ?_, ?_, distinct, ordered⟩
    · intro row
      rw [listed row, List.mem_append]
      constructor
      · intro ⟨held, claimed, open_⟩
        exact ⟨.inl held, claimed, open_⟩
      · intro ⟨held, claimed, open_⟩
        rcases held with old | new
        · exact ⟨old, claimed, open_⟩
        · rw [arrives.unclaimed row new] at claimed
          cases claimed
    · intro id inDone
      obtain ⟨row, held, same, claimed⟩ := finished id inDone
      exact ⟨row, List.mem_append_left _ held, same, claimed⟩

/-- New rows, at most one of them the publisher's next event, leave an instance's rows in order. -/
theorem Tidy.append (tidy : Tidy audiences instanceId rows round took)
    (arrives : Arrives rows news)
    (lone : ∀ new ∈ news, ∀ other ∈ news, new = other)
    (latest : ∀ new ∈ news, ∀ number, new.number = some number → number = audiences.length)
    (bounded : ∀ row ∈ rows, ∀ number, row.number = some number → number < audiences.length)
    (arrive : ∀ number owners, (audiences ++ more)[number]? = some owners → instanceId ∈ owners →
      audiences[number]? = some owners ∨ ∃ new ∈ news, new.number = some number) :
    Tidy (audiences ++ more) instanceId (rows ++ news) round took where
  sameOrder row held other alike number after own alsoOwn before := by
    rcases List.mem_append.mp held with old | new
    · rcases List.mem_append.mp alike with alsoOld | alsoNew
      · exact tidy.sameOrder row old other alsoOld number after own alsoOwn before
      · have last := latest other alsoNew after alsoOwn
        have within := bounded row old number own
        omega
    · rcases List.mem_append.mp alike with alsoOld | alsoNew
      · have above := arrives.later row new (by rw [own]; rfl) other alsoOld (by rw [alsoOwn]; rfl)
        omega
      · rw [lone row new other alsoNew] at before
        omega
  inRound := tidy.inRound.append arrives
  inOrder := tidy.inOrder
  addressed number listed := by
    obtain ⟨owners, found, among⟩ := tidy.addressed number listed
    exact ⟨owners, getElem?_append_of_some found, among⟩
  ahead number listed row held isOpen after own := by
    rcases List.mem_append.mp held with old | new
    · exact tidy.ahead number listed row old isOpen after own
    · -- What was taken has been published before.
      obtain ⟨owners, found, -⟩ := tidy.addressed number listed
      have within := (List.getElem?_eq_some_iff.mp found).1
      have last := latest row new after own
      omega
  complete number owners found among := by
    rcases arrive number owners found among with before | ⟨new, held, own⟩
    · rcases tidy.complete number owners before among with listed | ⟨row, held, isOpen, own⟩
      · exact .inl listed
      · exact .inr ⟨row, List.mem_append_left _ held, isOpen, own⟩
    · right
      refine ⟨new, List.mem_append_right _ held, ?_, own⟩
      intro listed
      obtain ⟨row, old, same⟩ := tidy.inRound.done_mem listed
      exact arrives.apart row old new held same

theorem Tidy.map (tidy : Tidy audiences instanceId rows round took)
    {change : MessageRow → MessageRow} (id : ∀ row, (change row).id = row.id)
    (number : ∀ row, (change row).number = row.number) (inRound : InRound (rows.map change) later)
    (done : later.done = round.done) : Tidy audiences instanceId (rows.map change) later took where
  sameOrder row held other alike := by
    obtain ⟨before, old, rfl⟩ := List.mem_map.mp held
    obtain ⟨second, alsoOld, rfl⟩ := List.mem_map.mp alike
    rw [id, id, number, number]
    exact tidy.sameOrder before old second alsoOld
  inRound := inRound
  inOrder := tidy.inOrder
  addressed := tidy.addressed
  ahead earlier listed row held := by
    obtain ⟨before, old, rfl⟩ := List.mem_map.mp held
    rw [id, number, done]
    exact tidy.ahead earlier listed before old
  complete earlier owners found among := by
    rcases tidy.complete earlier owners found among with listed | ⟨row, held, isOpen, own⟩
    · exact .inl listed
    · right
      refine ⟨change row, List.mem_map_of_mem held, ?_, ?_⟩
      · rwa [id, done]
      · rw [number, own]

theorem Tidy.enter (tidy : Tidy audiences instanceId rows round took)
    (inRound : InRound rows later) (done : later.done = round.done) :
    Tidy audiences instanceId rows later took := by
  have same : Tidy audiences instanceId (rows.map fun row => row) later took :=
    tidy.map (fun _ => rfl) (fun _ => rfl) (by rwa [List.map_id']) done
  rwa [List.map_id'] at same

/-- A row after a stamping. -/
def stampRow (token : ClaimToken) (ids : List Nat) (claimable : MessageRow → Bool)
    (row : MessageRow) : MessageRow :=
  if row.id ∈ ids && claimable row then { row with claimedBy := some token } else row

theorem stamp_eq_map (ids : List Nat) (claimable : MessageRow → Bool) :
    stamp rows token ids claimable = rows.map (stampRow token ids claimable) := rfl

section StampRow

variable (token : ClaimToken) (ids : List Nat) (claimable : MessageRow → Bool) (row : MessageRow)

@[simp] theorem stampRow_id : (stampRow token ids claimable row).id = row.id := by
  unfold stampRow
  split <;> rfl

@[simp] theorem stampRow_recipient :
    (stampRow token ids claimable row).recipient = row.recipient := by
  unfold stampRow
  split <;> rfl

@[simp] theorem stampRow_number : (stampRow token ids claimable row).number = row.number := by
  unfold stampRow
  split <;> rfl

@[simp] theorem stampRow_payload : (stampRow token ids claimable row).payload = row.payload := by
  unfold stampRow
  split <;> rfl

theorem stampRow_of_notMem (absent : row.id ∉ ids) : stampRow token ids claimable row = row := by
  simp [stampRow, absent]

theorem stampRow_claimedBy : (stampRow token ids claimable row).claimedBy = row.claimedBy ∨
    row.id ∈ ids ∧ (stampRow token ids claimable row).claimedBy = some token := by
  unfold stampRow
  split
  · rename_i listed
    rw [Bool.and_eq_true, decide_eq_true_iff] at listed
    exact .inr ⟨listed.1, rfl⟩
  · exact .inl rfl

theorem stampRow_unclaimed (unclaimed : row.claimedBy = none) :
    (stampRow token ids (·.claimedBy.isNone) row).claimedBy =
      if row.id ∈ ids then some token else none := by
  by_cases listed : row.id ∈ ids
  · simp [stampRow, unclaimed, listed]
  · simp [stampRow, unclaimed, listed]

end StampRow

theorem mem_take_of_before (sorted : rows.Pairwise fun row other => row.id ≤ other.id)
    {row : MessageRow} (held : row ∈ rows) (among : other ∈ rows.take limit)
    (before : row.id < other.id) : row ∈ rows.take limit := by
  -- A row of the rest is not before one that was taken.
  rw [← List.take_append_drop limit rows] at sorted held
  rcases List.mem_append.mp held with here | rest
  · exact here
  · have after := (List.pairwise_append.mp sorted).2.2 other among row rest
    omega

theorem mem_candidates {row : MessageRow} (among : row ∈ candidates rows limit instanceId lapsed) :
    row ∈ rows ∧ row.recipient = instanceId := by
  have held := List.mem_of_mem_take among
  rw [List.mem_insertionSort, List.mem_filter, Bool.and_eq_true, decide_eq_true_iff] at held
  exact ⟨held.1, held.2.1⟩

theorem mem_candidates_of_before
    (unclaimed : ∀ row ∈ rows, row.recipient = instanceId → row.claimedBy = none)
    {row : MessageRow} (held : row ∈ rows) (own : row.recipient = instanceId)
    (among : other ∈ candidates rows limit instanceId lapsed) (before : row.id < other.id) :
    row ∈ candidates rows limit instanceId lapsed := by
  apply mem_take_of_before (List.pairwise_insertionSort _ _) ?_ among before
  rw [List.mem_insertionSort, List.mem_filter, Bool.and_eq_true, decide_eq_true_iff,
    unclaimed row held own]
  exact ⟨held, own, rfl⟩

theorem Front.of_picked {fresh lapsed : List Nat}
    (inRound : InRound rows (.picked token fresh lapsed)) :
    Front token (rows.map (stampRow token fresh (·.claimedBy.isNone))) := by
  obtain ⟨unclaimed, -, -, closed⟩ := inRound
  constructor
  · intro row held
    obtain ⟨before, old, rfl⟩ := List.mem_map.mp held
    rw [stampRow_unclaimed _ _ _ (unclaimed before old)]
    split
    · exact .inr rfl
    · exact .inl rfl
  · intro row held other alike own alsoOwn claimed free
    obtain ⟨before, old, rfl⟩ := List.mem_map.mp held
    obtain ⟨second, alsoOld, rfl⟩ := List.mem_map.mp alike
    rw [stampRow_unclaimed _ _ _ (unclaimed before old)] at claimed
    rw [stampRow_unclaimed _ _ _ (unclaimed second alsoOld)] at free
    rw [stampRow_number] at own alsoOwn
    rw [stampRow_id, stampRow_id]
    have listed : before.id ∈ fresh := by
      by_contra absent
      rw [if_neg absent] at claimed
      cases claimed
    have absent : second.id ∉ fresh := by
      intro present
      rw [if_pos present] at free
      cases free
    -- Were the other row not after this one, it would be a candidate too, or the same row.
    by_contra notBefore
    rcases Nat.lt_or_ge second.id before.id with less | atLeast
    · exact absent (closed second alsoOld before old alsoOwn own listed less)
    · have same : before.id = second.id := by omega
      rw [same] at listed
      exact absent listed

theorem InRound.select (distinct : (rows.map (·.id)).Nodup) (front : Front token rows)
    {order : List MessageRow} (all : order.Perm (stampedBy rows token))
    (ordered : (order.filter fun row => row.number.isSome).Pairwise
      fun row other => row.id < other.id) :
    InRound rows (.handling token order []) := by
  refine ⟨front, ?_, ?_, ?_, ordered⟩
  · intro row
    rw [all.mem_iff, stampedBy, List.mem_filter, decide_eq_true_iff]
    simp
  · intro id listed
    cases listed
  · rw [(all.map _).nodup_iff]
    exact distinct.sublist (List.filter_sublist.map _)

/-- A row is handed over: its event is after those that were taken, and before those that wait. -/
theorem Tidy.hand {row : MessageRow} {rest : List MessageRow} {done : List Nat}
    (tidy : Tidy audiences instanceId rows (.handling token (row :: rest) done) took)
    (distinct : (rows.map (·.id)).Nodup)
    (bounded : ∀ number, row.number = some number →
      ∃ owners, audiences[number]? = some owners ∧ instanceId ∈ owners) :
    Tidy audiences instanceId rows (.handling token rest (row.id :: done))
      (took ++ row.number.toList) := by
  obtain ⟨front, listed, finished, apart, ordered⟩ := tidy.inRound
  obtain ⟨held, claimed, isOpen⟩ := (listed row).mp (List.mem_cons_self ..)
  have same : ∀ other ∈ rows, other.id = row.id → other = row := fun other alike =>
    fun equal => List.inj_on_of_nodup_map distinct alike held equal
  -- What waits, other than the row, is after it.
  have after : ∀ number, row.number = some number → ∀ other ∈ rows,
      other.id ∉ row.id :: done → ∀ later, other.number = some later → number < later := by
    intro number own other alike open_ later alsoOwn
    rw [List.mem_cons, not_or] at open_
    apply tidy.sameOrder row held other alike number later own alsoOwn
    rcases front.one other alike with free | alsoClaimed
    · exact front.oldest row held other alike (by rw [own]; rfl) (by rw [alsoOwn]; rfl) claimed free
    · have inRest : other ∈ rest := by
        have unhandled := (listed other).mpr ⟨alike, alsoClaimed, open_.2⟩
        rcases List.mem_cons.mp unhandled with equal | inRest
        · exact absurd (congrArg _ equal) open_.1
        · exact inRest
      rw [List.filter_cons_of_pos (by rw [own]; rfl)] at ordered
      exact List.rel_of_pairwise_cons ordered (List.mem_filter.mpr ⟨inRest, by rw [alsoOwn]; rfl⟩)
  constructor
  · exact tidy.sameOrder
  · refine ⟨front, ?_, ?_, ?_, ?_⟩
    · intro other
      rw [List.mem_cons, not_or]
      constructor
      · intro inRest
        obtain ⟨alike, alsoClaimed, open_⟩ := (listed other).mp (List.mem_cons_of_mem _ inRest)
        refine ⟨alike, alsoClaimed, ?_, open_⟩
        intro equal
        rw [List.map_cons, List.nodup_cons, ← equal] at apart
        exact apart.1 (List.mem_map_of_mem inRest)
      · intro ⟨alike, alsoClaimed, unlike, open_⟩
        have unhandled := (listed other).mpr ⟨alike, alsoClaimed, open_⟩
        rcases List.mem_cons.mp unhandled with equal | inRest
        · exact absurd (congrArg _ equal) unlike
        · exact inRest
    · intro id inDone
      rcases List.mem_cons.mp inDone with rfl | before
      · exact ⟨row, held, rfl, claimed⟩
      · exact finished id before
    · rw [List.map_cons, List.nodup_cons] at apart
      exact apart.2
    · rw [List.filter_cons] at ordered
      split at ordered
      · exact (List.pairwise_cons.mp ordered).2
      · exact ordered
  · rw [List.pairwise_append]
    refine ⟨tidy.inOrder, ?_, ?_⟩
    · cases row.number with
      | none => exact List.Pairwise.nil
      | some number => exact List.pairwise_singleton _ _
    · intro earlier taken number own
      rw [Option.mem_toList] at own
      exact tidy.ahead earlier taken row held isOpen number own
  · intro number taken
    rcases List.mem_append.mp taken with before | new
    · exact tidy.addressed number before
    · exact bounded number (Option.mem_toList.mp new)
  · intro number taken other alike open_ later own
    rcases List.mem_append.mp taken with before | new
    · refine tidy.ahead number before other alike ?_ later own
      intro inDone
      exact open_ (List.mem_cons_of_mem _ inDone)
    · exact after number (Option.mem_toList.mp new) other alike open_ later own
  · intro number owners found among
    rcases tidy.complete number owners found among with before | ⟨other, alike, open_, own⟩
    · exact .inl (List.mem_append_left _ before)
    · by_cases equal : other.id = row.id
      · obtain rfl := same other alike equal
        exact .inl (List.mem_append_right _ (Option.mem_toList.mpr own))
      · refine .inr ⟨other, alike, ?_, own⟩
        rw [Round.done, List.mem_cons, not_or]
        exact ⟨equal, open_⟩

theorem Tidy.delete {done : List Nat} (distinct : (rows.map (·.id)).Nodup)
    (tidy : Tidy audiences instanceId rows (.handling token [] done) took) :
    Tidy audiences instanceId (deleteDone rows token done) .idle took := by
  obtain ⟨front, listed, finished, -, -⟩ := tidy.inRound
  have kept : ∀ row, row ∈ deleteDone rows token done ↔ row ∈ rows ∧ row.id ∉ done := by
    intro row
    rw [deleteDone, List.mem_filter, decide_eq_true_iff]
    constructor
    · intro ⟨held, stays⟩
      refine ⟨held, ?_⟩
      intro inDone
      -- The row of an id that is done is claimed.
      obtain ⟨other, alike, same, claimed⟩ := finished row.id inDone
      obtain rfl := List.inj_on_of_nodup_map distinct alike held same
      exact stays ⟨inDone, claimed⟩
    · intro ⟨held, open_⟩
      exact ⟨held, fun both => open_ both.1⟩
  constructor
  · intro row held other alike
    exact tidy.sameOrder row ((kept row).mp held).1 other ((kept other).mp alike).1
  · intro row held
    obtain ⟨old, open_⟩ := (kept row).mp held
    rcases front.one row old with free | claimed
    · exact free
    · cases (listed row).mpr ⟨old, claimed, open_⟩
  · exact tidy.inOrder
  · exact tidy.addressed
  · intro number taken row held _
    obtain ⟨old, open_⟩ := (kept row).mp held
    exact tidy.ahead number taken row old open_
  · intro number owners found among
    rcases tidy.complete number owners found among with taken | ⟨row, held, open_, own⟩
    · exact .inl taken
    · exact .inr ⟨row, (kept row).mpr ⟨held, open_⟩, List.not_mem_nil, own⟩

end Rows

end Durable.TenantEvents
