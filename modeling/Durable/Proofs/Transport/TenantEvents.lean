import Durable.Proofs.Transport.TenantRows

/-! Every instance takes the publisher's events in publish order, and misses none, as long as its
rounds read back the rows they have stamped in the order of their ids. -/

namespace Durable.TenantEvents

open Interleaving (Runs getElem?_append_of_some getElem?_concat_eq_some moves)

variable {limit : Nat} {state next : State} {instanceId : String} {owners : List String}
  {event : TenantEvent} {id : Nat}

/-- The publisher's events that an instance took, in that order. -/
def taken (state : State) (instanceId : String) : List Nat :=
  state.handed.filterMap fun entry => if entry.recipient = instanceId then entry.number else none

/-- An event was published while the instance was a subscriber. -/
def Addressed (state : State) (instanceId : String) (number : Nat) : Prop :=
  ∃ owners, state.audiences[number]? = some owners ∧ instanceId ∈ owners

/-- An instance takes the events addressed to it in publish order and none twice; those that it has
not taken wait in the table, and those that it took were received by its handlers, unless their
tenant's last handler was detached. -/
structure KeepsOrder (state : State) (instanceId : String) : Prop where
  inOrder : (taken state instanceId).Pairwise (· < ·)
  addressed : ∀ number ∈ taken state instanceId, Addressed state instanceId number
  complete : ∀ number, Addressed state instanceId number → number ∈ taken state instanceId ∨
    ∃ row ∈ state.rows, row.recipient = instanceId ∧ row.number = some number
  received : ∀ entry ∈ state.handed, entry.recipient = instanceId → ∀ number,
    entry.number = some number → state.published[number]? = some entry.event ∧
      ((instanceId, entry.event.tenant) ∉ state.detached → entry.received = true)

/-- A round reads back the publisher's rows in the order of their ids, which is the order of its
candidates. -/
def SelectsInOrder (_ : State) : Move → Prop
  | .select _ order =>
    (order.filter fun row => row.number.isSome).Pairwise fun row other => row.id < other.id
  | _ => True

/-- The rows addressed to an instance. -/
def box (state : State) (instanceId : String) : List MessageRow :=
  state.rows.filter fun row => row.recipient = instanceId

/-- What holds in every state that such runs reach. -/
structure Good (state : State) : Prop where
  distinct : (state.rows.map (·.id)).Nodup
  holder : ∀ row ∈ state.rows, ∀ token, row.claimedBy = some token →
    token.instanceId = row.recipient
  tokens : ∀ instanceId token, (state.rounds instanceId).token = some token →
    token.instanceId = instanceId
  own : ∀ row ∈ state.rows, ∀ number, row.number = some number → row.id < state.nextId ∧
    (∃ owners, state.audiences[number]? = some owners ∧ row.recipient ∈ owners) ∧
    ∃ event, row.payload = some event ∧
      state.published[number]? = some event ∧
      ((row.recipient, event.tenant) ∈ state.handlers ∨
        (row.recipient, event.tenant) ∈ state.detached)
  tidy : ∀ instanceId, Tidy state.audiences instanceId (box state instanceId)
    (state.rounds instanceId) (taken state instanceId)
  subscribed : ∀ owners, state.owners = some owners → owners.Nodup ∧
    ∃ event, state.published[state.audiences.length]? = some event ∧
      ∀ owner ∈ owners, (owner, event.tenant) ∈ state.handlers ∨
        (owner, event.tenant) ∈ state.detached
  received : ∀ entry ∈ state.handed, ∀ number, entry.number = some number →
    state.published[number]? = some entry.event ∧
      ((entry.recipient, entry.event.tenant) ∉ state.detached → entry.received = true)

section Boxes

variable {rows news : List MessageRow} {row : MessageRow} {other : MessageRow} {number : Nat}

theorem mem_box : row ∈ box state instanceId ↔ row ∈ state.rows ∧ row.recipient = instanceId := by
  rw [box, List.mem_filter, decide_eq_true_iff]

theorem Good.distinct_box (good : Good state) (instanceId : String) :
    ((box state instanceId).map (·.id)).Nodup :=
  good.distinct.sublist (List.filter_sublist.map _)

theorem Good.row_eq (good : Good state) (held : row ∈ state.rows) (alike : other ∈ state.rows)
    (same : row.id = other.id) : row = other :=
  List.inj_on_of_nodup_map good.distinct held alike same

theorem box_stamp (token : ClaimToken) (ids : List Nat) (claimable : MessageRow → Bool)
    (instanceId : String) :
    (stamp rows token ids claimable).filter (fun row => row.recipient = instanceId) =
      (rows.filter fun row => row.recipient = instanceId).map (stampRow token ids claimable) := by
  rw [stamp_eq_map, List.filter_map]
  apply congrArg
  apply List.filter_congr
  intro row _
  rw [Function.comp_apply, stampRow_recipient]

theorem map_stampRow_of_notMem (token : ClaimToken) (ids : List Nat)
    (claimable : MessageRow → Bool) (absent : ∀ row ∈ rows, row.id ∉ ids) :
    rows.map (stampRow token ids claimable) = rows := by
  conv_rhs => rw [← List.map_id rows]
  apply List.map_congr_left
  intro row held
  exact stampRow_of_notMem token ids claimable row (absent row held)

theorem InRound.pick (limit : Nat) (token : ClaimToken) (lapsed : MessageRow → Bool)
    (unclaimed : ∀ row ∈ box state instanceId, row.claimedBy = none) :
    InRound (box state instanceId) (.picked token
      (((candidates state.rows limit instanceId lapsed).filter (·.claimedBy.isNone)).map (·.id))
      (((candidates state.rows limit instanceId lapsed).filter (·.claimedBy.isSome)).map
        (·.id))) := by
  have free : ∀ row ∈ candidates state.rows limit instanceId lapsed, row.claimedBy = none :=
    fun row among => unclaimed row (mem_box.mpr (mem_candidates among))
  have all : (candidates state.rows limit instanceId lapsed).filter (·.claimedBy.isNone) =
      candidates state.rows limit instanceId lapsed := by
    rw [List.filter_eq_self]
    intro row among
    rw [free row among]
    rfl
  refine ⟨unclaimed, ?_, ?_, ?_⟩
  · rw [List.map_eq_nil_iff, List.filter_eq_nil_iff]
    intro row among
    rw [free row among]
    exact Bool.false_ne_true
  · intro id listed
    rw [all] at listed
    obtain ⟨row, among, rfl⟩ := List.mem_map.mp listed
    exact ⟨row, mem_box.mpr (mem_candidates among), rfl⟩
  · intro row held other alike _ _ listed before
    rw [all] at listed ⊢
    obtain ⟨candidate, among, same⟩ := List.mem_map.mp listed
    rw [← same] at before
    obtain ⟨inTable, own⟩ := mem_box.mp held
    refine List.mem_map_of_mem (mem_candidates_of_before ?_ inTable own among before)
    intro row held own
    exact unclaimed row (mem_box.mpr ⟨held, own⟩)

theorem mem_insertMessages (held : row ∈ insertMessages number event id owners) :
    row.recipient ∈ owners ∧ row.payload = some event ∧ row.claimedBy = none ∧
      row.number = some number ∧ id ≤ row.id ∧ row.id < id + owners.length := by
  induction owners generalizing id with
  | nil => cases held
  | cons owner rest ih =>
    rw [List.length_cons]
    rcases List.mem_cons.mp held with rfl | later
    · exact ⟨List.mem_cons_self .., rfl, rfl, rfl, Nat.le_refl _, by simp⟩
    · obtain ⟨among, payload, unclaimed, own, least, most⟩ := ih later
      exact ⟨List.mem_cons_of_mem _ among, payload, unclaimed, own, by omega, by omega⟩

theorem insertMessages_complete (number : Nat) (event : TenantEvent) (id : Nat)
    (among : instanceId ∈ owners) :
    ∃ row ∈ insertMessages number event id owners, row.recipient = instanceId := by
  induction owners generalizing id with
  | nil => cases among
  | cons owner rest ih =>
    rcases List.mem_cons.mp among with rfl | later
    · exact ⟨_, List.mem_cons_self .., rfl⟩
    · obtain ⟨row, held, own⟩ := ih (id + 1) later
      exact ⟨row, List.mem_cons_of_mem _ held, own⟩

theorem insertMessages_distinct (number : Nat) (event : TenantEvent) (id : Nat)
    (owners : List String) : ((insertMessages number event id owners).map (·.id)).Nodup := by
  induction owners generalizing id with
  | nil => exact List.nodup_nil
  | cons owner rest ih =>
    rw [insertMessages, List.map_cons, List.nodup_cons]
    refine ⟨?_, ih (id + 1)⟩
    intro listed
    obtain ⟨row, held, same⟩ := List.mem_map.mp listed
    have least := (mem_insertMessages held).2.2.2.2.1
    dsimp only at same
    omega

theorem insertMessages_lone (once : owners.Nodup)
    (held : row ∈ insertMessages number event id owners)
    (alike : other ∈ insertMessages number event id owners)
    (same : row.recipient = other.recipient) : row = other := by
  induction owners generalizing id with
  | nil => cases held
  | cons owner rest ih =>
    obtain ⟨absent, later⟩ := List.nodup_cons.mp once
    rcases List.mem_cons.mp held with rfl | inRest
    · rcases List.mem_cons.mp alike with rfl | alsoInRest
      · rfl
      · -- The other rows are of other subscribers.
        have among := (mem_insertMessages alsoInRest).1
        rw [← same] at among
        exact absurd among absent
    · rcases List.mem_cons.mp alike with rfl | alsoInRest
      · have among := (mem_insertMessages inRest).1
        rw [same] at among
        exact absurd among absent
      · exact ih later inRest alsoInRest

end Boxes

section Moves

variable {token : ClaimToken} {done : List Nat} {row : MessageRow}

theorem good_start : Good {} where
  distinct := List.nodup_nil
  holder row held := by cases held
  tokens instanceId token found := by cases found
  own row held := by cases held
  tidy instanceId := {
    sameOrder := by intro row held; cases held
    inRound := by intro row held; cases held
    inOrder := List.Pairwise.nil
    addressed := by intro number listed; cases listed
    ahead := by intro number listed; cases listed
    complete := by intro number owners found; cases found }
  subscribed owners found := by cases found
  received entry listed := by cases listed

theorem Good.handlers (good : Good state) {handlers detached : List (String × String)}
    (more : ∀ entry, entry ∈ state.detached → entry ∈ detached)
    (kept : ∀ entry, entry ∈ state.handlers → entry ∈ handlers ∨ entry ∈ detached) :
    Good { state with handlers := handlers, detached := detached } where
  distinct := good.distinct
  holder := good.holder
  tokens := good.tokens
  own row held number own := by
    obtain ⟨below, within, event, payload, published, subscribed⟩ := good.own row held number own
    refine ⟨below, within, event, payload, published, ?_⟩
    rcases subscribed with here | gone
    · exact kept _ here
    · exact .inr (more _ gone)
  tidy := good.tidy
  subscribed owners found := by
    obtain ⟨once, event, published, subscribed⟩ := good.subscribed owners found
    refine ⟨once, event, published, ?_⟩
    intro owner among
    rcases subscribed owner among with here | gone
    · exact kept _ here
    · exact .inr (more _ gone)
  received entry listed number own := by
    obtain ⟨published, received⟩ := good.received entry listed number own
    exact ⟨published, fun stays => received fun gone => stays (more _ gone)⟩

theorem Good.publish (good : Good state) (event : TenantEvent) :
    Good { state with published := state.published ++ [event] } where
  distinct := good.distinct
  holder := good.holder
  tokens := good.tokens
  own row held number own := by
    obtain ⟨below, within, event, payload, published, subscribed⟩ := good.own row held number own
    exact ⟨below, within, event, payload, getElem?_append_of_some published, subscribed⟩
  tidy := good.tidy
  subscribed owners found := by
    obtain ⟨once, event, published, subscribed⟩ := good.subscribed owners found
    exact ⟨once, event, getElem?_append_of_some published, subscribed⟩
  received entry listed number own := by
    obtain ⟨published, received⟩ := good.received entry listed number own
    exact ⟨getElem?_append_of_some published, received⟩

/-- The rows of a publish or of another instance arrive. -/
theorem Good.arrive (good : Good state) {more : List (List String)} {news : List MessageRow}
    {nextId : Nat} (apart : ∀ row ∈ state.rows, ∀ new ∈ news, row.id ≠ new.id)
    (distinct : (news.map (·.id)).Nodup)
    (unclaimed : ∀ new ∈ news, new.claimedBy = none)
    (lone : ∀ new ∈ news, ∀ other ∈ news, new.recipient = other.recipient → new = other)
    (grows : state.nextId ≤ nextId)
    (own : ∀ new ∈ news, ∀ number, new.number = some number → state.nextId ≤ new.id ∧
      new.id < nextId ∧ number = state.audiences.length ∧
      (∃ owners, (state.audiences ++ more)[number]? = some owners ∧ new.recipient ∈ owners) ∧
      ∃ event, new.payload = some event ∧ state.published[number]? = some event ∧
        ((new.recipient, event.tenant) ∈ state.handlers ∨
          (new.recipient, event.tenant) ∈ state.detached))
    (arrive : ∀ number owners, (state.audiences ++ more)[number]? = some owners →
      state.audiences[number]? = some owners ∨ ∀ owner ∈ owners,
        ∃ new ∈ news, new.recipient = owner ∧ new.number = some number)
    {owners : Option (List String)} (subscribed : ∀ list, owners = some list → list.Nodup ∧
      ∃ event, state.published[(state.audiences ++ more).length]? = some event ∧
        ∀ owner ∈ list, (owner, event.tenant) ∈ state.handlers ∨
          (owner, event.tenant) ∈ state.detached) :
    Good { state with
      owners := owners
      audiences := state.audiences ++ more
      rows := state.rows ++ news
      nextId := nextId } where
  distinct := by
    rw [List.map_append, List.nodup_append]
    refine ⟨good.distinct, distinct, ?_⟩
    intro id before other after
    obtain ⟨row, held, rfl⟩ := List.mem_map.mp before
    obtain ⟨new, arrived, rfl⟩ := List.mem_map.mp after
    exact apart row held new arrived
  holder row held token claimed := by
    rcases List.mem_append.mp held with old | new
    · exact good.holder row old token claimed
    · rw [unclaimed row new] at claimed
      cases claimed
  tokens := good.tokens
  own row held number numbered := by
    rcases List.mem_append.mp held with old | new
    · obtain ⟨below, ⟨owners, found, among⟩, rest⟩ := good.own row old number numbered
      exact ⟨Nat.lt_of_lt_of_le below grows, ⟨owners, getElem?_append_of_some found, among⟩, rest⟩
    · exact ⟨(own row new number numbered).2.1, (own row new number numbered).2.2.2⟩
  tidy instanceId := by
    have split : box { state with rows := state.rows ++ news } instanceId =
        box state instanceId ++ news.filter fun row => row.recipient = instanceId := by
      exact List.filter_append ..
    have among : ∀ new ∈ news.filter (fun row => row.recipient = instanceId),
        new ∈ news ∧ new.recipient = instanceId := by
      intro new held
      rwa [List.mem_filter, decide_eq_true_iff] at held
    change Tidy _ _ (box { state with rows := state.rows ++ news } instanceId) _ _
    rw [split]
    apply (good.tidy instanceId).append
    · constructor
      · intro row held new arrived
        exact apart row (mem_box.mp held).1 new (among new arrived).1
      · intro new arrived
        exact unclaimed new (among new arrived).1
      · intro new arrived numbered row held alsoNumbered
        obtain ⟨number, found⟩ := Option.isSome_iff_exists.mp numbered
        obtain ⟨before, alsoFound⟩ := Option.isSome_iff_exists.mp alsoNumbered
        have least := (own new (among new arrived).1 number found).1
        have below := (good.own row (mem_box.mp held).1 before alsoFound).1
        omega
    · intro new arrived other alsoArrived
      obtain ⟨here, same⟩ := among new arrived
      obtain ⟨alsoHere, alsoSame⟩ := among other alsoArrived
      exact lone new here other alsoHere (same.trans alsoSame.symm)
    · intro new arrived number found
      exact (own new (among new arrived).1 number found).2.2.1
    · intro row held number found
      obtain ⟨owners, listed, -⟩ := (good.own row (mem_box.mp held).1 number found).2.1
      exact (List.getElem?_eq_some_iff.mp listed).1
    · intro number owners found listed
      rcases arrive number owners found with before | here
      · exact .inl before
      · obtain ⟨new, arrived, same, numbered⟩ := here instanceId listed
        refine .inr ⟨new, ?_, numbered⟩
        rw [List.mem_filter, decide_eq_true_iff]
        exact ⟨arrived, same⟩
  subscribed := subscribed
  received := good.received

theorem Good.inserted (good : Good state) {firstId : Nat} (read : state.owners = some owners)
    (turn : state.published[state.audiences.length]? = some event)
    (grows : state.nextId ≤ firstId)
    (free : ∀ row ∈ state.rows, row.id < firstId ∨ firstId + owners.length ≤ row.id) :
    Good (insert state firstId owners event) := by
  obtain ⟨once, same, alsoTurn, subscribed⟩ := good.subscribed owners read
  obtain rfl : same = event := Option.some.inj (alsoTurn.symm.trans turn)
  apply good.arrive
  · intro row held new arrived
    obtain ⟨-, -, -, -, least, most⟩ := mem_insertMessages arrived
    have outside := free row held
    omega
  · exact insertMessages_distinct _ _ _ _
  · intro new arrived
    exact (mem_insertMessages arrived).2.2.1
  · intro new arrived other alsoArrived
    exact insertMessages_lone once arrived alsoArrived
  · omega
  · intro new arrived number numbered
    obtain ⟨among, payload, -, own, least, most⟩ := mem_insertMessages arrived
    obtain rfl := Option.some.inj (own.symm.trans numbered)
    exact ⟨by omega, most, rfl, ⟨owners, List.getElem?_concat_length, among⟩, same, payload, turn,
      subscribed _ among⟩
  · intro number list found
    -- A publish that is over was before, or is this one.
    rcases getElem?_concat_eq_some found with before | ⟨rfl, rfl⟩
    · exact .inl before
    · right
      intro owner among
      obtain ⟨row, held, own⟩ :=
        insertMessages_complete state.audiences.length same firstId among
      exact ⟨row, held, own, (mem_insertMessages held).2.2.2.1⟩
  · intro list found
    cases found

theorem Good.publishFails (good : Good state) :
    Good { state with owners := none, audiences := state.audiences ++ [[]] } := by
  have same : Good { state with
      owners := none
      audiences := state.audiences ++ [[]]
      rows := state.rows ++ []
      nextId := state.nextId } := by
    apply good.arrive
    · intro row held new arrived
      cases arrived
    · exact List.nodup_nil
    · intro new arrived
      cases arrived
    · intro new arrived
      cases arrived
    · exact Nat.le_refl _
    · intro new arrived
      cases arrived
    · intro number list found
      rcases getElem?_concat_eq_some found with before | ⟨-, rfl⟩
      · exact .inl before
      · right
        intro owner among
        cases among
    · intro list found
      cases found
  rwa [List.append_nil] at same

theorem Good.foreign (good : Good state) {recipient : String} {payload : Option TenantEvent}
    (free : ∀ row ∈ state.rows, row.id ≠ id) : Good { state with
      rows := state.rows ++ [{ id := id, recipient := recipient, payload := payload }] } := by
  have same : Good { state with
      owners := state.owners
      audiences := state.audiences ++ []
      rows := state.rows ++ [{ id := id, recipient := recipient, payload := payload }]
      nextId := state.nextId } := by
    apply good.arrive
    · intro row held new arrived
      obtain rfl := List.mem_singleton.mp arrived
      exact free row held
    · exact List.nodup_singleton _
    · intro new arrived
      obtain rfl := List.mem_singleton.mp arrived
      rfl
    · intro new arrived other alsoArrived _
      exact (List.mem_singleton.mp arrived).trans (List.mem_singleton.mp alsoArrived).symm
    · exact Nat.le_refl _
    · intro new arrived number numbered
      obtain rfl := List.mem_singleton.mp arrived
      cases numbered
    · intro number owners found
      rw [List.append_nil] at found
      exact .inl found
    · intro list found
      rw [List.append_nil]
      exact good.subscribed list found
  rwa [List.append_nil] at same

theorem Good.round (good : Good state) {round : Round} {rows : List MessageRow}
    (distinct : (rows.map (·.id)).Nodup)
    (holder : ∀ row ∈ rows, ∀ token, row.claimedBy = some token →
      token.instanceId = row.recipient)
    (token : ∀ token, round.token = some token → token.instanceId = instanceId)
    (kept : ∀ row ∈ rows, ∃ before ∈ state.rows, before.id = row.id ∧
      before.recipient = row.recipient ∧ before.number = row.number ∧
      before.payload = row.payload)
    (others : ∀ other, other ≠ instanceId →
      rows.filter (fun row => row.recipient = other) = box state other)
    (tidy : Tidy state.audiences instanceId
      (rows.filter fun row => row.recipient = instanceId) round (taken state instanceId)) :
    Good { enter state instanceId round with rows := rows } where
  distinct := distinct
  holder := holder
  tokens other own found := by
    dsimp only [enter] at found
    split at found
    · rename_i same
      rw [same]
      exact token own found
    · exact good.tokens other own found
  own row held number numbered := by
    obtain ⟨before, old, id, recipient, same, payload⟩ := kept row held
    rw [← id, ← recipient, ← payload]
    exact good.own before old number (same.trans numbered)
  tidy other := by
    change Tidy state.audiences other (rows.filter fun row => row.recipient = other)
      (if other = instanceId then round else state.rounds other) (taken state other)
    split
    · rename_i same
      rw [same]
      exact tidy
    · rename_i apart
      rw [others other apart]
      exact good.tidy other
  subscribed := good.subscribed
  received := good.received

theorem Good.onward (good : Good state) {round : Round}
    (token : ∀ token, round.token = some token → token.instanceId = instanceId)
    (inRound : InRound (box state instanceId) round)
    (done : round.done = (state.rounds instanceId).done) :
    Good (enter state instanceId round) := by
  apply good.round good.distinct good.holder token
  · intro row held
    exact ⟨row, held, rfl, rfl, rfl, rfl⟩
  · intro other _
    rfl
  · exact (good.tidy instanceId).enter inRound done

theorem Good.tick (good : Good state) (hrtime : Nat) : Good { state with hrtime := hrtime } where
  distinct := good.distinct
  holder := good.holder
  tokens := good.tokens
  own := good.own
  tidy := good.tidy
  subscribed := good.subscribed
  received := good.received

/-- A round stamps some of its candidates. -/
theorem Good.stamped (good : Good state) {ids : List Nat} {claimable : MessageRow → Bool}
    {round : Round} (holds : (state.rounds instanceId).token = some token)
    (still : round.token = some token)
    (present : ∀ id ∈ ids, ∃ row ∈ box state instanceId, row.id = id)
    (inRound : InRound ((box state instanceId).map (stampRow token ids claimable)) round)
    (done : round.done = (state.rounds instanceId).done) :
    Good { enter state instanceId round with rows := stamp state.rows token ids claimable } := by
  have mine := good.tokens instanceId token holds
  -- The rows of the ids are the instance's.
  have own : ∀ row ∈ state.rows, row.id ∈ ids → row.recipient = instanceId := by
    intro row held listed
    obtain ⟨candidate, candidates, same⟩ := present row.id listed
    obtain ⟨inTable, recipient⟩ := mem_box.mp candidates
    rw [good.row_eq held inTable same.symm, recipient]
  rw [stamp_eq_map]
  apply good.round
  · rw [List.map_map]
    have ids : (fun row : MessageRow => row.id) ∘ stampRow token ids claimable =
        fun row => row.id := by
      funext row
      exact stampRow_id _ _ _ row
    rw [ids]
    exact good.distinct
  · intro row held other claimed
    obtain ⟨before, old, rfl⟩ := List.mem_map.mp held
    rw [stampRow_recipient]
    rcases stampRow_claimedBy token ids claimable before with same | ⟨listed, new⟩
    · rw [same] at claimed
      exact good.holder before old other claimed
    · obtain rfl := Option.some.inj (new.symm.trans claimed)
      rw [mine, own before old listed]
  · intro other found
    rw [still] at found
    obtain rfl := Option.some.inj found
    exact mine
  · intro row held
    obtain ⟨before, old, rfl⟩ := List.mem_map.mp held
    exact ⟨before, old, by simp, by simp, by simp, by simp⟩
  · intro other apart
    rw [← stamp_eq_map, box_stamp]
    apply map_stampRow_of_notMem
    intro row held listed
    obtain ⟨inTable, recipient⟩ := mem_box.mp held
    exact apart (recipient.symm.trans (own row inTable listed))
  · rw [← stamp_eq_map, box_stamp]
    exact (good.tidy instanceId).map (stampRow_id token ids claimable)
      (stampRow_number token ids claimable) inRound done

theorem Good.stampedBy_box (good : Good state)
    (holds : (state.rounds instanceId).token = some token) :
    stampedBy state.rows token = stampedBy (box state instanceId) token := by
  rw [stampedBy, stampedBy, box, List.filter_filter]
  apply List.filter_congr
  intro row held
  rw [Bool.eq_iff_iff, Bool.and_eq_true, decide_eq_true_iff, decide_eq_true_iff]
  constructor
  · intro claimed
    refine ⟨claimed, ?_⟩
    rw [← good.holder row held token claimed, good.tokens instanceId token holds]
  · exact And.left

theorem Good.select (good : Good state) {order : List MessageRow}
    (holds : state.rounds instanceId = .stamped token)
    (all : order.Perm (stampedBy state.rows token))
    (ordered : (order.filter fun row => row.number.isSome).Pairwise
      fun row other => row.id < other.id) :
    Good (enter state instanceId (.handling token order [])) := by
  have holdsToken : (state.rounds instanceId).token = some token := by rw [holds]; rfl
  have front : Front token (box state instanceId) := by
    have inRound := (good.tidy instanceId).inRound
    rwa [holds] at inRound
  rw [good.stampedBy_box holdsToken] at all
  apply good.onward
  · intro other found
    obtain rfl := Option.some.inj found
    exact good.tokens instanceId token holdsToken
  · exact InRound.select (good.distinct_box instanceId) front all ordered
  · rw [holds]
    rfl

theorem Good.delete (good : Good state)
    (holds : state.rounds instanceId = .handling token [] done) :
    Good { enter state instanceId .idle with rows := deleteDone state.rows token done } := by
  have mine := good.tokens instanceId token (by rw [holds]; rfl)
  apply good.round
  · exact good.distinct.sublist (List.filter_sublist.map _)
  · intro row held
    exact good.holder row (List.mem_filter.mp held).1
  · intro other found
    cases found
  · intro row held
    exact ⟨row, (List.mem_filter.mp held).1, rfl, rfl, rfl, rfl⟩
  · intro other apart
    rw [deleteDone, List.filter_filter, box]
    apply List.filter_congr
    intro row held
    rw [Bool.eq_iff_iff, Bool.and_eq_true, decide_eq_true_iff, decide_eq_true_iff]
    constructor
    · exact And.left
    · intro recipient
      refine ⟨recipient, ?_⟩
      intro both
      have owner := good.holder row held token both.2
      exact apart (recipient.symm.trans (owner.symm.trans mine))
  · have commute : (deleteDone state.rows token done).filter
        (fun row => row.recipient = instanceId) = deleteDone (box state instanceId) token done := by
      rw [deleteDone, deleteDone, box, List.filter_filter, List.filter_filter]
      apply List.filter_congr
      intro row _
      exact Bool.and_comm _ _
    rw [commute]
    have tidy := good.tidy instanceId
    rw [holds] at tidy
    exact tidy.delete (good.distinct_box instanceId)

theorem taken_take (parses : row.payload = none → row.number = none) (other : String) :
    taken (take state row) other =
      taken state other ++ if row.recipient = other then row.number.toList else [] := by
  unfold take
  cases found : row.payload with
  | none =>
    rw [parses found]
    simp
  | some event =>
    rw [taken, List.filterMap_append]
    apply congrArg
    by_cases own : row.recipient = other
    · cases row.number <;> simp [own]
    · simp [own]

/-- A row is handed over. -/
theorem Good.hand (good : Good state) {rest : List MessageRow}
    (holds : state.rounds instanceId = .handling token (row :: rest) done) :
    Good (enter (take state row) instanceId (.handling token rest (row.id :: done))) := by
  have tidy := good.tidy instanceId
  rw [holds] at tidy
  obtain ⟨held, -, -⟩ := (tidy.inRound.2.1 row).mp (List.mem_cons_self ..)
  obtain ⟨inTable, recipient⟩ := mem_box.mp held
  have parses : row.payload = none → row.number = none := by
    intro fails
    by_contra numbered
    obtain ⟨number, found⟩ := Option.ne_none_iff_exists'.mp numbered
    obtain ⟨-, -, event, payload, -⟩ := good.own row inTable number found
    rw [fails] at payload
    cases payload
  -- Of the state, only what was taken changes.
  have same : enter (take state row) instanceId (.handling token rest (row.id :: done)) =
      { enter state instanceId (.handling token rest (row.id :: done)) with
        handed := (take state row).handed } := by
    unfold take
    split <;> rfl
  have took : ∀ other, taken (enter (take state row) instanceId
      (.handling token rest (row.id :: done))) other = taken (take state row) other := by
    intro other
    rfl
  constructor
  · rw [same]
    exact good.distinct
  · rw [same]
    exact good.holder
  · intro other own found
    rw [same] at found
    dsimp only [enter] at found
    split at found
    · rename_i equal
      rw [equal]
      exact good.tokens instanceId own (by rw [holds]; exact found)
    · exact good.tokens other own found
  · rw [same]
    exact good.own
  · intro other
    rw [took, taken_take parses, same]
    change Tidy state.audiences other (box state other)
      (if other = instanceId then .handling token rest (row.id :: done) else state.rounds other) _
    split
    · rename_i equal
      rw [equal, if_pos recipient]
      apply tidy.hand (good.distinct_box instanceId)
      intro number numbered
      rw [← recipient]
      exact (good.own row inTable number numbered).2.1
    · rename_i apart
      rw [if_neg (by rw [recipient]; exact Ne.symm apart), List.append_nil]
      exact good.tidy other
  · rw [same]
    exact good.subscribed
  · intro entry listed number numbered
    rw [same] at listed ⊢
    change entry ∈ (take state row).handed at listed
    unfold take at listed
    split at listed
    · exact good.received entry listed number numbered
    · rename_i event payload
      rcases List.mem_append.mp listed with before | new
      · exact good.received entry before number numbered
      · -- A subscriber's last handler is there, or was detached.
        obtain rfl := List.mem_singleton.mp new
        obtain ⟨-, -, same, alsoPayload, published, subscribed⟩ :=
          good.own row inTable number numbered
        obtain rfl : same = event := Option.some.inj (alsoPayload.symm.trans payload)
        refine ⟨published, ?_⟩
        intro attached
        exact decide_eq_true (subscribed.resolve_right attached)

end Moves

section Runs

/-- Every move keeps what holds of all states, if rounds read back their rows in order. -/
theorem good_step (state : State) (move : Move) (next : State) (good : Good state)
    (inOrder : SelectsInOrder state move) (moved : step limit state move = some next) :
    Good next := by
  cases move with
  | attach instanceId tenant =>
    obtain rfl := Option.some.inj moved
    apply good.handlers
    · intro entry gone
      exact gone
    · intro entry here
      exact .inl (List.mem_cons_of_mem _ here)
  | detach instanceId tenant =>
    obtain rfl := Option.some.inj moved
    apply good.handlers
    · intro entry gone
      exact List.mem_cons_of_mem _ gone
    · intro entry here
      by_cases same : entry = (instanceId, tenant)
      · exact .inr (List.mem_cons.mpr (.inl same))
      · exact .inl (List.mem_filter.mpr ⟨here, decide_eq_true same⟩)
  | publish event =>
    obtain rfl := Option.some.inj moved
    exact good.publish event
  | subscribers owners =>
    dsimp only [step] at moved
    split at moved
    · rename_i event idle turn
      split at moved
      · rename_i listed
        obtain rfl := Option.some.inj moved
        exact { good with
          subscribed := by
            intro list found
            obtain rfl := Option.some.inj found
            exact ⟨listed.1, event, turn, listed.2⟩ }
      · cases moved
    · cases moved
  | insert firstId =>
    dsimp only [step] at moved
    split at moved
    · rename_i owners event read turn
      split at moved
      · rename_i free
        obtain rfl := Option.some.inj moved
        exact good.inserted read turn free.1 free.2
      · cases moved
    · cases moved
  | publishFails =>
    dsimp only [step] at moved
    split at moved
    · obtain rfl := Option.some.inj moved
      exact good.publishFails
    · cases moved
  | foreign id recipient payload =>
    dsimp only [step] at moved
    split at moved
    · rename_i free
      obtain rfl := Option.some.inj moved
      exact good.foreign free
    · cases moved
  | pick instanceId lapsed =>
    dsimp only [step] at moved
    split at moved
    · rename_i idle
      have unclaimed : ∀ row ∈ box state instanceId, row.claimedBy = none := by
        have inRound := (good.tidy instanceId).inRound
        rwa [idle] at inRound
      split at moved
      · obtain rfl := Option.some.inj moved
        exact good
      · rename_i row rest found
        obtain rfl := Option.some.inj moved
        have picked := InRound.pick limit ⟨instanceId, state.hrtime⟩ lapsed unclaimed
        rw [found] at picked
        refine (good.onward ?_ picked ?_).tick _
        · intro token same
          obtain rfl := Option.some.inj same
          rfl
        · rw [idle]
          rfl
    · cases moved
  | stampFresh instanceId =>
    dsimp only [step] at moved
    split at moved
    · rename_i token fresh lapsed picked
      obtain rfl := Option.some.inj moved
      have inRound := (good.tidy instanceId).inRound
      rw [picked] at inRound
      apply good.stamped (by rw [picked]; rfl) rfl inRound.2.2.1
      · exact ⟨inRound.2.1, Front.of_picked inRound⟩
      · rw [picked]
        rfl
    · cases moved
  | stampLapsed instanceId lapsed =>
    dsimp only [step] at moved
    split at moved
    · rename_i token ids picked
      obtain rfl := Option.some.inj moved
      have inRound := (good.tidy instanceId).inRound
      rw [picked] at inRound
      -- No claim has lapsed, since none was left by an earlier round.
      obtain ⟨rfl, front⟩ := inRound
      apply good.stamped (by rw [picked]; rfl) rfl
      · intro id listed
        cases listed
      · rw [map_stampRow_of_notMem]
        · exact front
        · intro row _ listed
          cases listed
      · rw [picked]
        rfl
    · cases moved
  | select instanceId order =>
    dsimp only [step] at moved
    split at moved
    · rename_i token stamped
      split at moved
      · rename_i all
        obtain rfl := Option.some.inj moved
        exact good.select stamped all inOrder
      · cases moved
    · cases moved
  | hand instanceId =>
    dsimp only [step] at moved
    split at moved
    · rename_i token row rest done handling
      obtain rfl := Option.some.inj moved
      exact good.hand handling
    · cases moved
  | delete instanceId =>
    dsimp only [step] at moved
    split at moved
    · rename_i token done handling
      obtain rfl := Option.some.inj moved
      exact good.delete handling
    · cases moved

theorem Good.keepsOrder (good : Good state) (instanceId : String) :
    KeepsOrder state instanceId where
  inOrder := (good.tidy instanceId).inOrder
  addressed := (good.tidy instanceId).addressed
  complete number listed := by
    obtain ⟨owners, found, among⟩ := listed
    rcases (good.tidy instanceId).complete number owners found among with took | ⟨row, held, -, own⟩
    · exact .inl took
    · obtain ⟨inTable, recipient⟩ := mem_box.mp held
      exact .inr ⟨row, inTable, recipient, own⟩
  received entry listed recipient number own := by
    rw [← recipient]
    exact good.received entry listed number own

/-- In every run whose rounds read back their rows in the order of the ids, every instance takes the
events addressed to it in publish order, each once, and none is lost. -/
theorem publish_order_kept (reached : Runs (step limit) SelectsInOrder {} state)
    (instanceId : String) : KeepsOrder state instanceId :=
  (reached.invariant good_start good_step).keepsOrder instanceId

/-- The row of an event of the run below, once a round has stamped it. -/
def stampedEvent (number : Nat) (body : String) : MessageRow where
  id := number + 1
  recipient := "worker"
  payload := some ⟨"acme", body⟩
  claimedBy := some ⟨"worker", 0⟩
  number := some number

/-- A run of two events in one round, which reads back its rows in some order. -/
def twoEvents (order : List MessageRow) : List Move :=
  [.attach "worker" "acme", .publish ⟨"acme", "started"⟩, .publish ⟨"acme", "completed"⟩,
    .subscribers ["worker"], .insert 1, .subscribers ["worker"], .insert 2,
    .pick "worker" fun _ => false, .stampFresh "worker", .stampLapsed "worker" fun _ => false,
    .select "worker" order, .hand "worker", .hand "worker", .delete "worker"]

/-- Two events that a round reads back in order are taken in order. -/
theorem two_events_kept : ∃ state, Runs (step 10) SelectsInOrder {} state ∧
    taken state "worker" = [0, 1] ∧ KeepsOrder state "worker" := by
  have permitted : ∀ move ∈ twoEvents [stampedEvent 0 "started", stampedEvent 1 "completed"],
      ∀ state, SelectsInOrder state move := by
    simp [twoEvents, SelectsInOrder, stampedEvent]
  have reached : Runs (step 10) SelectsInOrder {} _ :=
    Runs.of_allowed _ permitted .start rfl
  exact ⟨_, reached, rfl, publish_order_kept reached "worker"⟩

/-- Two events that a round reads back the other way round are taken in that order. -/
theorem two_events_swapped : ∃ state, Runs (step 10) (fun _ _ => True) {} state ∧
    taken state "worker" = [1, 0] ∧ ¬ KeepsOrder state "worker" := by
  have reached : Runs (step 10) (fun _ _ => True) {} _ :=
    Runs.of_moves (twoEvents [stampedEvent 1 "completed", stampedEvent 0 "started"]) .start rfl
  refine ⟨_, reached, rfl, ?_⟩
  intro kept
  have inOrder : [1, 0].Pairwise (· < ·) := kept.inOrder
  simp at inOrder

end Runs

end Durable.TenantEvents
