import Durable.Interleaving.Entries
import Durable.Transport.InboxKeys
import Mathlib.Data.List.Basic
import Mathlib.Tactic.ByContra

/-! Once its writes and removals are over, the key of a tenant is in the store exactly when the
tenant has a handler, as long as no removal takes a key away that the instance wants again and that
no write in flight brings back. -/

namespace Durable.InboxKeys

open Interleaving (Runs Table getElem?_set_cases moves)

section Tracking

variable {wanted later stored : List String} {writes : List (List String)}
  {removals : List Removal} {key : String} {index : Nat} {written rest : List String}

/-- A key is in the store, or a write in flight will store it. -/
def Coming (stored : List String) (writes : List (List String)) (key : String) : Prop :=
  key ∈ stored ∨ ∃ write ∈ writes, key ∈ write

/-- A removal takes a key away, after every write that would store it. -/
def Removal.Covers (removal : Removal) (writes : List (List String)) (key : String) : Prop :=
  removal.done = false ∧ key ∈ removal.keys ∧
    ∀ index write, writes[index]? = some write → key ∈ write → index ∈ removal.settling

/-- The keys that an instance wants are coming, and those that come and that it does not want will
be taken away. -/
structure Tracked (wanted stored : List String) (writes : List (List String))
    (removals : List Removal) : Prop where
  present : ∀ key ∈ wanted, Coming stored writes key
  covered : ∀ key, key ∉ wanted → Coming stored writes key →
    ∃ removal ∈ removals, removal.Covers writes key

theorem coming_append :
    Coming stored (writes ++ [written]) key ↔ Coming stored writes key ∨ key ∈ written := by
  unfold Coming
  simp only [List.mem_append, List.mem_singleton]
  constructor
  · rintro (here | ⟨write, among | rfl, listed⟩)
    · exact Or.inl (Or.inl here)
    · exact Or.inl (Or.inr ⟨write, among, listed⟩)
    · exact Or.inr listed
  · rintro ((here | ⟨write, among, listed⟩) | listed)
    · exact Or.inl here
    · exact Or.inr ⟨write, Or.inl among, listed⟩
    · exact Or.inr ⟨written, Or.inr rfl, listed⟩

theorem Tracked.write (tracked : Tracked wanted stored writes removals)
    (grows : ∀ key ∈ wanted, key ∈ later) (fresh : ∀ key ∈ later, key ∈ wanted ∨ key ∈ written)
    (own : ∀ key ∈ written, key ∈ later) : Tracked later stored (writes ++ [written]) removals where
  present key asked := by
    rw [coming_append]
    exact (fresh key asked).imp_left (tracked.present key)
  covered key unasked coming := by
    rw [coming_append] at coming
    -- An unwanted key is none of the new write, so what covered it still does.
    rcases coming with before | listed
    · obtain ⟨removal, among, undone, listed, settles⟩ :=
        tracked.covered key (fun asked => unasked (grows key asked)) before
      refine ⟨removal, among, undone, listed, ?_⟩
      intro index write found inside
      rw [List.getElem?_append] at found
      split at found
      · exact settles index write found inside
      · have last : write = written := by
          have := List.mem_of_getElem? found
          exact List.mem_singleton.mp this
        exact absurd (own key (last ▸ inside)) unasked
    · exact absurd (own key listed) unasked

theorem mem_inFlight : index ∈ inFlight writes ↔
    ∃ write, writes[index]? = some write ∧ write ≠ [] := by
  unfold inFlight
  rw [List.mem_filter, List.mem_range, decide_eq_true_eq]
  constructor
  · rintro ⟨within, unsettled⟩
    refine ⟨writes[index], List.getElem?_eq_getElem within, ?_⟩
    intro empty
    rw [List.getElem?_eq_getElem within, empty] at unsettled
    exact unsettled rfl
  · rintro ⟨write, found, unsettled⟩
    obtain ⟨within, -⟩ := List.getElem?_eq_some_iff.mp found
    refine ⟨within, ?_⟩
    rw [found]
    simpa using unsettled

theorem Tracked.withdraw (tracked : Tracked wanted stored writes removals) {gone : List String}
    (shrinks : ∀ key ∈ later, key ∈ wanted) (dropped : ∀ key ∈ wanted, key ∉ later → key ∈ gone) :
    Tracked later stored writes
      (removals ++ [{ keys := gone, settling := inFlight writes }]) where
  present key asked := tracked.present key (shrinks key asked)
  covered key unasked coming := by
    by_cases before : key ∈ wanted
    · -- The new removal waits for every write in flight.
      refine ⟨_, List.mem_append_right _ (List.mem_singleton_self _), rfl,
        dropped key before unasked, ?_⟩
      intro index write found inside
      exact mem_inFlight.mpr ⟨write, found, List.ne_nil_of_mem inside⟩
    · obtain ⟨removal, among, covers⟩ := tracked.covered key before coming
      exact ⟨removal, List.mem_append_left _ among, covers⟩

theorem mem_stow {added : String} : key ∈ stow stored added ↔ key ∈ stored ∨ key = added := by
  unfold stow
  split
  · rename_i here
    constructor
    · exact Or.inl
    · rintro (listed | rfl)
      · exact listed
      · exact here
  · rw [List.mem_append, List.mem_singleton]

theorem coming_put {next : String} (found : writes[index]? = some (next :: rest)) :
    Coming (stow stored next) (writes.set index rest) key ↔ Coming stored writes key := by
  obtain ⟨within, written⟩ := List.getElem?_eq_some_iff.mp found
  unfold Coming
  rw [mem_stow]
  constructor
  · rintro ((here | rfl) | ⟨write, among, listed⟩)
    · exact Or.inl here
    · exact Or.inr ⟨key :: rest, List.mem_of_getElem? found, List.mem_cons_self⟩
    · rcases List.mem_or_eq_of_mem_set among with before | rfl
      · exact Or.inr ⟨write, before, listed⟩
      · exact Or.inr ⟨_, List.mem_of_getElem? found, List.mem_cons_of_mem _ listed⟩
  · rintro (here | ⟨write, among, listed⟩)
    · exact Or.inl (Or.inl here)
    · obtain ⟨other, there⟩ := List.mem_iff_getElem?.mp among
      by_cases same : index = other
      · -- The write goes on: its key is the stored one, or among the rest.
        subst same
        rw [found, Option.some.injEq] at there
        subst there
        rcases List.mem_cons.mp listed with rfl | later
        · exact Or.inl (Or.inr rfl)
        · exact Or.inr ⟨rest, List.mem_set within rest, later⟩
      · refine Or.inr ⟨write, ?_, listed⟩
        apply List.mem_of_getElem?
        rw [List.getElem?_set_ne same]
        exact there

theorem Tracked.put (tracked : Tracked wanted stored writes removals) {next : String}
    (found : writes[index]? = some (next :: rest)) :
    Tracked wanted (stow stored next) (writes.set index rest) removals where
  present key asked := (coming_put found).mpr (tracked.present key asked)
  covered key unasked coming := by
    obtain ⟨removal, among, undone, listed, settles⟩ :=
      tracked.covered key unasked ((coming_put found).mp coming)
    refine ⟨removal, among, undone, listed, ?_⟩
    intro other write there inside
    rcases getElem?_set_cases there with ⟨rfl, rfl⟩ | ⟨-, before⟩
    · exact settles other _ found (List.mem_cons_of_mem _ inside)
    · exact settles other write before inside

/-- Carrying out a removal keeps track, where a wanted key that it takes away is still to be
written. -/
theorem Tracked.remove (tracked : Tracked wanted stored writes removals) {removal : Removal}
    (found : removals[index]? = some removal)
    (settled : ∀ write ∈ removal.settling, writes[write]? = some [])
    (kept : ∀ key ∈ removal.keys, key ∈ wanted → ∃ write ∈ writes, key ∈ write) :
    Tracked wanted (stored.filter (· ∉ removal.keys)) writes
      (removals.set index { removal with done := true }) where
  present key asked := by
    rcases tracked.present key asked with here | coming
    · by_cases taken : key ∈ removal.keys
      · exact Or.inr (kept key taken asked)
      · exact Or.inl (List.mem_filter.mpr ⟨here, decide_eq_true taken⟩)
    · exact Or.inr coming
  covered key unasked coming := by
    have before : Coming stored writes key := by
      rcases coming with here | later
      · exact Or.inl (List.mem_of_mem_filter here)
      · exact Or.inr later
    obtain ⟨other, among, undone, listed, settles⟩ := tracked.covered key unasked before
    obtain ⟨place, there⟩ := List.mem_iff_getElem?.mp among
    by_cases same : index = place
    · -- What covered the key is carried out: no write was left to store it, and it is taken away.
      subst same
      rw [found, Option.some.injEq] at there
      subst there
      rcases coming with here | ⟨write, along, inside⟩
      · have untaken := (List.mem_filter.mp here).2
        exact absurd listed (of_decide_eq_true untaken)
      · obtain ⟨number, stands⟩ := List.mem_iff_getElem?.mp along
        have finished := settled number (settles number write stands inside)
        rw [stands, Option.some.injEq] at finished
        rw [finished] at inside
        cases inside
    · refine ⟨other, ?_, undone, listed, settles⟩
      apply List.mem_of_getElem?
      rw [List.getElem?_set_ne same]
      exact there

end Tracking

section Names

variable {keyPrefix instanceId tenant other : String}

theorem tenantSubscriberKey_inj
    (same : tenantSubscriberKey keyPrefix tenant instanceId =
      tenantSubscriberKey keyPrefix other instanceId) : tenant = other := by
  unfold tenantSubscriberKey tenantSubscriberKeyPrefix at same
  have fronts := String.append_left_inj _ |>.mp (String.append_left_inj _ |>.mp same)
  exact Percent.encode_inj (String.append_right_inj _ |>.mp fronts)

theorem tenantSubscriberKey_ne_inboxKey :
    tenantSubscriberKey keyPrefix tenant instanceId ≠ inboxKey keyPrefix instanceId := by
  intro same
  unfold tenantSubscriberKey tenantSubscriberKeyPrefix inboxKey at same
  simp only [String.append_assoc] at same
  have behind := congrArg String.toList (String.append_right_inj _ |>.mp same)
  simp only [String.toList_append] at behind
  have one : "-tenant-subscriber:".toList = '-' :: 't' :: "enant-subscriber:".toList := by decide
  have two : "-inbox:".toList = '-' :: 'i' :: "nbox:".toList := by decide
  -- The second characters differ.
  rw [one, two] at behind
  have second := (List.cons.inj (List.cons.inj behind).2).1
  revert second
  decide

end Names

section Steps

variable {keyPrefix instanceId : String} {state next : State} {tenant key : String}
  {handler : Nat}

def State.HasHandler (state : State) (tenant : String) : Prop :=
  ∃ handlers, state.tenantEventHandlers.get tenant = some handlers ∧ handlers ≠ []

/-- What a removal takes away and the instance wants again is still to be written, and nothing is
subscribed once the instance is closed. -/
def Allowed (keyPrefix instanceId : String) (state : State) : Move → Prop
  | .remove index => ∀ removal, state.removals[index]? = some removal →
      ∀ key ∈ removal.keys, key ∈ state.keys keyPrefix instanceId →
        ∃ write ∈ state.writes, key ∈ write
  | .onTenantEvent .. => state.closed = false
  | .activateInbox => state.closed = false
  | _ => True

/-- What holds in every state that such runs reach. -/
structure Good (keyPrefix instanceId : String) (state : State) : Prop where
  tracked : Tracked (state.keys keyPrefix instanceId) state.stored state.writes state.removals
  handlers : ∀ tenant handlers, state.tenantEventHandlers.get tenant = some handlers →
    handlers ≠ []
  subscribed : state.closed = false →
    ∀ tenant, tenant ∈ state.tenants ↔ (state.tenantEventHandlers.get tenant).isSome = true
  shut : state.closed = true →
    state.tenants = [] ∧ state.inboxActive = false ∧ state.refreshing = false

theorem mem_keys : key ∈ state.keys keyPrefix instanceId ↔
    state.inboxActive = true ∧ key = inboxKey keyPrefix instanceId ∨
      ∃ tenant ∈ state.tenants, tenantSubscriberKey keyPrefix tenant instanceId = key := by
  unfold State.keys
  rw [List.mem_append, List.mem_map]
  cases state.inboxActive <;> simp

/-- A handler more, of a tenant that has one or is subscribed to anew, keeps all that. -/
theorem Good.onTenantEvent (good : Good keyPrefix instanceId state) (opened : state.closed = false)
    (tenant : String) (handler : Nat) :
    Good keyPrefix instanceId
      (InboxKeys.onTenantEvent keyPrefix instanceId state tenant handler) := by
  unfold InboxKeys.onTenantEvent
  dsimp only
  have given : (if handler ∈ (state.tenantEventHandlers.get tenant).getD [] then
      (state.tenantEventHandlers.get tenant).getD []
    else (state.tenantEventHandlers.get tenant).getD [] ++ [handler]) ≠ [] := by
    split
    · rename_i listed
      exact List.ne_nil_of_mem listed
    · exact List.append_ne_nil_of_right_ne_nil _ (List.cons_ne_nil _ _)
  generalize (if handler ∈ (state.tenantEventHandlers.get tenant).getD [] then
      (state.tenantEventHandlers.get tenant).getD []
    else (state.tenantEventHandlers.get tenant).getD [] ++ [handler]) = handlers at given
  have some_handlers : ∀ other held,
      (state.tenantEventHandlers.set tenant handlers).get other = some held → held ≠ [] := by
    intro other held found
    rw [Table.get_set] at found
    split at found
    · cases found
      exact given
    · exact good.handlers other held found
  have isSome (other : String) :
      ((state.tenantEventHandlers.set tenant handlers).get other).isSome = true ↔
        tenant = other ∨ other ∈ state.tenants := by
    rw [Table.get_set, good.subscribed opened]
    by_cases same : tenant = other
    · simp [same]
    · simp [same]
  unfold subscribe
  split
  · rename_i subscribed
    refine ⟨good.tracked, some_handlers, ?_, good.shut⟩
    intro _ other
    rw [isSome]
    constructor
    · exact Or.inr
    · rintro (rfl | listed)
      · exact subscribed
      · exact listed
  · refine ⟨?_, some_handlers, ?_, ?_⟩
    · -- The new subscription writes all the keys that the instance now wants.
      apply good.tracked.write
      · intro key asked
        rw [mem_keys] at asked ⊢
        rcases asked with ⟨-, inbox⟩ | ⟨other, listed, named⟩
        · exact Or.inl ⟨rfl, inbox⟩
        · exact Or.inr ⟨other, List.mem_append_left _ listed, named⟩
      · exact fun key asked => Or.inr asked
      · exact fun key written => written
    · intro _ other
      show other ∈ state.tenants ++ [tenant] ↔
        ((state.tenantEventHandlers.set tenant handlers).get other).isSome = true
      rw [isSome, List.mem_append, List.mem_singleton]
      constructor
      · rintro (listed | rfl)
        · exact Or.inr listed
        · exact Or.inl rfl
      · rintro (rfl | listed)
        · exact Or.inr rfl
        · exact Or.inl listed
    · intro shut
      exact absurd (opened.symm.trans shut) Bool.false_ne_true

/-- The end of a subscription, when its tenant's last handler goes, keeps all that. -/
theorem Good.unsubscribe (good : Good keyPrefix instanceId state) (tenant : String) :
    Good keyPrefix instanceId (InboxKeys.unsubscribe keyPrefix instanceId
      { state with tenantEventHandlers := state.tenantEventHandlers.erase tenant } tenant) := by
  have some_handlers : ∀ other held,
      (state.tenantEventHandlers.erase tenant).get other = some held → held ≠ [] := by
    intro other held found
    rw [Table.get_erase] at found
    split at found
    · cases found
    · exact good.handlers other held found
  unfold InboxKeys.unsubscribe
  split
  · refine ⟨?_, some_handlers, ?_, ?_⟩
    · apply good.tracked.withdraw
      · intro key asked
        rw [mem_keys] at asked ⊢
        rcases asked with inbox | ⟨other, listed, named⟩
        · exact Or.inl inbox
        · exact Or.inr ⟨other, List.mem_of_mem_filter listed, named⟩
      · intro key asked unasked
        rw [mem_keys] at asked unasked
        rcases asked with inbox | ⟨other, listed, named⟩
        · exact absurd (Or.inl inbox) unasked
        · -- Of the subscriber keys only that of the tenant is no longer wanted.
          by_cases same : other = tenant
          · subst same
            exact List.mem_singleton.mpr named.symm
          · have kept : other ∈ state.tenants.filter (· ≠ tenant) :=
              List.mem_filter.mpr ⟨listed, decide_eq_true same⟩
            exact absurd (Or.inr ⟨other, kept, named⟩) unasked
    · intro opened other
      show other ∈ state.tenants.filter (· ≠ tenant) ↔
        ((state.tenantEventHandlers.erase tenant).get other).isSome = true
      rw [Table.get_erase, List.mem_filter, good.subscribed opened, decide_eq_true_eq]
      by_cases same : tenant = other
      · simp [same]
      · simp [same, Ne.symm same]
    · intro shut
      obtain ⟨none, inactive, still⟩ := good.shut shut
      refine ⟨?_, inactive, still⟩
      show state.tenants.filter (· ≠ tenant) = []
      rw [none]
      rfl
  · rename_i absent
    refine ⟨good.tracked, some_handlers, ?_, good.shut⟩
    intro opened other
    rw [Table.get_erase, good.subscribed opened]
    by_cases same : tenant = other
    · subst same
      have unhandled := (good.subscribed opened tenant).not.mp absent
      simpa using unhandled
    · simp [same]

theorem Good.offTenantEvent (good : Good keyPrefix instanceId state) (tenant : String)
    (handler : Nat) :
    Good keyPrefix instanceId
      (InboxKeys.offTenantEvent keyPrefix instanceId state tenant handler) := by
  unfold InboxKeys.offTenantEvent
  split
  · exact good
  · rename_i handlers found
    split
    · split
      · exact good.unsubscribe tenant
      · rename_i other rest left
        refine ⟨good.tracked, ?_, ?_, good.shut⟩
        · intro each held stored
          rw [Table.get_set] at stored
          split at stored
          · cases stored
            exact List.cons_ne_nil _ _
          · exact good.handlers each held stored
        · intro opened each
          rw [good.subscribed opened, Table.get_set]
          by_cases same : tenant = each
          · subst same
            simp [found]
          · simp [same]
    · exact good

theorem Good.activateInbox (good : Good keyPrefix instanceId state)
    (opened : state.closed = false) :
    Good keyPrefix instanceId (InboxKeys.activateInbox keyPrefix instanceId state) := by
  unfold InboxKeys.activateInbox
  split
  · exact good
  · refine ⟨?_, good.handlers, good.subscribed, ?_⟩
    · apply good.tracked.write
      · intro key asked
        rw [mem_keys] at asked ⊢
        exact asked.imp_left fun inbox => ⟨rfl, inbox.2⟩
      · intro key asked
        rw [mem_keys] at asked
        rw [mem_keys]
        rcases asked with inbox | named
        · exact Or.inr (List.mem_singleton.mpr inbox.2)
        · exact Or.inl (Or.inr named)
      · intro key written
        rw [mem_keys]
        exact Or.inl ⟨rfl, List.mem_singleton.mp written⟩
    · intro shut
      exact absurd (opened.symm.trans shut) Bool.false_ne_true

theorem Good.close (good : Good keyPrefix instanceId state) :
    Good keyPrefix instanceId (InboxKeys.close keyPrefix instanceId state) := by
  unfold InboxKeys.close
  dsimp only
  split
  · rename_i empty
    refine ⟨?_, good.handlers, ?_, fun _ => ⟨rfl, rfl, rfl⟩⟩
    · have tracked := good.tracked
      rw [empty] at tracked
      exact tracked
    · intro opened
      cases opened
  · refine ⟨?_, good.handlers, ?_, fun _ => ⟨rfl, rfl, rfl⟩⟩
    · apply good.tracked.withdraw
      · intro key asked
        exact absurd asked List.not_mem_nil
      · intro key asked _
        exact asked
    · intro opened
      cases opened

theorem Good.step (good : Good keyPrefix instanceId state) {move : Move}
    (allowed : Allowed keyPrefix instanceId state move)
    (moved : InboxKeys.step keyPrefix instanceId state move = some next) :
    Good keyPrefix instanceId next := by
  cases move with
  | onTenantEvent tenant handler =>
    obtain rfl := Option.some.inj moved
    exact good.onTenantEvent allowed tenant handler
  | offTenantEvent tenant handler =>
    obtain rfl := Option.some.inj moved
    exact good.offTenantEvent tenant handler
  | activateInbox =>
    obtain rfl := Option.some.inj moved
    exact good.activateInbox allowed
  | refresh =>
    rw [InboxKeys.step, Option.ite_none_right_eq_some, Option.some.injEq] at moved
    obtain ⟨-, rfl⟩ := moved
    have tracked := good.tracked.write (fun key asked => asked) (fun key asked => Or.inl asked)
      (fun key (written : key ∈ state.keys keyPrefix instanceId) => written)
    exact ⟨tracked, good.handlers, good.subscribed, good.shut⟩
  | close =>
    obtain rfl := Option.some.inj moved
    exact good.close
  | put index =>
    simp only [InboxKeys.step] at moved
    split at moved
    · rename_i found
      obtain rfl := Option.some.inj moved
      exact ⟨good.tracked.put found, good.handlers, good.subscribed, good.shut⟩
    · cases moved
  | remove index =>
    simp only [InboxKeys.step] at moved
    split at moved
    · cases moved
    · rename_i removal found
      rw [Option.ite_none_right_eq_some, Option.some.injEq] at moved
      obtain ⟨⟨-, settled⟩, rfl⟩ := moved
      exact ⟨good.tracked.remove found settled (allowed removal found), good.handlers,
        good.subscribed, good.shut⟩

end Steps

section Runs

variable {keyPrefix instanceId : String} {state : State}

/-- Every write and every removal is over. -/
def Settled (state : State) : Prop :=
  (∀ write ∈ state.writes, write = []) ∧ ∀ removal ∈ state.removals, removal.done = true

/-- The key of a tenant is stored exactly when the tenant has a handler; once the instance is closed
none of its keys is. -/
structure KeysRight (keyPrefix instanceId : String) (state : State) : Prop where
  subscribers : state.closed = false → ∀ tenant,
    tenantSubscriberKey keyPrefix tenant instanceId ∈ state.stored ↔ state.HasHandler tenant
  closed : state.closed = true → inboxKey keyPrefix instanceId ∉ state.stored ∧
    ∀ tenant, tenantSubscriberKey keyPrefix tenant instanceId ∉ state.stored

theorem Good.stored_iff (good : Good keyPrefix instanceId state) (settled : Settled state)
    {key : String} : key ∈ state.stored ↔ key ∈ state.keys keyPrefix instanceId := by
  have still (write : List String) (among : write ∈ state.writes) : key ∉ write := by
    rw [settled.1 write among]
    exact List.not_mem_nil
  constructor
  · intro here
    by_contra unasked
    obtain ⟨removal, among, undone, -⟩ := good.tracked.covered key unasked (Or.inl here)
    rw [settled.2 removal among] at undone
    cases undone
  · intro asked
    rcases good.tracked.present key asked with here | ⟨write, among, listed⟩
    · exact here
    · exact absurd listed (still write among)

/-- In every run whose steps are allowed, once all is settled the key of a tenant is in the store
exactly when the tenant has a handler, and none is once the instance is closed. -/
theorem subscriber_keys_kept
    (reached : Runs (step keyPrefix instanceId) (Allowed keyPrefix instanceId) {} state)
    (settled : Settled state) : KeysRight keyPrefix instanceId state := by
  have begins : Good keyPrefix instanceId {} := by
    refine ⟨⟨?_, ?_⟩, ?_, ?_, ?_⟩
    · intro key asked
      exact absurd asked List.not_mem_nil
    · rintro key - (here | ⟨write, among, -⟩)
      · exact absurd here List.not_mem_nil
      · exact absurd among List.not_mem_nil
    · intro tenant handlers found
      cases found
    · intro _ tenant
      exact iff_of_false List.not_mem_nil Bool.false_ne_true
    · intro shut
      cases shut
  have good := reached.invariant begins fun _ _ _ good allowed moved => good.step allowed moved
  constructor
  · intro opened tenant
    rw [good.stored_iff settled, mem_keys]
    constructor
    · rintro (⟨-, same⟩ | ⟨other, listed, named⟩)
      · exact absurd same tenantSubscriberKey_ne_inboxKey
      · obtain rfl := tenantSubscriberKey_inj named
        obtain ⟨handlers, found⟩ := Option.isSome_iff_exists.mp
          ((good.subscribed opened other).mp listed)
        exact ⟨handlers, found, good.handlers other handlers found⟩
    · rintro ⟨handlers, found, -⟩
      have listed := (good.subscribed opened tenant).mpr (by rw [found]; rfl)
      exact Or.inr ⟨tenant, listed, rfl⟩
  · intro shut
    obtain ⟨none, inactive, -⟩ := good.shut shut
    have unwanted (key : String) : key ∉ state.stored := by
      rw [good.stored_iff settled, mem_keys, none, inactive]
      simp
    exact ⟨unwanted _, fun tenant => unwanted _⟩

/-- A tenant's handler goes and another comes, and the removal that the first had started is carried
out last. -/
def resubscribed : List Move :=
  [.onTenantEvent "acme" 0, .put 0, .put 0, .offTenantEvent "acme" 0, .onTenantEvent "acme" 1,
    .put 1, .put 1, .remove 0]

/-- A tenant is subscribed to, and the keys are written: the keys in the store are right. -/
theorem first_subscription_right :
    ∃ state, state.tenants = ["acme"] ∧ KeysRight "durable" "pod" state := by
  have opened : Allowed "durable" "pod" {} (.onTenantEvent "acme" 0) := rfl
  have put (state : State) : Allowed "durable" "pod" state (.put 0) := trivial
  have subscribed : Runs (step "durable" "pod") (Allowed "durable" "pod") {} _ :=
    .step .start opened rfl
  have written := (subscribed.step (put _) rfl).step (put _) rfl
  refine ⟨_, rfl, subscriber_keys_kept written ?_⟩
  constructor
  · decide +kernel
  · decide +kernel

/-- A removal that was started before the tenant was subscribed to again takes its key away: the
tenant has a handler, and its key is not in the store. -/
theorem resubscribed_key_removed :
    ¬ ∀ (keyPrefix instanceId : String) (state : State),
      Runs (step keyPrefix instanceId) (fun _ _ => True) {} state → Settled state →
        KeysRight keyPrefix instanceId state := by
  intro right
  have lost : (moves (step "durable" "pod") {} resubscribed).any fun state =>
      decide ((∀ write ∈ state.writes, write = []) ∧
        (∀ removal ∈ state.removals, removal.done = true) ∧ state.closed = false ∧
        state.tenantEventHandlers.get "acme" = some [1] ∧
        tenantSubscriberKey "durable" "acme" "pod" ∉ state.stored) := by
    decide +kernel
  obtain ⟨state, ran, found⟩ := Option.any_eq_true _ _ |>.mp lost
  obtain ⟨writes, removals, opened, handled, missing⟩ := of_decide_eq_true found
  have reached := Runs.of_moves _ .start ran
  have kept := right "durable" "pod" state reached ⟨writes, removals⟩
  exact missing ((kept.subscribers opened "acme").mpr ⟨[1], handled, List.cons_ne_nil _ _⟩)

end Runs

end Durable.InboxKeys
