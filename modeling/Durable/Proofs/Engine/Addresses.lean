import Durable.Proofs.Engine.ChainNotifications

/-! The engine's addresses are told apart and read back just when what they are made of is plain. -/

namespace Durable.Addresses

section Usage

/-- One key of an entity. -/
structure EntityKey where
  name : String
  key : String
deriving Repr, DecidableEq

/-- A run that a lifecycle event starts. -/
structure LifecycleRun where
  source : String
  kind : LifecycleKind
  subscriber : String
deriving Repr, DecidableEq

/-- An accumulator of a target. -/
structure Accumulator where
  target : String
  key : Option String
deriving Repr, DecidableEq

/-- One `waitForEvent` call. -/
structure EventWait (Number : Type) where
  name : String
  asked : Option (EventMatch Number)
  runId : String
  seq : Nat

/-- One `waitForRun` call. -/
structure RunWait where
  target : String
  runId : String
  seq : Nat
deriving Repr, DecidableEq

/-- A run that settles, and its workflow. -/
structure SettledRun where
  runId : String
  workflow : Option String
deriving Repr, DecidableEq

/-- What an engine makes addresses of, and the rows that it selects waiters from. -/
structure Usage (Number : Type) where
  configs : String → Bool
  entities : List EntityKey
  lifecycleRuns : List LifecycleRun
  accumulators : List Accumulator
  eventWaits : List (EventWait Number)
  events : List String
  runWaits : List RunWait
  waiters : List Waiter
  settled : List SettledRun

variable {Number : Type} (numbers : JsonValue.NumberFormat Number)
  (replaced : ByteArray → String) (usage : Usage Number)

/-- The run of an entity's key. -/
def EntityKey.id (entity : EntityKey) : String := entityRunId entity.name entity.key

/-- The id of a run that a lifecycle event starts. -/
def LifecycleRun.id (run : LifecycleRun) : String :=
  lifecycleRunId run.source run.kind run.subscriber

/-- The id of an accumulator. -/
def Accumulator.id (accumulator : Accumulator) : String :=
  accumulatorRunId accumulator.target accumulator.key

/-- The token of an event wait. -/
def EventWait.token (wait : EventWait Number) : String :=
  eventToken numbers wait.name wait.asked wait.runId wait.seq

/-- The waiter that a wait for a run registers. -/
def RunWait.waiter (wait : RunWait) : Waiter :=
  ⟨runWaitToken wait.target wait.runId wait.seq, wait.runId, wait.seq⟩

/-- Addresses are told apart, and read back as they were made. -/
structure Exact : Prop where
  entities : ∀ one ∈ usage.entities, ∀ other ∈ usage.entities, one.id = other.id → one = other
  kicked : ∀ entity ∈ usage.entities, usage.configs entity.name = true →
    kickRunId usage.configs entity.id = some (entity.name, entity.key)
  lifecycleRuns : ∀ one ∈ usage.lifecycleRuns, ∀ other ∈ usage.lifecycleRuns,
    one.id = other.id → one = other
  sources : ∀ run ∈ usage.lifecycleRuns,
    lifecycleSourceOf run.id run.subscriber = some (run.source, run.kind)
  accumulators : ∀ one ∈ usage.accumulators, ∀ other ∈ usage.accumulators,
    one.id = other.id → one = other
  eventWaits : ∀ one ∈ usage.eventWaits, ∀ other ∈ usage.eventWaits,
    one.token numbers = other.token numbers → one = other
  events : ∀ wait ∈ usage.eventWaits, eventNameOf replaced (wait.token numbers) = wait.name ∧
    eventMatchOf numbers replaced (wait.token numbers) = .obj (criteria wait.asked)
  /-- The prefix of an event is one of the tokens of its own waits, and of no others. -/
  prefixes : ∀ name ∈ usage.events,
    (∀ wait ∈ usage.eventWaits,
      startsWith (wait.token numbers) (eventPrefix name) = true ↔ wait.name = name) ∧
    ∀ wait ∈ usage.runWaits, startsWith wait.waiter.token (eventPrefix name) = false
  runWaits : ∀ one ∈ usage.runWaits, ∀ other ∈ usage.runWaits,
    one.waiter.token = other.waiter.token → one = other
  targets : ∀ wait ∈ usage.runWaits, runWaitTargetOf wait.waiter = some wait.target
  /-- The waiters notified are those that wait for the settled run, or for one that it continues. -/
  notified : ∀ run ∈ usage.settled, ∀ waiter ∈ usage.waiters,
    waiter ∈ notifyRunWaiters usage.waiters run.runId run.workflow ↔
      ∃ target, WaitsOn waiter target ∧ Awaited run.runId target

/-- Names, keys and ids are plain enough to be told apart. -/
structure Plain : Prop where
  /-- No entity's name goes on with what another one's key begins with. -/
  entities : ∀ one ∈ usage.entities, ∀ other ∈ usage.entities,
    ¬ NameGoesOn one.name one.key other.name other.key
  kicked : ∀ entity ∈ usage.entities, usage.configs entity.name = true →
    entity.name ≠ "" ∧ ':' ∉ entity.name.toList
  /-- No run's id goes on with what another one's subscriber begins with. -/
  lifecycleRuns : ∀ one ∈ usage.lifecycleRuns, ∀ other ∈ usage.lifecycleRuns,
    ¬ SourceGoesOn one.source one.kind one.subscriber other.source other.kind other.subscriber
  sources : ∀ run ∈ usage.lifecycleRuns, run.source ≠ ""
  /-- No target without a key reads as another one with its key. -/
  accumulators : ∀ one ∈ usage.accumulators, ∀ other ∈ usage.accumulators,
    ¬ ReadsAsKeyed one.target one.key other.target other.key
  /-- No call waits both without a match and with an empty one. -/
  eventWaits : ∀ one ∈ usage.eventWaits, ∀ other ∈ usage.eventWaits, one.name = other.name →
    one.runId = other.runId → one.seq = other.seq → one.asked = none →
    ∀ asked, other.asked = some asked → asked.fields ≠ []
  /-- No target goes on with what the id of another waiting run begins with, for calls at one
  position. -/
  runWaits : ∀ one ∈ usage.runWaits, ∀ other ∈ usage.runWaits, one.seq = other.seq →
    ¬ TargetGoesOn one.target one.runId other.target other.runId
  targets : ∀ wait ∈ usage.runWaits, wait.target ≠ ""
  /-- Nobody waits for a run of the engine's own, or for one that such a run continues. -/
  internal : ∀ run ∈ usage.settled, isInternal run.workflow = true → ∀ waiter ∈ usage.waiters,
    ∀ target, WaitsOn waiter target → ¬ Awaited run.runId target
  /-- No wait is missed, and none is mistaken for one on another run. -/
  waiters : ∀ run ∈ usage.settled, isInternal run.workflow = false → ∀ waiter ∈ usage.waiters,
    (∀ target, WaitsOn waiter target →
      ¬ Missed run.runId target ∧ ¬ Mistaken run.runId target) ∧
    ((∀ target, ¬ WaitsOn waiter target) → ¬ TakesUnread run.runId waiter.token)

variable {usage}

theorem ne_goesOn (text mark more : String) (some_ : mark ≠ "") : text ≠ text ++ mark ++ more := by
  intro same
  have lengths := congrArg (fun text : String => text.toList.length) same
  have nonempty : mark.toList.length ≠ 0 := by
    intro none
    exact some_ (String.toList_eq_nil_iff.mp (List.length_eq_zero_iff.mp none))
  simp only [String.toList_append, List.length_append] at lengths
  omega

theorem entities_iff {entities : List EntityKey} :
    (∀ one ∈ entities, ∀ other ∈ entities, one.id = other.id → one = other) ↔
      ∀ one ∈ entities, ∀ other ∈ entities, ¬ NameGoesOn one.name one.key other.name other.key := by
  constructor
  · intro apart one listed other listed' goesOn
    have same := apart one listed other listed' (entityRunId_eq_iff.mpr (.inr (.inl goesOn)))
    obtain ⟨more, longer, -⟩ := goesOn
    rw [same] at longer
    exact ne_goesOn _ _ _ (by decide) longer
  · intro plain one listed other listed' same
    rcases entityRunId_eq_iff.mp same with ⟨names, keys⟩ | goesOn | goesOn
    · cases one
      cases other
      cases names
      cases keys
      rfl
    · exact absurd goesOn (plain one listed other listed')
    · exact absurd goesOn (plain other listed' one listed)

theorem lifecycleRuns_iff {runs : List LifecycleRun} :
    (∀ one ∈ runs, ∀ other ∈ runs, one.id = other.id → one = other) ↔
      ∀ one ∈ runs, ∀ other ∈ runs,
        ¬ SourceGoesOn one.source one.kind one.subscriber other.source other.kind
          other.subscriber := by
  constructor
  · intro apart one listed other listed' goesOn
    have same := apart one listed other listed' (lifecycleRunId_eq_iff.mpr (.inr (.inl goesOn)))
    rw [same] at goesOn
    rcases goesOn with ⟨longer, -⟩ | ⟨more, longer, -⟩
    · exact ne_goesOn _ _ _ (by decide) longer
    · rw [String.append_assoc, String.append_assoc] at longer
      exact ne_goesOn other.source ":" (other.kind.text ++ (":" ++ more)) (by decide) longer
  · intro plain one listed other listed' same
    rcases lifecycleRunId_eq_iff.mp same with ⟨sources, kinds, subscribers⟩ | goesOn | goesOn
    · cases one
      cases other
      cases sources
      cases kinds
      cases subscribers
      rfl
    · exact absurd goesOn (plain one listed other listed')
    · exact absurd goesOn (plain other listed' one listed)

theorem accumulators_iff {accumulators : List Accumulator} :
    (∀ one ∈ accumulators, ∀ other ∈ accumulators, one.id = other.id → one = other) ↔
      ∀ one ∈ accumulators, ∀ other ∈ accumulators,
        ¬ ReadsAsKeyed one.target one.key other.target other.key := by
  constructor
  · intro apart one listed other listed' keyed
    have same := apart one listed other listed' (accumulatorRunId_eq_iff.mpr (.inr (.inl keyed)))
    obtain ⟨bare, key, keyed, -⟩ := keyed
    rw [same, keyed] at bare
    cases bare
  · intro plain one listed other listed' same
    rcases accumulatorRunId_eq_iff.mp same with ⟨targets, keys⟩ | keyed | keyed
    · cases one
      cases other
      cases targets
      cases keys
      rfl
    · exact absurd keyed (plain one listed other listed')
    · exact absurd keyed (plain other listed' one listed)

/-- Event waits are told apart by their tokens just when no call waits both without a match and with
an empty one. -/
theorem eventWaits_iff {waits : List (EventWait Number)} :
    (∀ one ∈ waits, ∀ other ∈ waits, one.token numbers = other.token numbers → one = other) ↔
      ∀ one ∈ waits, ∀ other ∈ waits, one.name = other.name → one.runId = other.runId →
        one.seq = other.seq → one.asked = none → ∀ asked, other.asked = some asked →
        asked.fields ≠ [] := by
  constructor
  · intro apart one listed other listed' names runs seqs bare asked given empty
    have fields : criteria one.asked = criteria other.asked := by
      rw [bare, given]
      exact empty.symm
    have same := apart one listed other listed'
      ((eventToken_eq_iff numbers).mpr ⟨names, fields, runs, seqs⟩)
    rw [same, given] at bare
    cases bare
  · intro plain one listed other listed' same
    obtain ⟨names, fields, runs, seqs⟩ := (eventToken_eq_iff numbers).mp same
    have asked : one.asked = other.asked := by
      cases given : one.asked with
      | none =>
        cases given' : other.asked with
        | none => rfl
        | some own =>
          rw [given, given'] at fields
          exact absurd fields.symm (plain one listed other listed' names runs seqs given own given')
      | some own =>
        cases given' : other.asked with
        | none =>
          rw [given, given'] at fields
          exact absurd fields
            (plain other listed' one listed names.symm runs.symm seqs.symm given' own given)
        | some own' =>
          rw [given, given'] at fields
          cases own
          cases own'
          cases fields
          rfl
    cases one
    cases other
    cases names
    cases runs
    cases seqs
    cases asked
    rfl

theorem runWaits_iff {waits : List RunWait} :
    (∀ one ∈ waits, ∀ other ∈ waits, one.waiter.token = other.waiter.token → one = other) ↔
      ∀ one ∈ waits, ∀ other ∈ waits, one.seq = other.seq →
        ¬ TargetGoesOn one.target one.runId other.target other.runId := by
  constructor
  · intro apart one listed other listed' seqs goesOn
    have same := apart one listed other listed'
      (runWaitToken_eq_iff.mpr ⟨seqs, .inr (.inl goesOn)⟩)
    obtain ⟨more, longer, -⟩ := goesOn
    rw [same] at longer
    exact ne_goesOn _ _ _ (by decide) longer
  · intro plain one listed other listed' same
    obtain ⟨seqs, ⟨targets, runs⟩ | goesOn | goesOn⟩ := runWaitToken_eq_iff.mp same
    · cases one
      cases other
      cases targets
      cases runs
      cases seqs
      rfl
    · exact absurd goesOn (plain one listed other listed' seqs)
    · exact absurd goesOn (plain other listed' one listed seqs.symm)

theorem target_iff (wait : RunWait) :
    runWaitTargetOf wait.waiter = some wait.target ↔ wait.target ≠ "" := by
  rw [runWaitTargetOf_eq_some_iff]
  constructor
  · exact And.right
  · intro some_
    exact ⟨rfl, some_⟩

theorem startsWith_runWait (wait : RunWait) (name : String) :
    startsWith wait.waiter.token (eventPrefix name) = false := by
  rw [← Bool.not_eq_true, startsWith_iff]
  intro begins
  have token : wait.waiter.token.toList = runWaitTokenPrefix.toList ++
      (wait.target.toList ++ '#' :: (wait.runId.toList ++ '#' :: (toString wait.seq).toList)) :=
    runWaitToken_toList _ _ _
  have event : (eventPrefix name).toList = "event:".toList ++ (enc name ++ ":").toList := by
    unfold eventPrefix
    rw [String.append_assoc, String.toList_append]
  -- The tokens of the two kinds differ in their first character.
  have opening : runWaitTokenPrefix.toList = 'r' :: "unwait:".toList := by decide
  have opening' : "event:".toList = 'e' :: "vent:".toList := by decide
  rw [token, event, opening, opening', List.cons_append, List.cons_append,
    List.cons_prefix_cons] at begins
  exact absurd begins.1 (by decide)

/-- The waiters of a settled run are the ones to notify just when nobody waits for a run of the
engine's own, and no wait is missed or mistaken. -/
theorem notified_iff {waiters : List Waiter} {waiter : Waiter} (listed : waiter ∈ waiters)
    (run : SettledRun) : (waiter ∈ notifyRunWaiters waiters run.runId run.workflow ↔
      ∃ target, WaitsOn waiter target ∧ Awaited run.runId target) ↔
    (isInternal run.workflow = true → ∀ target, WaitsOn waiter target →
      ¬ Awaited run.runId target) ∧
    (isInternal run.workflow = false → (∀ target, WaitsOn waiter target →
      ¬ Missed run.runId target ∧ ¬ Mistaken run.runId target) ∧
      ((∀ target, ¬ WaitsOn waiter target) → ¬ TakesUnread run.runId waiter.token)) := by
  rw [mem_notifyRunWaiters]
  cases internal : isInternal run.workflow with
  | true => simp
  | false =>
    by_cases waits : ∃ target, WaitsOn waiter target
    · obtain ⟨target, waits⟩ := waits
      have only : ∀ holds : String → Prop,
          (∃ other, WaitsOn waiter other ∧ holds other) ↔ holds target := by
        intro holds
        constructor
        · rintro ⟨other, waits', here⟩
          rw [waits.unique waits']
          exact here
        · intro here
          exact ⟨target, waits, here⟩
      have every : (∀ other, WaitsOn waiter other →
          ¬ Missed run.runId other ∧ ¬ Mistaken run.runId other) ↔
          ¬ Missed run.runId target ∧ ¬ Mistaken run.runId target := by
        constructor
        · intro all
          exact all target waits
        · intro own other waits'
          rw [← waits.unique waits']
          exact own
      have none : ¬ ∀ other, ¬ WaitsOn waiter other := fun none => none target waits
      rw [only, every, missed_iff waits, mistaken_iff waits]
      simp only [listed, none, true_and, Bool.false_eq_true, false_implies, forall_const,
        and_true]
      by_cases selected : Selects run.runId waiter <;>
        by_cases awaited : Awaited run.runId target <;> simp [selected, awaited]
    · have other : ∀ target, ¬ WaitsOn waiter target := fun target waits' =>
        waits ⟨target, waits'⟩
      rw [selects_other other]
      simp [listed, other]

/-- Addresses are told apart and read back, just when the names, keys and ids that they are made of
are plain. -/
theorem addresses_exact_iff : Exact numbers replaced usage ↔ Plain usage := by
  constructor
  · intro exact_
    have waiters : ∀ run ∈ usage.settled, ∀ waiter ∈ usage.waiters, _ := fun run settled waiter
      listed => (notified_iff listed run).mp (exact_.notified run settled waiter listed)
    exact {
      entities := entities_iff.mp exact_.entities
      kicked := fun entity listed known => (kickRunId_iff.mp (exact_.kicked entity listed known)).2
      lifecycleRuns := lifecycleRuns_iff.mp exact_.lifecycleRuns
      sources := fun run listed => lifecycleSourceOf_iff.mp (exact_.sources run listed)
      accumulators := accumulators_iff.mp exact_.accumulators
      eventWaits := (eventWaits_iff numbers).mp exact_.eventWaits
      runWaits := runWaits_iff.mp exact_.runWaits
      targets := fun wait listed => (target_iff wait).mp (exact_.targets wait listed)
      internal := fun run settled internal waiter listed =>
        (waiters run settled waiter listed).1 internal
      waiters := fun run settled internal waiter listed =>
        (waiters run settled waiter listed).2 internal }
  · intro plain
    exact {
      entities := entities_iff.mpr plain.entities
      kicked := fun entity listed known =>
        kickRunId_iff.mpr ⟨known, plain.kicked entity listed known⟩
      lifecycleRuns := lifecycleRuns_iff.mpr plain.lifecycleRuns
      sources := fun run listed => lifecycleSourceOf_iff.mpr (plain.sources run listed)
      accumulators := accumulators_iff.mpr plain.accumulators
      eventWaits := (eventWaits_iff numbers).mpr plain.eventWaits
      events := fun wait _ => ⟨eventNameOf_eventToken numbers, eventMatchOf_eventToken numbers⟩
      prefixes := fun name _ => ⟨fun wait _ => startsWith_eventPrefix numbers,
        fun wait _ => startsWith_runWait wait name⟩
      runWaits := runWaits_iff.mpr plain.runWaits
      targets := fun wait listed => (target_iff wait).mpr (plain.targets wait listed)
      notified := fun run settled waiter listed => (notified_iff listed run).mpr
        ⟨fun internal => plain.internal run settled internal waiter listed,
          fun internal => plain.waiters run settled internal waiter listed⟩ }

/-- No numbers, for matches that hold none. -/
def noNumbers : JsonValue.NumberFormat Empty where
  toNumberText := JsonValue.noNumbers
  read _ := none
  read_write number := number.elim

/-- A chain of a hundred and fifty continuations, and a wait on the last run but one of it. -/
def longChain : Usage Empty where
  configs _ := false
  entities := []
  lifecycleRuns := []
  accumulators := []
  eventWaits := []
  events := []
  runWaits := []
  waiters := [⟨runWaitToken "poller~149" "watcher" 0, "watcher", 0⟩]
  settled := [⟨"poller~150", some "poller"⟩]

/-- The wait is not told when the last run settles: only runs whose numbers begin with fifty are. -/
theorem late_wait_missed : ¬ Exact noNumbers (fun _ => "") longChain := by
  intro exact_
  have awaited : Awaited "poller~150" "poller~149" := .inr ⟨0, by decide⟩
  have told := (exact_.notified _ List.mem_cons_self _ List.mem_cons_self).mpr ⟨_, rfl, awaited⟩
  revert told
  decide +kernel

end Usage

end Durable.Addresses
