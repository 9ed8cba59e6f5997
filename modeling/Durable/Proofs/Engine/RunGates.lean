import Mathlib.Data.List.Basic
import Durable.Engine.RunGates
import Durable.Interleaving.Entries

/-! Executions of a run in one engine: one at a time, and none that was asked for is left out. -/

namespace Durable

namespace Gates

variable {state next : Gates} {index : Nat} {gate : RunGate} {execution updated : Execution}
  {asked : Nat} {allowFailed : Bool} {move : GateMove}

/-- What holds of the gates and of the executions chained in them. -/
structure Chained (state : Gates) : Prop where
  ordered : ∀ (index : Nat) (execution : Execution), state.executions[index]? = some execution →
    (execution.phase ≠ .waiting ∨ execution.behind = none) →
      ∀ earlier < index, ∀ other : Execution, state.executions[earlier]? = some other →
        other.phase = .settled
  behind : ∀ (index : Nat) (execution : Execution) (tail : Nat), state.executions[index]? = some execution →
    execution.behind = some tail → tail + 1 = index
  closed : ∀ execution ∈ state.executions, execution.closed = true → execution.phase = .settled
  idle : state.current = none → ∀ execution ∈ state.executions, execution.phase = .settled
  tail : ∀ index, state.current = some index →
    ∃ (gate : RunGate) (execution : Execution), state.gates[index]? = some gate ∧ gate.tail + 1 = state.executions.length ∧
      state.executions[gate.tail]? = some execution ∧ execution.gate = index ∧
        execution.closed = false
  queued : ∀ (index : Nat) (gate : RunGate) (queued : Nat), state.current = some index →
    state.gates[index]? = some gate → gate.queued = some queued →
      ∃ (execution : Execution) (allowFailed : Bool), state.executions[queued]? = some execution ∧ execution.gate = index ∧
        execution.phase = .waiting ∧ execution.work = .resume allowFailed
  followed : ∀ newer older index allowFailed,
    state.history = newer ++ .requested index allowFailed :: older →
      Began newer index allowFailed ∨ state.Awaits index allowFailed

theorem chained_start : Chained {} where
  ordered := by simp
  behind := by simp
  closed := by simp
  idle := by simp
  tail := by simp
  queued := by simp
  followed := by simp

section Following

variable {events : List GateEvent} {waits : Nat → Bool → Prop}

theorem followed_cons {event : GateEvent}
    (quiet : ∀ index allowFailed, event ≠ .requested index allowFailed)
    (followed : ∀ newer older index allowFailed,
      events = newer ++ .requested index allowFailed :: older →
        Began (event :: newer) index allowFailed ∨ waits index allowFailed) :
    ∀ newer older index allowFailed,
      event :: events = newer ++ .requested index allowFailed :: older →
        Began newer index allowFailed ∨ waits index allowFailed := by
  intro newer older index allowFailed split
  cases newer with
  | nil =>
    -- The latest event is not a request.
    have same := (List.cons.inj split).1
    exact absurd same (quiet index allowFailed)
  | cons latest newer =>
    obtain ⟨rfl, rest⟩ := List.cons.inj split
    exact followed newer older index allowFailed rest

theorem followed_request {flag : Bool} (awaits : waits asked flag)
    (followed : ∀ newer older index allowFailed,
      events = newer ++ .requested index allowFailed :: older →
        Began newer index allowFailed ∨ waits index allowFailed) : ∀ newer older index allowFailed,
      .requested asked flag :: events = newer ++ .requested index allowFailed :: older →
        Began newer index allowFailed ∨ waits index allowFailed := by
  intro newer older index allowFailed split
  cases newer with
  | nil =>
    obtain ⟨same, -⟩ := List.cons.inj split
    cases same
    exact .inr awaits
  | cons latest newer =>
    obtain ⟨rfl, rest⟩ := List.cons.inj split
    refine (followed newer older index allowFailed rest).imp_left ?_
    rintro ⟨began, member, enough⟩
    exact ⟨began, List.mem_cons_of_mem _ member, enough⟩

theorem Began.later (began : Began events index allowFailed) (event : GateEvent) :
    Began (event :: events) index allowFailed := by
  obtain ⟨flag, member, enough⟩ := began
  exact ⟨flag, List.mem_cons_of_mem _ member, enough⟩

end Following

theorem Chained.settled (chained : Chained state) (absent : state.registered = none) :
    ∀ execution ∈ state.executions, execution.phase = .settled := by
  cases current : state.current with
  | none => exact chained.idle current
  | some index =>
    -- A registered gate exists.
    obtain ⟨gate, execution, found, -⟩ := chained.tail index current
    simp [registered, current, found] at absent

theorem registered_some (found : state.registered = some (index, gate)) :
    state.current = some index ∧ state.gates[index]? = some gate := by
  unfold registered at found
  cases current : state.current with
  | none => simp [current] at found
  | some held =>
    cases present : state.gates[held]? with
    | none => simp [current, present] at found
    | some kept =>
      simp only [current, present, Option.bind_eq_bind, Option.bind_some, Option.pure_def,
        Option.some.injEq, Prod.mk.injEq] at found
      obtain ⟨rfl, rfl⟩ := found
      exact ⟨rfl, present⟩

section Steps

theorem Awaits.keep (awaits : state.Awaits index allowFailed)
    (kept : ∀ execution : Execution, state.executions[index]? = some execution →
      next.executions[index]? = some execution) : next.Awaits index allowFailed := by
  obtain ⟨execution, flag, found, waiting, resumes, enough⟩ := awaits
  exact ⟨execution, flag, kept execution found, waiting, resumes, enough⟩

theorem Chained.resumeFree (chained : Chained state) (absent : state.registered = none)
    (allowFailed : Bool) (status : Option RunStatus) :
    Chained (state.resumeRun allowFailed status) := by
  have settled := chained.settled absent
  have bounded : ∀ (index : Nat) (execution : Execution),
      state.executions[index]? = some execution → index < state.executions.length := by
    intro index execution found
    exact (List.getElem?_eq_some_iff.mp found).1
  simp only [Gates.resumeRun, absent]
  refine ⟨?_, ?_, ?_, ?_, ?_, ?_, ?_⟩
  · grind
  · grind [Chained]
  · grind [Chained]
  · grind
  · -- The new gate's tail is the execution that has begun.
    intro index same
    obtain rfl : state.gates.length = index := by simpa using same
    exact ⟨{ tail := state.executions.length }, _, by simp, by simp,
      List.getElem?_concat_length, rfl, rfl⟩
  · grind
  · -- The resume that was asked for has begun.
    refine followed_cons (by simp) fun newer older index flag split => ?_
    cases newer with
    | nil =>
      obtain ⟨same, -⟩ := List.cons.inj split
      cases same
      exact .inl ⟨allowFailed, List.mem_cons_self, id⟩
    | cons latest newer =>
      obtain ⟨rfl, rest⟩ := List.cons.inj split
      rcases chained.followed newer older index flag rest with began | awaits
      · exact .inl ((began.later _).later _)
      · exact .inr (awaits.keep fun execution found => Interleaving.getElem?_append_of_some found)

theorem Chained.resumeQueued (chained : Chained state)
    (found : state.registered = some (index, gate)) (empty : gate.queued = none)
    (allowFailed : Bool) (status : Option RunStatus) :
    Chained (state.resumeRun allowFailed status) := by
  obtain ⟨current, present⟩ := registered_some found
  obtain ⟨held, last, located, length, tail, own, opened⟩ := chained.tail index current
  obtain rfl : held = gate := by simpa [located] using present
  simp only [Gates.resumeRun, found, empty]
  refine ⟨?_, ?_, ?_, ?_, ?_, ?_, ?_⟩
  · have ordered := chained.ordered
    grind
  · have behind := chained.behind
    grind
  · have closed := chained.closed
    grind
  · simp [current]
  · -- The gate's tail is the execution that was chained.
    intro other same
    obtain rfl : index = other := by simpa [current] using same
    have within := (List.getElem?_eq_some_iff.mp present).1
    exact ⟨{ tail := state.executions.length, queued := some state.executions.length }, _,
      by simp [within], by simp, List.getElem?_concat_length, rfl, rfl⟩
  · intro other gate' queued same located' waiting
    obtain rfl : index = other := by simpa [current] using same
    have within := (List.getElem?_eq_some_iff.mp present).1
    obtain rfl : gate' = _ := by simpa [within] using located'.symm
    obtain rfl : state.executions.length = queued := by simpa using waiting
    exact ⟨_, allowFailed, List.getElem?_concat_length, rfl, rfl, rfl⟩
  · refine followed_request ?_ fun newer older asked flag split => ?_
    · exact ⟨_, allowFailed, List.getElem?_concat_length, rfl, rfl, id⟩
    · refine (chained.followed newer older asked flag split).imp_right fun awaits => ?_
      exact awaits.keep fun execution found => Interleaving.getElem?_append_of_some found

/-- A resume at a gate that another is queued in coalesces into it. -/
theorem Chained.resumeCoalesced (chained : Chained state) {queued : Nat}
    (found : state.registered = some (index, gate)) (waiting : gate.queued = some queued)
    (allowFailed : Bool) (status : Option RunStatus) :
    Chained (state.resumeRun allowFailed status) := by
  obtain ⟨current, present⟩ := registered_some found
  obtain ⟨execution, flag, located, own, waits, resumes⟩ :=
    chained.queued index gate queued current present waiting
  -- The queued execution is replaced by one that resumes the run as both ask for.
  have within := (List.getElem?_eq_some_iff.mp located).1
  have replaced : state.executions.modify queued (coalesced allowFailed) =
      state.executions.set queued { execution with work := .resume (flag || allowFailed) } := by
    rw [List.modify_eq_set_getElem?, located]
    simp [coalesced, resumes]
  simp only [Gates.resumeRun, found, waiting, replaced]
  refine ⟨?_, ?_, ?_, ?_, ?_, ?_, ?_⟩
  · have ordered := chained.ordered
    grind
  · have behind := chained.behind
    grind
  · have closed := chained.closed
    grind
  · simp [current]
  · intro other same
    obtain ⟨held, last, located', length, tail, own', opened⟩ := chained.tail other same
    by_cases coalesces : queued = held.tail
    · subst coalesces
      rw [located, Option.some.injEq] at tail
      subst tail
      exact ⟨held, _, located', by simpa using length, List.getElem?_set_self within, own', opened⟩
    · exact ⟨held, last, located', by simpa using length, by simpa [coalesces] using tail, own',
        opened⟩
  · intro other gate' asked same located' waiting'
    obtain rfl : index = other := by simpa [current] using same
    obtain rfl : gate = gate' := by simpa [present] using located'
    obtain rfl : queued = asked := by simpa [waiting] using waiting'
    exact ⟨_, flag || allowFailed, List.getElem?_set_self within, own, waits, rfl⟩
  · have kept : ∀ (asked : Nat) (wanted : Bool), state.Awaits asked wanted →
        Awaits { state with
          executions := state.executions.set queued
            { execution with work := .resume (flag || allowFailed) }
          history := .requested queued allowFailed :: state.history } asked wanted := by
      rintro asked wanted ⟨execution', flag', located', waits', resumes', enough⟩
      by_cases same : queued = asked
      · subst same
        rw [located, Option.some.injEq] at located'
        subst located'
        rw [resumes, GateWork.resume.injEq] at resumes'
        refine ⟨_, flag || allowFailed, List.getElem?_set_self within, waits, rfl, fun asks => ?_⟩
        simp [resumes', enough asks]
      · exact ⟨execution', flag', by simpa [same] using located', waits', resumes', enough⟩
    refine followed_request ?_ fun newer older asked wanted split => ?_
    · refine ⟨_, flag || allowFailed, List.getElem?_set_self within, waits, rfl, fun asks => ?_⟩
      simp [asks]
    · exact (chained.followed newer older asked wanted split).imp_right (kept asked wanted)

/-- A function that is serialized begins only behind what is in the gate. -/
theorem Chained.serializeOnRun (chained : Chained state) : Chained state.serializeOnRun := by
  have kept : ∀ (added : Execution) (asked : Nat) (wanted : Bool), state.Awaits asked wanted →
      ∀ gates current, Awaits { gates, current, executions := state.executions ++ [added]
                                history := state.history } asked wanted := by
    intro added asked wanted awaits gates current
    exact awaits.keep fun execution found => Interleaving.getElem?_append_of_some found
  cases found : state.registered with
  | none =>
    have settled := chained.settled found
    simp only [Gates.serializeOnRun, found]
    refine ⟨?_, ?_, ?_, ?_, ?_, ?_, ?_⟩
    · have ordered := chained.ordered
      grind
    · have behind := chained.behind
      grind
    · have closed := chained.closed
      grind
    · simp
    · intro index same
      obtain rfl : state.gates.length = index := by simpa using same
      exact ⟨{ tail := state.executions.length }, _, by simp, by simp,
        List.getElem?_concat_length, rfl, rfl⟩
    · grind
    · intro newer older asked wanted split
      exact (chained.followed newer older asked wanted split).imp_right fun awaits =>
        kept _ asked wanted awaits _ _
  | some entry =>
    obtain ⟨index, gate⟩ := entry
    obtain ⟨current, present⟩ := registered_some found
    obtain ⟨held, last, located, length, tail, own, opened⟩ := chained.tail index current
    obtain rfl : held = gate := by simpa [located] using present
    have within := (List.getElem?_eq_some_iff.mp present).1
    simp only [Gates.serializeOnRun, found]
    refine ⟨?_, ?_, ?_, ?_, ?_, ?_, ?_⟩
    · have ordered := chained.ordered
      grind
    · have behind := chained.behind
      grind
    · have closed := chained.closed
      grind
    · simp [current]
    · intro other same
      obtain rfl : index = other := by simpa [current] using same
      exact ⟨{ held with tail := state.executions.length }, _, by simp [within], by simp,
        List.getElem?_concat_length, rfl, rfl⟩
    · -- What was queued in the gate still waits in it.
      intro other gate' queued same located' waiting
      obtain rfl : index = other := by simpa [current] using same
      obtain rfl : gate' = _ := by simpa [within] using located'.symm
      obtain ⟨execution, flag, found', own', waits, resumes⟩ :=
        chained.queued index held queued current present waiting
      exact ⟨execution, flag, Interleaving.getElem?_append_of_some found', own', waits, resumes⟩
    · intro newer older asked wanted split
      exact (chained.followed newer older asked wanted split).imp_right fun awaits =>
        kept _ asked wanted awaits _ _

theorem Chained.resumeRun (chained : Chained state) (allowFailed : Bool)
    (status : Option RunStatus) : Chained (state.resumeRun allowFailed status) := by
  cases found : state.registered with
  | none => exact chained.resumeFree found allowFailed status
  | some entry =>
    obtain ⟨index, gate⟩ := entry
    cases waiting : gate.queued with
    | none => exact chained.resumeQueued found waiting allowFailed status
    | some queued => exact chained.resumeCoalesced found waiting allowFailed status

theorem Chained.released (chained : Chained state)
    (found : state.executions[index]? = some execution) (free : state.released execution = true) :
    ∀ earlier < index, ∀ other : Execution, state.executions[earlier]? = some other →
      other.phase = .settled := by
  intro earlier before other present
  unfold Gates.released at free
  cases behind : execution.behind with
  | none => exact chained.ordered index execution found (.inr behind) earlier before other present
  | some tail =>
    -- The execution before this one has settled, and so has whatever is before that.
    have adjacent := chained.behind index execution tail found behind
    cases located : state.executions[tail]? with
    | none => simp [behind, located] at free
    | some last =>
      have settled : last.phase = .settled := by simpa [behind, located] using free
      rcases Nat.lt_or_ge earlier tail with further | here
      · refine chained.ordered tail last located (.inl ?_) earlier further other present
        simp [settled]
      · obtain rfl : earlier = tail := by omega
        obtain rfl : last = other := by simpa [located] using present
        exact settled

theorem Chained.replace (chained : Chained state)
    (found : state.executions[index]? = some execution)
    (free : updated.phase ≠ .waiting → ∀ earlier < index, ∀ other : Execution,
      state.executions[earlier]? = some other → other.phase = .settled)
    (behind : updated.behind = execution.behind)
    (settled : execution.phase = .settled → updated.phase = .settled) :
    (∀ (at_ : Nat) (one : Execution), (state.executions.set index updated)[at_]? = some one →
      (one.phase ≠ .waiting ∨ one.behind = none) → ∀ earlier < at_, ∀ other : Execution,
        (state.executions.set index updated)[earlier]? = some other → other.phase = .settled) ∧
      ∀ (at_ : Nat) (one : Execution) (tail : Nat),
        (state.executions.set index updated)[at_]? = some one → one.behind = some tail →
          tail + 1 = at_ := by
  have within := (List.getElem?_eq_some_iff.mp found).1
  constructor
  · intro at_ one located begun earlier before other present
    rw [List.getElem?_set] at located present
    have ordered := chained.ordered
    grind
  · have apart := chained.behind
    grind

theorem Awaits.replace {wanted : Bool} (awaits : state.Awaits asked wanted)
    (other : index ≠ asked) (executions : next.executions = state.executions.set index updated) :
    next.Awaits asked wanted := by
  refine awaits.keep fun execution found => ?_
  rw [executions, List.getElem?_set_ne other]
  exact found

/-- An execution that goes on in its gate leaves the gates chained. -/
theorem Chained.goOn (chained : Chained state) {gates : List RunGate} {history : List GateEvent}
    (found : state.executions[index]? = some execution)
    (free : ∀ earlier < index, ∀ other : Execution,
      state.executions[earlier]? = some other → other.phase = .settled)
    (behind : updated.behind = execution.behind) (gate : updated.gate = execution.gate)
    (settled : execution.phase = .settled → updated.phase = .settled)
    (opened : execution.closed = false) (same : updated.closed = execution.closed)
    (tails : ∀ (at_ : Nat) (held : RunGate), state.gates[at_]? = some held →
      ∃ kept : RunGate, gates[at_]? = some kept ∧ kept.tail = held.tail)
    (spared : ∀ (at_ : Nat) (kept : RunGate) (queued : Nat), state.current = some at_ →
      gates[at_]? = some kept → kept.queued = some queued → queued ≠ index ∧
        ∃ held : RunGate, state.gates[at_]? = some held ∧ held.queued = some queued)
    (followed : ∀ newer older asked wanted,
      history = newer ++ .requested asked wanted :: older → Began newer asked wanted ∨
        Awaits { state with gates, history
                            executions := state.executions.set index updated } asked wanted) :
    Chained { state with gates, history, executions := state.executions.set index updated } := by
  obtain ⟨ordered, apart⟩ := chained.replace found (fun _ => free) behind settled
  have within := (List.getElem?_eq_some_iff.mp found).1
  refine ⟨ordered, apart, ?_, ?_, ?_, ?_, followed⟩
  · intro one member done
    rcases List.mem_or_eq_of_mem_set member with old | rfl
    · exact chained.closed one old done
    · rw [same, opened] at done
      cases done
  · intro absent one member
    rcases List.mem_or_eq_of_mem_set member with old | rfl
    · exact chained.idle absent one old
    · exact settled (chained.idle absent execution (List.mem_of_getElem? found))
  · -- The tail is where it was, and in its gate.
    intro at_ current
    obtain ⟨held, last, located, length, tail, own, open_⟩ := chained.tail at_ current
    obtain ⟨kept, located', tail'⟩ := tails at_ held located
    by_cases here : index = kept.tail
    · have itself : last = execution := by
        rw [← tail', ← here, found] at tail
        exact (Option.some.inj tail).symm
      refine ⟨kept, updated, located', ?_, ?_, ?_, same.trans opened⟩
      · simpa [tail'] using length
      · rw [← here]
        exact List.getElem?_set_self within
      · rw [gate, ← itself, own]
    · refine ⟨kept, last, located', ?_, ?_, own, open_⟩
      · simpa [tail'] using length
      · rw [List.getElem?_set_ne here, tail', tail]
  · -- What is queued has not begun, so it is another execution.
    intro at_ kept queued current located waiting
    obtain ⟨other, held, present, waiting'⟩ := spared at_ kept queued current located waiting
    obtain ⟨one, flag, located', own, waits, resumes⟩ :=
      chained.queued at_ held queued current present waiting'
    refine ⟨one, flag, ?_, own, waits, resumes⟩
    exact (List.getElem?_set_ne (Ne.symm other)).trans located'

theorem Chained.opened (chained : Chained state)
    (found : state.executions[index]? = some execution) (busy : execution.phase ≠ .settled) :
    execution.closed = false := by
  cases done : execution.closed with
  | false => rfl
  | true => exact absurd (chained.closed execution (List.mem_of_getElem? found) done) busy

/-- An execution begins once the one before it has settled. -/
theorem Chained.begin (chained : Chained state) {status : Option RunStatus}
    (fired : state.begin index status = some next) : Chained next := by
  unfold Gates.begin at fired
  cases found : state.executions[index]? with
  | none => simp [found] at fired
  | some execution =>
    simp only [found] at fired
    split at fired
    · rename_i ready
      obtain ⟨waits, free⟩ := ready
      have before := chained.released found free
      have within := (List.getElem?_eq_some_iff.mp found).1
      have busy : execution.phase ≠ .settled := by simp [waits]
      have opened := chained.opened found busy
      cases work : execution.work with
      | serialized =>
        simp only [work, Option.some.injEq] at fired
        subst fired
        refine chained.goOn found before rfl rfl (fun done => absurd done busy) opened rfl
          (fun at_ held located => ⟨held, located, rfl⟩) ?_ ?_
        · -- What is queued is a resume, and this execution is none.
          intro at_ kept queued current located waiting
          obtain ⟨one, flag, located', own, waits', resumes⟩ :=
            chained.queued at_ kept queued current located waiting
          refine ⟨?_, kept, located, waiting⟩
          rintro rfl
          rw [found, Option.some.injEq] at located'
          subst located'
          simp [work] at resumes
        · intro newer older asked wanted split
          refine (chained.followed newer older asked wanted split).imp_right fun awaits => ?_
          refine awaits.replace ?_ rfl
          rintro rfl
          obtain ⟨one, flag, located', waits', resumes, -⟩ := awaits
          rw [found, Option.some.injEq] at located'
          subst located'
          simp [work] at resumes
      | resume allowFailed =>
        simp only [work, Option.some.injEq] at fired
        subst fired
        refine chained.goOn found before rfl rfl (fun done => absurd done busy) opened rfl ?_ ?_ ?_
        · intro at_ held located
          rw [List.getElem?_modify, located]
          by_cases own : execution.gate = at_
          · exact ⟨dequeue index held, by simp [own], by unfold dequeue; split <;> rfl⟩
          · exact ⟨held, by simp [own], rfl⟩
        · -- A queued resume gives up its place as it begins.
          intro at_ kept queued current located waiting
          rw [List.getElem?_modify, Option.map_eq_map, Option.map_eq_some_iff] at located
          obtain ⟨held, present, rfl⟩ := located
          have place : held.queued = some queued := by
            by_cases own : execution.gate = at_
            · simp only [own, if_true, dequeue] at waiting
              split at waiting
              · cases waiting
              · exact waiting
            · simpa [own] using waiting
          refine ⟨?_, held, present, place⟩
          rintro rfl
          obtain ⟨one, flag, located', own, -⟩ :=
            chained.queued at_ held queued current present place
          rw [found, Option.some.injEq] at located'
          subst located'
          simp [own, dequeue, place] at waiting
        · refine followed_cons (by simp) fun newer older asked wanted split => ?_
          rcases chained.followed newer older asked wanted split with began | awaits
          · exact .inl (began.later _)
          · by_cases other : index = asked
            · -- The resume that was asked for begins.
              subst other
              obtain ⟨one, flag, located', waits', resumes, enough⟩ := awaits
              rw [found, Option.some.injEq] at located'
              subst located'
              obtain rfl : allowFailed = flag := by simpa [work] using resumes
              exact .inl ⟨allowFailed, List.mem_cons_self, enough⟩
            · exact .inr (awaits.replace other rfl)
    · cases fired

theorem Chained.settle (chained : Chained state) (fired : state.settle index = some next) :
    Chained next := by
  unfold Gates.settle at fired
  cases found : state.executions[index]? with
  | none => simp [found] at fired
  | some execution =>
    simp only [found] at fired
    cases phase : execution.phase with
    | waiting | settled => simp [phase] at fired
    | running body =>
      simp only [phase, Option.some.injEq] at fired
      subst fired
      have busy : execution.phase ≠ .settled := by simp [phase]
      have before := chained.ordered index execution found (.inl (by simp [phase]))
      -- Neither what is queued nor what is awaited is in progress.
      have other : ∀ (asked : Nat) (one : Execution), state.executions[asked]? = some one →
          one.phase = .waiting → asked ≠ index := by
        rintro asked one located waits rfl
        rw [found, Option.some.injEq] at located
        subst located
        simp [phase] at waits
      refine chained.goOn found before rfl rfl (fun _ => rfl) (chained.opened found busy) rfl
        (fun at_ held located => ⟨held, located, rfl⟩) ?_ ?_
      · intro at_ kept queued current located waiting
        obtain ⟨one, flag, located', own, waits, resumes⟩ :=
          chained.queued at_ kept queued current located waiting
        exact ⟨other queued one located' waits, kept, located, waiting⟩
      · refine followed_cons (by simp) fun newer older asked wanted split => ?_
        rcases chained.followed newer older asked wanted split with began | awaits
        · exact .inl (began.later _)
        · obtain ⟨one, flag, located, waits, -⟩ := id awaits
          exact .inr (awaits.replace (other asked one located waits).symm rfl)

/-- The callback of a settled execution drops the gate only once nothing is left in it. -/
theorem Chained.closeGateAfter (chained : Chained state)
    (fired : state.closeGateAfter index = some next) : Chained next := by
  unfold Gates.closeGateAfter at fired
  cases found : state.executions[index]? with
  | none => simp [found] at fired
  | some execution =>
    simp only [found] at fired
    split at fired
    · rename_i ready
      obtain ⟨done, opened⟩ := ready
      have before := chained.ordered index execution found (.inl (by simp [done]))
      have within := (List.getElem?_eq_some_iff.mp found).1
      have free : ({ execution with closed := true } : Execution).phase ≠ .waiting →
          ∀ earlier < index, ∀ other : Execution, state.executions[earlier]? = some other →
            other.phase = .settled := fun _ => before
      obtain ⟨ordered, apart⟩ := chained.replace found free rfl fun _ => done
      have settled : ∀ one ∈ state.executions.set index { execution with closed := true },
          one.closed = true → one.phase = .settled := by
        intro one member shut
        rcases List.mem_or_eq_of_mem_set member with old | rfl
        · exact chained.closed one old shut
        · exact done
      have others : ∀ (asked : Nat) (one : Execution), state.executions[asked]? = some one →
          one.phase = .waiting → index ≠ asked := by
        rintro asked one located waits rfl
        rw [found, Option.some.injEq] at located
        subst located
        simp [done] at waits
      simp only [Option.some.injEq] at fired
      subst fired
      refine ⟨ordered, apart, settled, ?_, ?_, ?_, ?_⟩
      · intro absent one member
        -- The gate was dropped already, or it is dropped behind its last execution.
        have finished : ∀ one ∈ state.executions, one.phase = .settled := by
          by_cases last : state.current = some execution.gate ∧
              state.gates[execution.gate]?.any (·.tail = index) = true
          · obtain ⟨held, final, located, length, tail, -⟩ :=
              chained.tail execution.gate last.1
            have here : held.tail = index := by simpa [located] using last.2
            intro one member
            obtain ⟨at_, bound, rfl⟩ := List.getElem_of_mem member
            rcases Nat.lt_or_ge at_ index with earlier | later
            · exact before at_ earlier _ (List.getElem?_eq_getElem bound)
            · obtain rfl : at_ = index := by omega
              rw [List.getElem?_eq_getElem bound, Option.some.injEq] at found
              exact found ▸ done
          · rw [if_neg last] at absent
            exact chained.idle absent
        rcases List.mem_or_eq_of_mem_set member with old | rfl
        · exact finished one old
        · exact done
      · intro at_ current
        obtain ⟨kept, here⟩ : ¬ (state.current = some execution.gate ∧
            state.gates[execution.gate]?.any (·.tail = index) = true) ∧
              state.current = some at_ := by
          by_cases last : state.current = some execution.gate ∧
              state.gates[execution.gate]?.any (·.tail = index) = true
          · simp [last] at current
          · exact ⟨last, by simpa [last] using current⟩
        obtain ⟨held, final, located, length, tail, own, open_⟩ := chained.tail at_ here
        -- Another execution is the tail of the gate that is left.
        have other : index ≠ held.tail := by
          rintro rfl
          rw [found, Option.some.injEq] at tail
          subst tail
          subst own
          exact kept ⟨here, by simp [located]⟩
        exact ⟨held, final, located, by simpa using length, by simpa [other] using tail, own, open_⟩
      · intro at_ kept queued current located waiting
        have current : state.current = some at_ := by
          by_cases last : state.current = some execution.gate ∧
              state.gates[execution.gate]?.any (·.tail = index) = true
          · simp [last] at current
          · simpa [last] using current
        obtain ⟨one, flag, located', own, waits, resumes⟩ :=
          chained.queued at_ kept queued current located waiting
        have other := others queued one located' waits
        exact ⟨one, flag, by simpa [other] using located', own, waits, resumes⟩
      · intro newer older asked wanted split
        refine (chained.followed newer older asked wanted split).imp_right fun awaits => ?_
        obtain ⟨one, flag, located, waits, -⟩ := id awaits
        exact awaits.replace (others asked one located waits) rfl
    · cases fired

theorem Chained.fire (chained : Chained state) (fired : state.fire move = some next) :
    Chained next := by
  cases move with
  | call call status =>
    obtain rfl : call.enter state status = next := by simpa [Gates.fire] using fired
    cases call with
    | resume => exact chained.resumeRun true status
    | deliverSignal | completeRemoteResult => exact chained.resumeRun false status
    | runOne leased | resumeLeased leased | recheckWaitSeqs leased =>
      cases leased with
      | false => exact chained
      | true => exact chained.resumeRun false status
    | completeRemoteDecision | releaseStaleSelfLease => exact chained.serializeOnRun
  | begin index status => exact chained.begin fired
  | settle index => exact chained.settle fired
  | closeGateAfter index => exact chained.closeGateAfter fired

theorem Reached.chained (reached : Reached state) : Chained state := by
  induction reached with
  | start => exact chained_start
  | move before fired ih => exact ih.fire fired

end Steps

section Ends

theorem remaining_set {executions : List Execution} (found : executions[index]? = some execution)
    (further : pace updated < pace execution) :
    (executions.set index updated).foldr (fun execution rest => pace execution + rest) 0 <
      executions.foldr (fun execution rest => pace execution + rest) 0 := by
  induction executions generalizing index with
  | nil => simp at found
  | cons first rest ih =>
    cases index with
    | zero =>
      obtain rfl : first = execution := by simpa using found
      simp only [List.set_cons_zero, List.foldr_cons]
      omega
    | succ index =>
      have later := ih (by simpa using found)
      simp only [List.set_cons_succ, List.foldr_cons]
      omega

/-- Every move of an execution brings it further. -/
theorem remaining_fire (internal : move.internal = true) (fired : state.fire move = some next) :
    next.remaining < state.remaining := by
  unfold remaining
  cases move with
  | call call status => cases internal
  | begin index status =>
    simp only [Gates.fire, Gates.begin] at fired
    cases found : state.executions[index]? with
    | none => simp [found] at fired
    | some execution =>
      simp only [found] at fired
      split at fired
      · rename_i ready
        cases work : execution.work with
        | serialized | resume allowFailed =>
          simp only [work, Option.some.injEq] at fired
          subst fired
          exact remaining_set found (by simp [pace, ready.1])
      · cases fired
  | settle index =>
    simp only [Gates.fire, Gates.settle] at fired
    cases found : state.executions[index]? with
    | none => simp [found] at fired
    | some execution =>
      simp only [found] at fired
      cases phase : execution.phase with
      | waiting | settled => simp [phase] at fired
      | running body =>
        simp only [phase, Option.some.injEq] at fired
        subst fired
        refine remaining_set found ?_
        simp only [pace, phase]
        split <;> omega
  | closeGateAfter index =>
    simp only [Gates.fire, Gates.closeGateAfter] at fired
    cases found : state.executions[index]? with
    | none => simp [found] at fired
    | some execution =>
      simp only [found] at fired
      split at fired
      · rename_i ready
        simp only [Option.some.injEq] at fired
        subst fired
        exact remaining_set found (by simp [pace, ready.1, ready.2])
      · cases fired

theorem Chained.finished (chained : Chained state) (quiet : state.Quiet) :
    ∀ (index : Nat) (execution : Execution), state.executions[index]? = some execution →
      execution.phase = .settled ∧ execution.closed = true := by
  intro index
  -- By induction: the executions before this one have settled, so it could begin.
  induction index using Nat.strongRecOn with
  | ind index ih =>
    intro execution found
    cases phase : execution.phase with
    | waiting =>
      have free : state.released execution = true := by
        cases behind : execution.behind with
        | none => simp [Gates.released, behind]
        | some tail =>
          have adjacent := chained.behind index execution tail found behind
          have within := (List.getElem?_eq_some_iff.mp found).1
          have located := List.getElem?_eq_getElem (l := state.executions) (i := tail) (by omega)
          have settled := (ih tail (by omega) _ located).1
          simp [Gates.released, behind, located, settled]
      cases work : execution.work with
      | serialized | resume allowFailed =>
        obtain ⟨next, fired⟩ : ∃ next, state.fire (.begin index none) = some next := by
          simp [Gates.fire, Gates.begin, found, phase, free, work]
        exact absurd fired (quiet _ next rfl)
    | running body =>
      obtain ⟨next, fired⟩ : ∃ next, state.fire (.settle index) = some next := by
        simp [Gates.fire, Gates.settle, found, phase]
      exact absurd fired (quiet _ next rfl)
    | settled =>
      refine ⟨rfl, ?_⟩
      cases shut : execution.closed with
      | true => rfl
      | false =>
        obtain ⟨next, fired⟩ : ∃ next, state.fire (.closeGateAfter index) = some next := by
          simp [Gates.fire, Gates.closeGateAfter, found, phase, shut]
        exact absurd fired (quiet _ next rfl)

theorem Chained.quiet (chained : Chained state) (quiet : state.Quiet) :
    state.current = none ∧ (∀ execution ∈ state.executions, execution.phase = .settled) ∧
      ∀ newer older index allowFailed,
        state.history = newer ++ .requested index allowFailed :: older →
          Began newer index allowFailed := by
  have finished := chained.finished quiet
  refine ⟨?_, ?_, ?_⟩
  · cases current : state.current with
    | none => rfl
    | some index =>
      -- The last execution of a registered gate would still have its callback to run.
      obtain ⟨gate, execution, present, length, tail, own, opened⟩ := chained.tail index current
      simp [(finished gate.tail execution tail).2] at opened
  · intro execution member
    obtain ⟨index, found⟩ := List.mem_iff_getElem?.mp member
    exact (finished index execution found).1
  · intro newer older index allowFailed split
    rcases chained.followed newer older index allowFailed split with began | awaits
    · exact began
    · obtain ⟨execution, flag, found, waits, -⟩ := awaits
      simp [(finished index execution found).1] at waits

end Ends

/--
Executions of a run never overlap in one engine, and every resume is followed by one.

Calls arrive at the gate in any order, at any point of the executions chained in it.
-/
theorem executions_never_overlap (reached : Reached state) : state.Sound where
  exclusive := by
    rintro one other ⟨first, body, found, running⟩ ⟨second, body', found', running'⟩
    -- What is in progress has only settled executions before it.
    have ordered := reached.chained.ordered
    rcases Nat.lt_trichotomy one other with before | same | after
    · have settled := ordered other second found' (.inl (by simp [running'])) one before first found
      simp [running] at settled
    · exact same
    · have settled := ordered one first found (.inl (by simp [running])) other after second found'
      simp [running'] at settled
  followed := reached.chained.followed
  ends _ _ internal fired := remaining_fire internal fired
  quiet quiet := reached.chained.quiet quiet

/-- The gates after a list of moves, if all of them are possible. -/
def run (state : Gates) : List GateMove → Option Gates
  | [] => some state
  | move :: moves => (state.fire move).bind fun next => next.run moves

theorem Reached.run (reached : Reached state) {moves : List GateMove} {final : Gates}
    (ran : state.run moves = some final) : Reached final := by
  induction moves generalizing state with
  | nil =>
    cases ran
    exact reached
  | cons move moves ih =>
    obtain ⟨next, fired, rest⟩ := Option.bind_eq_some_iff.mp ran
    exact ih (.move reached fired) rest

def signalledTwice : List GateMove :=
  [.call .resume (some .suspended), .call .deliverSignal (some .suspended),
    .call .deliverSignal (some .suspended), .settle 0, .begin 1 (some .suspended),
    .closeGateAfter 0, .settle 1, .closeGateAfter 1]

/-- Both signals are followed by one execution, and no gate is left. -/
theorem executions_never_overlap_signalled :
    Sound ((run {} signalledTwice).get (by decide)) :=
  executions_never_overlap (Reached.start.run (Option.some_get (by decide)).symm)

end Gates

end Durable
