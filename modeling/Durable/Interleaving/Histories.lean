import Mathlib.Data.List.Infix

/-! Histories, the latest event first: what has happened since an event, and in windows of time. -/

namespace Interleaving

variable {E : Type}

/-- Some event of a kind has happened since the latest one that ends the look back. -/
def since (ends kind : E → Bool) : List E → Bool
  | [] => false
  | event :: earlier => !ends event && (kind event || since ends kind earlier)

variable {ends kind marks : E → Bool}

/-- An event that ends the look back leaves nothing behind it. -/
theorem since_of_ends {event : E} (ended : ends event = true) (earlier : List E) :
    since ends kind (event :: earlier) = false := by
  simp [since, ended]

/-- An event that neither ends the look back nor is of the kind changes nothing. -/
theorem since_of_neither {event : E} (goes : ends event = false) (other : kind event = false)
    (earlier : List E) : since ends kind (event :: earlier) = since ends kind earlier := by
  simp [since, goes, other]

/-- A property holds at every event of a kind, of what had happened before it. -/
def AtEach (marks : E → Bool) (holds : E → List E → Prop) (history : List E) : Prop :=
  ∀ event earlier, (event :: earlier) <:+ history → marks event = true → holds event earlier

/-- Nothing has to hold in the empty history. -/
@[simp] theorem atEach_nil {holds : E → List E → Prop} : AtEach marks holds [] := by
  intro event earlier infixed _
  cases List.suffix_nil.mp infixed

/-- What holds at each event holds at the latest one and at those before it. -/
theorem atEach_cons {holds : E → List E → Prop} {event : E} {earlier : List E} :
    AtEach marks holds (event :: earlier) ↔
      (marks event = true → holds event earlier) ∧ AtEach marks holds earlier := by
  constructor
  · intro every
    refine ⟨every event earlier List.suffix_rfl, ?_⟩
    intro other before within
    exact every other before (within.trans (List.suffix_cons _ _))
  · intro both other before within marked
    -- The event is the latest one, or one of the history before it.
    rcases List.suffix_cons_iff.mp within with same | inside
    · cases same
      exact both.1 marked
    · exact both.2 other before inside marked

/--
A look back may end at marks, too, behind which nothing of the kind has happened.

Where each mark was put with nothing of the kind since the events that end the look back, the
shorter look back finds what the longer one finds.
-/
theorem since_marked {history : List E}
    (clear : AtEach marks (fun event earlier => since ends kind (event :: earlier) = false)
      history) :
    since (fun event => ends event || marks event) kind history = since ends kind history := by
  induction history with
  | nil => rfl
  | cons event earlier ih =>
    have both := atEach_cons.mp clear
    cases marked : marks event with
    | true =>
      -- The shorter look back ends here, and the longer one finds nothing either.
      rw [both.1 marked]
      exact since_of_ends (by simp [marked]) earlier
    | false =>
      simp only [since, marked, Bool.or_false, ih both.2]

section Windows

/-- What has one of two properties is counted with one of them. -/
theorem countP_le_add {one first second : E → Bool} {events : List E}
    (either : ∀ event, one event = true → first event = true ∨ second event = true) :
    events.countP one ≤ events.countP first + events.countP second := by
  induction events with
  | nil => exact Nat.le_refl _
  | cons event rest ih =>
    have has := either event
    simp only [List.countP_cons]
    split <;> split <;> split <;> simp_all <;> omega

variable (moment : E → Nat)

/-- How many events lie in the window of a length that begins at a moment. -/
def within (length start : Nat) (history : List E) : Nat :=
  history.countP fun event => start ≤ moment event ∧ moment event < start + length

/-- How many events are, at a moment, less than a length ago. -/
def recent (length now : Nat) (history : List E) : Nat :=
  history.countP fun event => now < moment event + length

variable {moment} {length limit : Nat} {history : List E}

/-- A window of no length has no events. -/
theorem within_zero (start : Nat) : within moment 0 start history = 0 := by
  refine List.countP_eq_zero.mpr fun event _ inside => ?_
  simp only [Nat.add_zero, decide_eq_true_eq] at inside
  omega

/-- A window that the latest event lies in has only recent ones besides. -/
theorem within_cons_le {event : E}
    (kept : ∀ start, within moment length start history ≤ limit)
    (room : recent moment length (moment event) history < limit) (start : Nat) :
    within moment length start (event :: history) ≤ limit := by
  have earlier := kept start
  unfold within at earlier ⊢
  rw [List.countP_cons]
  split
  · rename_i inside
    simp only [decide_eq_true_eq] at inside
    have fewer : history.countP (fun event =>
        decide (start ≤ moment event ∧ moment event < start + length)) ≤
        recent moment length (moment event) history := by
      refine List.countP_mono_left fun other _ between => ?_
      simp only [decide_eq_true_eq] at between ⊢
      omega
    omega
  · exact earlier

variable (moment) in
/--
A count of a history's events that begins anew no earlier than a length after it last began.

Windows that begin at any moment meet two counts at most.
-/
structure Anew (length limit begun : Nat) (history : List E) : Prop where
  lasts : ∀ event ∈ history, moment event < begun + length
  counted : history.countP (fun event => begun ≤ moment event) ≤ limit
  before : history.countP (fun event => moment event < begun ∧ begun < moment event + length) ≤ limit
  windows : ∀ start, within moment length start history ≤ 2 * limit

/-- An event is counted while the count lasts and is below the limit. -/
theorem Anew.cons {begun : Nat} (anew : Anew moment length limit begun history) {event : E}
    (later : begun ≤ moment event) (inside : moment event < begun + length)
    (room : history.countP (fun event => begun ≤ moment event) < limit) :
    Anew moment length limit begun (event :: history) := by
  obtain ⟨lasts, counted, before, windows⟩ := anew
  refine ⟨List.forall_mem_cons.mpr ⟨inside, lasts⟩, ?_, ?_, fun start => ?_⟩
  · rw [List.countP_cons_of_pos (by simpa using later)]
    exact room
  · rw [List.countP_cons_of_neg (by simp only [decide_eq_true_eq]; omega)]
    exact before
  · have earlier := windows start
    unfold within at earlier ⊢
    rw [List.countP_cons]
    split
    · rename_i meets
      simp only [decide_eq_true_eq] at meets
      -- What else lies in the window is counted as well, or came before and shares it.
      have both : history.countP (fun event =>
            decide (start ≤ moment event ∧ moment event < start + length)) ≤
          history.countP (fun event => decide (begun ≤ moment event)) +
            history.countP (fun event =>
              decide (moment event < begun ∧ begun < moment event + length)) := by
        refine countP_le_add fun other between => ?_
        simp only [decide_eq_true_eq] at between ⊢
        omega
      omega
    · exact earlier

/-- A count begins anew once it has lasted its length. -/
theorem Anew.begin {begun : Nat} (anew : Anew moment length limit begun history) {now : Nat}
    (over_ : begun + length ≤ now) : Anew moment length limit now history := by
  obtain ⟨lasts, counted, before, windows⟩ := anew
  refine ⟨fun event listed => ?_, ?_, ?_, windows⟩
  · have early := lasts event listed
    omega
  · rw [List.countP_eq_zero.mpr]
    · exact Nat.zero_le _
    intro event listed
    have early := lasts event listed
    simp only [decide_eq_true_eq]
    omega
  · refine Nat.le_trans (List.countP_mono_left fun event _ between => ?_) counted
    simp only [decide_eq_true_eq] at between ⊢
    omega

end Windows

end Interleaving
