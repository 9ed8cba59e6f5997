import Durable.Engine.StepResults
import Durable.Proofs.Store.Operations

/-! The results a batch settles, and the rows it reads for them. -/

namespace Durable

open Interleaving

theorem liveResults_pairwise (results : List StepResult) :
    (liveResults results).Pairwise fun one other => one.seq ≠ other.seq := by
  induction results with
  | nil => exact .nil
  | cons result rest ih =>
    refine List.pairwise_cons.mpr ⟨fun other kept => ?_, ih.filter _⟩
    exact Ne.symm (of_decide_eq_true (List.mem_filter.mp kept).2)

/-- The rows a batch reads for its results, each where its result belongs. -/
def rowsRead (rows : Nat → Option StepCheckpoint) (results : List StepResult) :
    List (StepCheckpoint × StepResult) :=
  results.filterMap fun result => (rows result.seq).map (·, result)

theorem rowsRead_pairwise {rows : Nat → Option StepCheckpoint} {id : String}
    (placed : ∀ position row, rows position = some row → (row.runId, row.seq) = (id, position))
    {results : List StepResult}
    (distinct : results.Pairwise fun one other => one.seq ≠ other.seq) :
    (rowsRead rows results).Pairwise fun one other =>
      (one.1.runId, one.1.seq) ≠ (other.1.runId, other.1.seq) := by
  refine List.pairwise_filterMap.mpr (distinct.imp ?_)
  intro result later apart one found other located same
  obtain ⟨row, here, rfl⟩ := Option.map_eq_some_iff.mp found
  obtain ⟨second, there, rfl⟩ := Option.map_eq_some_iff.mp located
  rw [placed _ row here, placed _ second there] at same
  exact apart (Prod.mk.inj same).2

/-- Looking at the store, and asking for a turn. -/
def Asks : StoreOp → Prop
  | .getRun _ | .getCheckpoint .. | .listCheckpoints _ | .replayCheckpoints _ | .requestWake _ =>
    True
  | _ => False

theorem stepFanStillRunning_asks (queuedIn : Nat → Nat → Bool) (row : StepCheckpoint)
    (result : StepResult) : (stepFanStillRunning queuedIn row result).Uses Asks := by
  unfold stepFanStillRunning
  split
  · trivial
  · split
    · trivial
    · split
      · trivial
      · exact ⟨trivial, fun _ => trivial⟩

theorem resumeBatch_asks (queuedIn : Nat → Nat → Bool) (id : String)
    (settled : List (StepCheckpoint × StepResult)) (closed : List Nat) :
    (resumeBatch queuedIn id settled closed).Uses Asks := by
  induction settled generalizing closed with
  | nil => trivial
  | cons entry rest ih =>
    obtain ⟨row, result⟩ := entry
    unfold resumeBatch
    split
    · exact ⟨trivial, fun _ => trivial⟩
    · split
      · exact ⟨trivial, fun _ => trivial⟩
      · split
        · exact ih closed
        · split
          · exact ih _
          · refine Program.uses_bind ⟨trivial, fun _ => trivial⟩ fun pending => ?_
            split
            · exact ih _
            · exact ⟨trivial, fun _ => trivial⟩

end Durable
