import Mathlib.Algebra.Order.Ring.Rat
import Durable.Data.Champion
import Durable.Data.Ids
import Durable.Engine.Versions

/-! The version that an unpinned start takes, and when it is the same for every order in which the
versions are registered. -/

namespace Durable.Versions

open Champion (challenge champion champion_orderFree_iff)

section Registering

variable {Number Fn : Type} [LinearOrder Number] (reading : VersionReading Number)

theorem isNewerVersion_asymm {a b : String} (newer : isNewerVersion reading a b = true) :
    isNewerVersion reading b a = false := by
  have lawful := reading.lawful
  -- The pair is compared in one way, whichever comes first.
  unfold isNewerVersion at newer ⊢
  cases one : reading.number a with
  | none =>
    simp only [one, decide_eq_true_eq] at newer
    cases other : reading.number b with
    | none => simp [Std.OrientedCmp.eq_swap (a := b) (b := a), newer]
    | some nb => simp [Std.OrientedCmp.eq_swap (a := b) (b := a), newer]
  | some na =>
    cases other : reading.number b with
    | none =>
      simp only [one, other, decide_eq_true_eq] at newer
      simp [Std.OrientedCmp.eq_swap (a := b) (b := a), newer]
    | some nb =>
      simp only [one, other, decide_eq_true_eq] at newer
      simpa using le_of_lt newer

/-- One registration is newer than another when its version is. -/
def isNewer (one other : RegisteredWorkflow Fn) : Bool :=
  isNewerVersion reading one.version other.version

variable {reading} {name : String}

theorem latest_make (registry : Registry Fn) {call : RegisteredWorkflow Fn}
    (named : call.name = name) :
    (registry.make reading call).latest name =
      challenge (isNewer reading) (registry.latest name) call := by
  obtain ⟨own, version, body⟩ := call
  subst named
  cases body <;>
  · simp only [Registry.make, Registry.register, Registry.registerRemote, Registry.keep]
    cases registry.latest own <;> rfl

theorem latest_ofCalls {calls : List (RegisteredWorkflow Fn)}
    (named : ∀ call ∈ calls, call.name = name) :
    (Registry.ofCalls reading calls).latest name = champion (isNewer reading) calls := by
  have runs : ∀ (calls : List (RegisteredWorkflow Fn)) (registry : Registry Fn),
      (∀ call ∈ calls, call.name = name) →
      (calls.foldl (Registry.make reading) registry).latest name =
        calls.foldl (challenge (isNewer reading)) (registry.latest name) := by
    intro calls
    induction calls with
    | nil => exact fun registry _ => rfl
    | cons call rest ih =>
      intro registry named
      rw [List.foldl_cons, List.foldl_cons,
        ih _ fun other later => named other (List.mem_cons_of_mem call later),
        latest_make registry (named call List.mem_cons_self)]
  exact runs calls {} named

variable (reading)

/-- The registration that an unpinned start takes is the same for every order of registering, and
no registered version is newer than its own. -/
def LatestOrderFree (versions : VersionsOf Fn name) : Prop :=
  ∀ order : List (RegisteredWorkflow Fn), order.Perm versions.calls →
    (Registry.ofCalls reading order).resolve name none =
        (Registry.ofCalls reading versions.calls).resolve name none ∧
      ∀ latest ∈ (Registry.ofCalls reading order).resolve name none,
        ∀ call ∈ versions.calls, isNewerVersion reading call.version latest.version = false

def HasNewest (versions : VersionsOf Fn name) : Prop :=
  versions.calls ≠ [] → ∃ newest ∈ versions.calls, ∀ call ∈ versions.calls,
    call.version ≠ newest.version → isNewerVersion reading newest.version call.version = true

theorem version_injOn (versions : VersionsOf Fn name) {one other : RegisteredWorkflow Fn}
    (listed : one ∈ versions.calls) (listed' : other ∈ versions.calls)
    (same : one.version = other.version) : one = other :=
  List.inj_on_of_nodup_map versions.different listed listed' same

/-- The latest version of a workflow does not depend on the order of registering just when one
version is newer than all others. -/
theorem latest_orderFree_iff (versions : VersionsOf Fn name) :
    LatestOrderFree reading versions ↔ HasNewest reading versions := by
  have asymmetric : ∀ one other : RegisteredWorkflow Fn, isNewer reading one other = true →
      isNewer reading other one = false := fun one other => isNewerVersion_asymm reading
  have different : versions.calls.Nodup := List.Nodup.of_map _ versions.different
  have free := champion_orderFree_iff asymmetric different
  -- Only an order of the calls is registered, so the registry's latest is its champion.
  have resolves : ∀ order : List (RegisteredWorkflow Fn), order.Perm versions.calls →
      (Registry.ofCalls reading order).resolve name none = champion (isNewer reading) order := by
    intro order perm
    exact latest_ofCalls fun call listed => versions.named call (perm.mem_iff.mp listed)
  have greatest : HasNewest reading versions ↔ (versions.calls ≠ [] →
      ∃ newest, Champion.IsGreatest (isNewer reading) versions.calls newest) := by
    unfold HasNewest Champion.IsGreatest
    refine imp_congr_right fun filled => exists_congr fun newest => and_congr_right fun listed => ?_
    refine forall₂_congr fun call member => imp_congr_left (not_congr ⟨?_, ?_⟩)
    · exact version_injOn versions member listed
    · exact fun same => by rw [same]
  rw [greatest, ← free]
  unfold LatestOrderFree
  refine forall₂_congr fun order perm => ?_
  rw [resolves order perm, resolves versions.calls (List.Perm.refl _)]
  rfl

end Registering

section Spellings

/-- A decimal as the number it is: digits, perhaps with a point and more digits. -/
def decimal (version : String) : Option Rat :=
  match version.toList.splitOn '.' with
  | [whole] => (digitsOf whole).map fun number => (number : Rat)
  | [whole, fraction] =>
    match digitsOf whole, digitsOf (whole ++ fraction) with
    | some _, some number => some ((number : Rat) / (10 ^ fraction.length : Nat))
    | _, _ => none
  | _ => none

/-- A version as a list of numbers: its runs of digits, and the codes of its other characters. -/
def naturalKey (version : String) : List Nat :=
  (version.toList.splitBy fun one other => one.isDigit && other.isDigit).flatMap fun run =>
    match digitsOf run with
    | some number => [0, number]
    | none => run.map fun char => char.toNat + 1

/-- Decimals, and the order of texts in which runs of digits are compared as numbers. -/
def plainReading : VersionReading Rat where
  number := decimal
  localeCompare a b := compare (naturalKey a) (naturalKey b)
  lawful := {
    eq_swap {one other} := by
      have swapped : compare (naturalKey one) (naturalKey other) =
        (compare (naturalKey other) (naturalKey one)).swap := Std.OrientedCmp.eq_swap
      exact swapped
    isLE_trans {one other third} first second := by
      have climbs : (compare (naturalKey one) (naturalKey other)).isLE = true := first
      have climbs' : (compare (naturalKey other) (naturalKey third)).isLE = true := second
      have whole : (compare (naturalKey one) (naturalKey third)).isLE = true :=
        Std.TransCmp.isLE_trans climbs climbs'
      exact whole }

/-- Three versions each of which is newer than the next, the last newer than the first. -/
def around : VersionsOf Unit "checkout" where
  calls := [⟨"checkout", "1.9", .here ()⟩, ⟨"checkout", "1.10", .here ()⟩,
    ⟨"checkout", "1.9.1", .remote "python"⟩]
  named := by simp
  different := by decide

/-- Of three versions the latest depends on the order in which they are registered. -/
theorem latest_turns_around :
    ¬∀ (reading : VersionReading Rat) (versions : VersionsOf Unit "checkout"),
      LatestOrderFree reading versions := by
  intro claimed
  obtain ⟨-, unbeaten⟩ := claimed plainReading around around.calls (List.Perm.refl around.calls)
  have latest : (Registry.ofCalls plainReading around.calls).resolve "checkout" none =
      some ⟨"checkout", "1.9.1", .remote "python"⟩ := by
    decide +kernel
  have newer := unbeaten _ latest ⟨"checkout", "1.10", .here ()⟩ (by simp [around])
  exact absurd newer (by decide +kernel)

end Spellings

end Durable.Versions
