import Mathlib.Logic.Basic
import RunMeter.Proofs.Checked.Operation

/-!
# RunMeter.Proofs.Checked.Repetition — programs that take turns, told turn by turn

A `Repetition` goes from state to state as long as there is more to do, on words that wrap round, and says which
operations each turn performs.  A loop is one, and so is a recursion whose one call is its last act: its turns are the
nested calls.  `Runs` counts the turns of a run and collects its operations.

A program performs a repetition (`PerformedBy`) when it follows its turns but checks the operations.  Whether such a
program has a result is then told by the run alone:

* `Runs.unique`, `exists_runs`: there is one run from each state, with as many turns as a measure of the state says;
  for an index that is stepped up to a limit, see `exists_runs_upTo`.
* `PerformedBy.eq_some_iff`: the program has a result just when no operation of the run overflows, and it is the one of
  the run.
* `Completes.of_result`: so a program with a known result completes its run.
-/

namespace RunMeter.Checked

/-- What is done again and again, on words that wrap round. -/
structure Repetition (σ : Type) where
  /-- There is a turn left in a state. -/
  More : σ → Prop
  /-- The state after a turn. -/
  turn : σ → σ
  /-- What a turn adds and subtracts, in order. -/
  operations : σ → List Operation

namespace Repetition

variable {σ α : Type}

/-- The repetition ends from a state after `n` turns in another one, and performs these operations on the way. -/
inductive Runs (m : Repetition σ) : σ → Nat → List Operation → σ → Prop
  | stop {s : σ} (h : ¬m.More s) : Runs m s 0 [] s
  | go {s r : σ} {n : Nat} {ops : List Operation} (h : m.More s) (rest : Runs m (m.turn s) n ops r) :
    Runs m s (n + 1) (m.operations s ++ ops) r

/-- A program follows the turns of a repetition as long as every operation fits, has no result once one does not, and
shows a part of the last state. -/
structure PerformedBy (m : Repetition σ) (program : σ → Option α) (shown : σ → α) : Prop where
  stop : ∀ s, ¬m.More s → program s = some (shown s)
  go : ∀ s, m.More s → (∀ op ∈ m.operations s, op.Fits) → program s = program (m.turn s)
  overflow : ∀ s, m.More s → ∀ op ∈ m.operations s, ¬op.Fits → program s = none

/-- A program performs a repetition and comes from a state to a result after exactly `n` turns, and no operation of
them overflows. -/
structure Completes (m : Repetition σ) (program : σ → Option α) (shown : σ → α) (s : σ) (n : Nat) (w : α) : Prop where
  performed : m.PerformedBy program shown
  ends : ∃ ops r, m.Runs s n ops r
  exactly : ∀ n' ops r, m.Runs s n' ops r → n' = n ∧ (∀ op ∈ ops, op.Fits) ∧ shown r = w
  result : program s = some w

variable {m : Repetition σ} {s : σ}

/-- A state has one run. -/
theorem Runs.unique {n n' : Nat} {ops ops' : List Operation} {r r' : σ} (h : m.Runs s n ops r)
    (h' : m.Runs s n' ops' r') : n = n' ∧ ops = ops' ∧ r = r' := by
  induction h generalizing n' ops' with
  | stop hstop =>
    cases h' with
    | stop => exact ⟨rfl, rfl, rfl⟩
    | go hmore => exact absurd hmore hstop
  | go hmore _ ih =>
    cases h' with
    | stop hstop => exact absurd hmore hstop
    | go _ rest' =>
      obtain ⟨rfl, rfl, rfl⟩ := ih rest'
      exact ⟨rfl, rfl, rfl⟩

/-- If every turn takes one from a measure, and there is more to do just while it is positive, then it tells the number
of turns. -/
theorem exists_runs (left : σ → Nat) (hmore : ∀ s, m.More s ↔ 0 < left s)
    (hturn : ∀ s, m.More s → left (m.turn s) + 1 = left s) (s : σ) : ∃ ops r, m.Runs s (left s) ops r := by
  induction hn : left s generalizing s with
  | zero => exact ⟨_, _, .stop fun h => by have := (hmore s).1 h; omega⟩
  | succ n ih =>
    have h : m.More s := (hmore s).2 (by omega)
    obtain ⟨ops, r, rest⟩ := ih (m.turn s) (by have := hturn s h; omega)
    exact ⟨_, r, .go h rest⟩

/-- Stepping an index up to a limit takes as many turns as there are words between them. -/
theorem exists_runs_upTo {τ : Type} {m : Repetition (Int64 × τ)} {limit : Int64} (hmore : ∀ s, m.More s ↔ s.1 < limit)
    (hturn : ∀ s, (m.turn s).1 = s.1 + 1) (s : Int64 × τ) :
    ∃ ops r, m.Runs s (limit.toInt - s.1.toInt).toNat ops r := by
  refine exists_runs (fun s => (limit.toInt - s.1.toInt).toNat) (fun s => ?_) (fun s h => ?_) s
  · rw [hmore, Int64.lt_iff_toInt_lt]
    omega
  · have hlt := Int64.lt_iff_toInt_lt.1 ((hmore s).1 h)
    rw [hturn, toInt_next ((hmore s).1 h)]
    omega

/-- **A checked program against its run**: it has a result just when no operation of the run overflows. -/
theorem PerformedBy.eq_some_iff {program : σ → Option α} {shown : σ → α} (hm : m.PerformedBy program shown)
    {n : Nat} {ops : List Operation} {r : σ} (h : m.Runs s n ops r) {w : α} :
    program s = some w ↔ (∀ op ∈ ops, op.Fits) ∧ shown r = w := by
  induction h with
  | stop hstop => rw [hm.stop _ hstop, Option.some.injEq, and_iff_right (by simp)]
  | @go s r n ops hmore _ ih =>
    rw [List.forall_mem_append, and_assoc]
    by_cases hfits : ∀ op ∈ m.operations s, op.Fits
    · rw [hm.go s hmore hfits, ih, and_iff_right hfits]
    · obtain ⟨op, hop, hnot⟩ : ∃ op ∈ m.operations s, ¬op.Fits := by simpa using hfits
      rw [hm.overflow s hmore op hop hnot]
      exact ⟨fun h => by contradiction, fun h => absurd h.1 hfits⟩

/-- A program with a known result completes its run. -/
theorem Completes.of_result {program : σ → Option α} {shown : σ → α} (hm : m.PerformedBy program shown) {n : Nat}
    (h : ∃ ops r, m.Runs s n ops r) {w : α} (hw : program s = some w) : m.Completes program shown s n w := by
  obtain ⟨ops, r, hrun⟩ := h
  refine ⟨hm, ⟨ops, r, hrun⟩, fun n' ops' r' hrun' => ?_, hw⟩
  exact ⟨(hrun'.unique hrun).1, (hm.eq_some_iff hrun').1 hw⟩

end Repetition
end RunMeter.Checked
