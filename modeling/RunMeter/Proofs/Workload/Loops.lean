import Mathlib.Tactic.Ring
import RunMeter.Workload.Loops

/-!
# RunMeter.Proofs.Workload.Loops — what the loops up to a limit compute

* `forBelow_spec`: the rule for a loop.  A statement about the index and the state that the body keeps holds at
  the end, with the limit as the index; the index itself never leaves the words.
* `sumBelow_eq`: the sum is the triangular number of the limit, reduced to a word.
-/

namespace RunMeter.Workload

/-- **The loop rule**: what the body carries from an index to the next one holds at the limit. -/
theorem forBelow_spec {σ : Type} {limit : Int64} {body : Int64 → σ → Option σ} (I : Int → σ → Prop)
    (hstep : ∀ (i : Int64) (s : σ), i.toInt < limit.toInt → I i.toInt s →
      ∃ s', body i s = some s' ∧ I (i.toInt + 1) s')
    {i : Int64} {s : σ} (hi : i.toInt ≤ limit.toInt) (h : I i.toInt s) :
    ∃ r, forBelow limit body i s = some r ∧ I limit.toInt r := by
  -- induction on the number of indices that are left
  induction hk : (limit.toInt - i.toInt).toNat generalizing i s with
  | zero =>
    have heq : i.toInt = limit.toInt := by omega
    exact ⟨s, forBelow_of_le s (by omega), heq ▸ h⟩
  | succ k ih =>
    have hlt : i.toInt < limit.toInt := by omega
    obtain ⟨s', hbody, hs'⟩ := hstep i s hlt h
    have hmax := limit.toInt_le
    obtain ⟨next, hnext, vnext⟩ := Checked.exists_succ (a := i) (by omega)
    obtain ⟨r, hr, hI⟩ := ih (i := next) (s := s') (by omega) (by rw [vnext]; exact hs') (by omega)
    exact ⟨r, by rw [forBelow_of_lt hlt hbody hnext, hr], hI⟩

/-! ### The sum -/

/-- The number of pairs of indices below `n`, which is also their sum; no index is below a negative limit. -/
def triangle (n : Int) : Int :=
  if n ≤ 0 then 0 else n * (n - 1) / 2

theorem triangle_of_nonpos {n : Int} (h : n ≤ 0) : triangle n = 0 := if_pos h

theorem two_mul_triangle {n : Int} (h : 0 ≤ n) : 2 * triangle n = n * (n - 1) := by
  rcases Int.lt_or_eq_of_le h with hpos | rfl
  · rw [triangle, if_neg (by omega)]
    exact Int.mul_ediv_cancel' (Int.even_mul_pred_self n).two_dvd
  · rfl

/-- One more index adds itself. -/
theorem triangle_succ {n : Int} (h : 0 ≤ n) : triangle (n + 1) = triangle n + n := by
  have h1 := two_mul_triangle h
  have h2 := two_mul_triangle (n := n + 1) (by omega)
  have h3 : (n + 1) * (n + 1 - 1) = n * (n - 1) + 2 * n := by ring
  omega

/-- The invariant of the sum: before the index `i` the word holds the sum of the indices below it, wrapped. -/
def SumsTo (i : Int) (sum : Int64) : Prop :=
  0 ≤ i ∧ sum.toInt = (triangle i).bmod (2 ^ 64)

theorem SumsTo.succ {i sum : Int64} (h : SumsTo i.toInt sum) : SumsTo (i.toInt + 1) (sum + i) := by
  obtain ⟨hi, hsum⟩ := h
  refine ⟨by omega, ?_⟩
  rw [Int64.toInt_add, hsum, Int.bmod_add_bmod, triangle_succ hi]

/-- The sum never fails.  It is the word congruent to the triangular number of the limit. -/
theorem sumBelow_eq (limit : Int64) :
    ∃ w, sumBelow limit = some w ∧ w.toInt = (triangle limit.toInt).bmod (2 ^ 64) := by
  rcases Int.le_total limit.toInt 0 with hle | hge
  · refine ⟨0, forBelow_of_le _ hle, ?_⟩
    rw [triangle_of_nonpos hle]
    rfl
  · obtain ⟨w, hw, -, vw⟩ := forBelow_spec SumsTo (fun i sum _ h => ⟨sum + i, rfl, h.succ⟩) (i := 0) (s := 0) hge
      ⟨le_rfl, rfl⟩
    exact ⟨w, hw, vw⟩

end RunMeter.Workload
