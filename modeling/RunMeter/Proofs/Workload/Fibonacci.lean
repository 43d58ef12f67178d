import Mathlib.Data.Nat.Fib.Basic
import RunMeter.Proofs.Checked.Operation
import RunMeter.Workload.Fibonacci

/-!
# RunMeter.Proofs.Workload.Fibonacci — the double recursion computes the Fibonacci sequence

`fibValue` is the sequence with negative indices as their own values.  Up to the index 92 every number of it is a
word, so no node of the recursion leaves the words and the result is the number of the index (`fibonacci_eq`).  The
recursion steps down by one and by two, which `induction_before` follows for every statement about it.
-/

namespace RunMeter.Workload

open Checked (Operation)

/-- The Fibonacci number of an index; a negative index is its own value. -/
def fibValue (n : Int) : Int :=
  if n < 0 then n else (Nat.fib n.toNat : Int)

theorem fibValue_natCast (n : Nat) : fibValue n = Nat.fib n := by
  rw [fibValue, if_neg (by omega), Int.toNat_natCast]

theorem fibValue_of_neg {n : Int} (h : n < 0) : fibValue n = n := if_pos h

theorem fibValue_of_lt_two {n : Int} (h : n < 2) : fibValue n = n := by
  by_cases hneg : n < 0
  · exact fibValue_of_neg hneg
  · obtain rfl | rfl : n = 0 ∨ n = 1 := by omega
    · rfl
    · rfl

/-- The recurrence, from the index 2 on. -/
theorem fibValue_add {n : Int} (h : 2 ≤ n) : fibValue n = fibValue (n - 1) + fibValue (n - 2) := by
  obtain ⟨k, rfl⟩ : ∃ k : Nat, n = ((k + 2 : Nat) : Int) := ⟨(n - 2).toNat, by omega⟩
  rw [show ((k + 2 : Nat) : Int) - 1 = ((k + 1 : Nat) : Int) by omega,
    show ((k + 2 : Nat) : Int) - 2 = (k : Int) by omega]
  simp only [fibValue_natCast]
  rw [Nat.fib_add_two, Nat.cast_add, add_comm]

theorem fibValue_nonneg {n : Int} (h : 0 ≤ n) : 0 ≤ fibValue n := by
  obtain ⟨k, rfl⟩ := Int.eq_ofNat_of_zero_le h
  rw [fibValue_natCast]
  exact Int.natCast_nonneg _

/-- The number with index 92 is the last one that is a word. -/
theorem fib_ninetyTwo : Nat.fib 92 = 7540113804746346429 := by decide +kernel

theorem fibValue_le {n : Int} (h : n ≤ 92) : fibValue n ≤ Int64.maxValue.toInt := by
  rw [Int64.toInt_maxValue]
  by_cases hneg : n < 0
  · rw [fibValue_of_neg hneg]; omega
  · have hmono : Nat.fib n.toNat ≤ Nat.fib 92 := Nat.fib_mono (by omega)
    rw [fib_ninetyTwo] at hmono
    rw [fibValue, if_neg hneg]
    omega

/-! ### Stepping down -/

theorem fits_before {n : Int64} (h : ¬n < 2) : (Operation.sub n 1).Fits ∧ (Operation.sub n 2).Fits := by
  have htwo : (2 : Int64).toInt = 2 := rfl
  have hlo : (2 : Int64).toInt ≤ n.toInt := Int.not_lt.1 fun hlt => h (Int64.lt_iff_toInt_lt.2 hlt)
  have hhi := n.toInt_le
  rw [Int64.toInt_maxValue] at hhi
  simp only [Operation.Fits, Operation.exact, Checked.toInt_one]
  omega

/-- From 2 on, the two indices before are words and go down towards 0. -/
theorem toInt_before {n : Int64} (h : ¬n < 2) :
    (n - 1).toInt = n.toInt - 1 ∧ (n - 2).toInt = n.toInt - 2 ∧ 2 ≤ n.toInt :=
  ⟨Operation.toInt_wrapped (fits_before h).1, Operation.toInt_wrapped (fits_before h).2,
    Int.not_lt.1 fun hlt => h (Int64.lt_iff_toInt_lt.2 hlt)⟩

theorem fibonacci_of_not_lt {n : Int64} (h : ¬n < 2) :
    fibonacci n = (fibonacci (n - 1)).bind fun a => (fibonacci (n - 2)).bind fun b => Checked.add a b :=
  fibonacci_of_sub h (Operation.checked?_of_fits (fits_before h).1) (Operation.checked?_of_fits (fits_before h).2)

/-- Induction down the double recursion. -/
theorem induction_before {P : Int64 → Prop} (leaf : ∀ n : Int64, n < 2 → P n)
    (node : ∀ n : Int64, ¬n < 2 → P (n - 1) → P (n - 2) → P n) (n : Int64) : P n := by
  induction hk : n.toInt.toNat using Nat.strong_induction_on generalizing n with
  | _ k ih =>
    by_cases h : n < 2
    · exact leaf n h
    · obtain ⟨h1, h2, hle⟩ := toInt_before h
      exact node n h (ih _ (by omega) (n - 1) rfl) (ih _ (by omega) (n - 2) rfl)

/-- **No overflow up to the index 92**: the recursion has a result there, and it is the number of the index. -/
theorem fibonacci_eq {n : Int64} (h : n.toInt ≤ 92) :
    ∃ w, fibonacci n = some w ∧ w.toInt = fibValue n.toInt := by
  induction n using induction_before with
  | leaf n hlt =>
    exact ⟨n, fibonacci_of_lt_two hlt, (fibValue_of_lt_two (Int64.lt_iff_toInt_lt.1 hlt)).symm⟩
  | node n hnot ih ih' =>
    obtain ⟨h1, h2, hle⟩ := toInt_before hnot
    obtain ⟨a, ha, va⟩ := ih (by omega)
    obtain ⟨b, hb, vb⟩ := ih' (by omega)
    have hsum : a.toInt + b.toInt = fibValue n.toInt := by rw [va, vb, h1, h2, fibValue_add hle]
    have hnonneg : 0 ≤ fibValue n.toInt := fibValue_nonneg (by omega)
    have hmin : Int64.minValue.toInt = -2 ^ 63 := Int64.toInt_minValue
    obtain ⟨w, hw, vw⟩ := Checked.exists_word (z := a.toInt + b.toInt)
      (by rw [hsum]; omega) (by rw [hsum]; exact fibValue_le h)
    refine ⟨w, ?_, by rw [vw, hsum]⟩
    rw [fibonacci_of_not_lt hnot, ha, hb]
    exact hw

end RunMeter.Workload
