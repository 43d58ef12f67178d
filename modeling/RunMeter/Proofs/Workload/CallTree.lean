import RunMeter.Proofs.Settings.Image
import RunMeter.Proofs.Workload.Fibonacci

/-!
# RunMeter.Proofs.Workload.CallTree — the double recursion, operation by operation

`CallTree` is the tree of the calls beneath an index on words that wrap round, with every subtraction and addition in
it.  There is one tree for each index, and the checked recursion has a result just when nothing in that tree overflows
(`CallTree.eq_some_iff`).

* `fibonacci_eq_none_iff`: that is so up to the index 92 and for no greater one.
* `fibonacci_never_overflows`: no settings ask for an index past it, and none below it is refused.
-/

namespace RunMeter

namespace WorkloadSettings

theorem fibIndexOf_of_le {n : Int64} (h : n.toInt ≤ 92) : fibIndexOf n = n :=
  if_pos (Int64.le_iff_toInt_le.2 h)

theorem fibIndexOf_of_lt {n : Int64} (h : 92 < n.toInt) : fibIndexOf n = 50 :=
  if_neg fun hle => Int.not_le.2 h (Int64.le_iff_toInt_le.1 hle)

/-- An index that is read is kept up to 92. -/
theorem fibIndex_of_read {lookup : Lookup} {n : Int64} (h : (lookup "FIB_N").bind Reading.int64? = some n) :
    (ofLookup lookup).fibIndex = fibIndexOf n := by
  show fibIndexOf (((lookup "FIB_N").bind Reading.int64?).getD defaultFibIndex) = _
  rw [h, Option.getD_some]

/-- The default stands in for an index that is missing or does not read. -/
theorem fibIndex_of_unread {lookup : Lookup} (h : (lookup "FIB_N").bind Reading.int64? = none) :
    (ofLookup lookup).fibIndex = 50 := by
  show fibIndexOf (((lookup "FIB_N").bind Reading.int64?).getD defaultFibIndex) = _
  rw [h, Option.getD_none]
  rfl

end WorkloadSettings

namespace Workload

open Checked (Operation)

/-- The calls beneath an index on words that wrap round perform these operations, in order, and come to a value. -/
inductive CallTree : Int64 → List Operation → Int64 → Prop
  | leaf {n : Int64} (h : n < 2) : CallTree n [] n
  | node {n a b : Int64} {ops ops' : List Operation} (h : ¬n < 2) (before : CallTree (n - 1) ops a)
    (twoBefore : CallTree (n - 2) ops' b) :
    CallTree n (.sub n 1 :: ops ++ .sub n 2 :: ops' ++ [.add a b]) (a + b)

/-! ### The tree of an index -/

theorem exists_callTree (n : Int64) : ∃ ops w, CallTree n ops w := by
  induction n using induction_before with
  | leaf n h => exact ⟨_, _, .leaf h⟩
  | node n h ih ih' =>
    obtain ⟨ops, a, before⟩ := ih
    obtain ⟨ops', b, twoBefore⟩ := ih'
    exact ⟨_, _, .node h before twoBefore⟩

/-- An index has one tree. -/
theorem CallTree.unique {n w w' : Int64} {ops ops' : List Operation} (h : CallTree n ops w)
    (h' : CallTree n ops' w') : ops = ops' ∧ w = w' := by
  induction h generalizing ops' w' with
  | leaf hlt =>
    cases h' with
    | leaf => exact ⟨rfl, rfl⟩
    | node hnot => exact absurd hlt hnot
  | node hnot _ _ ih ih' =>
    cases h' with
    | leaf hlt => exact absurd hlt hnot
    | node _ before twoBefore =>
      obtain ⟨rfl, rfl⟩ := ih before
      obtain ⟨rfl, rfl⟩ := ih' twoBefore
      exact ⟨rfl, rfl⟩

/-- **The checked recursion against its tree**: it has a result just when no operation in the tree overflows. -/
theorem CallTree.eq_some_iff {n w : Int64} {ops : List Operation} (h : CallTree n ops w) {v : Int64} :
    fibonacci n = some v ↔ (∀ op ∈ ops, op.Fits) ∧ w = v := by
  induction h generalizing v with
  | leaf hlt => simp [fibonacci_of_lt_two hlt]
  | @node n a b ops ops' hnot _ _ ih ih' =>
    obtain ⟨hone, htwo⟩ := fits_before hnot
    have hops : (∀ op ∈ .sub n 1 :: ops ++ .sub n 2 :: ops' ++ [.add a b], op.Fits) ↔
        (∀ op ∈ ops, op.Fits) ∧ (∀ op ∈ ops', op.Fits) ∧ (Operation.add a b).Fits := by
      simp [hone, htwo, or_imp, forall_and]
    rw [fibonacci_of_not_lt hnot, hops]
    simp only [Option.bind_eq_some_iff, ih, ih']
    constructor
    · rintro ⟨_, ⟨hfits, rfl⟩, _, ⟨hfits', rfl⟩, hadd⟩
      have hlast : (Operation.add a b).Fits := Operation.fits_of_checked? hadd
      exact ⟨⟨hfits, hfits', hlast⟩, Option.some.inj ((Operation.checked?_of_fits hlast).symm.trans hadd)⟩
    · rintro ⟨⟨hfits, hfits', hlast⟩, rfl⟩
      exact ⟨a, ⟨hfits, rfl⟩, b, ⟨hfits', rfl⟩, Operation.checked?_of_fits hlast⟩

/-! ### Which indices have a result -/

/-- Whatever the index, a result is its Fibonacci number. -/
theorem toInt_of_fibonacci {n w : Int64} (h : fibonacci n = some w) : w.toInt = fibValue n.toInt := by
  induction n using induction_before generalizing w with
  | leaf n hlt =>
    rw [fibonacci_of_lt_two hlt] at h
    rw [← Option.some.inj h, fibValue_of_lt_two (Int64.lt_iff_toInt_lt.1 hlt)]
  | node n hnot ih ih' =>
    obtain ⟨h1, h2, hle⟩ := toInt_before hnot
    rw [fibonacci_of_not_lt hnot] at h
    obtain ⟨a, ha, h⟩ := Option.bind_eq_some_iff.1 h
    obtain ⟨b, hb, h⟩ := Option.bind_eq_some_iff.1 h
    rw [Checked.toInt_of_add h, ih ha, ih' hb, h1, h2, fibValue_add hle]

/-- The Fibonacci numbers up to the index 92 are signed words, and no later one is. -/
theorem fib_lt_iff (n : Nat) : (Nat.fib n : Int) < 2 ^ 63 ↔ n ≤ 92 := by
  constructor
  · intro h
    by_contra hlt
    have hmono : Nat.fib 93 ≤ Nat.fib n := Nat.fib_mono (by omega)
    have hvalue : Nat.fib 93 = 12200160415121876738 := by decide +kernel
    omega
  · intro h
    have hmono : Nat.fib n ≤ Nat.fib 92 := Nat.fib_mono h
    rw [fib_ninetyTwo] at hmono
    omega

/-- The recursion overflows just past the index 92. -/
theorem fibonacci_eq_none_iff (n : Int64) : fibonacci n = none ↔ 92 < n.toInt := by
  constructor
  · intro h
    by_contra hle
    obtain ⟨w, hw, -⟩ := fibonacci_eq (n := n) (by omega)
    rw [h] at hw
    contradiction
  · intro h
    refine Option.eq_none_iff_forall_ne_some.2 fun w hw => ?_
    have hvalue : w.toInt = Nat.fib n.toInt.toNat := by
      rw [toInt_of_fibonacci hw, fibValue, if_neg (by omega)]
    have hmax := w.toInt_le
    rw [Int64.toInt_maxValue] at hmax
    have hindex := (fib_lt_iff n.toInt.toNat).1 (by omega)
    omega

/-- **The Fibonacci phase never overflows.**  Whatever the variables hold, the index of the settings is at most 92: one
that reads is kept up to there, also a negative one, and anything else is 50.  Up to 92 the tree of calls is finite, no
subtraction or addition in it overflows, and the result is the index itself below 0 and the Fibonacci number of the
index from there on.  The bound is sharp: the Fibonacci numbers up to 92 are signed words and no later one is, so an
index that is not kept is one whose recursion overflows. -/
theorem fibonacci_never_overflows :
    (∀ lookup : Lookup,
      let index := (WorkloadSettings.ofLookup lookup).fibIndex
      let read := (lookup "FIB_N").bind Reading.int64?
      index.toInt ≤ 92 ∧ (∀ n, read = some n → n.toInt ≤ 92 → index = n) ∧
      (∀ n, read = some n → 92 < n.toInt → index = 50) ∧ (read = none → index = 50)) ∧
    (∀ n : Int64, n.toInt ≤ 92 → (∃ ops w, CallTree n ops w) ∧ ∀ ops w, CallTree n ops w →
      (∀ op ∈ ops, op.Fits) ∧ fibonacci n = some w ∧ (n.toInt < 0 → w = n) ∧
      (0 ≤ n.toInt → w.toInt = Nat.fib n.toInt.toNat)) ∧
    (∀ (n : Int64) ops w, CallTree n ops w → ∀ v, fibonacci n = some v ↔ (∀ op ∈ ops, op.Fits) ∧ w = v) ∧
    (∀ n : Nat, (Nat.fib n : Int) < 2 ^ 63 ↔ n ≤ 92) ∧
    (∀ n : Int64, WorkloadSettings.fibIndexOf n ≠ n → fibonacci n = none) := by
  refine ⟨fun lookup => ⟨?_, ?_, ?_, ?_⟩, fun n hn => ⟨exists_callTree n, fun ops w htree => ?_⟩,
    fun n ops w htree v => htree.eq_some_iff, fib_lt_iff, fun n hn => ?_⟩
  · exact WorkloadSettings.fibIndexOf_le _
  · intro n hread hle
    rw [WorkloadSettings.fibIndex_of_read hread, WorkloadSettings.fibIndexOf_of_le hle]
  · intro n hread hlt
    rw [WorkloadSettings.fibIndex_of_read hread, WorkloadSettings.fibIndexOf_of_lt hlt]
  · exact WorkloadSettings.fibIndex_of_unread
  · obtain ⟨v, hv, vv⟩ := fibonacci_eq hn
    obtain ⟨hfits, rfl⟩ := htree.eq_some_iff.1 hv
    refine ⟨hfits, hv, fun hneg => ?_, fun hge => ?_⟩
    · exact Int64.toInt_inj.1 (by rw [vv, fibValue_of_neg hneg])
    · rw [vv, fibValue, if_neg (by omega)]
  · refine (fibonacci_eq_none_iff n).2 (Int.not_le.1 fun hle => hn ?_)
    exact WorkloadSettings.fibIndexOf_of_le hle

/-- The greatest index, the next one, a negative one and one that does not read. -/
theorem fibonacci_never_overflows_ends :
    ((WorkloadSettings.ofLookup fun _ => some "9_2").fibIndex = 92 ∧
      (∃ ops, CallTree 92 ops 7540113804746346429 ∧ ∀ op ∈ ops, op.Fits) ∧
      fibonacci 92 = some 7540113804746346429) ∧
    ((WorkloadSettings.ofLookup fun _ => some "93").fibIndex = 50 ∧ fibonacci 93 = none) ∧
    ((WorkloadSettings.ofLookup fun _ => some "-7").fibIndex = -7 ∧ fibonacci (-7) = some (-7)) ∧
    (WorkloadSettings.ofLookup fun _ => some "fifty").fibIndex = 50 := by
  obtain ⟨settings, within, -, -, past⟩ := fibonacci_never_overflows
  obtain ⟨⟨ops, w, htree⟩, hall⟩ := within 92 (by decide)
  obtain ⟨hfits, hw, -, vw⟩ := hall ops w htree
  obtain rfl : w = 7540113804746346429 := by
    refine Int64.toInt_inj.1 ((vw (by decide)).trans ?_)
    show ((Nat.fib 92 : Nat) : Int) = _
    rw [fib_ninetyTwo]
    rfl
  obtain ⟨⟨_, v, hneg⟩, hall⟩ := within (-7) (by decide)
  obtain ⟨-, hv, vneg, -⟩ := hall _ v hneg
  rw [vneg (by decide)] at hv
  refine ⟨⟨?_, ⟨ops, htree, hfits⟩, hw⟩, ⟨?_, past 93 (by decide)⟩, ⟨?_, hv⟩, ?_⟩
  · exact (settings fun _ => some "9_2").2.1 92 (by decide +kernel) (by decide)
  · exact (settings fun _ => some "93").2.2.1 93 (by decide +kernel) (by decide)
  · exact (settings fun _ => some "-7").2.1 (-7) (by decide +kernel) (by decide)
  · exact (settings fun _ => some "fifty").2.2.2 (by decide +kernel)

end Workload
end RunMeter
