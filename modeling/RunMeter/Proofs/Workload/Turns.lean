import Mathlib.Algebra.BigOperators.Group.Finset.Basic
import Mathlib.Algebra.Order.BigOperators.Group.Finset
import Mathlib.Algebra.Order.Ring.Int
import Mathlib.Data.Int.ModEq
import RunMeter.Proofs.Checked.Repetition
import RunMeter.Proofs.Workload.Loops
import RunMeter.Settings.Workload

/-!
# RunMeter.Proofs.Workload.Turns — how often the loops go round, and what they come to

A loop up to a limit takes one turn for each index from 0 on that is below the limit, so `max 0 limit` of them:

* `forBelow_eq_foldlM`: whatever the body is, the loop is a fold over those indices in order.
* `performedBy_loop`: a loop whose body checks its operations performs the loop on words that wrap round.
* `countUp_eq`, `exactSum_eq_triangle`: what the two loops of the workloads come to.
* `loops_below`: both together, turn by turn, for every limit.
-/

namespace RunMeter.Workload

open Checked (Operation Repetition add_one_of_lt fits_next)

/-! ### Any loop -/

/-- How many indices from 0 on are below a limit. -/
def indicesBelow (limit : Int64) : Nat :=
  limit.toInt.toNat

theorem indicesBelow_eq_max (limit : Int64) : (indicesBelow limit : Int) = max 0 limit.toInt := by
  unfold indicesBelow
  omega

/-- A body without a result ends the loop without one. -/
theorem forBelow_of_none {σ : Type} {limit : Int64} {body : Int64 → σ → Option σ} {i : Int64} {s : σ}
    (h : i < limit) (hbody : body i s = none) : forBelow limit body i s = none := by
  rw [forBelow, dif_pos h, hbody]

/-- From an index on, a loop runs its body for that index and all that follow below the limit. -/
theorem forBelow_eq_foldlM_range' {σ : Type} {limit : Int64} (body : Int64 → σ → Option σ) {i n : Nat}
    (h : limit.toInt = i + n) (s : σ) :
    forBelow limit body (Int64.ofNat i) s = (List.range' i n).foldlM (fun s j => body (Int64.ofNat j) s) s := by
  have hmax := limit.toInt_le
  rw [Int64.toInt_maxValue] at hmax
  have hi : (Int64.ofNat i).toInt = i := Int64.toInt_ofNat_of_lt (by omega)
  induction n generalizing i s with
  | zero =>
    rw [forBelow_of_le s (by omega)]
    rfl
  | succ n ih =>
    have hlt : (Int64.ofNat i).toInt < limit.toInt := by omega
    rw [List.range'_succ, List.foldlM_cons]
    cases hbody : body (Int64.ofNat i) s with
    | none => rw [forBelow_of_none (Int64.lt_iff_toInt_lt.2 hlt) hbody]; rfl
    | some s' =>
      have hnext : Int64.ofNat (i + 1) = Int64.ofNat i + 1 := Int64.ofNat_add i 1
      have ih := ih (i := i + 1) (by push_cast; omega) s' (Int64.toInt_ofNat_of_lt (by omega))
      rw [forBelow_of_lt hlt hbody (add_one_of_lt (Int64.lt_iff_toInt_lt.2 hlt)), ← hnext, ih]
      rfl

/-- **A loop is a fold over its indices**: the body runs once for each of 0 up to the limit, the limit itself excluded,
in that order, and stepping the index never ends the loop. -/
theorem forBelow_eq_foldlM {σ : Type} (limit : Int64) (body : Int64 → σ → Option σ) (s : σ) :
    forBelow limit body 0 s = (List.range (indicesBelow limit)).foldlM (fun s i => body (Int64.ofNat i) s) s := by
  rw [List.range_eq_range', indicesBelow]
  rcases Int.le_total limit.toInt 0 with hle | hge
  · rw [forBelow_of_le s hle, Int.toNat_of_nonpos hle]
    rfl
  · exact forBelow_eq_foldlM_range' (i := 0) body (by omega) s

/-- A loop up to a limit on words that wrap round: `next` is its body, and `ops` is what the body adds and subtracts. -/
def loop {σ : Type} (limit : Int64) (next : Int64 → σ → σ) (ops : Int64 → σ → List Operation) :
    Repetition (Int64 × σ) where
  More s := s.1 < limit
  turn s := (s.1 + 1, next s.1 s.2)
  operations s := ops s.1 s.2 ++ [.add s.1 1]

section Loop

variable {σ : Type} {limit : Int64} {next : Int64 → σ → σ} {ops : Int64 → σ → List Operation}

/-- From the index 0 on a loop takes a turn for every index below the limit. -/
theorem exists_runs_loop (s : σ) : ∃ done r, (loop limit next ops).Runs (0, s) (indicesBelow limit) done r := by
  have hzero : (0 : Int64).toInt = 0 := rfl
  have hruns := Repetition.exists_runs_upTo (m := loop limit next ops) (fun _ => Iff.rfl) (fun _ => rfl) (0, s)
  rwa [hzero, sub_zero] at hruns

/-- A body that checks its operations makes a loop that does. -/
theorem performedBy_loop {body : Int64 → σ → Option σ}
    (hfits : ∀ i s, (∀ op ∈ ops i s, op.Fits) → body i s = some (next i s))
    (hnot : ∀ i s, ∀ op ∈ ops i s, ¬op.Fits → body i s = none) :
    (loop limit next ops).PerformedBy (fun s => forBelow limit body s.1 s.2) Prod.snd where
  stop s h := forBelow_of_le s.2 (Int.not_lt.1 fun hlt => h (Int64.lt_iff_toInt_lt.2 hlt))
  go s h hops := by
    have hbody := hfits s.1 s.2 fun op hop => hops op (List.mem_append_left _ hop)
    exact forBelow_of_lt (Int64.lt_iff_toInt_lt.1 h) hbody (add_one_of_lt h)
  overflow s h op hop hop' := by
    rcases List.mem_append.1 hop with hop | hop
    · exact forBelow_of_none h (hnot s.1 s.2 op hop hop')
    · -- stepping the index is no operation that overflows
      obtain rfl := List.mem_singleton.1 hop
      exact absurd (fits_next h) hop'

end Loop

/-! ### Counting -/

/-- Counting on words that wrap round: each turn adds one to the count. -/
def counting (limit : Int64) : Repetition (Int64 × Int64) :=
  loop limit (fun _ count => count + 1) fun _ count => [.add count 1]

/-- The counting loop from an index and a count on. -/
def countFrom (limit : Int64) (s : Int64 × Int64) : Option Int64 :=
  forBelow limit (fun _ count => Checked.add count 1) s.1 s.2

theorem performedBy_counting (limit : Int64) : (counting limit).PerformedBy (countFrom limit) Prod.snd := by
  refine performedBy_loop (fun i count h => ?_) fun i count op hop h => ?_
  · exact Operation.checked?_of_fits (h _ (List.mem_singleton_self _))
  · obtain rfl := List.mem_singleton.1 hop
    exact Operation.checked?_of_not_fits h

/-- The count is the limit, or 0 if that is negative. -/
theorem countUp_eq (limit : Int64) : ∃ w, countUp limit = some w ∧ w.toInt = max 0 limit.toInt := by
  rcases Int.le_total limit.toInt 0 with hle | hge
  · exact ⟨0, forBelow_of_le _ hle, (max_eq_left hle).symm⟩
  · have hstep (i count : Int64) (h : i.toInt < limit.toInt) (heq : count.toInt = i.toInt) :
        ∃ w, Checked.add count 1 = some w ∧ w.toInt = i.toInt + 1 := by
      have hmax := limit.toInt_le
      obtain ⟨w, hw, vw⟩ := Checked.exists_succ (a := count) (by omega)
      exact ⟨w, hw, by omega⟩
    obtain ⟨w, hw, vw⟩ := forBelow_spec (fun i (count : Int64) => count.toInt = i) hstep (i := 0) (s := 0) hge rfl
    exact ⟨w, hw, by rw [vw, max_eq_right hge]⟩

/-! ### Summing -/

/-- Summing on words that wrap round: the sum itself is not checked. -/
def summing (limit : Int64) : Repetition (Int64 × Int64) :=
  loop limit (fun i sum => sum + i) fun _ _ => []

/-- The summing loop from an index and a sum on. -/
def sumFrom (limit : Int64) (s : Int64 × Int64) : Option Int64 :=
  forBelow limit (fun i sum => some (sum + i)) s.1 s.2

theorem performedBy_summing (limit : Int64) : (summing limit).PerformedBy (sumFrom limit) Prod.snd :=
  performedBy_loop (fun _ _ _ => rfl) fun _ _ _ hop => absurd hop List.not_mem_nil

/-- The sum of the indices below a limit over the integers. -/
def exactSum (limit : Int64) : Int :=
  ∑ i ∈ Finset.range (indicesBelow limit), (i : Int)

/-- The triangular number is the sum of the indices below. -/
theorem triangle_eq_sum (n : Nat) : triangle n = ∑ i ∈ Finset.range n, (i : Int) := by
  induction n with
  | zero => rfl
  | succ n ih => rw [Finset.sum_range_succ, ← ih, Nat.cast_succ, triangle_succ (Int.natCast_nonneg n)]

theorem triangle_eq_div {n : Int} (h : 0 ≤ n) : triangle n = n * (n - 1) / 2 := by
  rcases Int.lt_or_eq_of_le h with hpos | rfl
  · rw [triangle, if_neg (by omega)]
  · rfl

theorem exactSum_eq_div (limit : Int64) : exactSum limit = indicesBelow limit * (indicesBelow limit - 1 : Int) / 2 := by
  rw [exactSum, ← triangle_eq_sum, triangle_eq_div (Int.natCast_nonneg _)]

theorem exactSum_eq_triangle (limit : Int64) : exactSum limit = triangle limit.toInt := by
  rw [exactSum, ← triangle_eq_sum, indicesBelow_eq_max]
  rcases Int.le_total limit.toInt 0 with hle | hge
  · -- no index is below a negative limit
    rw [max_eq_left hle, triangle_of_nonpos hle, triangle_of_nonpos le_rfl]
  · rw [max_eq_right hge]

theorem exactSum_nonneg (limit : Int64) : 0 ≤ exactSum limit :=
  Finset.sum_nonneg fun i _ => Int.natCast_nonneg i

/-- A word whose value is an integer wrapped round is the one word that is congruent to it. -/
theorem eq_iff_modEq {w : Int64} {z : Int} (hw : w.toInt = z.bmod (2 ^ 64)) (v : Int64) :
    v = w ↔ v.toInt ≡ z [ZMOD 2 ^ 64] := by
  have hmod (v : Int64) : v.toInt.bmod (2 ^ 64) = v.toInt := v.toInt_bmod
  constructor
  · rintro rfl
    rw [hw]
    exact Int.bmod_emod
  · intro h
    refine Int64.toInt_inj.1 ?_
    calc v.toInt = (v.toInt % (2 ^ 64 : Nat)).bmod (2 ^ 64) := by rw [Int.emod_bmod, hmod]
      _ = (z % (2 ^ 64 : Nat)).bmod (2 ^ 64) := congrArg (Int.bmod · _) h
      _ = w.toInt := by rw [Int.emod_bmod, hw]

/-- An integer that is a word is not wrapped round. -/
theorem bmod_of_lt {z : Int} (hlo : 0 ≤ z) (hhi : z < 2 ^ 63) : z.bmod (2 ^ 64) = z :=
  Int.bmod_eq_of_le_mul_two (by omega) (by omega)

/-- **The two loops up to every limit.**  With `k = max 0 limit`, a loop runs its body for the indices 0 up to `k - 1`,
once each and in order.  Counting and summing both end after exactly `k` turns, and no step of the index or of the count
overflows.  The count is `k`.  The sum is the one word congruent to `k * (k - 1) / 2` modulo 2^64: the exact sum of the
indices if that is a word, and that sum wrapped round otherwise, as it is for the limit of settings that say nothing. -/
theorem loops_below (limit : Int64) :
    (indicesBelow limit : Int) = max 0 limit.toInt ∧
    (∀ {σ : Type} (body : Int64 → σ → Option σ) (s : σ),
      forBelow limit body 0 s = (List.range (indicesBelow limit)).foldlM (fun s i => body (Int64.ofNat i) s) s) ∧
    (∃ count, countUp limit = some count ∧ count.toInt = indicesBelow limit ∧
      (counting limit).Completes (countFrom limit) Prod.snd (0, 0) (indicesBelow limit) count) ∧
    (∃ sum, sumBelow limit = some sum ∧
      (summing limit).Completes (sumFrom limit) Prod.snd (0, 0) (indicesBelow limit) sum ∧
      (∀ v : Int64, v = sum ↔ v.toInt ≡ indicesBelow limit * (indicesBelow limit - 1 : Int) / 2 [ZMOD 2 ^ 64]) ∧
      sum.toInt = (exactSum limit).bmod (2 ^ 64) ∧
      (exactSum limit < 2 ^ 63 → sum.toInt = exactSum limit)) ∧
    (limit = (WorkloadSettings.ofLookup fun _ => none).sumLoopLimit →
      indicesBelow limit = 10 ^ 10 ∧ 2 ^ 63 ≤ exactSum limit) := by
  refine ⟨indicesBelow_eq_max limit, fun body s => forBelow_eq_foldlM limit body s, ?_, ?_, ?_⟩
  · obtain ⟨count, hcount, vcount⟩ := countUp_eq limit
    exact ⟨count, hcount, by rw [vcount, indicesBelow_eq_max],
      .of_result (performedBy_counting limit) (exists_runs_loop 0) hcount⟩
  · obtain ⟨sum, hsum, vsum⟩ := sumBelow_eq limit
    rw [← exactSum_eq_triangle] at vsum
    refine ⟨sum, hsum, .of_result (performedBy_summing limit) (exists_runs_loop 0) hsum, ?_, vsum, ?_⟩
    · rw [← exactSum_eq_div]
      exact eq_iff_modEq vsum
    · intro hlt
      rw [vsum, bmod_of_lt (exactSum_nonneg limit) hlt]
  · rintro rfl
    have hlimit : indicesBelow (WorkloadSettings.ofLookup fun _ => none).sumLoopLimit = 10 ^ 10 := by decide +kernel
    refine ⟨hlimit, ?_⟩
    rw [exactSum_eq_div, hlimit]
    decide +kernel

/-- A sum that is a word, the sum of settings that say nothing, which is not, and the limits at both ends. -/
theorem loops_below_ends :
    let silent := (WorkloadSettings.ofLookup fun _ => none).sumLoopLimit
    (exactSum 1000 < 2 ^ 63 ∧ sumBelow 1000 = some 499500) ∧
    (2 ^ 63 ≤ exactSum silent ∧ sumBelow silent = some (-5340232226128654848)) ∧
    (countUp Int64.maxValue = some Int64.maxValue ∧ sumBelow Int64.maxValue = some 4611686018427387905) ∧
    countUp Int64.minValue = some 0 ∧ sumBelow Int64.minValue = some 0 := by
  intro silent
  have small : exactSum 1000 = (499500 : Int64).toInt := by
    rw [exactSum_eq_div]
    decide
  obtain ⟨-, -, -, ⟨sum, hsum, -, -, -, hexact⟩, -⟩ := loops_below 1000
  obtain ⟨-, -, -, ⟨wide, hwide, -, hwrap, -, -⟩, hsilent⟩ := loops_below silent
  obtain ⟨-, -, ⟨most, hmost, vmost, -⟩, ⟨last, hlast, -, hlastwrap, -, -⟩, -⟩ := loops_below Int64.maxValue
  obtain ⟨-, -, ⟨least, hleast, vleast, -⟩, ⟨first, hfirst, -, hfirstwrap, -, -⟩, -⟩ := loops_below Int64.minValue
  have hfits : exactSum 1000 < 2 ^ 63 := by rw [small]; decide
  refine ⟨⟨hfits, ?_⟩, ⟨(hsilent rfl).2, ?_⟩, ⟨?_, ?_⟩, ?_, ?_⟩
  · rw [hsum, Int64.toInt_inj.1 ((hexact hfits).trans small)]
  · rw [hwide, ← (hwrap (-5340232226128654848)).2 (by decide +kernel)]
  · rw [hmost, Int64.toInt_inj.1 (vmost.trans (by decide +kernel : _ = Int64.maxValue.toInt))]
  · rw [hlast, ← (hlastwrap 4611686018427387905).2 (by decide +kernel)]
  · rw [hleast, Int64.toInt_inj.1 (vleast.trans (by decide +kernel : _ = (0 : Int64).toInt))]
  · rw [hfirst, ← (hfirstwrap 0).2 (by decide +kernel)]

end RunMeter.Workload
