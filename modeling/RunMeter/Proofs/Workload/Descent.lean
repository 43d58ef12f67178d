import RunMeter.Proofs.Checked.Repetition
import RunMeter.Proofs.Workload.StackDive

/-!
# RunMeter.Proofs.Workload.Descent — the deep recursion, call by call

The one call of the recursion is its last act, so the recursion is a repetition whose turns are the nested calls
(`descent`): each steps up the depth and all eight counters.

* `hasRoom_of_runs`: whether the nested calls of a descent overflow is a matter of the room in its counters alone.
* `descend_eq_none_iff`: without that room the recursion has no result.
* `descent_completes`: with it the calls are as many as the limit is away, and the result is the limit.
-/

namespace RunMeter.Workload

open Checked (Operation Repetition)

namespace Counters

/-- The additions that make the counters one greater. -/
def increments (x : Counters) : List Operation :=
  x.words.map fun v => .add v 1

/-- The counters can be made one greater without an overflow just if they have room for it. -/
theorem forall_fits_increments {x : Counters} : (∀ op ∈ x.increments, op.Fits) ↔ x.HasRoom 1 := by
  rw [increments, List.forall_mem_map]
  exact forall₂_congr fun _ _ => Checked.fits_add_one_iff

/-- Advanced counters are counters that did not overflow. -/
theorem fits_of_advance {x y : Counters} (h : x.advance = some y) : ∀ op ∈ x.increments, op.Fits := by
  simp only [advance, Option.bind_eq_bind, Option.bind_eq_some_iff] at h
  obtain ⟨a, ha, b, hb, c, hc, e, he, f, hf, g, hg, h', hh, i, hi, -⟩ := h
  have fits {v w : Int64} (hv : Checked.add v 1 = some w) : (Operation.add v 1).Fits := Operation.fits_of_checked? hv
  rw [increments, List.forall_mem_map]
  simp only [words, List.forall_mem_cons]
  exact ⟨fits ha, fits hb, fits hc, fits he, fits hf, fits hg, fits hh, fits hi, fun _ hv => absurd hv List.not_mem_nil⟩

/-- The counters 1 to 8 have room up to eight below the greatest word, and no more. -/
theorem hasRoom_start_iff {room : Int} : start.HasRoom room ↔ room ≤ Int64.maxValue.toInt - 8 := by
  refine ⟨fun h => ?_, hasRoom_start⟩
  have height : (8 : Int64).toInt + room ≤ Int64.maxValue.toInt := h 8 (by simp [words, start])
  have hvalue : (8 : Int64).toInt = 8 := rfl
  omega

end Counters

/-! ### The nested calls -/

/-- The descent to a limit on words that wrap round: each call steps up the depth and then the counters. -/
def descent (limit : Int64) : Repetition (Int64 × Counters) where
  More s := s.1 < limit
  turn s := (s.1 + 1, s.2.bump)
  operations s := .add s.1 1 :: s.2.increments

/-- The recursion from a depth and some counters on. -/
def descendFrom (limit : Int64) (s : Int64 × Counters) : Option Int64 :=
  descend limit s.1 s.2

theorem descend_of_none {limit depth : Int64} {x : Counters} (h : depth < limit) (hx : x.advance = none) :
    descend limit depth x = none := by
  rw [descend, dif_pos h]
  split
  · rfl
  · rw [hx]

theorem performedBy_descent (limit : Int64) : (descent limit).PerformedBy (descendFrom limit) Prod.fst where
  stop s h := descend_of_le s.2 (Int.not_lt.1 fun hlt => h (Int64.lt_iff_toInt_lt.2 hlt))
  go s h hops := by
    have hroom := Counters.forall_fits_increments.1 fun op hop => hops op (List.mem_cons_of_mem _ hop)
    have hadvance := Counters.advance_of_hasRoom hroom
    exact descend_of_lt (Int64.lt_iff_toInt_lt.1 h) (Checked.add_one_of_lt h) hadvance
  overflow s h op hop hop' := by
    rcases List.mem_cons.1 hop with rfl | hop
    · -- stepping the depth is no operation that overflows
      exact absurd (Checked.fits_next h) hop'
    · refine descend_of_none h (Option.eq_none_iff_forall_ne_some.2 fun y hy => ?_)
      exact hop' (Counters.fits_of_advance hy op hop)

/-- There is a nested call for every step from the depth to the limit. -/
theorem exists_runs_descent (limit depth : Int64) (x : Counters) :
    ∃ ops r, (descent limit).Runs (depth, x) (limit.toInt - depth.toInt).toNat ops r :=
  Repetition.exists_runs_upTo (fun _ => Iff.rfl) (fun _ => rfl) (depth, x)

/-- A descent without an overflow is one whose counters had room for every call. -/
theorem hasRoom_of_runs {limit : Int64} {s r : Int64 × Counters} {n : Nat} {ops : List Operation}
    (h : (descent limit).Runs s n ops r) (hfits : ∀ op ∈ ops, op.Fits) : s.2.HasRoom n := by
  induction h with
  | stop =>
    intro v _
    have hmax := v.toInt_le
    omega
  | @go s r n ops _ _ ih =>
    obtain ⟨hturn, hrest⟩ := List.forall_mem_append.1 hfits
    have hstep := Counters.forall_fits_increments.1 fun op hop => hturn op (List.mem_cons_of_mem _ hop)
    intro v hv
    -- the counter has room for the calls beneath, after the step that this call makes
    have hmem : v + 1 ∈ s.2.bump.words := by
      rw [Counters.words_bump]
      exact List.mem_map_of_mem hv
    have hroom := ih hrest (v + 1) hmem
    have hnext : (v + 1).toInt = v.toInt + 1 := Operation.toInt_wrapped (Checked.fits_add_one_iff.2 (hstep v hv))
    push_cast
    omega

/-- **Room decides**: the recursion has no result just when a counter has no room for all the nested calls. -/
theorem descend_eq_none_iff {limit depth : Int64} {x : Counters} :
    descend limit depth x = none ↔ ¬x.HasRoom (max 0 (limit.toInt - depth.toInt)) := by
  constructor
  · intro hnone h
    obtain ⟨w, hw, -⟩ := descend_eq h
    rw [hnone] at hw
    contradiction
  · intro h
    refine Option.eq_none_iff_forall_ne_some.2 fun w hw => h ?_
    obtain ⟨ops, r, hrun⟩ := exists_runs_descent limit depth x
    obtain ⟨hfits, -⟩ := ((performedBy_descent limit).eq_some_iff hrun).1 hw
    rw [show max 0 (limit.toInt - depth.toInt) = ((limit.toInt - depth.toInt).toNat : Int) by omega]
    exact hasRoom_of_runs hrun hfits

/-- With room in the counters the recursion completes its nested calls. -/
theorem completes_descent {limit depth : Int64} {x : Counters}
    (h : x.HasRoom (max 0 (limit.toInt - depth.toInt))) :
    ∃ (n : Nat) (w : Int64), (n : Int) = max 0 (limit.toInt - depth.toInt) ∧
      (descent limit).Completes (descendFrom limit) Prod.fst (depth, x) n w ∧
      w.toInt = max limit.toInt depth.toInt := by
  obtain ⟨w, hw, vw⟩ := descend_eq h
  exact ⟨_, w, by omega, .of_result (performedBy_descent limit) (exists_runs_descent limit depth x) hw, vw⟩

/-- **The deep recursion.**  If each of the eight counters can grow by the way from the depth to the limit and is a word
then, the recursion ends after exactly so many nested calls, no addition in any of them overflows, and the result is the
limit, or the depth if that is past the limit; so counters with that room do not matter.  From the top with the counters
1 to 8 the dive has that room for every depth up to eight below the greatest word, negative ones among them, and yields
the depth or 0. -/
theorem descent_completes :
    (∀ (limit depth : Int64) (x : Counters), x.HasRoom (max 0 (limit.toInt - depth.toInt)) →
      ∃ (n : Nat) (w : Int64), (n : Int) = max 0 (limit.toInt - depth.toInt) ∧
        (descent limit).Completes (descendFrom limit) Prod.fst (depth, x) n w ∧
        descend limit depth x = some w ∧ w.toInt = max limit.toInt depth.toInt) ∧
    (∀ (limit depth : Int64) (x y : Counters), x.HasRoom (max 0 (limit.toInt - depth.toInt)) →
      y.HasRoom (max 0 (limit.toInt - depth.toInt)) → descend limit depth x = descend limit depth y) ∧
    (∀ depth : Int64, depth.toInt ≤ Int64.maxValue.toInt - 8 →
      ∃ (n : Nat) (w : Int64), (n : Int) = max 0 depth.toInt ∧
        (descent depth).Completes (descendFrom depth) Prod.fst (0, .start) n w ∧ w.toInt = max 0 depth.toInt ∧
        ∀ rule mib, rule (stackBytes mib) = none → stackDive rule depth mib = .ok w) := by
  refine ⟨fun limit depth x h => ?_, fun limit depth x y hx hy => ?_, fun depth h => ?_⟩
  · obtain ⟨n, w, hn, hdone, vw⟩ := completes_descent h
    exact ⟨n, w, hn, hdone, hdone.result, vw⟩
  · obtain ⟨w, hw, vw⟩ := descend_eq hx
    obtain ⟨w', hw', vw'⟩ := descend_eq hy
    rw [hw, hw', Int64.toInt_inj.1 (vw.trans vw'.symm)]
  · have hzero : (0 : Int64).toInt = 0 := rfl
    have hmax := Int64.toInt_maxValue
    have hroom : Counters.start.HasRoom (max 0 (depth.toInt - (0 : Int64).toInt)) :=
      Counters.hasRoom_start_iff.2 (by omega)
    obtain ⟨n, w, hn, hdone, vw⟩ := completes_descent hroom
    have hw : descend depth 0 .start = some w := hdone.result
    refine ⟨n, w, by omega, hdone, by omega, fun rule mib hrule => ?_⟩
    rw [stackDive, hrule, hw]

/-- From the least depth to the greatest limit, with the counters that have just the room for it; past the limit; two
sets of counters that do not matter; the deepest dive and a negative one. -/
theorem descent_completes_ends :
    let least : Counters := ⟨.minValue, .minValue, .minValue, .minValue, .minValue, .minValue, .minValue, .minValue⟩
    let high : Counters := ⟨.maxValue - 5, 0, 0, 0, 0, 0, 0, .maxValue - 5⟩
    descend .maxValue .minValue least = some .maxValue ∧
    descend 10 20 high = some 20 ∧
    descend 3 (-2) high = descend 3 (-2) .start ∧
    stackDive (fun _ => none) (.maxValue - 8) 0 = .ok (.maxValue - 8) ∧
    stackDive (fun _ => none) (-5) 0 = .ok 0 := by
  intro least high
  obtain ⟨reaches, apart, dives⟩ := descent_completes
  have room {limit depth : Int64} {x : Counters} (k : Int)
      (hwords : (x.words.all fun v => v.toInt + k ≤ Int64.maxValue.toInt) = true) (hk : 0 ≤ k)
      (hway : limit.toInt - depth.toInt ≤ k) : x.HasRoom (max 0 (limit.toInt - depth.toInt)) :=
    fun v hv => by
      have hv := of_decide_eq_true (List.all_eq_true.1 hwords v hv)
      omega
  obtain ⟨-, w, -, -, hw, vw⟩ := reaches .maxValue .minValue least
    (room (2 ^ 64 - 1) (by decide) (by decide) (by decide))
  obtain ⟨-, past, -, -, hpast, vpast⟩ := reaches 10 20 high (room 0 (by decide) (by decide) (by decide))
  obtain ⟨-, deepest, -, -, vdeepest, hdeepest⟩ := dives (.maxValue - 8) (by decide)
  obtain ⟨-, top, -, -, vtop, htop⟩ := dives (-5) (by decide)
  refine ⟨?_, ?_, ?_, ?_, ?_⟩
  · rw [hw, Int64.toInt_inj.1 (vw.trans (max_eq_left (by decide)))]
  · rw [hpast, Int64.toInt_inj.1 (vpast.trans (max_eq_right (by decide)))]
  · exact apart 3 (-2) high .start (room 5 (by decide) (by decide) (by decide))
      (room 5 (by decide) (by decide) (by decide))
  · rw [hdeepest (fun _ => none) 0 rfl, Int64.toInt_inj.1 (vdeepest.trans (max_eq_right (by decide)))]
  · rw [htop (fun _ => none) 0 rfl, Int64.toInt_inj.1 (vtop.trans (max_eq_left (by decide) : _ = (0 : Int64).toInt))]

end RunMeter.Workload
