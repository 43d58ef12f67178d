import Mathlib.Algebra.Order.Ring.Int
import Mathlib.Data.List.Basic
import RunMeter.Proofs.Checked.Operation
import RunMeter.Workload.StackDive

/-!
# RunMeter.Proofs.Workload.StackDive — the deep recursion reaches its limit

The counters grow by one with every call, so they stay words as long as each has room for the calls that are left
(`Counters.HasRoom`).  Then the recursion ends at the limit, or at once when it starts past it (`descend_eq`).  The
counters themselves never show in the result.
-/

namespace RunMeter.Workload

open Checked (Operation)

namespace Counters

/-- The counters in order. -/
def words (x : Counters) : List Int64 :=
  [x.a, x.b, x.c, x.e, x.f, x.g, x.h, x.i]

/-- All counters one greater, on words that wrap round. -/
def bump (x : Counters) : Counters :=
  ⟨x.a + 1, x.b + 1, x.c + 1, x.e + 1, x.f + 1, x.g + 1, x.h + 1, x.i + 1⟩

theorem words_bump (x : Counters) : x.bump.words = x.words.map (· + 1) := rfl

/-- Every counter can grow by `room` and is a word then. -/
def HasRoom (x : Counters) (room : Int) : Prop :=
  ∀ v ∈ x.words, v.toInt + room ≤ Int64.maxValue.toInt

theorem HasRoom.mono {x : Counters} {room more : Int} (h : x.HasRoom more) (hle : room ≤ more) : x.HasRoom room :=
  fun v hv => (Int.add_le_add_left hle _).trans (h v hv)

/-- Counters with room for one step advance as they do when they wrap round. -/
theorem advance_of_hasRoom {x : Counters} (h : x.HasRoom 1) : x.advance = some x.bump := by
  have step : ∀ v ∈ x.words, Checked.add v 1 = some (v + 1) := fun v hv =>
    Operation.checked?_of_fits (Checked.fits_add_one_iff.2 (h v hv))
  simp only [words, List.forall_mem_cons] at step
  simp [advance, bump, step]

/-- A step takes one from the room of the counters. -/
theorem HasRoom.bump {x : Counters} {room : Int} (hroom : 0 ≤ room) (h : x.HasRoom (room + 1)) :
    x.bump.HasRoom room := by
  rw [HasRoom, words_bump, List.forall_mem_map]
  intro v hv
  have hv := h v hv
  have hnext : (v + 1).toInt = v.toInt + 1 := Operation.toInt_wrapped (Checked.fits_add_one_iff.2 (by omega))
  omega

/-- The counters 1 to 8 have room up to eight below the greatest word. -/
theorem hasRoom_start {room : Int} (h : room ≤ Int64.maxValue.toInt - 8) : start.HasRoom room := fun v hv => by
  have small : (start.words.all fun v => v.toInt ≤ 8) = true := by decide
  have hv := of_decide_eq_true (List.all_eq_true.1 small v hv)
  omega

end Counters

/-- **The deep recursion**: with room in the counters for every call that is left, it ends at the limit, or where it
starts if that is past the limit. -/
theorem descend_eq {limit depth : Int64} {x : Counters}
    (h : x.HasRoom (max 0 (limit.toInt - depth.toInt))) :
    ∃ w, descend limit depth x = some w ∧ w.toInt = max limit.toInt depth.toInt := by
  -- induction on the number of calls that are left
  induction hk : (limit.toInt - depth.toInt).toNat generalizing depth x with
  | zero =>
    have hle : limit.toInt ≤ depth.toInt := by omega
    exact ⟨depth, descend_of_le x hle, (max_eq_right hle).symm⟩
  | succ k ih =>
    have hlt : depth.toInt < limit.toInt := by omega
    have hmax := limit.toInt_le
    obtain ⟨deeper, hdeeper, vdeeper⟩ := Checked.exists_succ (a := depth) (by omega)
    have hleft : max 0 (limit.toInt - depth.toInt) = max 0 (limit.toInt - deeper.toInt) + 1 := by omega
    rw [hleft] at h
    have hadvance := Counters.advance_of_hasRoom (h.mono (by omega))
    obtain ⟨w, hw, vw⟩ := ih (h.bump (le_max_left _ _)) (by omega)
    exact ⟨w, by rw [descend_of_lt hlt hdeeper hadvance, hw], by rw [vw]; omega⟩

/-- From the top with the counters 1 to 8, up to eight below the greatest word, the limit is reached. -/
theorem descend_start {limit : Int64} (h : limit.toInt ≤ Int64.maxValue.toInt - 8) :
    ∃ w, descend limit 0 .start = some w ∧ w.toInt = max 0 limit.toInt := by
  have hzero : (0 : Int64).toInt = 0 := rfl
  have hmax := Int64.toInt_maxValue
  have hroom : Counters.start.HasRoom (max 0 (limit.toInt - (0 : Int64).toInt)) :=
    Counters.hasRoom_start (by rw [hzero]; omega)
  obtain ⟨w, hw, vw⟩ := descend_eq hroom
  exact ⟨w, hw, by rw [vw, hzero, max_comm]⟩

/-! ### The thread -/

/-- A thread that the system refuses is an error with the size that was asked for and the system's cause. -/
theorem stackDive_of_refused {rule : StackRule} {mib : UInt64} {cause : IoError} (depth : Int64)
    (h : rule (stackBytes mib) = some cause) : stackDive rule depth mib = .error (.refused mib cause) := by
  rw [stackDive, h]

/-- On a thread that the system grants the dive reaches its depth. -/
theorem stackDive_of_granted {rule : StackRule} {depth : Int64} {mib : UInt64}
    (h : rule (stackBytes mib) = none) (hdepth : depth.toInt ≤ Int64.maxValue.toInt - 8) :
    ∃ w, stackDive rule depth mib = .ok w ∧ w.toInt = max 0 depth.toInt := by
  obtain ⟨w, hw, vw⟩ := descend_start hdepth
  exact ⟨w, by rw [stackDive, h]; simp only [hw], vw⟩

end RunMeter.Workload
