import RunMeter.Proofs.Text.Decimal
import RunMeter.Proofs.Workload.Descent

/-!
# RunMeter.Proofs.Workload.StackSize — the stack that a dive asks for, and what comes of it

A size in mebibytes asks for so many octets, or for the greatest word if they are more; it never wraps round to a small
stack (`toNat_stackBytes`).  From there on a dive is told by the system's rule for stacks:

* `stackDive_eq_error_iff`: a dive has no depth just when the thread is refused, or a counter overflows.
* `dive`: the dive on a stack that can run out, which ends the program with nothing handed over.
* `stack_requests_never_wrap`: greater requests are refused with smaller ones, granted ones that suffice do not differ,
  and a refusal names the size that was asked for.
-/

namespace RunMeter.Workload

/-! ### The request -/

/-- The octets of a size, which stop at the greatest word. -/
theorem toNat_stackBytes (mib : UInt64) : (stackBytes mib).toNat = min (mib.toNat * 2 ^ 20) (2 ^ 64 - 1) := by
  have hsize : UInt64.size = 2 ^ 64 := rfl
  unfold stackBytes
  by_cases h : mib.toNat * 1048576 < UInt64.size
  · rw [if_pos h, UInt64.toNat_ofNat_of_lt' h]
    omega
  · rw [if_neg h, UInt64.toNat_ofNat_of_lt' (by decide)]
    omega

theorem stackBytes_mono {small large : UInt64} (h : small ≤ large) : stackBytes small ≤ stackBytes large := by
  rw [UInt64.le_iff_toNat_le] at h ⊢
  rw [toNat_stackBytes, toNat_stackBytes]
  omega

/-! ### The system's rule -/

/-- A rule that grants a size grants every smaller one. -/
def StackRule.DownwardClosed (rule : StackRule) : Prop :=
  ∀ ⦃small large : UInt64⦄, small ≤ large → rule large = none → rule small = none

/-- The thread of a dive could not be created. -/
def Refused (rule : StackRule) (depth : Int64) (mib : UInt64) : Prop :=
  ∃ cause, stackDive rule depth mib = .error (.refused mib cause)

/-- **When a dive has no depth**: the system refuses the thread, or the depth is so near to the greatest word that a
counter overflows. -/
theorem stackDive_eq_error_iff {rule : StackRule} {depth : Int64} {mib : UInt64} {e : DiveError} :
    stackDive rule depth mib = .error e ↔
      (∃ cause, rule (stackBytes mib) = some cause ∧ e = .refused mib cause) ∨
      rule (stackBytes mib) = none ∧ Int64.maxValue.toInt - 8 < depth.toInt ∧ e = .lost := by
  have hroom : descend depth 0 .start = none ↔ Int64.maxValue.toInt - 8 < depth.toInt := by
    have hzero : (0 : Int64).toInt = 0 := rfl
    have hmax := Int64.toInt_maxValue
    rw [descend_eq_none_iff, Counters.hasRoom_start_iff]
    omega
  unfold stackDive
  cases hrule : rule (stackBytes mib) with
  | some cause => simp [eq_comm]
  | none =>
    rw [← hroom]
    cases hdive : descend depth 0 .start with
    | some reached => simp
    | none => simp [eq_comm]

theorem refused_iff {rule : StackRule} {depth : Int64} {mib : UInt64} :
    Refused rule depth mib ↔ ∃ cause, rule (stackBytes mib) = some cause := by
  simp [Refused, stackDive_eq_error_iff]

/-- A greater request is refused with a smaller one, whatever the depths. -/
theorem Refused.mono {rule : StackRule} (hrule : rule.DownwardClosed) {small large : UInt64} (hle : small ≤ large)
    {depth : Int64} (h : Refused rule depth small) (depth' : Int64) : Refused rule depth' large := by
  obtain ⟨cause, hsmall⟩ := refused_iff.1 h
  refine refused_iff.2 (Option.ne_none_iff_exists'.1 fun hlarge => ?_)
  rw [hrule (stackBytes_mono hle) hlarge] at hsmall
  contradiction

/-- An error that names a size in mebibytes and has the system's error as its only cause. -/
structure DiveError.Names (e : DiveError) (mib : UInt64) (cause : IoError) : Prop where
  message : e.message = "failed to spawn stack dive thread with " ++ mib.toNat.repr ++ " MiB stack"
  causes : e.causes = [cause.message]

theorem DiveError.names_refused (mib : UInt64) (cause : IoError) : (refused mib cause).Names mib cause where
  message := by
    show "failed to spawn stack dive thread with " ++ Decimal.ofNat mib.toNat ++ " MiB stack" = _
    rw [Decimal.ofNat_eq_repr]
  causes := rfl

/-! ### A stack that can run out -/

/-- What the thread of a dive comes to. -/
inductive DiveEnd where
  /-- It hands over a depth, or there is an error to show. -/
  | handsOver (result : Except DiveError Int64)
  /-- Its stack runs out, which ends the whole program. -/
  | runsOut

/-- The calls that are nested when a dive is at its deepest: one for each step down, until a counter overflows. -/
def nestedCalls (depth : Int64) : Nat :=
  min depth.toInt.toNat (Int64.maxValue.toInt - 8).toNat

/-- The dive on a thread whose stack can run out, where `frames n` octets are in use for `n` nested calls. -/
def dive (rule : StackRule) (frames : Nat → Nat) (depth : Int64) (mib : UInt64) : DiveEnd :=
  if rule (stackBytes mib) = none ∧ (stackBytes mib).toNat < frames (nestedCalls depth) then .runsOut
  else .handsOver (stackDive rule depth mib)

/-- The run of a dive has one call for each step down. -/
theorem runs_dive {depth : Int64} {n : Nat} {ops : List Checked.Operation} {r : Int64 × Counters}
    (h : (descent depth).Runs (0, .start) n ops r) : n = depth.toInt.toNat := by
  obtain ⟨_, _, hrun⟩ := exists_runs_descent depth 0 .start
  rw [(h.unique hrun).1, show (0 : Int64).toInt = 0 from rfl, sub_zero]

theorem nestedCalls_of_le {depth : Int64} (h : depth.toInt ≤ Int64.maxValue.toInt - 8) :
    nestedCalls depth = depth.toInt.toNat :=
  min_eq_left (Int.toNat_le_toNat h)

/-- A stack is large enough for a dive if it holds the frames of all its nested calls. -/
def Suffices (frames : Nat → Nat) (depth : Int64) (mib : UInt64) : Prop :=
  ∀ n ops r, (descent depth).Runs (0, .start) n ops r → frames n ≤ (stackBytes mib).toNat

/-- A granted stack that suffices hands over the depth that the dive reached. -/
theorem dive_of_suffices {rule : StackRule} {frames : Nat → Nat} {depth : Int64} {mib : UInt64}
    (hdepth : depth.toInt ≤ Int64.maxValue.toInt - 8) (h : Suffices frames depth mib) :
    dive rule frames depth mib = .handsOver (stackDive rule depth mib) := by
  obtain ⟨ops, r, hrun⟩ := exists_runs_descent depth 0 .start
  have hframes := h _ ops r hrun
  rw [runs_dive hrun, ← nestedCalls_of_le hdepth] at hframes
  exact if_neg fun hout => Nat.not_lt.2 hframes hout.2

/-- **Requests for stacks never wrap round.**  A size asks for its octets, or for the greatest word if they are more:
for no fewer than a smaller size does, and exactly below 2^44.  Under a rule that grants all that is smaller than what
it grants, every request past a refused one is refused.  Under any rule two granted stacks that suffice hand over the
same depth, and a thread that is refused is an error that names the size in mebibytes, with the system's error as its
only cause; up to eight below the greatest word there is no other failure. -/
theorem stack_requests_never_wrap (rule : StackRule) :
    (∀ mib, (stackBytes mib).toNat = min (mib.toNat * 2 ^ 20) (2 ^ 64 - 1)) ∧
    (∀ small large, small ≤ large → stackBytes small ≤ stackBytes large) ∧
    (∀ mib : UInt64, mib.toNat < 2 ^ 44 → (stackBytes mib).toNat = mib.toNat * 2 ^ 20) ∧
    (rule.DownwardClosed → ∀ small large depth depth', small ≤ large → Refused rule depth small →
      Refused rule depth' large) ∧
    (∀ frames (depth : Int64) mib mib', depth.toInt ≤ Int64.maxValue.toInt - 8 →
      rule (stackBytes mib) = none → rule (stackBytes mib') = none →
      Suffices frames depth mib → Suffices frames depth mib' →
      ∃ w : Int64, w.toInt = max 0 depth.toInt ∧ dive rule frames depth mib = .handsOver (.ok w) ∧
        dive rule frames depth mib' = .handsOver (.ok w)) ∧
    (∀ depth mib cause, rule (stackBytes mib) = some cause →
      ∃ e, stackDive rule depth mib = .error e ∧ e.Names mib cause) ∧
    (∀ (depth : Int64) mib e, depth.toInt ≤ Int64.maxValue.toInt - 8 → stackDive rule depth mib = .error e →
      ∃ cause, rule (stackBytes mib) = some cause ∧ e.Names mib cause) := by
  refine ⟨toNat_stackBytes, fun _ _ => stackBytes_mono, fun mib h => ?_, ?_, ?_, ?_, ?_⟩
  · rw [toNat_stackBytes]
    omega
  · exact fun hrule _ _ depth depth' hle h => h.mono hrule hle depth'
  · intro frames depth mib mib' hdepth hmib hmib' henough henough'
    obtain ⟨w, hw, vw⟩ := stackDive_of_granted hmib hdepth
    obtain ⟨w', hw', vw'⟩ := stackDive_of_granted hmib' hdepth
    obtain rfl : w = w' := Int64.toInt_inj.1 (vw.trans vw'.symm)
    exact ⟨w, vw, by rw [dive_of_suffices hdepth henough, hw], by rw [dive_of_suffices hdepth henough', hw']⟩
  · exact fun depth mib cause h => ⟨_, stackDive_of_refused depth h, DiveError.names_refused mib cause⟩
  · intro depth mib e hdepth he
    rcases stackDive_eq_error_iff.1 he with ⟨cause, hcause, rfl⟩ | ⟨-, hover, -⟩
    · exact ⟨cause, hcause, DiveError.names_refused mib cause⟩
    · omega

/-- A system with an address space of 2^47 octets: the first size past it, the first one that does not fit a word and
the greatest one are refused, each by its own name.  A dive of 100000 steps with frames of 160 octets comes to the same
on 64 and on 256 mebibytes, and runs out of a single one. -/
theorem stack_requests_never_wrap_addressSpace :
    let rule : StackRule := fun octets => if octets.toNat < 2 ^ 47 then none else some (.os .again)
    let frames (n : Nat) := 160 * n
    rule.DownwardClosed ∧
    (stackBytes (.ofNat (2 ^ 27))).toNat = 2 ^ 47 ∧ (stackBytes (.ofNat (2 ^ 44))).toNat = 2 ^ 64 - 1 ∧
    (∃ e, stackDive rule 5 (.ofNat (2 ^ 27)) = .error e ∧
      e.message = "failed to spawn stack dive thread with 134217728 MiB stack") ∧
    Refused rule 5 (.ofNat (2 ^ 44)) ∧
    (∃ e, stackDive rule 5 (.ofNat (UInt64.size - 1)) = .error e ∧
      e.message = "failed to spawn stack dive thread with 18446744073709551615 MiB stack" ∧
      e.causes = ["Resource temporarily unavailable (os error 11)"]) ∧
    (∃ w, w.toInt = 100000 ∧ dive rule frames 100000 64 = .handsOver (.ok w) ∧
      dive rule frames 100000 256 = .handsOver (.ok w)) ∧
    dive rule frames 100000 1 = .runsOut := by
  intro rule frames
  have hrule : rule.DownwardClosed := by
    intro small large hle hlarge
    have hlt : large.toNat < 2 ^ 47 := by
      by_contra hnot
      rw [show rule large = some (.os .again) from if_neg hnot] at hlarge
      contradiction
    exact if_pos (Nat.lt_of_le_of_lt (UInt64.le_iff_toNat_le.1 hle) hlt)
  obtain ⟨htoNat, -, hexact, hmono, hsame, hnames, hfailures⟩ := stack_requests_never_wrap rule
  obtain ⟨most, hmost, hmostNames⟩ := hnames 5 (.ofNat (UInt64.size - 1)) (.os .again) (by decide)
  obtain ⟨cause, he⟩ : Refused rule 5 (.ofNat (2 ^ 27)) := refused_iff.2 ⟨.os .again, by decide⟩
  obtain ⟨_, -, hfirstNames⟩ := hfailures 5 _ _ (by decide) he
  have suffices_of {mib : UInt64} (h : 16000000 ≤ (stackBytes mib).toNat) : Suffices frames 100000 mib :=
    fun n ops r hrun => by rw [runs_dive hrun]; exact h
  refine ⟨hrule, hexact (.ofNat (2 ^ 27)) (by decide), (htoNat (.ofNat (2 ^ 44))).trans (by decide),
    ⟨_, he, hfirstNames.message⟩, ?_, ?_, ?_, ?_⟩
  · exact hmono hrule (.ofNat (2 ^ 27)) (.ofNat (2 ^ 44)) 5 5 (by decide) ⟨cause, he⟩
  · exact ⟨most, hmost, hmostNames.message, hmostNames.causes.trans (by decide +kernel)⟩
  · exact hsame frames 100000 64 256 (by decide) (by decide) (by decide) (suffices_of (by decide))
      (suffices_of (by decide))
  · exact if_pos ⟨by decide, by decide⟩

end RunMeter.Workload
