import Mathlib.Algebra.Group.Nat.Defs
import Mathlib.Tactic.SplitIfs
import RunMeter.Outcome

/-!
# RunMeter.Proofs.Outcome.Status — status words as numbers

A status word packs its parts by bits.  Here the parts are told from the word's integer: the remainder by 128 is 0
for a child that exited, 127 for one that only stopped or went on, and otherwise the signal; the code is the next
octet (`WaitStatus.Exits`, `WaitStatus.KilledBy`).  Negative words and bits above the second octet are covered.

* `terminated_cases`: a word that is not 127 there tells exactly one end.
* `exitCode_of_exits`, `exitCode_of_killedBy`: the runner's exit code for it.
-/

namespace RunMeter

namespace WaitStatus

/-- The child exited with a code. -/
def Exits (s : WaitStatus) (code : UInt8) : Prop :=
  s.raw.toInt % 128 = 0 ∧ s.raw.toInt / 256 % 256 = code.toNat

/-- A signal ended the child. -/
def KilledBy (s : WaitStatus) (signal : Nat) : Prop :=
  s.raw.toInt % 128 = signal ∧ 1 ≤ signal ∧ signal ≤ 126

/-- The child is at its end; it has not merely stopped or gone on. -/
def Terminated (s : WaitStatus) : Prop :=
  s.raw.toInt % 128 ≠ 127

/-! ### Bits and remainders -/

/-- The low bits of a word are its remainder by a power of two, whatever its sign. -/
theorem toInt_and_mask (x : BitVec 32) {k : Nat} (hk : k < 31) :
    (x &&& BitVec.ofNat 32 (2 ^ k - 1)).toInt = x.toInt % (2 ^ k : Nat) := by
  have hpow : 2 ^ k ≤ 2 ^ 30 := Nat.pow_le_pow_right (by decide) (by omega)
  have hnat : (x &&& BitVec.ofNat 32 (2 ^ k - 1)).toNat = x.toNat % 2 ^ k := by
    rw [BitVec.toNat_and, BitVec.toNat_ofNat, Nat.mod_eq_of_lt (by omega), Nat.and_two_pow_sub_one_eq_mod]
  have hlt : x.toNat % 2 ^ k < 2 ^ k := Nat.mod_lt _ (Nat.two_pow_pos k)
  have hdvd : ((2 ^ k : Nat) : Int) ∣ ((2 ^ 32 : Nat) : Int) :=
    Int.natCast_dvd_natCast.2 (Nat.pow_dvd_pow 2 (by omega))
  calc (x &&& BitVec.ofNat 32 (2 ^ k - 1)).toInt
      = ((x.toNat % 2 ^ k : Nat) : Int) := by rw [BitVec.toInt_eq_toNat_of_lt (by rw [hnat]; omega), hnat]
    _ = (x.toNat : Int) % (2 ^ k : Nat) := Int.natCast_emod _ _
    _ = (x.toNat : Int) % (2 ^ 32 : Nat) % (2 ^ k : Nat) := (Int.emod_emod_of_dvd _ hdvd).symm
    _ = x.toInt % (2 ^ 32 : Nat) % (2 ^ k : Nat) := by rw [BitVec.toInt_eq_toNat_bmod, Int.bmod_emod]
    _ = x.toInt % (2 ^ k : Nat) := Int.emod_emod_of_dvd _ hdvd

theorem toInt_low (s : WaitStatus) : s.low.toInt = s.raw.toInt % 128 :=
  toInt_and_mask s.raw.toBitVec (by decide : 7 < 31)

theorem toInt_code (s : WaitStatus) : s.code.toInt = s.raw.toInt / 256 % 256 := by
  have hshift : (s.raw >>> 8).toInt = s.raw.toInt / 256 := by
    change (BitVec.sshiftRight' s.raw.toBitVec 8#32).toInt = _
    rw [BitVec.toInt_sshiftRight', Int.shiftRight_eq_div_pow]
    rfl
  rw [← hshift]
  exact toInt_and_mask (s.raw >>> 8).toBitVec (by decide : 8 < 31)

theorem low_eq_iff (s : WaitStatus) (w : Int32) : s.low = w ↔ s.raw.toInt % 128 = w.toInt := by
  rw [← Int32.toInt_inj, toInt_low]

/-! ### The two ends of a child -/

theorem exitCode?_of_exits {s : WaitStatus} {code : UInt8} (h : s.Exits code) :
    s.exitCode? = some s.code ∧ s.code.toInt = code.toNat := by
  refine ⟨if_pos ((low_eq_iff s 0).2 h.1), ?_⟩
  rw [toInt_code, h.2]

theorem exitCode?_of_killedBy {s : WaitStatus} {signal : Nat} (h : s.KilledBy signal) : s.exitCode? = none := by
  obtain ⟨h1, h2, -⟩ := h
  refine if_neg fun hlow => ?_
  have hzero : s.raw.toInt % 128 = 0 := (low_eq_iff s 0).1 hlow
  omega

theorem signal?_of_killedBy {s : WaitStatus} {signal : Nat} (h : s.KilledBy signal) :
    s.signal? = some s.low ∧ s.low.toInt = signal := by
  obtain ⟨h1, h2, h3⟩ := h
  refine ⟨if_neg ?_, by rw [toInt_low, h1]⟩
  rw [not_or, low_eq_iff, low_eq_iff]
  change ¬s.raw.toInt % 128 = 0 ∧ ¬s.raw.toInt % 128 = 127
  omega

/-- A child at its end exited with a code or was ended by a signal. -/
theorem terminated_cases {s : WaitStatus} (h : s.Terminated) :
    (∃ code, s.Exits code) ∨ ∃ signal, s.KilledBy signal := by
  unfold Terminated at h
  by_cases hzero : s.raw.toInt % 128 = 0
  · refine .inl ⟨UInt8.ofNat (s.raw.toInt / 256 % 256).toNat, hzero, ?_⟩
    rw [UInt8.toNat_ofNat']
    omega
  · exact .inr ⟨(s.raw.toInt % 128).toNat, by omega, by omega, by omega⟩

end WaitStatus

namespace Outcome

theorem octet?_of_toInt {w : Int32} {n : UInt8} (h : w.toInt = n.toNat) : octet? w = some n := by
  have hlt := n.toNat_lt
  rw [octet?, if_pos (by omega), h, Int.toNat_natCast, UInt8.ofNat_toNat]

/-- **A child's own code**: the runner exits with the octet that the child exited with, under either policy. -/
theorem exitCode_of_exits {s : WaitStatus} {code : UInt8} (h : s.Exits code) (policy : SignalPolicy) :
    (ofStatus s).exitCode policy = code := by
  obtain ⟨hcode, vcode⟩ := WaitStatus.exitCode?_of_exits h
  unfold ofStatus
  simp only [hcode]
  split_ifs with hzero
  · -- code 0 is a success, and its exit code is that 0
    rw [hzero] at vcode
    have hnat : (0 : UInt8).toNat = code.toNat := Int.ofNat_inj.1 vcode
    exact UInt8.toNat_inj.1 hnat
  · simp only [exitCode, octet?_of_toInt vcode, Option.getD_some]

theorem ofStatus_of_killedBy {s : WaitStatus} {signal : Nat} (h : s.KilledBy signal) :
    ofStatus s = killed s.low := by
  unfold ofStatus
  simp only [WaitStatus.exitCode?_of_killedBy h, (WaitStatus.signal?_of_killedBy h).1]

/-- The shell's code for a signal below 128 is the sum, which is an octet. -/
theorem toNat_shellCode {signal : Int32} {n : UInt8} (h : signal.toInt = n.toNat) (hlt : n.toNat < 128) :
    (shellCode signal).toNat = 128 + n.toNat := by
  have hsmall : n < 128 := UInt8.lt_iff_toNat_lt.2 hlt
  simp only [shellCode, octet?_of_toInt h, if_pos hsmall]
  rw [UInt8.toNat_add]
  change (128 + n.toNat) % 2 ^ 8 = 128 + n.toNat
  omega

/-- **A child's signal**: 0 under the one policy, 128 and the signal under the other. -/
theorem exitCode_of_killedBy {s : WaitStatus} {signal : Nat} (h : s.KilledBy signal) :
    (ofStatus s).exitCode .zero = 0 ∧ ((ofStatus s).exitCode .shell).toNat = 128 + signal := by
  obtain ⟨-, h2, h3⟩ := id h
  rw [ofStatus_of_killedBy h]
  refine ⟨rfl, ?_⟩
  have hsignal : (UInt8.ofNat signal).toNat = signal := by rw [UInt8.toNat_ofNat']; omega
  have hlow : s.low.toInt = (UInt8.ofNat signal).toNat := by
    rw [(WaitStatus.signal?_of_killedBy h).2, hsignal]
  calc ((killed s.low).exitCode .shell).toNat
      = 128 + (UInt8.ofNat signal).toNat := toNat_shellCode hlow (by omega)
    _ = 128 + signal := by rw [hsignal]

end Outcome
end RunMeter
