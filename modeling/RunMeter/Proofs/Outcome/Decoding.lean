import RunMeter.Proofs.Outcome.Status

/-!
# RunMeter.Proofs.Outcome.Decoding — which outcome a status word tells, and which the exit code tells

A status word is any 32-bit word: it may be negative, it may have the bit of a core file and anything above its second
octet.  Whatever it is, the outcome is a success, a code from 1 to 255 or a signal from 1 to 126 (`told_ofStatus`), and
for these the runner's exit code under the shell policy is a number that no bound cuts off (`toNat_exitCode_shell`).

So the bounds in `exitCode` never show, and the exit code tells two outcomes apart unless one is a signal and the other
the code that a shell has for it (`exitCode_tells_outcome`).
-/

namespace RunMeter.Outcome

/-! ### The outcome of a status word -/

theorem ofStatus_eq (s : WaitStatus) :
    ofStatus s =
      if s.low = 0 then if s.code = 0 then success else failed s.code
      else if s.low = 0x7f then success else killed s.low := by
  unfold ofStatus WaitStatus.exitCode? WaitStatus.signal?
  by_cases hzero : s.low = 0
  · simp only [if_pos hzero]
  · by_cases hstopped : s.low = 0x7f
    · simp only [if_neg hzero, if_pos hstopped, if_pos (Or.inr hstopped)]
    · simp only [hzero, hstopped, or_self, if_false]

/-- What a status word can tell. -/
inductive Told : Outcome → Prop
  | success : Told success
  | failed {code : Int32} (pos : 1 ≤ code.toInt) (le : code.toInt ≤ 255) : Told (failed code)
  | killed {signal : Int32} (pos : 1 ≤ signal.toInt) (le : signal.toInt ≤ 126) : Told (killed signal)

theorem told_ofStatus (s : WaitStatus) : (ofStatus s).Told := by
  have hlow := s.toInt_low
  have hcode := s.toInt_code
  rw [ofStatus_eq]
  split_ifs with hzero hclean hstopped
  · exact .success
  · have hne : s.code.toInt ≠ 0 := fun h => hclean (Int32.toInt_inj.1 h)
    exact .failed (by omega) (by omega)
  · exact .success
  · have hne : s.low.toInt ≠ 0 := fun h => hzero (Int32.toInt_inj.1 h)
    have hne' : s.low.toInt ≠ 127 := fun h => hstopped (Int32.toInt_inj.1 h)
    exact .killed (by omega) (by omega)

theorem ofStatus_eq_success_iff (s : WaitStatus) :
    ofStatus s = success ↔ s.low = 0x7f ∨ s.low = 0 ∧ s.code = 0 := by
  rw [ofStatus_eq]
  constructor
  · intro h
    split_ifs at h with hzero hclean hstopped
    · exact .inr ⟨hzero, hclean⟩
    · exact .inl hstopped
  · rintro (hstopped | ⟨hzero, hclean⟩)
    · rw [hstopped]
      rfl
    · rw [if_pos hzero, if_pos hclean]

theorem ofStatus_eq_failed_iff (s : WaitStatus) (code : Int32) :
    ofStatus s = failed code ↔ s.low = 0 ∧ code = s.code ∧ code ≠ 0 := by
  rw [ofStatus_eq]
  constructor
  · intro h
    split_ifs at h with hzero hclean hstopped
    obtain rfl := failed.inj h
    exact ⟨hzero, rfl, hclean⟩
  · rintro ⟨hzero, rfl, hclean⟩
    rw [if_pos hzero, if_neg hclean]

theorem ofStatus_eq_killed_iff (s : WaitStatus) (signal : Int32) :
    ofStatus s = killed signal ↔ signal = s.low ∧ 1 ≤ signal.toInt ∧ signal.toInt ≤ 126 := by
  constructor
  · intro h
    have htold := told_ofStatus s
    rw [h] at htold
    cases htold with
    | killed pos le =>
      refine ⟨?_, pos, le⟩
      rw [ofStatus_eq] at h
      split_ifs at h with hzero hclean hstopped
      exact (killed.inj h).symm
  · rintro ⟨rfl, pos, le⟩
    have hzero : s.low ≠ 0 := fun h => by rw [h] at pos; contradiction
    have hstopped : s.low ≠ 0x7f := fun h => by rw [h] at le; contradiction
    rw [ofStatus_eq, if_neg hzero, if_neg hstopped]

/-! ### The exit code of an outcome -/

/-- A word from 0 to 255 is the value of an octet. -/
theorem exists_octet {w : Int32} (hlo : 0 ≤ w.toInt) (hhi : w.toInt ≤ 255) :
    ∃ n : UInt8, octet? w = some n ∧ (n.toNat : Int) = w.toInt := by
  have hvalue : ((UInt8.ofNat w.toInt.toNat).toNat : Int) = w.toInt := by
    rw [UInt8.toNat_ofNat']
    omega
  exact ⟨_, octet?_of_toInt hvalue.symm, hvalue⟩

/-- The exit code that the shell policy asks for, as a number without bounds. -/
def shellNumber : Outcome → Int
  | success => 0
  | failed code => code.toInt
  | killed signal => 128 + signal.toInt
  | notRun => 1

/-- A child's code needs no bound: the exit code is the octet of that value, under either policy. -/
theorem exitCode_failed {code : Int32} (h : (failed code).Told) :
    ∃ n : UInt8, octet? code = some n ∧ (n.toNat : Int) = code.toInt ∧
      ∀ policy, (failed code).exitCode policy = n := by
  cases h with
  | failed pos le =>
    obtain ⟨n, hoctet, hvalue⟩ := exists_octet (by omega) le
    refine ⟨n, hoctet, hvalue, fun policy => ?_⟩
    rw [exitCode, hoctet, Option.getD_some]

/-- A signal needs none either: the sum with 128 is an octet. -/
theorem exitCode_killed {signal : Int32} (h : (killed signal).Told) :
    ∃ n : UInt8, octet? signal = some n ∧ n < 128 ∧
      (((killed signal).exitCode .shell).toNat : Int) = 128 + signal.toInt := by
  cases h with
  | killed pos le =>
    obtain ⟨n, hoctet, hvalue⟩ := exists_octet (w := signal) (by omega) (by omega)
    have hlt : n.toNat < 128 := by omega
    have hcode := toNat_shellCode hvalue.symm hlt
    refine ⟨n, hoctet, UInt8.lt_iff_toNat_lt.2 hlt, ?_⟩
    rw [exitCode, hcode, ← hvalue]
    rfl

theorem toNat_exitCode_shell {o : Outcome} (h : o.Told) : ((o.exitCode .shell).toNat : Int) = o.shellNumber := by
  cases o with
  | success => rfl
  | failed code =>
    obtain ⟨n, -, hvalue, hcode⟩ := exitCode_failed h
    rw [hcode, hvalue, shellNumber]
  | killed signal =>
    obtain ⟨n, -, -, hcode⟩ := exitCode_killed h
    rw [hcode, shellNumber]
  | notRun => rfl

/-- The exit codes of two outcomes are the same if their numbers are. -/
theorem exitCode_shell_inj {o p : Outcome} (ho : o.Told) (hp : p.Told) :
    o.exitCode .shell = p.exitCode .shell ↔ o.shellNumber = p.shellNumber := by
  rw [← toNat_exitCode_shell ho, ← toNat_exitCode_shell hp, Int.natCast_inj, UInt8.toNat_inj]

theorem exitCode_shell_eq_zero_iff {o : Outcome} (h : o.Told) : o.exitCode .shell = 0 ↔ o = success := by
  constructor
  · intro hzero
    have hnumber := (exitCode_shell_inj h .success).1 hzero
    cases h with
    | success => rfl
    | failed pos le => simp only [shellNumber] at hnumber; omega
    | killed pos le => simp only [shellNumber] at hnumber; omega
  · rintro rfl
    rfl

/-- A signal and the code that a shell has for it. -/
def SameShellCode (o p : Outcome) : Prop :=
  ∃ signal, o = killed signal ∧ p = failed (128 + signal)

theorem toInt_shell_add {signal : Int32} (pos : 1 ≤ signal.toInt) (le : signal.toInt ≤ 126) :
    (128 + signal).toInt = 128 + signal.toInt := by
  rw [Int32.toInt_add]
  change (128 + signal.toInt).bmod (2 ^ 32) = 128 + signal.toInt
  exact Int.bmod_eq_of_le (by omega) (by omega)

/-- A signal has the number of a code if the code is 128 and the signal. -/
theorem shellNumber_eq_iff {signal code : Int32} (h : (killed signal).Told) :
    (killed signal).shellNumber = (failed code).shellNumber ↔ code = 128 + signal := by
  cases h with
  | killed pos le => rw [shellNumber, shellNumber, ← toInt_shell_add pos le, Int32.toInt_inj, eq_comm]

theorem shellNumber_inj {o p : Outcome} (ho : o.Told) (hp : p.Told) :
    o.shellNumber = p.shellNumber ↔ o = p ∨ SameShellCode o p ∨ SameShellCode p o := by
  constructor
  · intro h
    cases ho with
    | success =>
      cases hp with
      | success => exact .inl rfl
      | failed pos le => simp only [shellNumber] at h; omega
      | killed pos le => simp only [shellNumber] at h; omega
    | @failed code pos le =>
      cases hp with
      | success => simp only [shellNumber] at h; omega
      | failed pos' le' => exact .inl (congrArg failed (Int32.toInt_inj.1 h))
      | @killed signal pos' le' =>
        obtain rfl := (shellNumber_eq_iff (.killed pos' le')).1 h.symm
        exact .inr (.inr ⟨signal, rfl, rfl⟩)
    | @killed signal pos le =>
      cases hp with
      | success => simp only [shellNumber] at h; omega
      | failed pos' le' =>
        obtain rfl := (shellNumber_eq_iff (.killed pos le)).1 h
        exact .inr (.inl ⟨signal, rfl, rfl⟩)
      | killed pos' le' =>
        have hsignal : signal.toInt = _ := Int.add_left_cancel h
        exact .inl (congrArg killed (Int32.toInt_inj.1 hsignal))
  · rintro (rfl | ⟨signal, rfl, rfl⟩ | ⟨signal, rfl, rfl⟩)
    · rfl
    · exact (shellNumber_eq_iff ho).2 rfl
    · exact ((shellNumber_eq_iff hp).2 rfl).symm

/-! ### What the exit code tells -/

/-- **Status words and exit codes.**  A word tells a success if its low seven bits are all ones, or if they are zero and
so is the code; it tells a code that is not zero if they are zero, and otherwise the signal that they are, from 1 to
126. It never tells that nothing was run.  A code is an octet from 1 to 255 and is the exit code under either policy; a
signal is an octet below 128, and its exit code under the shell policy is the sum with 128, at most 254, so that no
bound is met.  Under that policy the exit code is 0 for a success alone, and it is the same for two words just if they
tell the same outcome, or one a signal and the other 128 and the signal as a code. -/
theorem exitCode_tells_outcome :
    (∀ s : WaitStatus,
      (ofStatus s = success ↔ s.raw &&& 0x7f = 0x7f ∨ s.raw &&& 0x7f = 0 ∧ (s.raw >>> 8) &&& 0xff = 0) ∧
      (∀ code, ofStatus s = failed code ↔ s.raw &&& 0x7f = 0 ∧ code = (s.raw >>> 8) &&& 0xff ∧ code ≠ 0) ∧
      (∀ signal, ofStatus s = killed signal ↔
        signal = s.raw &&& 0x7f ∧ 1 ≤ signal.toInt ∧ signal.toInt ≤ 126) ∧
      ofStatus s ≠ notRun) ∧
    (∀ s code, ofStatus s = failed code →
      1 ≤ code.toInt ∧ code.toInt ≤ 255 ∧
      ∃ n : UInt8, octet? code = some n ∧ (n.toNat : Int) = code.toInt ∧
        ∀ policy, (ofStatus s).exitCode policy = n) ∧
    (∀ s signal, ofStatus s = killed signal →
      (∃ n : UInt8, octet? signal = some n ∧ n < 128) ∧
      (((ofStatus s).exitCode .shell).toNat : Int) = 128 + signal.toInt ∧
      129 ≤ ((ofStatus s).exitCode .shell).toNat ∧ ((ofStatus s).exitCode .shell).toNat ≤ 254) ∧
    (∀ s, (ofStatus s).exitCode .shell = 0 ↔ ofStatus s = success) ∧
    (∀ s t, (ofStatus s).exitCode .shell = (ofStatus t).exitCode .shell ↔
      ofStatus s = ofStatus t ∨ SameShellCode (ofStatus s) (ofStatus t) ∨
        SameShellCode (ofStatus t) (ofStatus s)) := by
  refine ⟨fun s => ⟨ofStatus_eq_success_iff s, ofStatus_eq_failed_iff s, ofStatus_eq_killed_iff s, ?_⟩, ?_, ?_, ?_, ?_⟩
  · intro h
    have htold := told_ofStatus s
    rw [h] at htold
    cases htold
  · intro s code h
    have htold := told_ofStatus s
    rw [h] at htold ⊢
    have hcode := exitCode_failed htold
    cases htold with
    | failed pos le => exact ⟨pos, le, hcode⟩
  · intro s signal h
    have htold := told_ofStatus s
    rw [h] at htold ⊢
    obtain ⟨n, hoctet, hsmall, hcode⟩ := exitCode_killed htold
    cases htold with
    | killed pos le => exact ⟨⟨n, hoctet, hsmall⟩, hcode, by omega, by omega⟩
  · exact fun s => exitCode_shell_eq_zero_iff (told_ofStatus s)
  · intro s t
    rw [exitCode_shell_inj (told_ofStatus s) (told_ofStatus t), shellNumber_inj (told_ofStatus s) (told_ofStatus t)]

/-- Signal 9 with a core file, and a negative word with the code 137 and ones above its second octet: two outcomes with
the exit code 137. -/
theorem exitCode_tells_outcome_core :
    let core : WaitStatus := ⟨0x89⟩
    let exited : WaitStatus := ⟨-30464⟩
    ((ofStatus core).exitCode .shell).toNat = 137 ∧ (ofStatus exited).exitCode .zero = 137 ∧
      (ofStatus core).exitCode .shell = (ofStatus exited).exitCode .shell ∧ ofStatus core ≠ ofStatus exited := by
  intro core exited
  obtain ⟨hdecode, hcode, hsignal, -, hsame⟩ := exitCode_tells_outcome
  have hcore : ofStatus core = killed 9 := ((hdecode core).2.2.1 9).2 (by decide)
  have hexited : ofStatus exited = failed 137 := ((hdecode exited).2.1 137).2 (by decide)
  obtain ⟨-, hnumber, -, -⟩ := hsignal core 9 hcore
  obtain ⟨-, -, n, -, hvalue, hpolicy⟩ := hcode exited 137 hexited
  refine ⟨?_, ?_, (hsame core exited).2 (.inr (.inl ⟨9, hcore, hexited⟩)), ?_⟩
  · exact Int.natCast_inj.1 hnumber
  · rw [hpolicy]
    exact UInt8.toNat_inj.1 (Int.natCast_inj.1 hvalue)
  · rw [hcore, hexited]
    exact Outcome.noConfusion

end RunMeter.Outcome
