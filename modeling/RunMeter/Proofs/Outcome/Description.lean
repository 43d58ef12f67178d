import Mathlib.Data.List.Nodup
import RunMeter.Proofs.Outcome.Decoding
import RunMeter.Proofs.Text.Numeral

/-!
# RunMeter.Proofs.Outcome.Description — which outcome a description is of

The words of a description tell the kind of the outcome by their first letter, except that a success is described as an
exit with the code 0 would be.  A code is told by its numeral, and a signal by its name or its numeral, of which a name
begins with a capital and the other does not.

* `Signal.name?_eq_some_iff`: the names are those of the table of Linux.
* `describe_eq_iff`: two outcomes are described alike if they are the same once a success is written as a code.
* `description_tells_outcome`: what a description tells, of any outcomes and of those of status words.
-/

namespace RunMeter

namespace Signal

/-- The signals of Linux that have names, by number. -/
def linux : List (Int × String) :=
  [(1, "SIGHUP"), (2, "SIGINT"), (3, "SIGQUIT"), (4, "SIGILL"), (5, "SIGTRAP"), (6, "SIGABRT"), (7, "SIGBUS"),
   (8, "SIGFPE"), (9, "SIGKILL"), (10, "SIGUSR1"), (11, "SIGSEGV"), (12, "SIGUSR2"), (13, "SIGPIPE"),
   (14, "SIGALRM"), (15, "SIGTERM"), (16, "SIGSTKFLT"), (17, "SIGCHLD"), (18, "SIGCONT"), (19, "SIGSTOP"),
   (20, "SIGTSTP"), (21, "SIGTTIN"), (22, "SIGTTOU"), (23, "SIGURG"), (24, "SIGXCPU"), (25, "SIGXFSZ"),
   (26, "SIGVTALRM"), (27, "SIGPROF"), (28, "SIGWINCH"), (29, "SIGIO"), (30, "SIGPWR"), (31, "SIGSYS")]

/-! ### Names of signals -/

theorem linux_eq_mapIdx : linux = stems.mapIdx fun i stem => ((i : Int) + 1, "SIG" ++ stem) := by
  decide

/-- The names are those of the table. -/
theorem name?_eq_some_iff (signal : Int32) (name : String) :
    name? signal = some name ↔ (signal.toInt, name) ∈ linux := by
  have hlength : stems.length = 31 := rfl
  rw [linux_eq_mapIdx, List.mem_mapIdx]
  simp only [name?, Prod.mk.injEq]
  constructor
  · intro h
    split at h
    · rename_i hrange
      simp only [Bool.and_eq_true, decide_eq_true_eq] at hrange
      obtain ⟨stem, hstem, rfl⟩ := Option.map_eq_some_iff.1 h
      obtain ⟨hlt, rfl⟩ := List.getElem?_eq_some_iff.1 hstem
      exact ⟨(signal.toInt - 1).toNat, hlt, by omega, rfl⟩
    · contradiction
  · rintro ⟨i, hi, hnumber, rfl⟩
    have hrange : (decide (1 ≤ signal.toInt) && decide (signal.toInt ≤ 31)) = true := by
      simp only [Bool.and_eq_true, decide_eq_true_eq]
      omega
    have hindex : (signal.toInt - 1).toNat = i := by omega
    rw [if_pos hrange, hindex, List.getElem?_eq_getElem hi, Option.map_some]

/-- The numbers with names are those from 1 to 31. -/
theorem mem_linux_range (n : Int) : (∃ name, (n, name) ∈ linux) ↔ 1 ≤ n ∧ n ≤ 31 := by
  have hlength : stems.length = 31 := rfl
  simp only [linux_eq_mapIdx, List.mem_mapIdx, Prod.mk.injEq]
  constructor
  · rintro ⟨name, i, hi, hnumber, -⟩
    omega
  · intro h
    have hi : (n - 1).toNat < stems.length := by omega
    exact ⟨_, (n - 1).toNat, hi, by omega, rfl⟩

theorem describe_of_mem_linux {signal : Int32} {name : String} (h : (signal.toInt, name) ∈ linux) :
    describe signal = name := by
  rw [describe, (name?_eq_some_iff signal name).2 h]

theorem describe_of_notMem_linux {signal : Int32} (h : ∀ name, (signal.toInt, name) ∉ linux) :
    describe signal = "signal " ++ Decimal.ofInt signal.toInt := by
  have hnone : name? signal = none :=
    Option.eq_none_iff_forall_ne_some.2 fun name hname => h name ((name?_eq_some_iff signal name).1 hname)
  rw [describe, hnone]

/-- No name is the name of two numbers. -/
theorem eq_of_mem_linux {m n : Int} {name : String} (hm : (m, name) ∈ linux) (hn : (n, name) ∈ linux) : m = n := by
  have hnodup : (linux.map Prod.snd).Nodup := by decide
  exact congrArg Prod.fst (List.inj_on_of_nodup_map hnodup hm hn rfl)

/-- A name begins with a capital, and so is no numeral after the word for a signal. -/
theorem ne_signal_append {n : Int} {name : String} (h : (n, name) ∈ linux) (rest : String) :
    name ≠ "signal " ++ rest := by
  have hcapital : ∀ entry ∈ linux, entry.2.toList.head? = some 'S' := by decide
  rintro rfl
  have hhead := hcapital _ h
  rw [String.toList_append] at hhead
  exact absurd (Option.some.inj hhead : 's' = 'S') (by decide)

theorem describe_injective : Function.Injective describe := by
  intro s t h
  refine Int32.toInt_inj.1 ?_
  by_cases hs : ∃ name, (s.toInt, name) ∈ linux
  · obtain ⟨name, hname⟩ := hs
    rw [describe_of_mem_linux hname] at h
    by_cases ht : ∃ name, (t.toInt, name) ∈ linux
    · obtain ⟨name', hname'⟩ := ht
      rw [describe_of_mem_linux hname'] at h
      exact eq_of_mem_linux hname (h ▸ hname')
    · rw [describe_of_notMem_linux (not_exists.1 ht)] at h
      exact absurd h (ne_signal_append hname _)
  · rw [describe_of_notMem_linux (not_exists.1 hs)] at h
    by_cases ht : ∃ name, (t.toInt, name) ∈ linux
    · obtain ⟨name', hname'⟩ := ht
      rw [describe_of_mem_linux hname'] at h
      exact absurd h.symm (ne_signal_append hname' _)
    · rw [describe_of_notMem_linux (not_exists.1 ht)] at h
      exact Decimal.ofInt_injective ((String.append_right_inj _).1 h)

end Signal

namespace Outcome

/-! ### Descriptions -/

@[simp] theorem describe_failed (code : Int32) :
    (failed code).describe = "exited with code " ++ Decimal.ofInt code.toInt := rfl

@[simp] theorem describe_killed (signal : Int32) :
    (killed signal).describe = "killed by " ++ Signal.describe signal := rfl

/-- The first letter of a description, by the kind of the outcome. -/
def initial : Outcome → Char
  | success => 'e'
  | failed _ => 'e'
  | killed _ => 'k'
  | notRun => 'f'

theorem head?_describe (o : Outcome) : o.describe.toList.head? = some o.initial := by
  cases o with
  | success => rfl
  | failed code => rw [describe_failed, String.toList_append]; rfl
  | killed signal => rw [describe_killed, String.toList_append]; rfl
  | notRun => rfl

/-- The outcome with a success written as the code that it is described by. -/
def coded : Outcome → Outcome
  | success => failed 0
  | failed code => failed code
  | killed signal => killed signal
  | notRun => notRun

theorem describe_coded (o : Outcome) : o.coded.describe = o.describe := by
  cases o with
  | success =>
    have hzero : Decimal.ofInt (0 : Int32).toInt = "0" := Decimal.ofInt_eq_repr 0
    rw [coded, describe_failed, hzero]
    decide
  | failed code => rfl
  | killed signal => rfl
  | notRun => rfl

/-- Outcomes other than a success are told by their descriptions. -/
theorem eq_of_describe {o p : Outcome} (ho : o ≠ success) (hp : p ≠ success) (h : o.describe = p.describe) :
    o = p := by
  have hinitial : o.initial = p.initial := by
    have hhead := head?_describe o
    rw [h, head?_describe p] at hhead
    exact (Option.some.inj hhead).symm
  cases o with
  | success => exact absurd rfl ho
  | failed code =>
    cases p with
    | success => exact absurd rfl hp
    | failed code' =>
      have hcode := Decimal.ofInt_injective ((String.append_right_inj _).1 h)
      exact congrArg failed (Int32.toInt_inj.1 hcode)
    | killed signal => exact absurd hinitial (by simp [initial])
    | notRun => exact absurd hinitial (by simp [initial])
  | killed signal =>
    cases p with
    | success => exact absurd rfl hp
    | failed code => exact absurd hinitial (by simp [initial])
    | killed signal' => exact congrArg killed (Signal.describe_injective ((String.append_right_inj _).1 h))
    | notRun => exact absurd hinitial (by simp [initial])
  | notRun =>
    cases p with
    | success => exact absurd rfl hp
    | failed code => exact absurd hinitial (by simp [initial])
    | killed signal => exact absurd hinitial (by simp [initial])
    | notRun => rfl

theorem coded_ne_success (o : Outcome) : o.coded ≠ success := by
  cases o <;> exact Outcome.noConfusion

theorem describe_eq_iff {o p : Outcome} : o.describe = p.describe ↔ o.coded = p.coded := by
  rw [← describe_coded o, ← describe_coded p]
  exact ⟨eq_of_describe o.coded_ne_success p.coded_ne_success, congrArg describe⟩

theorem coded_eq_iff {o p : Outcome} :
    o.coded = p.coded ↔ o = p ∨ o = success ∧ p = failed 0 ∨ o = failed 0 ∧ p = success := by
  cases o <;> cases p <;> simp [coded, eq_comm]

/-- No status word tells a code 0 as anything but a success. -/
theorem ofStatus_ne_failed_zero (s : WaitStatus) : ofStatus s ≠ failed 0 := fun h =>
  ((ofStatus_eq_failed_iff s 0).1 h).2.2 rfl

/-- **What a description tells.**  Two outcomes have the same description just if they are the same outcome, or one is a
success and the other the code 0.  No status word tells that code, so two status words have the same description just if
they tell the same outcome.  The signals from 1 to 31 are described by their names in the table of Linux, and all
others by their numerals. -/
theorem description_tells_outcome :
    (∀ o p : Outcome, o.describe = p.describe ↔
      o = p ∨ o = success ∧ p = failed 0 ∨ o = failed 0 ∧ p = success) ∧
    (∀ s t : WaitStatus, ofStatus s ≠ failed 0 ∧
      ((ofStatus s).describe = (ofStatus t).describe ↔ ofStatus s = ofStatus t)) ∧
    (∀ signal name, (signal.toInt, name) ∈ Signal.linux → (killed signal).describe = "killed by " ++ name) ∧
    (∀ n : Int, (∃ name, (n, name) ∈ Signal.linux) ↔ 1 ≤ n ∧ n ≤ 31) ∧
    (∀ signal : Int32, ¬(1 ≤ signal.toInt ∧ signal.toInt ≤ 31) →
      (killed signal).describe = "killed by signal " ++ signal.toInt.repr) := by
  refine ⟨fun o p => describe_eq_iff.trans coded_eq_iff, fun s t => ⟨ofStatus_ne_failed_zero s, ?_⟩, ?_,
    Signal.mem_linux_range, ?_⟩
  · rw [describe_eq_iff, coded_eq_iff]
    simp [ofStatus_ne_failed_zero]
  · intro signal name h
    rw [describe_killed, Signal.describe_of_mem_linux h]
  · intro signal h
    have hnone : ∀ name, (signal.toInt, name) ∉ Signal.linux := fun name hname =>
      h ((Signal.mem_linux_range signal.toInt).1 ⟨name, hname⟩)
    have hwords : "killed by " ++ "signal " = "killed by signal " := by decide
    rw [describe_killed, Signal.describe_of_notMem_linux hnone, ← String.append_assoc, hwords, Decimal.ofInt_eq_repr]

/-- The one clash; a core file, which is not described; the first signal without a name and one below all signals; and
a code beside the signal of the same number. -/
theorem description_tells_outcome_ends :
    success.describe = (failed 0).describe ∧
    (ofStatus ⟨0x89⟩).describe = (ofStatus ⟨9⟩).describe ∧
    (killed 31).describe = "killed by SIGSYS" ∧ (killed 32).describe = "killed by signal 32" ∧
    (killed (-9)).describe = "killed by signal -9" ∧ (killed 9).describe ≠ (failed 9).describe := by
  obtain ⟨outcomes, statuses, named, -, others⟩ := description_tells_outcome
  refine ⟨(outcomes _ _).2 (.inr (.inl ⟨rfl, rfl⟩)), (statuses _ _).2.2 (by decide), named 31 "SIGSYS" (by decide),
    ?_, ?_, ?_⟩
  · exact others 32 (by decide)
  · exact others (-9) (by decide)
  · intro h
    have hsame := (outcomes _ _).1 h
    simp at hsame

end Outcome
end RunMeter
