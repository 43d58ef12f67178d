import RunMeter.Proofs.Settings.Image
import RunMeter.Proofs.Workload.Fibonacci
import RunMeter.Proofs.Workload.Loops
import RunMeter.Proofs.Workload.StackDive
import RunMeter.Workload

/-!
# RunMeter.Proofs.Workload.Stress — the recursion program from its environment to its output

Whatever the variables hold, the settings keep the Fibonacci index where its number is a word, so the first two
phases always come to their results.  The last phase stands or falls with the system's rule for stacks:

* `recursionStress_of_granted`: the effects of a run on a thread that the system grants.
* `recursionStress_of_refused`: those of a run without the thread.
* `recursionStress_spec`: the standard output, the exit code and the complaints of every run.
-/

namespace RunMeter

/-- The octets of some lines with an end of line after each. -/
def Utf8.encodeLines (lines : List String) : Octets :=
  lines.flatMap fun line => encode (line ++ "\n")

/-- No environment asks for a Fibonacci number that is no word. -/
theorem WorkloadSettings.fibIndex_le (env : Environment) : (ofEnvironment env).fibIndex.toInt ≤ 92 :=
  fibIndexOf_le _

namespace Workload

/-! ### What the phases show -/

/-- The lines of the first two phases and the heading of the third, told from the settings alone. -/
def linesBeforeDive (s : WorkloadSettings) : List String :=
  ["Fib(" ++ s.fibIndex.toInt.repr ++ "):",
   (fibValue s.fibIndex.toInt).repr,
   "Loop " ++ loopLabel s.sumLoopLimit ++ ":",
   ((triangle s.sumLoopLimit.toInt).bmod (2 ^ 64)).repr,
   "TCO Stack Dive (" ++ depthLabel s.diveDepth ++ " depth):"]

/-- What the program does before its last phase has a result. -/
def effectsBeforeDive (s : WorkloadSettings) : List Effect :=
  .log (stressStarting s) :: (linesBeforeDive s).map .print

theorem stdout_map_print (lines : List String) :
    Effect.stdout (lines.map .print) = Utf8.encodeLines lines := by
  induction lines with
  | nil => rfl
  | cons line lines ih => rw [List.map_cons, Effect.stdout_print, ih]; rfl

theorem complaints_map_print (lines : List String) : Effect.complaints (lines.map .print) = [] := by
  induction lines with
  | nil => rfl
  | cons line lines ih => exact ih

theorem complaints_map_complain (lines : List String) : Effect.complaints (lines.map .complain) = lines := by
  induction lines with
  | nil => rfl
  | cons line lines ih => exact congrArg (line :: ·) ih

theorem stdout_map_complain (lines : List String) : Effect.stdout (lines.map .complain) = [] := by
  induction lines with
  | nil => rfl
  | cons line lines ih => exact ih

theorem stdout_effectsBeforeDive (s : WorkloadSettings) :
    Effect.stdout (effectsBeforeDive s) = Utf8.encodeLines (linesBeforeDive s) := by
  rw [effectsBeforeDive, Effect.stdout_log, stdout_map_print]

theorem complaints_effectsBeforeDive (s : WorkloadSettings) : Effect.complaints (effectsBeforeDive s) = [] :=
  complaints_map_print _

theorem printNumber_eq (n : Int64) : printNumber n = .print n.toInt.repr := by
  rw [printNumber, Decimal.ofInt_eq_repr]

theorem fibHeading_eq (s : WorkloadSettings) : fibHeading s = "Fib(" ++ s.fibIndex.toInt.repr ++ "):" := by
  rw [fibHeading, Decimal.ofInt_eq_repr]

/-- The words that the first two phases compute are the numbers of the lines. -/
theorem effectsBeforeDive_eq {s : WorkloadSettings} {f sum : Int64} (vf : f.toInt = fibValue s.fibIndex.toInt)
    (vsum : sum.toInt = (triangle s.sumLoopLimit.toInt).bmod (2 ^ 64)) :
    effectsBeforeDive s =
      [.log (stressStarting s), .print (fibHeading s), printNumber f, .print (sumHeading s), printNumber sum,
        .print (diveHeading s)] := by
  rw [printNumber_eq, printNumber_eq, fibHeading_eq, vf, vsum]
  rfl

/-- The first two phases have results in every environment, so that a run is decided by its dive. -/
theorem recursionStress_eq (env : Environment) (rule : StackRule) {s : WorkloadSettings}
    (hs : WorkloadSettings.ofEnvironment env = s) :
    recursionStress env rule =
      match stackDive rule s.diveDepth s.diveStackMiB with
      | .ok depth => ⟨effectsBeforeDive s ++ [printNumber depth], 0⟩
      | .error e => ⟨effectsBeforeDive s ++ e.lines.map .complain, errorCode⟩ := by
  have hindex : s.fibIndex.toInt ≤ 92 := hs ▸ WorkloadSettings.fibIndex_le env
  obtain ⟨f, hf, vf⟩ := fibonacci_eq hindex
  obtain ⟨sum, hsum, vsum⟩ := sumBelow_eq s.sumLoopLimit
  rw [effectsBeforeDive_eq vf vsum, recursionStress]
  simp only [hs, hf, hsum, divePhase]
  cases stackDive rule s.diveDepth s.diveStackMiB with
  | ok depth => simp only [List.cons_append, List.nil_append]
  | error e => simp only [List.cons_append, List.nil_append]

/-- A granted dive ends the run with the depth on a sixth line. -/
theorem recursionStress_of_granted {env : Environment} {rule : StackRule} {s : WorkloadSettings}
    (hs : WorkloadSettings.ofEnvironment env = s) (hrule : rule (stackBytes s.diveStackMiB) = none)
    (hdepth : s.diveDepth.toInt ≤ Int64.maxValue.toInt - 8) :
    recursionStress env rule =
      ⟨effectsBeforeDive s ++ [.print (max 0 s.diveDepth.toInt).repr], 0⟩ := by
  obtain ⟨w, hw, vw⟩ := stackDive_of_granted hrule hdepth
  rw [recursionStress_eq env rule hs, hw]
  simp only [printNumber_eq, vw]

/-- A refused dive ends the run with the error on standard error. -/
theorem recursionStress_of_refused {env : Environment} {rule : StackRule} {s : WorkloadSettings} {cause : IoError}
    (hs : WorkloadSettings.ofEnvironment env = s) (hrule : rule (stackBytes s.diveStackMiB) = some cause) :
    recursionStress env rule =
      ⟨effectsBeforeDive s ++ (DiveError.refused s.diveStackMiB cause).lines.map .complain, 1⟩ := by
  rw [recursionStress_eq env rule hs, stackDive_of_refused _ hrule]
  rfl

theorem DiveError.message_refused (mib : UInt64) (cause : IoError) :
    (DiveError.refused mib cause).message =
      "failed to spawn stack dive thread with " ++ Decimal.ofNat mib.toNat ++ " MiB stack" := rfl

theorem DiveError.lines_refused (mib : UInt64) (cause : IoError) :
    (DiveError.refused mib cause).lines =
      ["Error: failed to spawn stack dive thread with " ++ mib.toNat.repr ++ " MiB stack", "", "Caused by:",
        "    " ++ cause.message] := by
  change ["Error: " ++ (DiveError.refused mib cause).message, "", "Caused by:", "    " ++ cause.message] = _
  rw [DiveError.message_refused, Decimal.ofNat_eq_repr, ← String.append_assoc, ← String.append_assoc]
  simp only [String.reduceAppend]

/-- **The recursion program from end to end.**  In every environment the Fibonacci phase and the summing phase have
results.  If the system grants the dive its stack, the run shows six lines and exits with 0; if it refuses, the first
five stand, the exit code is 1 and standard error names the size that was asked for and the system's cause. -/
theorem recursionStress_spec (env : Environment) (rule : StackRule)
    (hdepth : (WorkloadSettings.ofEnvironment env).diveDepth.toInt ≤ Int64.maxValue.toInt - 8) :
    let s := WorkloadSettings.ofEnvironment env
    let run := recursionStress env rule
    (fibonacci s.fibIndex).isSome ∧ (sumBelow s.sumLoopLimit).isSome ∧
    (rule (stackBytes s.diveStackMiB) = none →
      run.exitCode = 0 ∧
      Effect.stdout run.effects = Utf8.encodeLines (linesBeforeDive s ++ [(max 0 s.diveDepth.toInt).repr]) ∧
      Effect.complaints run.effects = []) ∧
    (∀ cause, rule (stackBytes s.diveStackMiB) = some cause →
      run.exitCode = 1 ∧
      Effect.stdout run.effects = Utf8.encodeLines (linesBeforeDive s) ∧
      Effect.complaints run.effects =
        ["Error: failed to spawn stack dive thread with " ++ s.diveStackMiB.toNat.repr ++ " MiB stack", "",
          "Caused by:", "    " ++ cause.message]) := by
  intro s run
  obtain ⟨f, hf, -⟩ := fibonacci_eq (WorkloadSettings.fibIndex_le env)
  obtain ⟨sum, hsum, -⟩ := sumBelow_eq s.sumLoopLimit
  refine ⟨Option.isSome_of_eq_some hf, Option.isSome_of_eq_some hsum, ?_, ?_⟩
  · intro hrule
    have hrun : run = _ := recursionStress_of_granted rfl hrule hdepth
    rw [hrun]
    refine ⟨rfl, ?_, ?_⟩
    · rw [Effect.stdout_append, stdout_effectsBeforeDive, Utf8.encodeLines, Utf8.encodeLines, List.flatMap_append]
      rfl
    · rw [Effect.complaints_append, complaints_effectsBeforeDive]
      rfl
  · intro cause hrule
    have hrun : run = _ := recursionStress_of_refused rfl hrule
    rw [hrun]
    refine ⟨rfl, ?_, ?_⟩
    · rw [Effect.stdout_append, stdout_effectsBeforeDive, stdout_map_complain, List.append_nil]
    · rw [Effect.complaints_append, complaints_effectsBeforeDive, complaints_map_complain,
        DiveError.lines_refused, List.nil_append]

/-- The greatest index, the sum that wraps round, an underscore in the depth and a size that is no text: with a
stack, and without one. -/
theorem recursionStress_ninetyTwo :
    let env : Environment :=
      ⟨[("FIB_N", Utf8.encode "92"), ("STACK_DIVE_DEPTH", Utf8.encode "2_000_000"), ("STACK_DIVE_STACK_MB", [0xff])]⟩
    let lines := ["Fib(92):", "7540113804746346429", "Loop 10 Billion:", "-5340232226128654848",
      "TCO Stack Dive (2M depth):"]
    (recursionStress env fun _ => none).exitCode = 0 ∧
    Effect.stdout (recursionStress env fun _ => none).effects = Utf8.encodeLines (lines ++ ["2000000"]) ∧
    (recursionStress env fun _ => some (.os .again)).exitCode = 1 ∧
    Effect.stdout (recursionStress env fun _ => some (.os .again)).effects = Utf8.encodeLines lines ∧
    Effect.complaints (recursionStress env fun _ => some (.os .again)).effects =
      ["Error: failed to spawn stack dive thread with 2048 MiB stack", "", "Caused by:",
        "    Resource temporarily unavailable (os error 11)"] := by
  intro env lines
  have hdepth : (WorkloadSettings.ofEnvironment env).diveDepth = 2000000 := by decide +kernel
  have hsize : (WorkloadSettings.ofEnvironment env).diveStackMiB = 2048 := by decide +kernel
  have hlines : linesBeforeDive (WorkloadSettings.ofEnvironment env) = lines := by decide +kernel
  have hbound : (WorkloadSettings.ofEnvironment env).diveDepth.toInt ≤ Int64.maxValue.toInt - 8 := by
    rw [hdepth]; decide
  obtain ⟨-, -, granted, -⟩ := recursionStress_spec env (fun _ => none) hbound
  obtain ⟨-, -, -, refused⟩ := recursionStress_spec env (fun _ => some (.os .again)) hbound
  obtain ⟨code, out, -⟩ := granted rfl
  obtain ⟨code', out', err⟩ := refused _ rfl
  rw [hlines] at out out'
  rw [hsize] at err
  rw [hdepth] at out
  exact ⟨code, out, code', out', err.trans (by decide +kernel)⟩

end Workload
end RunMeter
