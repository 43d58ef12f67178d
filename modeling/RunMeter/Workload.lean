import RunMeter.Effect
import RunMeter.Settings.Workload
import RunMeter.Workload.Fibonacci
import RunMeter.Workload.Label
import RunMeter.Workload.Loops
import RunMeter.Workload.StackDive

/-!
# RunMeter.Workload — the two workload programs

* `tightLoop`: counts to a limit and says how long that took.
* `recursionStress`: a Fibonacci number, a long sum and a deep recursion, two lines for each.
* `tightProgram`, `stressProgram`: the two with the lines about the filter of their log.

A phase shows its heading before it starts, so a phase that fails leaves what came before it.
-/

namespace RunMeter.Workload

/-- The exit code of a program that leaves the words in the middle of a phase. -/
def overflowCode : UInt8 := 101

/-- The exit code of a program that ends with an error. -/
def errorCode : UInt8 := 1

/-- The milliseconds of a duration with four decimal places. -/
def millisText (d : Duration) : String :=
  let millis := Rounding.toBits Duration.precision (d.seconds * 1000)
  let n := (Rounding.halfEven (millis * 10000)).toNat
  String.ofList (Decimal.digits (n / 10000) ++ '.' :: Decimal.padded 4 n)

/-! ## Counting -/

/-- The log's name for the counting program. -/
def tightTarget : String := "tight_loop"

/-- The count is about to start. -/
def tightStarting (iterations : Int64) : Log.Event :=
  ⟨.debug, tightTarget, "Starting tight loop", [⟨"iterations", Decimal.ofInt iterations.toInt⟩]⟩

/-- The count has ended. -/
def tightFinished (count : Int64) : Log.Event :=
  ⟨.debug, tightTarget, "Tight loop finished", [⟨"count", Decimal.ofInt count.toInt⟩]⟩

/-- The counting program in an environment, its log set up, when counting takes the time `elapsed`. -/
def tightLoop (env : Environment) (elapsed : Duration) : Run :=
  let settings := WorkloadSettings.ofEnvironment env
  let begun := [.log (tightStarting settings.tightLoopIterations)]
  match countUp settings.tightLoopIterations with
  | none => ⟨begun, overflowCode⟩
  | some count =>
    ⟨begun ++ [.log (tightFinished count), .print ("Tight loop  : " ++ millisText elapsed ++ " ms")], 0⟩

/-! ## Recursion -/

/-- The log's name for the recursion program. -/
def stressTarget : String := "recursion_stress"

/-- The phases are about to start. -/
def stressStarting (settings : WorkloadSettings) : Log.Event :=
  ⟨.debug, stressTarget, "Starting recursion stress test", [⟨"config", settings.describe⟩]⟩

/-- The heading of the Fibonacci phase. -/
def fibHeading (settings : WorkloadSettings) : String :=
  "Fib(" ++ Decimal.ofInt settings.fibIndex.toInt ++ "):"

/-- The heading of the summing phase. -/
def sumHeading (settings : WorkloadSettings) : String :=
  "Loop " ++ loopLabel settings.sumLoopLimit ++ ":"

/-- The heading of the deep recursion. -/
def diveHeading (settings : WorkloadSettings) : String :=
  "TCO Stack Dive (" ++ depthLabel settings.diveDepth ++ " depth):"

/-- A number on a line of its own. -/
def printNumber (n : Int64) : Effect :=
  .print (Decimal.ofInt n.toInt)

/-- The deep recursion as the program's last phase. -/
def divePhase (settings : WorkloadSettings) (rule : StackRule) : Run :=
  match stackDive rule settings.diveDepth settings.diveStackMiB with
  | .ok depth => ⟨[.print (diveHeading settings), printNumber depth], 0⟩
  | .error e => ⟨.print (diveHeading settings) :: e.lines.map .complain, errorCode⟩

/-- The recursion program in an environment, its log set up, when the system grants stacks by a rule. -/
def recursionStress (env : Environment) (rule : StackRule) : Run :=
  let settings := WorkloadSettings.ofEnvironment env
  let begun := [.log (stressStarting settings), .print (fibHeading settings)]
  match fibonacci settings.fibIndex with
  | none => ⟨begun, overflowCode⟩
  | some f =>
    let summing := begun ++ [printNumber f, .print (sumHeading settings)]
    match sumBelow settings.sumLoopLimit with
    | none => ⟨summing, overflowCode⟩
    | some sum =>
      let last := divePhase settings rule
      ⟨summing ++ printNumber sum :: last.effects, last.exitCode⟩

/-! ## The log -/

/-- The filter on a workload's log. -/
def logFilter (lib : Log.Library) (env : Environment) : Log.Filter :=
  lib.inForce (env.text? Log.overrideVariable) (WorkloadSettings.ofEnvironment env).logFilter

/-- The counting program, which sets its log up first. -/
def tightProgram (lib : Log.Library) (env : Environment) (elapsed : Duration) : Run :=
  (tightLoop env elapsed).logged (logFilter lib env)

/-- The recursion program, which sets its log up first. -/
def stressProgram (lib : Log.Library) (env : Environment) (rule : StackRule) : Run :=
  (recursionStress env rule).logged (logFilter lib env)

end RunMeter.Workload
