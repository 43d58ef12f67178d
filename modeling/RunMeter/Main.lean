import RunMeter.Log.Directive
import RunMeter.Machine.Trial
import RunMeter.Workload

/-!
# RunMeter.Main — the command line

The first word names one of the three programs: the runner, or one of the two workloads.  The runner's command
runs on the machine, with nothing on its standard input.  A program's effects are carried out in order, and log
lines are shown without their time.  Filters of the log are read by the library of levels and targets.
-/

namespace RunMeter.CommandLine

/-- The variables that the programs and the commands of the machine are given. -/
def variableNames : List String :=
  ["PATH", "HOME", "RUST_LOG", "BENCH_RUNNER_LOG", "BENCH_RUNNER_SIGNAL_EXIT", "WORKLOAD_LOG",
   "TIGHT_LOOP_ITERATIONS", "FIB_N", "SUM_LOOP_LIMIT", "STACK_DIVE_DEPTH", "STACK_DIVE_STACK_MB"]

/-- The environment that the process was started with. -/
def environment : IO Environment := do
  let entries ← variableNames.filterMapM fun name => do
    return (← IO.getEnv name).map fun value => (name, Utf8.encode value)
  return ⟨entries⟩

/-- Writes octets to standard output or to standard error. -/
def put (stream : Stream) (octets : Octets) : IO Unit := do
  let target ← match stream with
    | .stdout => IO.getStdout
    | .stderr => IO.getStderr
  target.write ⟨octets.toArray⟩
  target.flush

/-- Carries out one effect; standard output takes a report. -/
def perform (effect : Effect) : IO Unit :=
  match effect.output? .accepts with
  | some (stream, octets) => put stream octets
  | none => pure ()

/-- Carries out the effects that show; a filter decides which events do. -/
def performAll (filter : Log.Filter) (effects : List Effect) : IO Unit := do
  for effect in Effect.passing filter.admits effects do perform effect

/-- Carries out a run and gives its exit code. -/
def carryOut (filter : Log.Filter) (run : Run) : IO UInt32 := do
  performAll filter run.effects
  return run.exitCode.toUInt32

/-- The time that a computation takes. -/
def timed {α : Type} (compute : Unit → α) : IO Duration := do
  let start ← IO.monoNanosNow
  let _ ← IO.lazyPure compute
  return .ofNanos ((← IO.monoNanosNow) - start)

/-- Runs the program that a word names with the words after it. -/
def dispatch (env : Environment) (program : String) (words : List String) : IO UInt32 := do
  let lib := Log.Directive.library
  match program with
  | "tight_loop" =>
    let elapsed ← timed fun _ => (Workload.tightLoop env .zero).exitCode
    carryOut (Workload.logFilter lib env) (Workload.tightProgram lib env elapsed)
  | "recursion_stress" => carryOut (Workload.logFilter lib env) (Workload.stressProgram lib env Machine.stackRule)
  | _ =>
    let scene : Machine.Scene := ⟨env, [], []⟩
    let (effects, ended) := scene.perform lib true ((program :: words).map Utf8.encode)
    performAll (Runner.logFilter lib env) effects
    return ended.status.toUInt32

end RunMeter.CommandLine

/-- The command line: the words after the process's own name, the first of them the program's. -/
def main (words : List String) : IO UInt32 := do
  RunMeter.CommandLine.dispatch (← RunMeter.CommandLine.environment) (words.headD "bench_runner") words.tail
