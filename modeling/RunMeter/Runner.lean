import RunMeter.Host
import RunMeter.Outcome
import RunMeter.Settings.Runner
import RunMeter.Text.Quoted

/-!
# RunMeter.Runner — measuring one command

* `await`: the wait for the child, through any number of interrupts.
* `measure`: one command from its start to its report.
* `run`: the runner once its log is set up, from its words and its environment to its exit code.
* `program`: the whole of it, with the lines about the filter of its log.

The exit code follows the child alone.  A report that can not be made or written costs a line on standard error
or in the log and nothing else.
-/

namespace RunMeter.Runner

/-! ## The log -/

/-- The part of the runner that starts the child and waits for it. -/
def childTarget : String := "bench_runner::executor"

/-- The part that reports. -/
def reportTarget : String := "bench_runner::runner"

/-- The part that reads the words and the settings. -/
def mainTarget : String := "bench_runner"

/-- A command as a log line shows it. -/
def describe (c : Command) : String :=
  "Invocation \x7b program: " ++ Quoted.ofOctets c.program ++ ", args: [" ++
    ", ".intercalate (c.args.map Quoted.ofOctets) ++ "] \x7d"

/-- The runner has understood its words. -/
def starting (settings : RunnerSettings) (c : Command) : Log.Event :=
  ⟨.debug, mainTarget, "Starting measurement",
    [⟨"invocation", describe c⟩, ⟨"signal_exit", settings.signalPolicy.title⟩]⟩

/-- The child has started. -/
def spawned (pid : Nat) (c : Command) : Log.Event :=
  ⟨.debug, childTarget, "Spawned child process", [⟨"pid", Decimal.ofNat pid⟩, ⟨"program", c.name⟩]⟩

/-- The runner was interrupted and waits on. -/
def interrupted : Log.Event :=
  ⟨.warn, childTarget, "Interrupt received, waiting for child to exit", []⟩

/-- The child has ended. -/
def exited (status : WaitStatus) (elapsed : Duration) : Log.Event :=
  ⟨.debug, childTarget, "Child exited",
    [⟨"status", "ExitStatus(unix_wait_status(" ++ Decimal.ofInt status.raw.toInt ++ "))"⟩,
     ⟨"elapsed_ms", Decimal.ofNat elapsed.millis.toNat⟩]⟩

/-- The outcome of the run. -/
def concluded (c : Command) (outcome : Outcome) : Log.Event :=
  ⟨.debug, reportTarget, c.name ++ " " ++ outcome.describe, []⟩

/-- The report did not arrive. -/
def unwritten (cause : IoError) : Log.Event :=
  ⟨.warn, reportTarget, "Failed to write measurement: " ++ cause.message, []⟩

/-! ## The run -/

/-- Waits for the child.  Each interrupt costs a warning and the wait goes on, so that the result is the child's
own however many there were.  A failure of the listener for interrupts, after which the runner warns and waits on
without it, is left out here and in the whole runs below; `Proofs.Runner.Waiting` has it, step by step (`Act.lose`). -/
def await {α : Type} : List Moment → α → List Effect × α
  | [], result => ([], result)
  | .interrupt :: moments, result =>
    let (effects, result) := await moments result
    (.log interrupted :: effects, result)
  | .output stream octets :: moments, result =>
    let (effects, result) := await moments result
    (.child stream octets :: effects, result)

/-- Hands the figures to the sink, and warns if they do not arrive. -/
def handOver (sink : Sink) (m : Measurement) : List Effect :=
  match sink.failure? with
  | none => [.report m]
  | some cause => [.report m, .log (unwritten cause)]

/-- Asks for the child's memory, once, and reports.  Without an answer there is no report. -/
def conclude (host : Host) : List Effect :=
  match host.peak with
  | .ok peakKb => .query :: handOver host.sink ⟨host.elapsed, peakKb⟩
  | .error cause => [.query, .complain (RunError.resources cause).message]

/-- Starts a command, waits for its end and reports: the effects in order and the outcome. -/
def measure (host : Host) (c : Command) : List Effect × Outcome :=
  match host.launch with
  | .error cause => ([.launch c, .complain (RunError.launch c.name cause).message], .notRun)
  | .ok pid =>
    let (waiting, ending) := await host.moments host.ending
    let started := .launch c :: .log (spawned pid c) :: waiting
    match ending with
    | .error cause => (started ++ [.complain (RunError.wait cause).message], .notRun)
    | .ok status =>
      let outcome := Outcome.ofStatus status
      (started ++ .log (exited status host.elapsed) :: .log (concluded c outcome) :: conclude host, outcome)

/-- What a run has done when a signal ends the runner while it waits. -/
def cutShort (host : Command → Host) (env : Environment) (words : List Octets) : List Effect :=
  match Command.ofWords words with
  | .error _ => []
  | .ok c =>
    let waiting := (await (host c).moments ()).1
    match (host c).launch with
    | .error _ => []
    | .ok pid =>
      .log (starting (RunnerSettings.ofEnvironment env) c) :: .launch c :: .log (spawned pid c) :: waiting

/-- The runner with its log set up: its words, its environment, and the system's part for each command. -/
def run (host : Command → Host) (env : Environment) (words : List Octets) : Run :=
  let settings := RunnerSettings.ofEnvironment env
  match Command.ofWords words with
  | .error e => ⟨[.complain e.message], Outcome.notRun.exitCode settings.signalPolicy⟩
  | .ok c =>
    let (effects, outcome) := measure (host c) c
    ⟨.log (starting settings c) :: effects, outcome.exitCode settings.signalPolicy⟩

/-- The filter on the runner's log. -/
def logFilter (lib : Log.Library) (env : Environment) : Log.Filter :=
  lib.inForce (env.text? Log.overrideVariable) (RunnerSettings.ofEnvironment env).logFilter

/-- The runner as a program, which sets its log up first. -/
def program (lib : Log.Library) (host : Command → Host) (env : Environment) (words : List Octets) : Run :=
  (run host env words).logged (logFilter lib env)

end RunMeter.Runner
