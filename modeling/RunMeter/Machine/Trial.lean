import RunMeter.Machine.FileTree.Layout
import RunMeter.Machine.Programs
import RunMeter.Machine.Scheduler
import RunMeter.Runner
import RunMeter.Workload.StackDive

/-!
# RunMeter.Machine.Trial — a command on the machine

A scene is what a command finds: variables, standard input and files.  `Scene.course` runs a command in a scene,
and `Course.host` is the system's part that the runner sees of it.  Processes that outlive the command go on, which
`Course.rest` tells.

* `Scene.perform`: the runner on the machine, from its words to its end.

The machine stands in for the system when the programs are run: files, processes, signals, shells, the usual utilities,
and interpreters of awk, Perl and Python programs.  Its figures for time and memory are not those of a real system.
Whatever is proved of the programs is proved for any system, and nothing of it depends on the machine.
-/

namespace RunMeter.Machine

/-- A file that is there before a run; a directory if it has no contents. -/
structure Provision where
  path : Octets
  mode : Nat
  contents : Option Octets

/-- What a command finds when it starts. -/
structure Scene where
  env : Environment
  input : Octets
  files : List Provision

/-- What came of a command. -/
structure Course where
  launch : Except IoError Nat
  /-- The machine when the runner stopped waiting. -/
  state : Schedule

namespace Scene

/-- The process number of the runner. -/
def runnerPid : Pid := 2000

/-- The process number of the command. -/
def commandPid : Pid := runnerPid + 1

/-- The number of a node in a tree. -/
def workPath : List Raw := FileTree.parts "tmp/run"

/-- The files of a machine before a run. -/
def furnished : FileTree :=
  (FileTree.furnished Programs.names).install 0o755 true (fun above => .directory above []) FileTree.root workPath

/-- The directory that a command runs in. -/
def workPlace : Nat := (furnished.find FileTree.root "/tmp/run".toList true).toOption.getD FileTree.root

/-- A tree with a provision. -/
def provide (t : FileTree) (p : Provision) : FileTree :=
  let names := (Raw.splitAt '/' (Raw.ofOctets p.path)).filter (!·.isEmpty)
  t.install p.mode true (fun above =>
    match p.contents with
    | some octets => .file (Raw.ofOctets octets)
    | none => .directory above []) workPlace names

/-- The files that a command finds. -/
def tree (s : Scene) : FileTree := s.files.foldl provide furnished

/-- The variables that a command finds. -/
def bindings (s : Scene) : List (Raw × Raw) :=
  s.env.entries.map fun v => (Raw.ofText v.1, Raw.ofOctets v.2)

/-- The command's process before its first step. -/
def command : Task where
  pid := commandPid
  parent := runnerPid
  group := runnerPid
  fds := [(0, ⟨0, false⟩), (1, ⟨1, false⟩), (2, ⟨2, false⟩)]
  cwd := workPlace
  mask := 0o022
  ignored := []
  caught := []
  arrived := []
  doom := none
  stopped := false
  ended := none
  niceness := 0

/-- The time at which a command starts: the first moment of 2026. -/
def startTime : Instant := 1767225600000000

/-- The kernel before a command.  `keepsEnded` says that the system keeps ended children until they are asked for. -/
def kernel (s : Scene) (keepsEnded : Bool) : Kernel where
  now := startTime
  files := s.tree
  channels := #[.pipe 0 true false, .shared .stdout, .shared .stderr]
  pipes := #[.holding (Raw.ofOctets s.input)]
  tasks := [{ command with ignored := if keepsEnded then [] else [SignalNumber.child] }]
  moments := []
  runner := ⟨runnerPid, commandPid, none, none⟩
  nextPid := commandPid + 1

/-- The program that a command starts, or why none does.  A word with a zero octet is refused before the search. -/
def image (s : Scene) (c : Command) : Except IoError Image :=
  if c.words.any (·.contains 0) then .error .zeroOctet
  else
    let path := (s.env.get? "PATH").elim Call.usualPath Raw.ofOctets
    match Launch.search s.tree workPlace path (Raw.ofOctets c.program) (c.words.map Raw.ofOctets) with
    | .ok image => .ok image
    | .error e => .error (.os e)

/-- How many microseconds pass between the command's end and the runner's knowing of it. -/
def delay : Nat := 3000

/-- Whether the runner does not wait any more: it has ended, or it knows that the command has. -/
def isOver (k : Kernel) : Bool :=
  match k.runner.childEnd with
  | some (instant, _) => k.now ≥ instant + delay
  | none => false

/-- Runs a command in a scene. -/
def course (s : Scene) (keepsEnded : Bool) (c : Command) : Course :=
  match s.image c with
  | .error cause => ⟨.error cause, ⟨s.kernel keepsEnded, []⟩⟩
  | .ok image =>
    let child : Act Ended := Programs.start image s.bindings
    ⟨.ok commandPid, Schedule.run isOver ⟨s.kernel keepsEnded, [(commandPid, child .ended)]⟩⟩

end Scene

namespace Course

/-- What happened until the runner stopped waiting, in order. -/
def moments (course : Course) : List Moment := course.state.kernel.moments.reverse

/-- How the command ended. -/
def ended (course : Course) : Ended :=
  match course.state.kernel.runner.childEnd with
  | some (_, how) => how
  | none => .code 0

/-- The signal that ended the runner. -/
def runnerEnd (course : Course) : Option Nat := course.state.kernel.runner.ending

/-- How many microseconds of the machine's time are waited for processes that outlive the command. -/
def patience : Nat := 60000000

/-- What happens after the runner has stopped waiting, until no process goes on. -/
def rest (course : Course) : List Moment :=
  let k := course.state.kernel
  let last := k.now + patience
  (Schedule.run (fun k => k.tasks.isEmpty || k.now ≥ last) ⟨{ k with moments := [] }, course.state.row⟩).kernel.moments.reverse

/-- How a child ended, as the system tells it. -/
def status : Ended → WaitStatus
  | .code n => .exited n
  | .signal n => .killed n

/-- The system's part in a run.  A system that does not keep ended children can not tell how one ended. -/
def host (course : Course) (keepsEnded : Bool) (peak : Except Errno UInt64) (sink : Sink) : Host where
  launch := course.launch
  moments := course.moments
  ending := if keepsEnded then .ok (status course.ended) else .error (.os .noChild)
  elapsed := .zero
  peak := peak
  sink := sink

/-- What processes write that outlive the command. -/
def afterwards (course : Course) : List Effect :=
  course.rest.filterMap fun
    | .output stream octets => some (.child stream octets)
    | .interrupt => none

end Course

/-! ## Memory -/

/-- How many octets the addresses of a process reach. -/
def addressSpace : Nat := 140737488355328

/-- The stacks that a thread gets.  The greatest word leaves no room to round up to whole pages, so it is no size;
any other size has to fit the addresses. -/
def stackRule : Workload.StackRule := fun octets =>
  if octets.toNat + 1 = UInt64.size then some (.os .invalid)
  else if octets.toNat < addressSpace then none
  else some (.os .again)

/-- The figure for a child's memory. -/
def peakKb : UInt64 := 1024

/-! ## The runner on the machine -/

/-- Runs the runner in a scene: all that is done until no process goes on, and how the runner ended. -/
def Scene.perform (s : Scene) (lib : Log.Library) (keepsEnded : Bool) (words : List Octets) : List Effect × Ended :=
  let host (course : Course) : Host := course.host keepsEnded (.ok peakKb) .accepts
  match Command.ofWords words with
  | .error _ =>
    let run := Runner.program lib (fun c => host (s.course keepsEnded c)) s.env words
    (run.effects, .code run.exitCode)
  | .ok c =>
    let course := s.course keepsEnded c
    let answer := host course
    match course.runnerEnd with
    | some signal =>
      let opening := Effect.opening (Runner.logFilter lib s.env)
      (opening ++ Runner.cutShort (fun _ => answer) s.env words ++ course.afterwards, .signal signal)
    | none =>
      let run := Runner.program lib (fun _ => answer) s.env words
      (run.effects ++ course.afterwards, .code run.exitCode)

end RunMeter.Machine
