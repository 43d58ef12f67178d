import RunMeter.Host
import RunMeter.Machine.FileTree

/-!
# RunMeter.Machine.Kernel — what the processes of the machine share

The kernel holds the files, the open channels, the pipes, the processes and the time.  It knows of each process
what others can see of it or do to it; what a process goes on to do is with the scheduler.

The runner is a process too, but one that the machine does not carry out: the kernel only notes what the runner
notices.

Nothing that is proved depends on this module.
-/

namespace RunMeter.Machine

/-- A process number. -/
abbrev Pid := Nat

/-- How a process ended. -/
inductive Ended where
  | code (n : UInt8)
  | signal (n : Nat)
  deriving DecidableEq

namespace Ended

/-- The status that a shell has for it. -/
def status : Ended → Nat
  | code n => n.toNat
  | signal n => 128 + n

/-- The end with an exit code, of which the last eight bits count. -/
def ofStatus (n : Nat) : Ended := .code (UInt8.ofNat (n % 256))

end Ended

/-- Where a descriptor leads. -/
inductive Channel where
  /-- A stream that the child shares with the runner. -/
  | shared (stream : Stream)
  /-- A file and the place in it. -/
  | file (node offset : Nat) (append readable writable : Bool)
  | device (which : Device) (readable writable : Bool)
  /-- A pipe. -/
  | pipe (number : Nat) (readable writable : Bool)
  /-- A directory, for its names only. -/
  | directory (node : Nat)

/-- Octets on their way: those that come next, and those after them, the last written first. -/
structure Pipe where
  next : Raw
  later : List Raw
  size : Nat
  /-- Whether its reader waits for the first writer to come. -/
  awaited : Bool

namespace Pipe

/-- How many octets a pipe holds at most. -/
def capacity : Nat := 65536

/-- How many octets are written at once or not at all. -/
def atomic : Nat := 4096

/-- A pipe with octets in it. -/
def holding (octets : Raw) : Pipe := ⟨octets, [], octets.length, false⟩

/-- The pipe with octets put into it. -/
def push (p : Pipe) (octets : Raw) : Pipe :=
  ⟨p.next, octets :: p.later, p.size + octets.length, p.awaited⟩

/-- Takes so many octets at most. -/
def take (p : Pipe) (most : Nat) : Raw × Pipe :=
  let next := if p.later.isEmpty then p.next else p.next ++ p.later.reverse.flatten
  let taken := next.take most
  (taken, ⟨next.drop most, [], p.size - taken.length, p.awaited⟩)

end Pipe

/-- An entry of a process's descriptors: a channel, and whether it is closed when another program takes the
process's place. -/
structure Slot where
  channel : Nat
  closing : Bool

/-- A process as others see it. -/
structure Task where
  pid : Pid
  parent : Pid
  group : Pid
  fds : List (Nat × Slot)
  cwd : Nat
  /-- The permissions that new files do not get. -/
  mask : Nat
  /-- Signals that do nothing to the process. -/
  ignored : List Nat
  /-- Signals that the process takes itself. -/
  caught : List Nat
  /-- Caught signals that have not been taken. -/
  arrived : List Nat
  /-- The signal that is going to end the process. -/
  doom : Option Nat
  stopped : Bool
  /-- How the process ended, while its parent has not asked. -/
  ended : Option Ended
  niceness : Int

/-- The runner as the kernel sees it. -/
structure RunnerState where
  pid : Pid
  /-- The process that the runner waits for. -/
  child : Pid
  /-- When and how that process ended. -/
  childEnd : Option (Instant × Ended)
  /-- The signal that ended the runner itself. -/
  ending : Option Nat

/-- What the processes of the machine share. -/
structure Kernel where
  now : Instant
  files : FileTree
  channels : Array Channel
  pipes : Array Pipe
  tasks : List Task
  /-- What the runner has noticed, the last first. -/
  moments : List Moment
  runner : RunnerState
  nextPid : Pid

namespace Kernel

/-- The process number of the system's first process. -/
def firstPid : Pid := 1

/-- A process by its number. -/
def task? (k : Kernel) (pid : Pid) : Option Task :=
  k.tasks.find? fun t => t.pid = pid

/-- What stands for a process that is no more. -/
def noTask : Task := ⟨0, 0, 0, [], FileTree.root, 0, [], [], [], none, false, none, 0⟩

/-- A process that is at work. -/
def task (k : Kernel) (pid : Pid) : Task :=
  (k.task? pid).getD noTask

/-- Changes a process. -/
def onTask (k : Kernel) (pid : Pid) (f : Task → Task) : Kernel :=
  { k with tasks := k.tasks.map fun t => if t.pid = pid then f t else t }

/-- The channel with a number. -/
def channel (k : Kernel) (n : Nat) : Channel :=
  k.channels.getD n (.device .null false false)

/-- Puts a channel in the place of another. -/
def setChannel (k : Kernel) (n : Nat) (c : Channel) : Kernel :=
  { k with channels := k.channels.setIfInBounds n c }

/-- The channel of a descriptor, by number. -/
def channelOf? (k : Kernel) (pid : Pid) (fd : Nat) : Option Nat :=
  ((k.task pid).fds.find? fun e => e.1 = fd).map fun e => e.2.channel

/-- Changes the files. -/
def onFiles (k : Kernel) (f : FileTree → FileTree) : Kernel :=
  { k with files := f k.files }

end Kernel

/-- What comes of something that a process wants of the kernel: it is done, or it has to be tried again later.  The
process waits until something changes, or until an instant if there is one. -/
inductive Reaction (α : Type) where
  | done (kernel : Kernel) (value : α)
  | wait (instant : Option Instant)

end RunMeter.Machine
