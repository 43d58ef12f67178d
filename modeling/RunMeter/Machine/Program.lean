import RunMeter.Machine.Kernel.Files

/-!
# RunMeter.Machine.Program — what a process goes on to do

A program is a process's way on: it has ended, it wants something of the kernel, or it makes a copy of itself.
An action is a part of a program that comes to a value; what is done with the value follows it.

The second half of the module holds the actions that all programs are made of.

Nothing that is proved depends on this module.
-/

namespace RunMeter.Machine

/-- What a process goes on to do. -/
inductive Program where
  | ended (how : Ended)
  /-- Something that the process with a number wants of the kernel. -/
  | attempt (f : Pid → Kernel → Reaction Program)
  /-- A new process, whose number is told. -/
  | fork (child : Program) (next : Pid → Program)

/-- A part of a program that comes to a value. -/
def Act (α : Type) : Type := (α → Program) → Program

instance : Monad Act where
  pure x := fun next => next x
  bind a f := fun next => a fun x => f x next

namespace Act

/-- Ends the process. -/
def finish {α : Type} (how : Ended) : Act α := fun _ => .ended how

/-- Ends the process with an exit code. -/
def exit {α : Type} (code : UInt8) : Act α := finish (.code code)

/-- Wants something of the kernel, and waits where that is said. -/
def attempt {α : Type} (f : Pid → Kernel → Reaction α) : Act α := fun next =>
  .attempt fun pid k =>
    match f pid k with
    | .done k x => .done k (next x)
    | .wait instant => .wait instant

/-- Asks the kernel for something. -/
def ask {α : Type} (f : Pid → Kernel → α) : Act α :=
  attempt fun pid k =>
    let x := f pid k
    .done k x

/-- Changes the kernel. -/
def change (f : Pid → Kernel → Kernel) : Act Unit :=
  attempt fun pid k => .done (f pid k) ()

/-- Changes the kernel if that can be done. -/
def tryChange (f : Pid → Kernel → Except Errno Kernel) : Act (Option Errno) :=
  attempt fun pid k =>
    match f pid k with
    | .ok k => .done k none
    | .error e => .done k (some e)

/-- Starts a new process; gives its number. -/
def fork (child : Act Ended) : Act Pid := fun next =>
  .fork (child .ended) next

/-- The process's own number. -/
def ownPid : Act Pid := ask fun pid _ => pid

/-- The number of the process's parent. -/
def parentPid : Act Pid := ask fun pid k => (k.task pid).parent

/-- The time. -/
def now : Act Instant := ask fun _ k => k.now

/-- The process as others see it. -/
def task : Act Task := ask fun pid k => k.task pid

/-! ## Octets -/

/-- Reads so many octets at most; none at the end. -/
def read (fd most : Nat) : Act (Except Errno Raw) :=
  attempt fun pid k => k.read pid fd most

/-- Reads, but comes back when a caught signal arrives. -/
def readOrSignal (fd most : Nat) : Act (Except Errno Raw) :=
  attempt fun pid k =>
    match k.read pid fd most with
    | .wait instant => if (k.task pid).arrived.isEmpty then .wait instant else .done k (.error .interrupted)
    | done => done

/-- Writes octets, piece by piece.  The bound is on the pieces. -/
def writeWithin (fd : Nat) : (pieces : Nat) → Raw → Act (Option Errno)
  | 0, _ => pure none
  | pieces + 1, octets => do
    match ← attempt fun pid k => k.write pid fd octets with
    | .error e => return some e
    | .ok count =>
      match octets.drop count with
      | [] => return none
      | rest => writeWithin fd pieces rest

/-- Writes octets; says what is wrong if they can not all be written. -/
def write (fd : Nat) (octets : Raw) : Act (Option Errno) :=
  writeWithin fd (octets.length + 1) octets

/-- How much is read at once. -/
def blockSize : Nat := 65536

/-- How many blocks are read of a source at most. -/
def blockBound : Nat := 100000

/-- Reads blocks, the last first, until nothing is left. -/
def readBlocks (fd : Nat) : (fuel : Nat) → List Raw → Act (Except Errno (List Raw))
  | 0, blocks => pure (.ok blocks)
  | fuel + 1, blocks => do
    match ← read fd blockSize with
    | .error e => return .error e
    | .ok [] => return .ok blocks
    | .ok block => readBlocks fd fuel (block :: blocks)

/-- Reads all that is left. -/
def readAll (fd : Nat) : Act (Except Errno Raw) := do
  match ← readBlocks fd blockBound [] with
  | .ok blocks => return .ok blocks.reverse.flatten
  | .error e => return .error e

/-- Reads up to and with the next end of line, octet by octet, so that nothing more is taken. -/
def readLineWithin (fd : Nat) : (fuel : Nat) → Raw → Act (Except Errno Raw)
  | 0, taken => pure (.ok taken.reverse)
  | fuel + 1, taken => do
    match ← readOrSignal fd 1 with
    | .error e => return .error e
    | .ok (c :: _) => if c = '\n' then return .ok (c :: taken).reverse else readLineWithin fd fuel (c :: taken)
    | .ok [] => return .ok taken.reverse

/-- Moves the place in a file. -/
def seek (fd : Nat) (move : (offset size : Nat) → Int) : Act (Except Errno Nat) :=
  attempt fun pid k =>
    match k.seek pid fd move with
    | .ok (k, place) => .done k (.ok place)
    | .error e => .done k (.error e)

/-! ## Descriptors and files -/

/-- Opens a file; gives the descriptor. -/
def openFile (path : Raw) (m : OpenMode) : Act (Except Errno Nat) :=
  attempt fun pid k => k.openPath pid path m 0o666 3 false

/-- Closes a descriptor. -/
def close (fd : Nat) : Act Unit := change fun pid k => k.close pid fd

/-- Makes a descriptor lead where another leads, and tells if that is not open. -/
def duplicate (source target : Nat) : Act Bool :=
  attempt fun pid k =>
    match k.channelOf? pid source with
    | some c => .done (k.connect pid target ⟨c, false⟩) true
    | none => .done k false

/-- Opens a pipe: the descriptors for reading and for writing. -/
def pipe : Act (Nat × Nat) :=
  attempt fun pid k =>
    let (k, readFd, writeFd) := k.openPipe pid
    .done k (readFd, writeFd)

/-- The channel of a descriptor. -/
def channel? (fd : Nat) : Act (Option Channel) :=
  ask fun pid k => (k.channelOf? pid fd).map k.channel

/-- The node that a path leads to. -/
def node? (path : Raw) (follow : Bool) : Act (Except Errno (Nat × Node)) :=
  ask fun pid k => (k.find pid path follow).map fun n => (n, k.files.node n)

/-- Whether a path leads to something. -/
def isThere (path : Raw) : Act Bool :=
  ask fun pid k => (k.find pid path true).toOption.isSome

/-- The path of the working directory. -/
def workingDirectory : Act Raw :=
  ask fun pid k => k.files.pathOf (k.task pid).cwd

/-! ## Processes, signals and time -/

/-- Sends a signal. -/
def send (target : Int) (signal : Nat) : Act (Option Errno) :=
  tryChange fun pid k => k.send pid target signal

/-- Ends the process by a signal. -/
def die {α : Type} (signal : Nat) : Act α := finish (.signal signal)

/-- What a process does about a signal. -/
inductive Choice where
  | usual
  | ignore
  | take
  deriving DecidableEq

/-- Chooses about a signal. -/
def choose (signal : Nat) (choice : Choice) : Act Unit :=
  change fun pid k => k.onTask pid fun t =>
    let others (l : List Nat) : List Nat := l.filter (· != signal)
    if SignalNumber.fixed signal then t
    else { t with
      ignored := if choice = .ignore then signal :: others t.ignored else others t.ignored
      caught := if choice = .take then signal :: others t.caught else others t.caught
      arrived := if choice = .take then t.arrived else others t.arrived }

/-- A caught signal that has arrived, taken. -/
def takeSignal : Act (Option Nat) :=
  attempt fun pid k =>
    match (k.task pid).arrived with
    | [] => .done k none
    | signal :: rest => .done (k.onTask pid fun t => { t with arrived := rest }) (some signal)

/-- What comes of waiting for a child. -/
inductive Waited where
  | ended (pid : Pid) (how : Ended)
  /-- There is no such child. -/
  | nobody
  /-- None has ended yet, and that was not to be waited for. -/
  | none
  | signal

/-- Waits for a child: the one with a number, or any.  `patient` says that the end is waited for, and `deaf` that
caught signals do not matter. -/
def waitChild (which : Option Pid) (patient deaf : Bool) : Act Waited :=
  attempt fun pid k =>
    let children := k.tasks.filter fun t => t.parent = pid && (which = Option.none || which = some t.pid)
    match children.find? fun t => t.ended.isSome with
    | some t => .done { k with tasks := k.tasks.filter fun o => o.pid != t.pid } (.ended t.pid (t.ended.getD (.code 0)))
    | Option.none =>
      if children.isEmpty then .done k .nobody
      else if !deaf && !(k.task pid).arrived.isEmpty then .done k .signal
      else if patient then .wait Option.none
      else .done k .none

/-- Waits until an instant; true if a caught signal came before it. -/
def sleepUntil (instant : Instant) : Act Bool :=
  attempt fun pid k =>
    if k.now ≥ instant then .done k false
    else if !(k.task pid).arrived.isEmpty then .done k true
    else .wait (some instant)

/-- Waits so many microseconds; true if a caught signal came first. -/
def sleep (micros : Nat) : Act Bool := do
  sleepUntil ((← now) + micros)

/-- Waits for ever, or until a caught signal arrives. -/
def pause : Act Unit :=
  attempt fun pid k => if (k.task pid).arrived.isEmpty then .wait none else .done k ()

end Act
end RunMeter.Machine
