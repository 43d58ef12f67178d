import RunMeter.Machine.Program

/-!
# RunMeter.Machine.Scheduler — the processes of the machine in turn

The processes that are at work stand in a row.  The first goes on until it has to wait or its turn is over, and
then stands last.  A new process stands last as well, so its parent goes on before it.  When all of them wait,
time goes on to the first instant that one of them waits for.

Every step takes a little time, so that a process that never waits does not keep time from going on.

Nothing that is proved depends on this module.
-/

namespace RunMeter.Machine

/-- The processes in turn, and the kernel. -/
structure Schedule where
  kernel : Kernel
  row : List (Pid × Program)

namespace Schedule

/-- How many microseconds a step takes. -/
def stepTime : Nat := 2

/-- How many microseconds pass before a new process does its first step. -/
def startTime : Nat := 150

/-- How many steps a turn has. -/
def turnLength : Nat := 50

/-- How a process's turn ended. -/
inductive TurnEnd where
  /-- It is not there any more. -/
  | gone
  /-- It goes on later. -/
  | later (program : Program)
  /-- It waits: nothing can be done for it before something changes or an instant comes. -/
  | waits (program : Program) (instant : Option Instant)

/-- A turn of a process: the kernel after it, the processes that it started, whether it has done anything, and how
the turn ended. -/
structure Turn where
  kernel : Kernel
  started : List (Pid × Program)
  moved : Bool
  ending : TurnEnd

/-- What a new process gets of its parent. -/
def copied (k : Kernel) (parent : Pid) : Kernel × Pid :=
  let pid := k.nextPid
  let t := k.task parent
  let child : Task :=
    { t with pid := pid, parent := parent, arrived := [], doom := none, stopped := false, ended := none }
  ({ k with tasks := k.tasks ++ [child], nextPid := pid + 1 }, pid)

/-- A program that starts after a while. -/
def delayed (instant : Instant) (p : Program) : Program :=
  .attempt fun _ k => if k.now ≥ instant then .done k p else .wait (some instant)

/-- Lets a process take so many steps. -/
def turn (pid : Pid) : (steps : Nat) → (k : Kernel) → (started : List (Pid × Program)) → (moved : Bool) →
    Program → Turn
  | 0, k, started, moved, p => ⟨k, started, moved, .later p⟩
  | steps + 1, k, started, moved, p =>
    let t := k.task pid
    match t.doom with
    | some signal =>
      if t.stopped && signal != SignalNumber.kill then ⟨k, started, moved, .waits p none⟩
      else ⟨k.bury pid (.signal signal), started, true, .gone⟩
    | none =>
      if t.stopped then ⟨k, started, moved, .waits p none⟩
      else match p with
        | .ended how => ⟨k.bury pid how, started, true, .gone⟩
        | .fork child next =>
          let k := { k with now := k.now + stepTime }
          let (k, made) := copied k pid
          turn pid steps k (started ++ [(made, delayed (k.now + startTime) child)]) true (next made)
        | .attempt f =>
          match f pid k with
          | .done k p => turn pid steps { k with now := k.now + stepTime } started true p
          | .wait instant => ⟨k, started, moved, .waits p instant⟩

/-- The earlier of two instants. -/
def earlier : Option Instant → Option Instant → Option Instant
  | none, b => b
  | a, none => a
  | some a, some b => some (min a b)

/-- Lets the processes take turns.  `idle` counts those that waited since something changed, and `nearest` is the
first instant that one of them waits for.  Ends when a test holds, or when nothing can go on any more. -/
def proceed (finished : Kernel → Bool) : (fuel : Nat) → (idle : Nat) → (nearest : Option Instant) → Schedule → Schedule
  | 0, _, _, s => s
  | fuel + 1, idle, nearest, s =>
    if finished s.kernel then s
    else if idle ≥ s.row.length then
      match nearest with
      | none => s
      | some instant =>
        proceed finished fuel 0 none ⟨{ s.kernel with now := max instant s.kernel.now }, s.row⟩
    else match s.row with
      | [] => s
      | (pid, p) :: rest =>
        let t := turn pid turnLength s.kernel [] false p
        match t.ending with
        | .gone => proceed finished fuel 0 none ⟨t.kernel, rest ++ t.started⟩
        | .later p => proceed finished fuel 0 none ⟨t.kernel, rest ++ (pid, p) :: t.started⟩
        | .waits p instant =>
          let row := rest ++ (pid, p) :: t.started
          if t.moved then proceed finished fuel 0 none ⟨t.kernel, row⟩
          else proceed finished fuel (idle + 1) (earlier nearest instant) ⟨t.kernel, row⟩

/-- How many turns are taken at most. -/
def turnBound : Nat := 20000000

/-- Lets the processes take turns until a test holds or nothing can go on. -/
def run (finished : Kernel → Bool) (s : Schedule) : Schedule :=
  proceed finished turnBound 0 none s

end Schedule
end RunMeter.Machine
