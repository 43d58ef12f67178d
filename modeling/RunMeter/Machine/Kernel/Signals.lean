import RunMeter.Machine.Kernel
import RunMeter.System.Signal

/-!
# RunMeter.Machine.Kernel.Signals — signals, and the ends of processes

A signal does to a process what the process has chosen, or else what is usual for the signal: nothing, a stop,
or its end.  Two signals can not be chosen about.

* `send`: a signal to a process, a group or all.
* `bury`: what is left when a process has ended.

Nothing that is proved depends on this module.
-/

namespace RunMeter.Machine

namespace SignalNumber

def interrupt : Nat := 2
def arithmetic : Nat := 8
def kill : Nat := 9
def brokenPipe : Nat := 13
def alarm : Nat := 14
def terminate : Nat := 15
def child : Nat := 17
def goOn : Nat := 18
def stop : Nat := 19
def hangUp : Nat := 1
def quit : Nat := 3
def abort : Nat := 6

/-- The greatest number of a signal. -/
def greatest : Nat := 64

/-- The first of the signals for programs' own uses. -/
def firstOwn : Nat := 34

/-- Signals that usually do nothing.  The machine has no terminal that could stop a process. -/
def harmless (signal : Nat) : Bool :=
  [0, 17, 18, 20, 21, 22, 23, 28].contains signal

/-- Signals that no process can choose about. -/
def fixed (signal : Nat) : Bool :=
  signal = kill || signal = stop

/-- The name of a signal without its common start.  The signals for programs' own uses are counted from the
first or from the last of them. -/
def name? (n : Nat) : Option String :=
  if n = 0 then none
  else if n = firstOwn then some "RTMIN"
  else if n = greatest then some "RTMAX"
  else if firstOwn < n && n < 50 then some ("RTMIN+" ++ toString (n - firstOwn))
  else if 50 ≤ n && n < greatest then some ("RTMAX-" ++ toString (greatest - n))
  else Signal.stems[n - 1]?

/-- The signal that a name in capital letters, without its common start, stands for. -/
def named? (name : String) : Option Nat :=
  match name with
  | "POLL" => some 29
  | "IOT" => some abort
  | "CLD" => some child
  | _ => (List.range (greatest + 1)).find? fun n => name? n == some name

/-- What is told of a program that a signal ended, by the system's own table. -/
def describe (n : Nat) : String :=
  let texts :=
    [(1, "Hangup"), (2, "Interrupt"), (3, "Quit"), (4, "Illegal instruction"), (5, "Trace/breakpoint trap"),
     (6, "Aborted"), (7, "Bus error"), (8, "Floating point exception"), (9, "Killed"),
     (10, "User defined signal 1"), (11, "Segmentation fault"), (12, "User defined signal 2"),
     (13, "Broken pipe"), (14, "Alarm clock"), (15, "Terminated"), (16, "Stack fault"), (17, "Child exited"),
     (18, "Continued"), (19, "Stopped (signal)"), (20, "Stopped"), (21, "Stopped (tty input)"),
     (22, "Stopped (tty output)"), (23, "Urgent I/O condition"), (24, "CPU time limit exceeded"),
     (25, "File size limit exceeded"), (26, "Virtual timer expired"), (27, "Profiling timer expired"),
     (28, "Window changed"), (29, "I/O possible"), (30, "Power failure"), (31, "Bad system call")]
  match texts.find? fun t => t.1 = n with
  | some t => t.2
  | none =>
    if firstOwn ≤ n && n ≤ greatest then "Real-time signal " ++ toString (n - firstOwn)
    else "Unknown signal " ++ toString n

end SignalNumber

namespace Kernel

/-- Signals that the runner does not mind, besides those that usually do nothing. -/
def runnerIgnores (signal : Nat) : Bool :=
  SignalNumber.harmless signal || signal = SignalNumber.brokenPipe || signal = SignalNumber.stop

/-- A signal to the runner: it notices interrupts while it waits, and others end it. -/
def signalRunner (k : Kernel) (signal : Nat) : Kernel :=
  if k.runner.ending.isSome then k
  else if signal = SignalNumber.interrupt then
    if k.runner.childEnd.isSome then k else { k with moments := .interrupt :: k.moments }
  else if runnerIgnores signal then k
  else { k with runner := { k.runner with ending := some signal } }

/-- What a signal does to a process. -/
def struck (t : Task) (signal : Nat) : Task :=
  if t.ended.isSome || signal = 0 then t
  else if signal = SignalNumber.kill then { t with doom := some signal }
  else if signal = SignalNumber.stop then { t with stopped := true }
  else
    let t := if signal = SignalNumber.goOn then { t with stopped := false } else t
    if t.ignored.contains signal then t
    else if t.caught.contains signal then
      if signal < SignalNumber.firstOwn && t.arrived.contains signal then t
      else { t with arrived := t.arrived ++ [signal] }
    else if SignalNumber.harmless signal || t.doom.isSome then t
    else { t with doom := some signal }

/-- A signal to one process. -/
def strike (k : Kernel) (pid : Pid) (signal : Nat) : Kernel :=
  if pid = k.runner.pid then k.signalRunner signal else k.onTask pid fun t => struck t signal

/-- A signal from a process: to the process of a positive number, to its own group for 0, to all others for -1,
and to a group for any other negative number. -/
def send (k : Kernel) (own : Pid) (target : Int) (signal : Nat) : Except Errno Kernel :=
  let toAll (test : Task → Bool) : Except Errno Kernel :=
    let chosen := (k.tasks.filter test).map Task.pid
    if chosen.isEmpty then .error .noProcess else .ok (chosen.foldl (fun k pid => k.strike pid signal) k)
  if signal > SignalNumber.greatest then .error .invalid
  else if target > 0 then
    let pid := target.toNat
    if pid = k.runner.pid then .ok (k.signalRunner signal)
    else if pid = firstPid then .error .notPermitted
    else if (k.task? pid).isSome then .ok (k.strike pid signal) else .error .noProcess
  else if target = 0 then toAll fun t => t.group = (k.task own).group
  else if target = -1 then toAll fun t => t.pid != own
  else toAll fun t => (t.group : Int) = -target

/-- What is left when a process has ended: its children belong to the first process, and its parent can ask how
it ended, unless the parent does not care for that. -/
def bury (k : Kernel) (pid : Pid) (how : Ended) : Kernel :=
  let t := k.task pid
  let tasks := (k.tasks.filter fun c => !(c.parent = pid && c.ended.isSome)).map fun c =>
    if c.parent = pid then { c with parent := firstPid } else c
  if pid = k.runner.child then
    { k with tasks := tasks.filter fun c => c.pid != pid, runner := { k.runner with childEnd := some (k.now, how) } }
  else
    let keeps := match k.task? t.parent with
      | some p => p.ended.isNone && !p.ignored.contains SignalNumber.child
      | none => false
    let left := if keeps then
        tasks.map fun c => if c.pid = pid then { c with ended := some how, fds := [], arrived := [], doom := none } else c
      else tasks.filter fun c => c.pid != pid
    ({ k with tasks := left }).strike t.parent SignalNumber.child

end Kernel
end RunMeter.Machine
