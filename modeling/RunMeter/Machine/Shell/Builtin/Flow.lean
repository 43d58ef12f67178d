import RunMeter.Machine.Shell.Builtin.Basic
import RunMeter.Machine.Utility.Condition
import RunMeter.Machine.Utility.Printing

/-!
# RunMeter.Machine.Shell.Builtin.Flow — where a script goes on, and what it says

Commands that leave loops, functions and the shell, that decide conditions, and that write words.

Nothing that is proved depends on this module.
-/

namespace RunMeter.Machine.Shell.Builtin

open Sh

/-- Does nothing. -/
def colon : Command := fun _ => setStatus 0

/-- Succeeds. -/
def yes : Command := fun _ => setStatus 0

/-- Fails. -/
def no : Command := fun _ => setStatus 1

/-- Writes words. -/
def echo : Command := fun args => do
  put (Printing.echo (if ← extended then .extended else .plain) args)

/-- Writes a format in the plain dialect. -/
def plainPrintf (args : List Raw) : Sh Unit := do
  let (_, args) ← optionsOf "" args
  match args with
  | [] => wrong (Raw.ofText "usage: printf format [arg ...]")
  | format :: args =>
    let w := Printing.printf .plain format args
    for message in w.complaints do complain message
    put w.output
    if w.status != 0 then setStatus w.status

/-- Writes a format in the extended dialect, perhaps into a variable. -/
def extendedPrintf (args : List Raw) : Sh Unit := do
  let (chosen, args) ← optionsOf "v:" args
  match args with
  | [] =>
    warn (Raw.ofText "printf: usage: printf [-v var] format [arguments]\n")
    setStatus 2
  | format :: args =>
    let w := Printing.printf .extended format args
    for message in w.complaints do complain message
    match valueOf? chosen 'v' with
    | some name =>
      assign name w.output
      setStatus 0
    | none => put w.output
    if w.status != 0 then setStatus w.status

/-- Writes a format. -/
def printf : Command := fun args => do
  if ← extended then extendedPrintf args else plainPrintf args

/-- Decides a condition; `bracketed` says that it is called by the bracket. -/
def test (bracketed : Bool) : Command := fun args => do
  let p ← shell
  let kind : Condition.Kind := if p.dialect = .extended then .extended else .plain
  let isSet (name : Raw) : Bool := p.bindings.any fun e => e.1 == name && e.2.value.isSome
  let isOn (name : Raw) : Bool := p.switches.contains (Raw.text name)
  let verdict ← act (Act.ask fun pid k => Condition.ofWords ⟨kind, k, pid, isSet, isOn⟩ bracketed args)
  match verdict with
  | .ok v => setStatus (if v then 0 else 1)
  | .error fault => failed (fault.message kind) 2

/-- Ends the shell.  In the action of a trap the usual status is that of the command before it. -/
def exit : Command := fun args => do
  match args with
  | [] => throw (.exit ((← shell).before.getD (← shell).status))
  | [w] =>
    if (← extended) && (Raw.integer? w).isNone then
      complain (w ++ Raw.ofText ": numeric argument required")
      throw (.exit 2)
    throw (.exit ((← number w) % 256))
  | w :: _ =>
    if ← extended then
      complain (Raw.ofText "too many arguments")
      throw (.exit 1)
    throw (.exit ((← number w) % 256))

/-- Goes back from a function or a script. -/
def back : Command := fun args => do
  let p ← shell
  if p.dialect = .extended && p.calls.isEmpty && p.sourced = 0 then
    failed (Raw.ofText "can only `return' from a function or sourced script") 2
  else match args with
    | [] => throw (.back p.status)
    | w :: _ => throw (.back ((← number w) % (if p.dialect = .extended then 256 else 4294967296)))

/-- How many loops the words of a command mean, no more than there are. -/
def loopsLeft (args : List Raw) : Sh Nat := do
  let n ← match args with
    | [] => pure 1
    | w :: _ => number w
  let loops := (← shell).loops
  if ← extended then
    if loops = 0 then complain (Raw.ofText "only meaningful in a `for', `while', or `until' loop")
    else if n = 0 || n > 9223372036854775807 then
      complain (args.headD [] ++ Raw.ofText ": loop count out of range")
      return loops
  else if n = 0 then wrong (Raw.ofText "Illegal number: " ++ args.headD [])
  return min n loops

/-- Leaves loops. -/
def leave : Command := fun args => do
  let levels ← loopsLeft args
  if levels = 0 then setStatus 0 else throw (.leave levels)

/-- Goes on with a loop. -/
def resume : Command := fun args => do
  let levels ← loopsLeft args
  if levels = 0 then setStatus 0 else throw (.resume levels)

/-- Drops words of the shell. -/
def shift : Command := fun args => do
  let n ← match args with
    | [] => pure 1
    | w :: _ => number w
  if n > (← shell).words.length then
    if ← extended then setStatus 1 else wrong (Raw.ofText "can't shift that many")
  else
    update fun p => { p with words := p.words.drop n }
    setStatus 0

end RunMeter.Machine.Shell.Builtin
