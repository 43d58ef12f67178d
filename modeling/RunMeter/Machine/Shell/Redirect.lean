import RunMeter.Machine.Shell.Copies

/-!
# RunMeter.Machine.Shell.Redirect — descriptors for one command

Redirections are carried out in the shell before a command and taken back after it: what a descriptor led to is
put aside under a number that scripts do not use.

Nothing that is proved depends on this module.
-/

namespace RunMeter.Machine.Shell.Redirect

open Sh

/-- A descriptor, and where what it led to was put; nowhere if it was closed. -/
abbrev Saved := List (Nat × Option Nat)

/-- Puts aside what a descriptor leads to, unless that has been done. -/
def save (keep : Bool) (saved : Saved) (fd : Nat) : Sh Saved := do
  if !keep || saved.any fun s => s.1 = fd then return saved
  return (fd, ← putAside fd) :: saved

/-- Makes a descriptor lead where another one does, which is closed then. -/
def place (keep : Bool) (saved : Saved) (source fd : Nat) : Sh Saved := do
  if source = fd then return if keep && !(saved.any fun s => s.1 = fd) then (fd, none) :: saved else saved
  let saved ← save keep saved fd
  moveFd source fd
  return saved

/-- A descriptor from which a text can be read.  What a pipe has no room for is written beside the shell. -/
def supply (text : Raw) : Sh Nat := do
  let (source, sink) ← act Act.pipe
  if text.length ≤ Pipe.atomic then
    let _ ← act (Act.write sink text)
  else
    let _ ← act (Act.fork do
      Act.close source
      let _ ← Act.write sink text
      return .code 0)
  act (Act.close sink)
  return source

/-- The one path that the target of a redirection is, or what is wrong with it. -/
def path (sub : Substitution) (target : Raw) : Sh (Except Raw Raw) := do
  if ← extended then
    match ← Expansion.allFields sub [target] with
    | [p] => return .ok p
    | _ => return .error (target ++ Raw.ofText ": ambiguous redirect")
  else return .ok (← Expansion.single sub target)

/-- Makes a descriptor lead where another one leads, by its number or by a dash for closing. -/
def copyFd (keep : Bool) (saved : Saved) (fd : Nat) (target : Raw) : Sh (Except Raw Saved) := do
  if target = ['-'] then
    let saved ← save keep saved fd
    act (Act.close fd)
    return .ok saved
  else match Raw.natural? target with
    | some n =>
      if (← act (Act.channel? n)).isNone then return .error (target ++ Raw.ofText ": Bad file descriptor")
      else if n = fd then return .ok saved
      else
        let saved ← save keep saved fd
        let _ ← act (Act.duplicate n fd)
        return .ok saved
    | none =>
      if ← extended then return .error (target ++ Raw.ofText ": ambiguous redirect")
      else fatal (Raw.ofText "Syntax error: Bad fd number") 2

/-- Makes a descriptor lead to a file. -/
def toFile (keep : Bool) (saved : Saved) (fd : Nat) (direction : Direction) (file : Raw) : Sh (Except Raw Saved) := do
  match ← openFile direction file with
  | .error message => return .error message
  | .ok opened =>
    let saved ← place keep saved opened fd
    if direction = .writeBoth || direction = .appendBoth then
      let saved ← save keep saved 2
      let _ ← act (Act.duplicate fd 2)
      return .ok saved
    else return .ok saved

/-- Carries out one redirection. -/
def one (sub : Substitution) (keep : Bool) (saved : Saved) (r : Redirection) : Sh (Except Raw Saved) := do
  match r.direction with
  | .here quoted =>
    let text ← if quoted then pure r.target else Expansion.document sub r.target
    return .ok (← place keep saved (← supply text) r.fd)
  | .hereWord => return .ok (← place keep saved (← supply ((← Expansion.single sub r.target) ++ ['\n'])) r.fd)
  | .copyIn => copyFd keep saved r.fd (← Expansion.single sub r.target)
  | .copyOut =>
    let target ← Expansion.single sub r.target
    let isNumber := target = ['-'] || (Raw.natural? target).isSome
    if (← extended) && !isNumber && r.fd = 1 then toFile keep saved 1 .writeBoth target
    else copyFd keep saved r.fd target
  | direction =>
    match ← path sub r.target with
    | .error message => return .error message
    | .ok file => toFile keep saved r.fd direction file

/-- Carries out redirections in order, up to the first that fails.  Gives what was put aside, and the message if
one fails. -/
def all (sub : Substitution) (keep : Bool) : Saved → List Redirection → Sh (Saved × Option Raw)
  | saved, [] => return (saved, none)
  | saved, r :: rest => do
    match ← one sub keep saved r with
    | .ok saved => all sub keep saved rest
    | .error message => return (saved, some message)

/-- Takes redirections back. -/
def restore : Saved → Sh Unit
  | [] => pure ()
  | (fd, kept) :: rest => do
    putBack fd kept
    restore rest

/-- The status that a command has whose redirections fail. -/
def failedStatus : Sh Nat := do
  return if ← extended then 1 else 2

/-- Does something with redirections; tells what else is to be done if one fails. -/
def during (sub : Substitution) (rs : List Redirection) (failed : Raw → Sh Unit) (body : Saved → Sh Unit) : Sh Unit := do
  if rs.isEmpty then body []
  else
    let (saved, message) ← all sub true [] rs
    always (match message with
      | some message => failed message
      | none => body saved) (restore saved)

/-- Shows why a redirection fails; the status says so. -/
def failed (message : Raw) : Sh Unit := do
  complain message
  setStatus (← failedStatus)

end RunMeter.Machine.Shell.Redirect
