import RunMeter.Machine.Shell.Expansion
import RunMeter.Machine.Shell.Jobs
import RunMeter.Machine.Shell.Signals

/-!
# RunMeter.Machine.Shell.Copies — scripts, and shells that are copies of others

A part of a script in parentheses, a side of a pipe, a substitution and a command in the background run in copies
of the shell: processes of their own with the same variables, without its traps and its jobs.

* `script`: runs a text.
* `toEnd`: runs something to the end of a shell.
* `copy`: starts a copy of the shell.
* `substitution`: how the scripts inside of words are run.

Nothing that is proved depends on this module.
-/

namespace RunMeter.Machine.Shell

/-- Runs a statement; `last` says that the shell has nothing to do after it. -/
abbrev Runner := (last : Bool) → Statement → Sh Unit

namespace Copies

open Sh

/-- How many signals are taken at one point. -/
def signalBound : Nat := 100

/-- How the extended dialect starts what it says of a line of a script. -/
def label (n : Nat) : Sh Raw := do
  let p ← shell
  let place := match p.within with
    | some own => own ++ [':', ' ']
    | none => if p.scripted then "-c: ".toList else []
  return p.name ++ ':' :: ' ' :: place ++ "line ".toList ++ Raw.ofNat n ++ [':', ' ']

/-- Shows a mistake in a script of the extended dialect. -/
def refuseExtended {α : Type} (line : Nat) (text : Raw) (e : SyntaxError) : Sh α := do
  let tell (n : Nat) (message : Raw) : Sh Unit := do warn ((← label n) ++ message ++ ['\n'])
  let quote : Sh Unit := tell e.line ('`' :: (Raw.lines text).getD (e.line - line) [] ++ ['\''])
  for (n, message) in e.said do tell n message
  match e.stop with
  | .unclosed c => tell e.line (Raw.ofText "unexpected EOF while looking for matching `" ++ [c, '\''])
  | .atEnd => tell (line + (Raw.lines text).length) (Raw.ofText "syntax error: unexpected end of file")
  | .token near =>
    tell e.line (Raw.ofText "syntax error near unexpected token `" ++ near ++ ['\''])
    quote
  | .inside near =>
    tell e.line (Raw.ofText "syntax error near `" ++ near ++ ['\''])
    quote
  | .shown => pure ()
  throw (.fault 2)

/-- Shows a mistake in a script, whose first line has a number, and gives up. -/
def refuse {α : Type} (line : Nat) (text : Raw) (e : SyntaxError) : Sh α := do
  update fun p => { p with line := e.line }
  if ← extended then refuseExtended line text e
  else fatal (Raw.ofText ("Syntax error: " ++ e.message)) 2

/-- The names that stand for other words in a script. -/
def aliasesInUse : Sh (List (Raw × Raw)) := do
  let p ← shell
  return if p.dialect = .plain || p.switches.contains "expand_aliases" then p.aliases else []

/-- The line after the last of some tokens. -/
def lineAfter (tokens : List Token) : Nat :=
  match tokens.getLast? with
  | some (.operator line "\n") => line + 1
  | some token => token.line
  | none => 1

/-- Whether only ends of line are left. -/
def isOver (tokens : List Token) : Bool :=
  tokens.all fun
    | .operator _ "\n" => true
    | _ => false

/-- How scripts are cut now. -/
def rules : Sh Rules := do
  return ⟨(← shell).dialect, ← Expansion.allowsGroups⟩

/-- Says of here-documents that they end with the script, which only the extended dialect does. -/
def tellShort (short : List Token.CutShort) : Sh Unit := do
  if ← extended then
    for s in short do
      warn ((← shell).name ++ Raw.ofText ": line " ++ Raw.ofNat s.line ++
        Raw.ofText ": warning: here-document at line " ++ Raw.ofNat s.start ++
        Raw.ofText " delimited by end-of-file (wanted `" ++ s.delimiter ++ Raw.ofText "')\n")

/-- Runs the commands that the tokens of a script make, one complete command after another.  `text` is the script
from the line with a number on.  Its rest is cut again where a command changes how scripts are cut. -/
def commands (run : Runner) (takesPlace : Bool) (line : Nat) (text : Raw) :
    (fuel : Nat) → Rules → List Token.CutShort → List Token → Sh Unit
  | 0, _, _, _ => pure ()
  | fuel + 1, before, short, tokens => do
    let now ← rules
    let (tokens, short) := match tokens with
      | first :: _ =>
        if now.groups = before.groups || text.isEmpty then (tokens, short)
        else
          let rest := ((Raw.linesWithEnds text).drop (first.line - line)).flatten
          let cut := Token.ofScript now first.line rest
          (cut.tokens.toList, cut.short)
      | [] => (tokens, short)
    match Reader.next.run ⟨tokens, now, lineAfter tokens, ← aliasesInUse⟩ with
    | .error e => refuse line text e
    | .ok (none, _) => pure ()
    | .ok (some statement, r) =>
      let isLast := isOver r.tokens
      if isLast then tellShort short
      let own := (← shell).within
      if now.dialect = .extended then update fun p => { p with within := none }
      run (takesPlace && isLast) statement
      if now.dialect = .extended then update fun p => { p with within := own }
      commands run takesPlace line text fuel now (if isLast then [] else short) r.tokens

/-- Runs a script whose first line has a number. -/
def scriptAt (run : Runner) (takesPlace : Bool) (line : Nat) (text : Raw) : Sh Unit := do
  let now ← rules
  let cut := Token.ofScript now line text
  commands run takesPlace line text (cut.tokens.size + text.length + 1) now cut.short cut.tokens.toList

/-- Runs a script. -/
def script (run : Runner) (text : Raw) : Sh Unit :=
  scriptAt run false 1 text

/-- The exit code of a way out of a shell. -/
def codeOf : Escape → Sh Nat
  | .exit code | .fault code | .back code => return code
  | .leave _ | .resume _ => do return (← shell).status

/-- Does what the trap for the end of the shell says.  Gives the exit code. -/
def farewell (run : Runner) (code : Nat) : Sh Nat := do
  match (← shell).traps.find? fun t => t.1 = 0 with
  | some (_, action@(_ :: _)) =>
    update fun p => { p with
      traps := p.traps.filter fun t => t.1 != 0, status := code % 256, before := some (code % 256) }
    tryCatch (do
      script run action
      return code) codeOf
  | _ => return code

/-- Takes the signals that have arrived: a trap says what is done. -/
def takeSignals (run : Runner) : (fuel : Nat) → Sh Unit
  | 0 => pure ()
  | fuel + 1 => do
    match ← act Act.takeSignal with
    | none => pure ()
    | some signal =>
      let p ← shell
      match p.traps.find? fun t => t.1 = signal with
      | some (_, action) =>
        if p.dialect = .plain then update fun p => { p with before := some p.status }
        script run action
        update fun q => { q with status := p.status, before := p.before }
      | none =>
        if p.dialect = .extended then
          let _ ← farewell run (128 + signal)
          finish (.signal signal)
      takeSignals run fuel

/-- Runs something to the end of the process that it is. -/
def toEnd (run : Runner) (body : Sh Unit) : Sh Ended := do
  let code ← tryCatch (do
    body
    takeSignals run signalBound
    return (← shell).status) codeOf
  return .ofStatus (← farewell run code)

/-- Makes the shell a copy of what it was: without traps other than those that do nothing, and without its jobs,
which the copy can at most tell of, if it `sees` them. -/
def becomeCopy (sees : Bool) : Sh Unit := do
  let p ← shell
  update fun p => { p with
    jobs := if sees && p.dialect = .extended then p.jobs.map fun j => { j with standing := .inherited } else []
    copies := p.copies + 1
    before := none
    streams := []
    occasions := if p.switches.contains "errtrace" then p.occasions else []
    traps := p.traps.filter fun t => t.2.isEmpty }
  if p.dialect = .extended && p.traps.any (fun t => t.1 = 0) then Signals.settleAll
  else for t in p.traps do
    if !t.2.isEmpty then Signals.settle t.1

/-- Puts the shell in the background: interrupts do nothing to it, and if it is the first of its job there is
nothing to read. -/
def goBack (first : Bool) : Sh Unit := do
  for signal in [SignalNumber.interrupt, SignalNumber.quit] do
    act (Act.choose signal .ignore)
    if !(← extended) then update fun p => { p with ignored := signal :: p.ignored }
  if first then
    act (Act.close 0)
    let _ ← act (Act.attempt fun pid k => k.openPath pid "/dev/null".toList .reading 0 0 false)

/-- Starts a copy of the shell that does something. -/
def copy (run : Runner) (sees : Bool) (body : Sh Unit) : Sh Pid :=
  Sh.fork do
    becomeCopy sees
    toEnd run body

/-- Runs a script in a copy of the shell, and gives what it writes. -/
def output (run : Runner) (line : Nat) (text : Raw) : Sh Raw := do
  let (source, sink) ← act Act.pipe
  let before := (← shell).status
  let pid ← copy run true do
    act (Act.close source)
    moveFd sink 1
    scriptAt run true line text
  act (Act.close sink)
  let read ← act (Act.readAll source)
  act (Act.close source)
  Jobs.conclude [pid] []
  update fun p => { p with
    substitution := some p.status
    status := if p.dialect = .plain then before else p.status }
  return (read.toOption.getD []).filter (· != '\x00')

/-- The greatest descriptor for the shell's ends of streams. -/
def streamFd : Nat := 63

/-- Runs a script beside the shell, and gives a path that leads to what it writes or to what it reads. -/
def stream (run : Runner) (reads : Bool) (text : Raw) : Sh Raw := do
  let (source, sink) ← act Act.pipe
  let (own, other) := if reads then (source, sink) else (sink, source)
  let _ ← copy run false do
    act (Act.close own)
    moveFd other (if reads then 1 else 0)
    scriptAt run true 1 text
  act (Act.close other)
  let used := (← act Act.task).fds.map Prod.fst
  let fd := (((List.range 40).map (streamFd - ·)).find? fun n => !used.contains n).getD own
  moveFd own fd
  update fun p => { p with streams := fd :: p.streams }
  return "/dev/fd/".toList ++ Raw.ofNat fd

/-- How the scripts inside of words are run. -/
def substitution (run : Runner) : Substitution := ⟨output run, stream run⟩

/-- Closes the shell's ends of streams, other than those that were there before. -/
def closeStreams (before : List Nat) : Sh Unit := do
  for fd in (← shell).streams do
    if !before.contains fd then act (Act.close fd)
  update fun p => { p with streams := before }

end Copies
end RunMeter.Machine.Shell
