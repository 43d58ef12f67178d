import RunMeter.Machine.Shell.Evaluation
import RunMeter.Machine.Shell.Source

/-!
# RunMeter.Machine.Shell.Start — a shell from its start to its end

The words of a shell hold its switches and say where its script is: in the next word, in a file, or on standard
input.

Nothing that is proved depends on this module.
-/

namespace RunMeter.Machine.Shell.Start

open Sh

/-- Variables that a shell has of its own, unless they are given. -/
def ownVariables (d : Dialect) (parent : Pid) : List (String × Raw) :=
  match d with
  | .plain =>
    [("OPTIND", ['1']), ("IFS", [' ', '\t', '\n']), ("PPID", Raw.ofNat parent), ("PS1", ['$', ' ']),
     ("PS2", ['>', ' ']), ("PS4", ['+', ' ']), ("PATH",
     "/usr/local/sbin:/usr/local/bin:/usr/sbin:/usr/bin:/sbin:/bin".toList)]
  | .extended =>
    [("OPTIND", ['1']), ("OPTERR", ['1']), ("IFS", [' ', '\t', '\n']), ("PPID", Raw.ofNat parent), ("PS4", ['+', ' ']),
     ("PATH", "/usr/local/sbin:/usr/local/bin:/usr/sbin:/usr/bin:/sbin:/bin".toList), ("HOSTNAME", "localhost".toList),
     ("SHELL", "/bin/sh".toList), ("TERM", "dumb".toList)]

/-- Variables that are never given. -/
def neverGiven (d : Dialect) : List String :=
  match d with
  | .plain => ["PWD", "IFS", "OPTIND", "PPID"]
  | .extended => ["PWD", "IFS", "OPTIND", "PPID", "SHLVL", "_"]

/-- An exported variable. -/
def given (value : Raw) : Variable := { Variable.unset with value := some (.text value), exported := true }

/-- The variables of a new shell. -/
def bindings (d : Dialect) (env : List (Raw × Raw)) (place : Raw) (parent : Pid) : List (Raw × Variable) :=
  let known :=
    (env.filter fun v => Raw.isName v.1 && !(neverGiven d).contains (Raw.text v.1)).map fun v => (v.1, given v.2)
  let directory := ("PWD".toList, given place)
  let level := (((env.find? fun v => v.1 == "SHLVL".toList).bind fun v => Raw.natural? v.2).getD 0) + 1
  let deeper := if d = .extended then [("SHLVL".toList, given (Raw.ofNat level))] else []
  let missing := (ownVariables d parent).filter fun v => !known.any fun k => k.1 == v.1.toList
  known ++ directory :: deeper ++ missing.map fun v =>
    (v.1.toList, { Variable.unset with value := some (.text v.2) })

/-- The switches that are on in a new shell. -/
def firstSwitches (d : Dialect) : List String :=
  match d with
  | .plain => []
  | .extended => ["hashall", "braceexpand", "interactive-comments", "checkwinsize", "cmdhist", "sourcepath"]

/-- The working directory as the variable for it says, if that is true. -/
def placeOf (k : Kernel) (pid : Pid) (env : List (Raw × Raw)) : Raw :=
  let physical := k.files.pathOf (k.task pid).cwd
  match (env.find? fun v => v.1 == "PWD".toList).map Prod.snd with
  | some path@('/' :: _) =>
    match k.find pid path true with
    | .ok n => if n = (k.task pid).cwd then path else physical
    | .error _ => physical
  | _ => physical

/-- A new shell process. -/
def newProcess (d : Dialect) (c : Call) (k : Kernel) (pid : Pid) : Process :=
  let t := k.task pid
  let place := placeOf k pid c.env
  { dialect := d
    start := c.start
    shownPid := pid
    parent := t.parent
    bindings := bindings d c.env place t.parent
    name := c.name
    words := []
    functions := []
    aliases := []
    traps := []
    occasions := []
    status := 0
    lastJob := none
    jobs := []
    switches := firstSwitches d
    line := 0
    wordLine := 0
    within := none
    loops := 0
    calls := []
    sourced := 0
    copies := 0
    tested := false
    substitution := none
    locals := []
    ignored := t.ignored.filter (· != SignalNumber.child)
    optionPlace := 0
    pipeStatuses := [0]
    place := place
    directories := []
    born := k.now
    seed := pid + k.now
    scripted := false
    before := none
    streams := [] }

/-- Shows why a shell of the extended dialect can not go on, and ends it. -/
def hopeless {α : Type} (message : Raw) (code : Nat) : Sh α := do
  warn ((← shell).name ++ ':' :: ' ' :: message ++ ['\n'])
  throw (.exit code)

/-- A switch that the shell does not know. -/
def unknownSwitch {α : Type} (sign c : Char) : Sh α := do
  if ← extended then hopeless ([sign, c] ++ Raw.ofText ": invalid option") 2
  else fatal (Raw.ofText "Illegal option " ++ [sign, c]) 2

/-- Long switches of the extended dialect without effect here, and those with a value. -/
def longSwitches : List String :=
  ["--norc", "--noprofile", "--noediting", "--restricted", "--login", "--debugger"]

/-- Takes a shell's own switches from its words.  Gives the letters that say where the script is, and the words
after the switches. -/
def ownSwitches : (fuel : Nat) → (letters : Raw) → List Raw → Sh (Raw × List Raw)
  | 0, letters, ws => return (letters, ws)
  | _, letters, [] => return (letters, [])
  | fuel + 1, letters, w :: rest => do
    let isExtended ← extended
    match w with
    | ['-'] | ['-', '-'] => return (letters, rest)
    | '-' :: '-' :: _ =>
      if !isExtended then unknownSwitch '-' '-'
      else if longSwitches.contains (Raw.text w) then ownSwitches fuel letters rest
      else if w = "--rcfile".toList || w = "--init-file".toList then ownSwitches fuel letters (rest.drop 1)
      else if w = "--verbose".toList then
        Builtin.turn true "verbose"
        ownSwitches fuel letters rest
      else if w = "--posix".toList then
        Builtin.turn true "posix"
        ownSwitches fuel letters rest
      else hopeless (w ++ Raw.ofText ": invalid option") 2
    | sign :: cs@(_ :: _) => do
      if sign != '-' && sign != '+' then return (letters, w :: rest)
      let mut values := rest
      for c in cs do
        if c = 'o' then
          match values with
          | long :: more =>
            if !(← Builtin.turnName (sign == '-') long) then
              if isExtended then hopeless (long ++ Raw.ofText ": invalid option name") 2
              else fatal (Raw.ofText "Illegal option -o " ++ long) 2
            values := more
          | [] => pure ()
        else if c = 'O' && isExtended then
          Builtin.turn (sign == '-') (Raw.text (values.headD []))
          values := values.drop 1
        else if isExtended && (c = 'l' || c = 'r' || c = 'D' || c = 'i') then pure ()
        else if c = 's' then Builtin.turn (sign == '-') "stdin"
        else if c != 'c' && !(← Builtin.turnLetter (sign == '-') c) then unknownSwitch sign c
      ownSwitches fuel (letters ++ cs.filter fun c => c == 'c' || c == 's') values
    | _ => return (letters, w :: rest)

/-- Sets the number of the line at hand to the first. -/
def atFirstLine : Sh Unit := update fun p => { p with line := 1 }

/-- Runs the script on standard input. -/
def fromInput : Sh Unit := do
  atFirstLine
  Source.runAll Evaluation.run Source.commandBound ⟨[], 1, true⟩

/-- Runs the script in a text. -/
def fromText (text : Raw) : Sh Unit := do
  atFirstLine
  if ← isOn "verbose" then Source.runAll Evaluation.run Source.commandBound ⟨text, 1, false⟩
  else Copies.script Evaluation.run text

/-- Runs the script in a word.  The extended dialect gives the shell's place to its last command. -/
def fromWord (text : Raw) : Sh Unit := do
  update fun p => { p with scripted := true }
  atFirstLine
  Copies.scriptAt Evaluation.run (← extended) 1 text

/-- The path of a script for the extended dialect: in the working directory, or else in the search path. -/
def scriptPath (path : Raw) : Sh Raw := do
  if path.contains '/' || (← act (Act.isThere path)) then return path
  let searched ← Commands.directories
  let found ← act (Act.ask fun pid k => (searched.map fun d => Launch.join d path).find? fun p =>
    (k.find pid p true).toOption.isSome)
  return found.getD path

/-- Runs the script in a file. -/
def fromFile (path : Raw) (words : List Raw) : Sh Unit := do
  let isExtended ← extended
  let full ← if isExtended then scriptPath path else pure path
  match ← act (Act.openFile full .reading) with
  | .error e =>
    if isExtended then hopeless (path ++ Raw.ofText (": " ++ e.message)) (if e = .noEntry then 127 else 126)
    else fatal (← refusal "open" path e) 2
  | .ok fd =>
    let read ← act (Act.readAll fd)
    act (Act.close fd)
    update fun p => { p with name := if isExtended then full else path, words := words }
    match read with
    | .error e =>
      if isExtended then hopeless (path ++ Raw.ofText (": " ++ e.message)) 126
    | .ok text =>
      if isExtended && Launch.isBinary text then hopeless (path ++ Raw.ofText ": cannot execute binary file") 126
      else fromText text

/-- What a shell does from its start. -/
def main (args : List Raw) : Sh Unit := do
  act (Act.choose SignalNumber.child .usual)
  let (letters, words) ← ownSwitches (args.length + 1) [] args
  if letters.contains 'c' then
    match words with
    | [] =>
      if ← extended then hopeless (Raw.ofText "-c: option requires an argument") 2
      else fatal (Raw.ofText "-c requires an argument") 2
    | text :: rest =>
      update fun p => { p with name := rest.headD p.name, words := rest.tail }
      fromWord text
  else if letters.contains 's' then
    update fun p => { p with words := words }
    fromInput
  else match words with
    | path :: rest => fromFile path rest
    | [] => fromInput

/-- Runs a shell to its end. -/
def shell (d : Dialect) (c : Call) : Act Ended := fun next =>
  .attempt fun pid k =>
    .done k ((Copies.toEnd Evaluation.run (main c.args)) (newProcess d c k pid) fun (result, _) =>
      next (match result with
        | .ok how => how
        | .error _ => .code 2))

end RunMeter.Machine.Shell.Start
