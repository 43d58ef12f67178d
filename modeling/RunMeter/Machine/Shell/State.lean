import RunMeter.Machine.Shell.Script
import RunMeter.Machine.Utility.Call

/-!
# RunMeter.Machine.Shell.State — a shell process

A shell holds variables, functions, words, traps and switches; what it shares with others is with the kernel.
An action of a shell changes it, does what programs do, and may escape: out of a loop or a function, or out of
the shell altogether.

Nothing that is proved depends on this module.
-/

namespace RunMeter.Machine.Shell

/-- The value of a variable.  Only the extended dialect has lists. -/
inductive Value where
  | text (r : Raw)
  /-- Values by number, in order. -/
  | list (items : List (Nat × Raw))
  /-- Values by key. -/
  | map (items : List (Raw × Raw))

/-- A variable of a shell. -/
structure Variable where
  value : Option Value
  exported : Bool
  fixed : Bool
  /-- Whether what is assigned is computed first. -/
  integer : Bool
  /-- Whether what is assigned is put in small letters, or in capital ones. -/
  lower : Bool
  upper : Bool

namespace Variable

/-- A variable without a value. -/
def unset : Variable := ⟨none, false, false, false, false, false⟩

end Variable

/-- How a shell stands to one of its jobs. -/
inductive Standing where
  /-- Its end is still to be told. -/
  | pending
  /-- Its end was told or waited for, so that only its process number still means it. -/
  | told
  /-- The shell that this one is a copy of started it. -/
  | inherited
  deriving DecidableEq, Repr

/-- The processes of a pipe that was left to run in the background, the last of them, how they ended, and the
text of the command. -/
structure Job where
  number : Nat
  members : List (Pid × Option Ended)
  text : Raw
  standing : Standing

namespace Job

/-- The process that a job is known by. -/
def leader (j : Job) : Pid := ((j.members.getLast?).map Prod.fst).getD 0

/-- How a job ended, once all of its processes have. -/
def ended (j : Job) : Option Ended :=
  if j.members.all fun m => m.2.isSome then (j.members.getLast?).bind Prod.snd else none

end Job

/-- A shell process. -/
structure Process where
  dialect : Dialect
  /-- How a program takes the shell's place. -/
  start : Image → List (Raw × Raw) → Act Ended
  /-- The process number that the shell tells for its own: that of the outermost shell. -/
  shownPid : Pid
  parent : Pid
  bindings : List (Raw × Variable)
  name : Raw
  words : List Raw
  functions : List (Raw × Statement)
  aliases : List (Raw × Raw)
  /-- What is done at a signal, or at the end for 0.  Nothing at all is done where the text is empty. -/
  traps : List (Nat × Raw)
  /-- What is done at other occasions, by name. -/
  occasions : List (String × Raw)
  status : Nat
  lastJob : Option Pid
  jobs : List Job
  /-- The switches that are on, by name. -/
  switches : List String
  /-- The line of the command at hand. -/
  line : Nat
  /-- The line that the expansion of words has come to. -/
  wordLine : Nat
  /-- The command of the shell's own that is at work. -/
  within : Option Raw
  /-- How many loops the shell is inside of. -/
  loops : Nat
  /-- The functions that the shell is inside of, the last first. -/
  calls : List Raw
  /-- How many scripts the shell is inside of. -/
  sourced : Nat
  /-- How many shells this one is a copy of. -/
  copies : Nat
  /-- Whether a failure does not end the shell here. -/
  tested : Bool
  /-- The status of the last substitution in the command at hand. -/
  substitution : Option Nat
  /-- What variables were before the function at hand made them its own. -/
  locals : List (Raw × Option Variable)
  /-- Signals that did nothing to the shell when it started. -/
  ignored : List Nat
  /-- How many letters of a word the reading of options has done with. -/
  optionPlace : Nat
  /-- The statuses of the commands of the last pipe. -/
  pipeStatuses : List Nat
  /-- The path of the working directory by the names that led there. -/
  place : Raw
  /-- Paths of directories that the shell can go back to. -/
  directories : List Raw
  /-- When the shell started. -/
  born : Instant
  seed : Nat
  /-- Whether the script was given as a word. -/
  scripted : Bool
  /-- The status that the last command had before the action of a trap began. -/
  before : Option Nat
  /-- Descriptors of the shell's ends of streams in the command at hand. -/
  streams : List Nat

/-- A way out of what a shell is doing. -/
inductive Escape where
  | exit (code : Nat)
  /-- A mistake: out of the shell, but only out of the command if that is one of the shell's plain commands. -/
  | fault (code : Nat)
  /-- Out of so many loops. -/
  | leave (levels : Nat)
  /-- On with the loop so many levels out. -/
  | resume (levels : Nat)
  /-- Back from a function or a script. -/
  | back (code : Nat)

/-- An action of a shell. -/
abbrev Sh := ExceptT Escape (StateT Process Act)

namespace Sh

/-- Does what a program does. -/
def act {α : Type} (a : Act α) : Sh α := fun s next => a fun x => next (.ok x, s)

/-- The shell. -/
def shell : Sh Process := fun s next => next (.ok s, s)

/-- Changes the shell. -/
def update (f : Process → Process) : Sh Unit := fun s next => next (.ok (), f s)

/-- Starts a copy of the shell that does something and ends; gives its process number. -/
def fork (child : Sh Ended) : Sh Pid := fun s next =>
  .fork (child s fun (result, _) =>
    .ended (match result with
      | .ok how => how
      | .error _ => .code 2)) fun pid => next (.ok pid, s)

/-- Ends the process. -/
def finish {α : Type} (how : Ended) : Sh α := fun _ _ => .ended how

/-- Does something whatever comes of something else. -/
def always {α : Type} (body : Sh α) (after : Sh Unit) : Sh α := do
  let x ← tryCatch body fun e => do
    after
    throw e
  after
  return x

/-- Sets the status of the last command. -/
def setStatus (n : Nat) : Sh Unit :=
  update fun p => { p with status := n }

/-- Whether the shell speaks the extended dialect. -/
def extended : Sh Bool := do
  return (← shell).dialect = .extended

/-- Whether a switch is on. -/
def isOn (name : String) : Sh Bool := do
  return (← shell).switches.contains name

/-- Writes a text to standard error. -/
def warn (text : Raw) : Sh Unit := do
  let _ ← act (Act.write 2 text)

/-- The start of a message of the shell: its name, the line, and the command of its own that is at work. -/
def heading : Sh Raw := do
  let p ← shell
  let own := (p.within.map (· ++ [':', ' '])).getD []
  let line := if p.dialect = .extended then "line ".toList ++ Raw.ofNat p.line else Raw.ofNat p.line
  return p.name ++ [':', ' '] ++ line ++ [':', ' '] ++ own

/-- Does something as the work of a command of the shell's own. -/
def asCommand {α : Type} (name : Raw) (body : Sh α) : Sh α := do
  let outer := (← shell).within
  update fun p => { p with within := some name }
  always body (update fun p => { p with within := outer })

/-- Shows a message of the shell. -/
def complain (message : Raw) : Sh Unit := do
  warn ((← heading) ++ message ++ ['\n'])

/-- Shows a message about a mistake and gives up. -/
def fatal {α : Type} (message : Raw) (code : Nat) : Sh α := do
  complain message
  throw (.fault code)

/-! ## Variables -/

/-- A variable, whether it has a value or not. -/
def binding? (name : Raw) : Sh (Option Variable) := do
  return ((← shell).bindings.find? fun e => e.1 == name).map Prod.snd

/-- A value as a single text: that of a list is its first. -/
def single : Value → Option Raw
  | .text r => some r
  | .list items => (items.find? fun i => i.1 = 0).map Prod.snd
  | .map items => (items.find? fun i => i.1 == ['0']).map Prod.snd

/-- The value of a variable. -/
def value? (name : Raw) : Sh (Option Raw) := do
  return (← binding? name).bind fun v => v.value.bind single

/-- Variables with one of them changed or made. -/
def withVariable (name : Raw) (f : Option Variable → Variable) (vs : List (Raw × Variable)) : List (Raw × Variable) :=
  let old := (vs.find? fun e => e.1 == name).map Prod.snd
  let v := f old
  if old.isSome then vs.map fun e => if e.1 == name then (name, v) else e else vs ++ [(name, v)]

/-- Changes or makes a variable. -/
def setVariable (name : Raw) (f : Option Variable → Variable) : Sh Unit :=
  update fun p => { p with bindings := withVariable name f p.bindings }

/-- Forgets a variable. -/
def dropVariable (name : Raw) : Sh Unit :=
  update fun p => { p with bindings := p.bindings.filter fun e => e.1 != name }

/-- Whether a variable can not be changed. -/
def isFixed (name : Raw) : Sh Bool := do
  return ((← binding? name).map Variable.fixed).getD false

/-- Fails if a variable can not be changed. -/
def mustNotBeFixed (name : Raw) : Sh Unit := do
  if ← isFixed name then
    if ← extended then
      complain (name ++ Raw.ofText ": readonly variable")
      throw (.fault 1)
    else fatal (name ++ Raw.ofText ": is read only") 2

/-- Items of a list with one of them set, in order. -/
def setItem (n : Nat) (r : Raw) (items : List (Nat × Raw)) : List (Nat × Raw) :=
  (items.filter fun i => i.1 < n) ++ (n, r) :: items.filter fun i => i.1 > n

/-- Gives a variable a value, whose shape the variable keeps. -/
def assign (name : Raw) (value : Raw) : Sh Unit := do
  mustNotBeFixed name
  let exporting ← isOn "allexport"
  if name = "OPTIND".toList then update fun p => { p with optionPlace := 0 }
  setVariable name fun old =>
    let v := old.getD Variable.unset
    let value := if v.lower then Raw.toLower value else if v.upper then Raw.toUpper value else value
    let shaped := match v.value with
      | some (.list items) => Value.list (setItem 0 value items)
      | some (.map items) => Value.map ((items.filter fun i => i.1 != ['0']) ++ [(['0'], value)])
      | _ => .text value
    { v with value := some shaped, exported := v.exported || exporting }

/-- The place that a variable's name has among those that programs get from the shell. -/
def rank (d : Dialect) (name : Raw) : Nat :=
  match d with
  | .plain => (16 * (name.headD ' ').toNat + name.foldl (fun n c => n + c.toNat) 0) % 39
  | .extended => (name.foldl (fun n c => ((n * 16777619) % 4294967296) ^^^ c.toNat) 2166136261) % 1024

/-- The variables that programs get from the shell, with others put over them. -/
def exports (assigned : List (Raw × Raw)) : Sh (List (Raw × Raw)) := do
  let p ← shell
  let own := p.bindings.filterMap fun e =>
    if e.2.exported && !assigned.any fun a => a.1 == e.1 then
      match e.2.value with
      | some (.text r) => some (e.1, r)
      | _ => none
    else none
  return (own ++ assigned).mergeSort fun a b => rank p.dialect a.1 ≤ rank p.dialect b.1

/-! ## Descriptors -/

/-- The first of the descriptors that the shell keeps for itself. -/
def ownFds : Nat := 10

/-- Puts the channel of a descriptor aside, if it has one: the descriptor that it is kept under. -/
def putAside (fd : Nat) : Sh (Option Nat) :=
  act (Act.attempt fun pid k =>
    match k.channelOf? pid fd with
    | some c =>
      let kept := k.freeFd pid ownFds
      .done (k.connect pid kept ⟨c, true⟩) (some kept)
    | none => .done k none)

/-- Makes a descriptor lead where it led before. -/
def putBack (fd : Nat) (kept : Option Nat) : Sh Unit :=
  act (Act.change fun pid k =>
    match kept with
    | some other =>
      match k.channelOf? pid other with
      | some c => (k.connect pid fd ⟨c, false⟩).close pid other
      | none => k
    | none => k.close pid fd)

/-- Moves a descriptor to the number of another. -/
def moveFd (source target : Nat) : Sh Unit :=
  if source = target then pure ()
  else act (Act.change fun pid k =>
    match k.channelOf? pid source with
    | some c => (k.connect pid target ⟨c, false⟩).close pid source
    | none => k)

/-- Why a redirection does not work: the message. -/
def refusal (verb : String) (path : Raw) (e : Errno) : Sh Raw := do
  if ← extended then return path ++ Raw.ofText (": " ++ e.message)
  let reason :=
    if e = .noEntry || e = .notDirectory then (if verb = "open" then "No such file" else "Directory nonexistent")
    else e.message
  return Raw.ofText ("cannot " ++ verb ++ " ") ++ path ++ Raw.ofText (": " ++ reason)

/-- Whether a path leads to a file that is not to be overwritten. -/
def isKept (path : Raw) : Sh Bool := do
  if !(← isOn "noclobber") then return false
  match ← act (Act.node? path true) with
  | .ok (_, n) => return n.isRegular
  | .error _ => return false

/-- Opens a file for a redirection. -/
def openFile (direction : Direction) (path : Raw) : Sh (Except Raw Nat) := do
  let (verb, mode) : String × OpenMode := match direction with
    | .read => ("open", .reading)
    | .readWrite => ("create", .updating)
    | .append | .appendBoth => ("create", .appending)
    | _ => ("create", .writing)
  if (direction = .write || direction = .writeBoth) && (← isKept path) then
    if ← extended then return .error (path ++ Raw.ofText ": cannot overwrite existing file")
    else return .error (← refusal "create" path .fileExists)
  match ← act (Act.attempt fun pid k => k.openPath pid path mode 0o666 ownFds false) with
  | .ok fd => return .ok fd
  | .error e => return .error (← refusal verb path e)

end Sh
end RunMeter.Machine.Shell
