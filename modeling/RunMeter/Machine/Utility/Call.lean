import RunMeter.Machine.Launch
import RunMeter.Machine.Program
import RunMeter.Machine.Utility.Piece

/-!
# RunMeter.Machine.Utility.Call — a program at work

What a program of the machine is given when it starts, and how it reads, writes and complains.

* `options`: the switches of a program, by letter or by long name, and the words that are none.
* `put`, `complain`, `misused`: output and messages.
* `contents`: a file, or standard input for a dash.

Nothing that is proved depends on this module.
-/

namespace RunMeter.Machine

/-- What a program is given when it starts. -/
structure Call where
  words : List Raw
  env : List (Raw × Raw)
  /-- How another program takes the process's place. -/
  start : Image → List (Raw × Raw) → Act Ended

/-- Whether a switch has a value. -/
inductive Argument where
  | none
  | required
  | optional
  deriving DecidableEq

/-- A switch with a long name, and the key that it is known by: a letter if it has one. -/
structure LongSwitch where
  name : String
  key : String
  argument : Argument

/-- The switches that a program knows.  Those by letter are a text in which a colon follows a letter that has a
value, and two colons one that may have one. -/
structure Switches where
  letters : String
  long : List LongSwitch
  /-- Whether the first word that is no switch ends the switches. -/
  ordered : Bool

/-- Switches as given: keys with their values, and the other words. -/
structure Given where
  switches : List (String × Raw)
  operands : List Raw

namespace Given

/-- Whether a switch is given. -/
def has (g : Given) (key : String) : Bool :=
  g.switches.any fun s => s.1 == key

/-- The last value of a switch. -/
def value? (g : Given) (key : String) : Option Raw :=
  ((g.switches.filter fun s => s.1 == key).getLast?).map Prod.snd

/-- The last of some switches that is given. -/
def last? (g : Given) (keys : List String) : Option String :=
  ((g.switches.filter fun s => keys.contains s.1).getLast?).map Prod.fst

end Given

namespace Switches

/-- Whether a letter is a switch, and whether it has a value. -/
def letter? (letters : Raw) (c : Char) : Option Argument :=
  match letters with
  | [] => none
  | d :: ':' :: ':' :: rest => if c = d then some .optional else letter? rest c
  | d :: ':' :: rest => if c = d then some .required else letter? rest c
  | d :: rest => if c = d then some .none else letter? rest c

/-- The switches in a word of letters, and whether the next word was taken as a value. -/
def cluster (s : Switches) : Raw → Option Raw → Except Raw (List (String × Raw) × Bool)
  | [], _ => .ok ([], false)
  | c :: rest, next =>
    let key := String.singleton c
    match if c = ':' then Option.none else letter? s.letters.toList c with
    | Option.none => .error (Raw.ofText "invalid option -- '" ++ [c, '\''])
    | some .none => (cluster s rest next).map fun (more, taken) => ((key, []) :: more, taken)
    | some .optional => .ok ([(key, rest)], false)
    | some .required =>
      if !rest.isEmpty then .ok ([(key, rest)], false)
      else match next with
        | some value => .ok ([(key, value)], true)
        | Option.none => .error (Raw.ofText "option requires an argument -- '" ++ [c, '\''])

/-- The switch of a long word without its dashes, and whether the next word was taken as a value. -/
def longWord (s : Switches) (w : Raw) (next : Option Raw) : Except Raw ((String × Raw) × Bool) :=
  let name := w.takeWhile (· != '=')
  let value : Option Raw := if w.length > name.length then some (w.drop (name.length + 1)) else none
  let exact := s.long.filter fun l => l.name.toList == name
  let near := s.long.filter fun l => name.isPrefixOf l.name.toList
  let found := if exact.isEmpty then near else exact
  match found with
  | [] => .error (Raw.ofText "unrecognized option '--" ++ name ++ ['\''])
  | l :: more =>
    if more.any fun m => m.key != l.key then
      .error (Raw.ofText "option '--" ++ w ++ Raw.ofText "' is ambiguous; possibilities:" ++
        near.flatMap fun m => Raw.ofText (" '--" ++ m.name ++ "'"))
    else match l.argument, value with
      | .none, some _ => .error (Raw.ofText ("option '--" ++ l.name ++ "' doesn't allow an argument"))
      | .none, Option.none | .optional, Option.none => .ok ((l.key, []), false)
      | _, some v => .ok ((l.key, v), false)
      | .required, Option.none =>
        match next with
        | some v => .ok ((l.key, v), true)
        | Option.none => .error (Raw.ofText ("option '--" ++ l.name ++ "' requires an argument"))

/-- Tells switches from other words. -/
def sorted (s : Switches) : (fuel : Nat) → List Raw → Except Raw Given
  | 0, ws => .ok ⟨[], ws⟩
  | _, [] => .ok ⟨[], []⟩
  | fuel + 1, w :: rest =>
    match w with
    | ['-', '-'] => .ok ⟨[], rest⟩
    | '-' :: '-' :: long => do
      let (found, taken) ← s.longWord long rest.head?
      let g ← s.sorted fuel (if taken then rest.drop 1 else rest)
      return { g with switches := found :: g.switches }
    | '-' :: letters@(_ :: _) => do
      let (found, taken) ← s.cluster letters rest.head?
      let g ← s.sorted fuel (if taken then rest.drop 1 else rest)
      return { g with switches := found ++ g.switches }
    | w =>
      if s.ordered then .ok ⟨[], w :: rest⟩
      else (s.sorted fuel rest).map fun g => { g with operands := w :: g.operands }

/-- The switches among some words. -/
def ofWords (s : Switches) (ws : List Raw) : Except Raw Given :=
  s.sorted (ws.length + 1) ws

end Switches

namespace Call

/-- The name that the program was called by. -/
def name (c : Call) : Raw := c.words.headD []

/-- The words after the name. -/
def args (c : Call) : List Raw := c.words.tail

/-- The last part of the name that the program was called by. -/
def baseName (c : Call) : Raw :=
  ((Raw.splitAt '/' c.name).getLast?).getD []

/-- Shows a message after the program's name. -/
def complain (c : Call) (message : Raw) : Act Unit := do
  let _ ← Act.write 2 (c.name ++ Raw.ofText ": " ++ message ++ ['\n'])

/-- Shows where help is, and ends the program. -/
def hint {α : Type} (c : Call) (code : UInt8) : Act α := do
  let _ ← Act.write 2 (Raw.ofText "Try '" ++ c.name ++ Raw.ofText " --help' for more information.\n")
  Act.exit code

/-- Shows a message and where help is, and ends the program. -/
def misused {α : Type} (c : Call) (message : Raw) (code : UInt8) : Act α := do
  c.complain message
  c.hint code

/-- Shows a message and ends the program. -/
def fail {α : Type} (c : Call) (message : Raw) (code : UInt8) : Act α := do
  c.complain message
  Act.exit code

/-- The choice that a word names; a word that names none, or several, ends the program with an exit code. -/
def chosen {α : Type} (c : Call) (switch : String) (choices : List (String × α)) (w : Raw) (code : UInt8) : Act α := do
  let near := choices.filter fun choice => w.isPrefixOf choice.1.toList
  let exact := near.filter fun choice => choice.1.toList == w
  match exact, near with
  | (_, x) :: _, _ | [], [(_, x)] => return x
  | [], _ =>
    let trouble := if near.isEmpty then "invalid" else "ambiguous"
    c.complain (Raw.ofText (trouble ++ " argument ") ++ Raw.quoted w ++ Raw.ofText (" for '" ++ switch ++ "'\nValid arguments are:") ++
      choices.flatMap fun choice => Raw.ofText ("\n  - '" ++ choice.1 ++ "'"))
    c.hint code

/-- The switches of the program.  A mistake in them ends it with an exit code. -/
def options (c : Call) (s : Switches) (code : UInt8) : Act Given :=
  match s.ofWords c.args with
  | .ok g => pure g
  | .error message => c.misused message code

/-- Writes to standard output.  The program ends if that fails. -/
def emit (c : Call) (octets : Raw) (code : UInt8) : Act Unit := do
  if !octets.isEmpty then
    match ← Act.write 1 octets with
    | none => pure ()
    | some e => c.fail (Raw.ofText ("write error: " ++ e.message)) code

/-- Writes to standard output; gives the exit code. -/
def put (c : Call) (octets : Raw) : Act UInt8 := do
  c.emit octets 1
  return 0

/-- Shows pieces in order.  The program ends with a code if output can not be written. -/
def display (c : Call) (pieces : List Piece) (code : UInt8) : Act Unit :=
  (Piece.joined pieces).forM fun p => match p with
    | .output octets => c.emit octets code
    | .complaint message => c.complain message

/-- Reads standard input to its end. -/
def input : Act Raw := do
  match ← Act.readAll 0 with
  | .ok text => return text
  | .error _ => return []

/-- Opens a file for reading, or standard input for a dash, does something with the descriptor and closes it. -/
def withFile {α : Type} (path : Raw) (f : Nat → Act (Except Errno α)) : Act (Except Errno α) := do
  if path = ['-'] then f 0
  else match ← Act.openFile path .reading with
    | .error e => return .error e
    | .ok fd =>
      let result ← f fd
      Act.close fd
      return result

/-- The contents of a file, or of standard input for a dash. -/
def contents (path : Raw) : Act (Except Errno Raw) :=
  withFile path Act.readAll

/-- A file and what is wrong with it. -/
def about (path : Raw) (e : Errno) : Raw :=
  Raw.displayed path ++ Raw.ofText (": " ++ e.message)

/-- A variable of the program. -/
def binding? (c : Call) (name : String) : Option Raw :=
  (c.env.find? fun v => v.1 == name.toList).map Prod.snd

/-- The search path that the system takes where none is set. -/
def usualPath : Raw := "/bin:/usr/bin".toList

/-- Puts another program in the place of this one, with some variables; gives the reason if that can not be
done.  A file that is no program but could be one is a script for the shell. -/
def replace (c : Call) (env : List (Raw × Raw)) (words : List Raw) : Act Errno := do
  let path := ((env.find? fun v => v.1 == "PATH".toList).map Prod.snd).getD usualPath
  let name := words.headD []
  let found : Except Errno Image ← Act.ask fun pid k =>
    let cwd := (k.task pid).cwd
    match Launch.search k.files cwd path name words with
    | .error e =>
      if e = Errno.execFormat then
        let places := if name.contains '/' then [name] else (Raw.splitAt ':' path).map (Launch.join · name)
        let script := (places.find? fun p => (k.files.find cwd p true).toOption.isSome).getD name
        Launch.ofPath k.files cwd "/bin/sh".toList ("/bin/sh".toList :: script :: words.tail)
      else .error e
    | .ok image => .ok image
  match found with
  | .error e => return e
  | .ok image => do
    let how ← c.start image env
    Act.finish how

/-- Starts another program in a process of its own, after some preparation there.  Gives its number. -/
def spawn (c : Call) (prepare : Act Unit) (words : List Raw) (unfound : Errno → Act Ended) : Act Pid :=
  Act.fork do
    prepare
    let e ← c.replace c.env words
    unfound e

end Call

/-- A program that does its work and tells its exit code. -/
abbrev Utility := Call → Act UInt8

end RunMeter.Machine
