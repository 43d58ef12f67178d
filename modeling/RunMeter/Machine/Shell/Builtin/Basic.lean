import RunMeter.Machine.Shell.Jobs
import RunMeter.Machine.Shell.Parameter

/-!
# RunMeter.Machine.Shell.Builtin.Basic — the words of a shell's own commands

How the shell's own commands read their options and numbers, and how they complain.

Nothing that is proved depends on this module.
-/

namespace RunMeter.Machine.Shell.Builtin

open Sh

/-- A command of the shell: its arguments, and what it does with them. -/
abbrev Command := List Raw → Sh Unit

/-- Shows a message about a mistake in a command's words and gives up with status 2. -/
def wrong {α : Type} (message : Raw) : Sh α :=
  fatal message 2

/-- Shows a message about a mistake; the command has failed with a status, and the shell goes on. -/
def failed (message : Raw) (status : Nat) : Sh Unit := do
  complain message
  setStatus status

/-- Fails with the message of the dialect: the plain one gives up, the extended one goes on. -/
def refused (plain extended : Raw) (status : Nat) : Sh Unit := do
  if ← Sh.extended then failed extended status else wrong plain

/-- The number that an argument denotes. -/
def number (w : Raw) : Sh Nat := do
  if ← extended then
    match Raw.integer? (Raw.trim w) with
    | some n => return (n % 18446744073709551616).toNat
    | none =>
      complain (w ++ Raw.ofText ": numeric argument required")
      throw (.fault 2)
  else match Raw.natural? w with
    | some n => if n ≤ 2147483647 then return n else wrong (Raw.ofText "Illegal number: " ++ w)
    | none => wrong (Raw.ofText "Illegal number: " ++ w)

/-- Complains about an option that there is not. -/
def unknownOption {α : Type} (c : Char) : Sh α := do
  if ← extended then fatal (['-', c] ++ Raw.ofText ": invalid option") 2
  else wrong (Raw.ofText "Illegal option -" ++ [c])

/-- The letters of options in a word.  `spec` holds those that there are, each with a colon if it takes a value. -/
def optionLetters (spec : Raw) (rest : List Raw) : Raw → Sh (List (Char × Raw) × List Raw)
  | [] => return ([], rest)
  | c :: cs =>
    match spec.dropWhile (· != c) with
    | [] => unknownOption c
    | _ :: ':' :: _ =>
      match cs, rest with
      | _ :: _, rest => return ([(c, cs)], rest)
      | [], w :: rest => return ([(c, w)], rest)
      | [], [] => do
        if ← extended then fatal (['-', c] ++ Raw.ofText ": option requires an argument") 2
        else wrong (Raw.ofText "No arg for -" ++ c :: Raw.ofText " option")
    | _ => do
      let (more, rest) ← optionLetters spec rest cs
      return ((c, []) :: more, rest)

/-- The options at the start of a command's words, and the words after them. -/
def options (spec : String) : (fuel : Nat) → List Raw → Sh (List (Char × Raw) × List Raw)
  | fuel + 1, ('-' :: c :: cs) :: rest => do
    if c = '-' && cs.isEmpty then return ([], rest)
    let (first, rest) ← optionLetters spec.toList rest (c :: cs)
    let (more, words) ← options spec fuel rest
    return (first ++ more, words)
  | _, words => return ([], words)

/-- The options of a command's words. -/
def optionsOf (spec : String) (args : List Raw) : Sh (List (Char × Raw) × List Raw) :=
  options spec args.length args

/-- Whether an option was given. -/
def given (chosen : List (Char × Raw)) (c : Char) : Bool :=
  chosen.any fun o => o.1 == c

/-- The value of an option. -/
def valueOf? (chosen : List (Char × Raw)) (c : Char) : Option Raw :=
  ((chosen.filter fun o => o.1 == c).getLast?).map Prod.snd

/-- Writes output; the status says whether that worked. -/
def put (text : Raw) : Sh Unit := do
  if text.isEmpty then setStatus 0
  else match ← act (Act.write 1 text) with
    | none => setStatus 0
    | some e =>
      if ← extended then complain (Raw.ofText ("write error: " ++ e.message))
      else complain (((← shell).within.getD []) ++ Raw.ofText ": I/O error")
      setStatus 1

/-- The name and the value in an argument, if it has one. -/
def nameAndValue (w : Raw) : Raw × Option Raw :=
  match w.dropWhile (· != '=') with
  | _ :: v => (w.takeWhile (· != '='), some v)
  | [] => (w, none)

/-- A value in quotes, as the shell reads it. -/
def requoted (v : Raw) : Raw :=
  '\'' :: (v.flatMap fun c => if c = '\'' then "'\"'\"'".toList else [c]) ++ ['\'']

/-- A value as the extended dialect tells it: in quotes only if it needs them. -/
def told (v : Raw) : Raw :=
  if v.any fun c => c.toNat < 32 || c.toNat ≥ 127 then
    "$'".toList ++ (v.flatMap fun c =>
      if c = '\'' || c = '\\' then ['\\', c] else if Raw.isShown c then [c] else Raw.escaped c) ++ ['\'']
  else if v.any Parameter.isSpecialChar then Parameter.requoted v
  else v

/-- A value in double quotes, as declarations show it. -/
def declared (v : Raw) : Raw :=
  if v.any fun c => c.toNat < 32 || c.toNat ≥ 127 then told v
  else '"' :: (v.flatMap fun c => if "\"$`\\".toList.contains c then ['\\', c] else [c]) ++ ['"']

end RunMeter.Machine.Shell.Builtin
