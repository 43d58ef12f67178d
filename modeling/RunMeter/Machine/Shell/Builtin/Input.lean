import RunMeter.Machine.Shell.Builtin.Variables

/-!
# RunMeter.Machine.Shell.Builtin.Input — reading lines into variables

A line is read octet by octet, so that nothing after it is taken.  A backslash protects the character after it,
unless the line is taken as it is.

Nothing that is proved depends on this module.
-/

namespace RunMeter.Machine.Shell.Builtin

open Sh

/-- A character of a line, and whether a backslash stood before it. -/
structure LineChar where
  char : Char
  kept : Bool

/-- How a line is read. -/
structure LineRule where
  fd : Nat
  delimiter : Char
  /-- Whether backslashes are characters like others. -/
  verbatim : Bool
  /-- How many characters are read at most. -/
  most : Option Nat
  /-- Whether only the number of characters ends the line. -/
  exact : Bool

/-- What reading a line comes to. -/
structure LineRead where
  line : List LineChar
  /-- Whether the line ended as it should. -/
  whole : Bool

/-- Reads a line, of which `taken` has been read, the last character first. -/
def readLine (r : LineRule) : (fuel : Nat) → (count : Nat) → (taken : List LineChar) → Sh LineRead
  | 0, _, taken => return ⟨taken.reverse, false⟩
  | fuel + 1, count, taken => do
    if r.most = some count then return ⟨taken.reverse, true⟩
    match ← act (Act.readOrSignal r.fd 1) with
    | .ok (c :: _) =>
      if c = r.delimiter && !r.exact then return ⟨taken.reverse, true⟩
      else if c = '\\' && !r.verbatim then
        match ← act (Act.readOrSignal r.fd 1) with
        | .ok (d :: _) =>
          if d = '\n' then readLine r fuel count taken else readLine r fuel (count + 1) (⟨d, true⟩ :: taken)
        | _ => return ⟨taken.reverse, false⟩
      else if c = '\x00' then readLine r fuel count taken
      else readLine r fuel (count + 1) (⟨c, false⟩ :: taken)
    | _ => return ⟨taken.reverse, false⟩

/-- How many characters a line has at most. -/
def lineBound : Nat := 10000000

/-- The text of a line. -/
def lineText (cs : List LineChar) : Raw := cs.map LineChar.char

/-- Whether a character ends a field, and whether it is a blank that does. -/
def endsField (ifs : Raw) (c : LineChar) : Bool := !c.kept && ifs.contains c.char

/-- Whether a character is a blank that ends a field. -/
def isGapIn (ifs : Raw) (c : LineChar) : Bool :=
  endsField ifs c && (c.char == ' ' || c.char == '\t' || c.char == '\n')

/-- What is left of a line as one field: without the blanks at its ends, and without a single mark at its end. -/
def lastField (ifs : Raw) (cs : List LineChar) : Raw :=
  let trim (cs : List LineChar) : List LineChar := (cs.reverse.dropWhile (isGapIn ifs)).reverse
  let text := trim (cs.dropWhile (isGapIn ifs))
  match text.reverse with
  | c :: before =>
    if endsField ifs c && !(before.any (endsField ifs)) then lineText (trim before.reverse) else lineText text
  | [] => []

/-- Cuts a line into so many fields; the last takes what is left. -/
def cutLine (ifs : Raw) : (count : Nat) → List LineChar → List Raw
  | 0, _ => []
  | 1, line => [lastField ifs line]
  | count + 1, line =>
    let line := line.dropWhile (isGapIn ifs)
    let field := line.takeWhile fun c => !endsField ifs c
    let rest := (line.drop field.length).dropWhile (isGapIn ifs)
    let rest := match rest with
      | c :: more => if endsField ifs c then more else rest
      | [] => []
    lineText field :: cutLine ifs count rest

/-- All fields of a line. -/
def allFields (ifs : Raw) : (fuel : Nat) → List LineChar → List Raw
  | 0, _ => []
  | fuel + 1, line =>
    let line := line.dropWhile (isGapIn ifs)
    if line.isEmpty then []
    else
      let field := line.takeWhile fun c => !endsField ifs c
      let rest := (line.drop field.length).dropWhile (isGapIn ifs)
      let rest := match rest with
        | c :: more => if endsField ifs c then more else rest
        | [] => []
      lineText field :: allFields ifs fuel rest

/-- Reads a line into variables in the plain dialect. -/
def plainRead (args : List Raw) : Sh Unit := do
  let (chosen, names) ← optionsOf "p:r" args
  if names.isEmpty then wrong (Raw.ofText "arg count")
  match names.find? fun n => !Raw.isName n with
  | some bad => wrong (bad ++ Raw.ofText ": bad variable name")
  | none =>
    let r ← readLine ⟨0, '\n', given chosen 'r', none, false⟩ lineBound 0 []
    let fields := cutLine (← Parameter.separators) names.length r.line
    for (name, i) in names.zipIdx do assign name (fields.getD i [])
    setStatus (if r.whole then 0 else 1)

/-- Reads a line into variables in the extended dialect. -/
def extendedRead (args : List Raw) : Sh Unit := do
  let (chosen, names) ← optionsOf "era:d:i:n:N:p:st:u:" args
  match names.find? fun n => !Raw.isName (n.takeWhile (· != '[')) with
  | some bad => failed ('`' :: bad ++ Raw.ofText "': not a valid identifier") 1
  | none =>
    let delimiter := match valueOf? chosen 'd' with
      | some (c :: _) => c
      | some [] => '\x00'
      | none => '\n'
    let count := ((valueOf? chosen 'N').orElse fun _ => valueOf? chosen 'n').bind Raw.natural?
    let fd := ((valueOf? chosen 'u').bind Raw.natural?).getD 0
    if (← act (Act.channel? fd)).isNone then
      failed (Raw.ofNat fd ++ Raw.ofText ": invalid file descriptor: Bad file descriptor") 1
    else
      let r ← readLine ⟨fd, delimiter, given chosen 'r', count, given chosen 'N'⟩ lineBound 0 []
      let ifs ← Parameter.separators
      match valueOf? chosen 'a' with
      | some name =>
        let items := allFields ifs (r.line.length + 1) r.line
        setVariable name fun old =>
          { old.getD Variable.unset with value := some (.list (items.zipIdx.map fun (v, i) => (i, v))) }
      | none =>
        if names.isEmpty then assign "REPLY".toList (lineText r.line)
        else if given chosen 'N' then assign (names.headD []) (lineText r.line)
        else
          let fields := cutLine ifs names.length r.line
          for (name, i) in names.zipIdx do assign name (fields.getD i [])
      setStatus (if r.whole then 0 else 1)

/-- Reads a line into variables. -/
def read : Command := fun args => do
  if ← extended then extendedRead args else plainRead args

/-- Reads lines into a list. -/
def mapfile : Command := fun args => do
  let (chosen, names) ← optionsOf "d:n:O:s:tu:C:c:" args
  let name := names.headD "MAPFILE".toList
  let fd := ((valueOf? chosen 'u').bind Raw.natural?).getD 0
  let text ← match ← act (Act.readAll fd) with
    | .ok text => pure text
    | .error _ => pure []
  let ls := if given chosen 't' then Raw.lines text else Raw.linesWithEnds text
  let ls := ls.drop (((valueOf? chosen 's').bind Raw.natural?).getD 0)
  let ls := match (valueOf? chosen 'n').bind Raw.natural? with
    | some (n + 1) => ls.take (n + 1)
    | _ => ls
  let start := ((valueOf? chosen 'O').bind Raw.natural?).getD 0
  setVariable name fun old =>
    { old.getD Variable.unset with value := some (.list (ls.zipIdx.map fun (v, i) => (start + i, v))) }
  setStatus 0

end RunMeter.Machine.Shell.Builtin
