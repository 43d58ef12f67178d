import RunMeter.Machine.Regex

/-!
# RunMeter.Machine.Utility.Editing.Script — scripts that edit lines

A script is a list of commands, each with the lines that it is meant for.  What stands in braces is one command with
the lines before the brace.

* `Script.ofText`: reads a script.

Nothing that is proved depends on this module.
-/

namespace RunMeter.Machine.Editing

/-- An expression that a script names: one of its own, or the last one that was used. -/
abbrev Pattern := Option Regex

/-- A line. -/
inductive Address where
  | line (n : Nat)
  | last
  /-- Every line from one on by a step. -/
  | steps (first step : Nat)
  | matching (e : Pattern)

/-- Where a range of lines ends. -/
inductive RangeEnd where
  | at (a : Address)
  /-- So many lines after its start. -/
  | after (n : Nat)
  /-- The next line whose number is a multiple. -/
  | multiple (n : Nat)

/-- The lines that a command is meant for. -/
inductive Target where
  | all
  | one (a : Address)
  | range (a : Address) (e : RangeEnd)

/-- A part of a replacement. -/
inductive ReplacementPart where
  | text (r : Raw)
  | group (n : Nat)
  /-- Letters change from here on, or the next one only; with no letter given nothing changes any more. -/
  | capitals (change : Char)

/-- A replacement. -/
structure Replacement where
  pattern : Pattern
  parts : List ReplacementPart
  /-- The first match that is replaced. -/
  first : Nat
  all : Bool
  shows : Bool
  file : Option Raw

/-- What a command does. -/
inductive Action where
  | begin
  | finish
  | label (name : Raw)
  | number
  | append (text : Raw)
  | insert (text : Raw)
  | change (text : Raw)
  | jump (label : Raw)
  | jumpIfReplaced (label : Raw)
  | jumpUnlessReplaced (label : Raw)
  | delete
  | deleteLine
  | fileName
  | get
  | getMore
  | hold
  | holdMore
  | spell (width : Option Nat)
  | next
  | nextMore
  | print
  | printLine
  | quit (code : Nat)
  | quitSilently (code : Nat)
  | read (path : Raw)
  | replace (r : Replacement)
  | write (path : Raw)
  | writeLine (path : Raw)
  | exchange
  | translate (pairs : List (Char × Char))
  | empty
  | nothing

/-- A command. -/
structure Command where
  target : Target
  negated : Bool
  action : Action

/-- A script. -/
abbrev Script := List Command

/-- What is wrong with a script, and how much of it was left by then. -/
structure Fault where
  left : Nat
  message : Raw

/-- Reads a script from its start. -/
abbrev Reader (α : Type) := StateT Raw (Except Fault) α

namespace Reader

/-- Ends reading with a fault here. -/
def fail {α : Type} (message : String) : Reader α := fun rest => .error ⟨rest.length, Raw.ofText message⟩

/-- The next character. -/
def peek : Reader (Option Char) := return (← get).head?

/-- Takes a character. -/
def take : Reader (Option Char) := do
  let rest ← get
  set (rest.drop 1)
  return rest.head?

/-- Takes characters as long as they satisfy a test. -/
def takeWhile (test : Char → Bool) : Reader Raw := do
  let rest ← get
  let taken := rest.takeWhile test
  set (rest.drop taken.length)
  return taken

/-- A blank that does not end a line. -/
def isBlank (c : Char) : Bool := c != '\n' && Raw.isSpace c

/-- Leaves blanks out. -/
def skipBlanks : Reader Unit := do
  let _ ← takeWhile isBlank

/-- A number. -/
def natural : Reader Nat := return Raw.valueIn 10 (← takeWhile Char.isDigit)

/-- The rest of a set of characters, which may hold anything; `first` says that a closing bracket would belong to
it, and `inside` that a class is being named.  Nothing if the set does not end. -/
def setRest : (fuel : Nat) → (first inside : Bool) → Reader (Option Raw)
  | 0, _, _ => return none
  | fuel + 1, first, inside => do
    match ← get with
    | [] => return none
    | '\n' :: _ => return none
    | '[' :: ':' :: rest =>
      set rest
      return (← setRest fuel false true).map ("[:".toList ++ ·)
    | ':' :: ']' :: rest =>
      if inside then
        set rest
        return (← setRest fuel false false).map (":]".toList ++ ·)
      else
        set rest
        return some ":]".toList
    | '\\' :: 'n' :: rest =>
      set rest
      return (← setRest fuel false inside).map ('\n' :: ·)
    | c :: rest =>
      set rest
      if c = ']' && !first then return some [c]
      else if c = '^' && first then return (← setRest fuel true inside).map (c :: ·)
      else return (← setRest fuel false inside).map (c :: ·)

/-- Takes what stands before a mark, in which a backslash keeps the mark, and so does a set in an expression.  Nothing
if the mark does not come before the line ends. -/
def delimited (mark : Char) (isExpression : Bool) : (fuel : Nat) → Reader (Option Raw)
  | 0 => return none
  | fuel + 1 => do
    match ← get with
    | [] => return none
    | '\n' :: _ => return none
    | '\\' :: [] =>
      set ([] : Raw)
      return none
    | '\\' :: d :: rest =>
      set rest
      let here : Raw :=
        if d = mark then (if !isExpression && d = '&' then ['\\', d] else [d])
        else if d = '\n' || (d = 'n' && isExpression) then ['\n']
        else ['\\', d]
      return (← delimited mark isExpression fuel).map (here ++ ·)
    | c :: rest =>
      set rest
      if c = mark then return some []
      else if c = '[' && isExpression then
        match ← setRest fuel true false with
        | none => return none
        | some members => return (← delimited mark isExpression fuel).map (c :: members ++ ·)
      else return (← delimited mark isExpression fuel).map (c :: ·)

end Reader

open Reader

/-- How the expressions of a script are written. -/
structure Dialect where
  extended : Bool
  deriving DecidableEq

/-- The character that an escape in an expression or a text means, with the rest after it. -/
def escape? (c : Char) (rest : Raw) : Option (Char × Raw) :=
  let number (base most : Nat) (isDigit : Char → Bool) : Option (Char × Raw) :=
    let ds := (rest.take most).takeWhile isDigit
    if ds.isEmpty then none else some (Char.ofNat (Raw.valueIn base ds % 256), rest.drop ds.length)
  match c with
  | 'a' => some ('\x07', rest)
  | 'f' => some ('\x0c', rest)
  | 't' => some ('\t', rest)
  | 'r' => some ('\r', rest)
  | 'v' => some ('\x0b', rest)
  | 'x' => number 16 2 Raw.isHex
  | 'o' => number 8 3 Raw.isOctal
  | 'd' => number 10 3 Char.isDigit
  | 'c' => match rest with
    | d :: after => some (Char.ofNat ((d.toUpper.toNat ^^^ 64) % 256), after)
    | [] => none
  | _ => none

/-- An expression with its escapes replaced by what they mean. -/
def plainExpression : (fuel : Nat) → Raw → Raw
  | 0, r => r
  | _, [] => []
  | fuel + 1, '\\' :: c :: rest =>
    match escape? c rest with
    | some (d, after) =>
      (if "*.[]^$/+?()\x7b\x7d|\\".toList.contains d then ['\\', d] else [d]) ++ plainExpression fuel after
    | none => '\\' :: c :: plainExpression fuel rest
  | fuel + 1, c :: rest => c :: plainExpression fuel rest

/-- The expression that a text is; none if it is empty. -/
def patternOf (d : Dialect) (flags : List Char) (text : Raw) : Reader Pattern := do
  if text.isEmpty then return none
  else
    match Regex.ofText ⟨d.extended, flags.contains 'I', false, false, flags.contains 'M'⟩ (plainExpression text.length text) with
    | .ok e => return some e
    | .error f => fail f.message

/-- Reads a line's address. -/
def address? (d : Dialect) (fuel : Nat) : Reader (Option Address) := do
  match ← peek with
  | some '$' =>
    let _ ← take
    return some .last
  | some c =>
    if c.isDigit then
      let n ← natural
      skipBlanks
      if (← peek) = some '~' then
        let _ ← take
        skipBlanks
        let step ← natural
        return some (if step = 0 then .line n else .steps n step)
      else return some (.line n)
    else if c = '/' || c = '\\' then
      let _ ← take
      let mark ← if c = '/' then pure '/' else do pure ((← take).getD '\x00')
      match ← delimited mark true fuel with
      | none => fail "unterminated address regex"
      | some text =>
        let flags ← takeWhile fun f => f = 'I' || f = 'M'
        return some (.matching (← patternOf d flags text))
    else return none
  | none => return none

/-- Reads the lines that a command is meant for. -/
def target (d : Dialect) (fuel : Nat) : Reader Target := do
  match ← peek with
  | some '+' | some '~' =>
    let _ ← take
    let ds ← takeWhile Char.isDigit
    if ds.isEmpty then return .all else fail "invalid usage of +N or ~N as first address"
  | _ =>
  match ← address? d fuel with
  | none => return .all
  | some a =>
    skipBlanks
    if (← peek) = some ',' then
      let _ ← take
      skipBlanks
      let ending ← match ← peek with
        | some '+' => do
          let _ ← take
          pure (some (RangeEnd.after (← natural)))
        | some '~' => do
          let _ ← take
          pure (some (RangeEnd.multiple (← natural)))
        | _ => do pure ((← address? d fuel).map RangeEnd.at)
      match ending with
      | none =>
        let _ ← take
        fail "unexpected `,'"
      | some e => return .range a e
    else return .one a

/-- Reads to the end of a command. -/
def finished : Reader Unit := do
  skipBlanks
  match ← peek with
  | none => return
  | some c =>
    if c = '\x7d' || c = '#' then return
    else
      let _ ← take
      if c = '\n' || c = ';' then return
      else fail "extra characters after command"

/-- The rest of a line. -/
def lineRest : Reader Raw := do
  let line ← takeWhile (· != '\n')
  let _ ← take
  return line

/-- A file's name up to the end of the line. -/
def fileName : Reader Raw := do
  skipBlanks
  let name ← lineRest
  if name.isEmpty then fail "missing filename in r/R/w/W commands" else return name

/-- A label. -/
def label : Reader Raw := do
  skipBlanks
  let name ← takeWhile fun c => !Raw.isSpace c && c != ';'
  let _ ← takeWhile isBlank
  if (← peek) = some ';' || (← peek) = some '\n' then
    let _ ← take
  return name

/-- The lines of a text, of which all but the last end with a backslash. -/
def textLines : (fuel : Nat) → Reader Raw
  | 0 => return []
  | fuel + 1 => do
    match ← take with
    | none => return ['\n']
    | some '\n' => return ['\n']
    | some '\\' =>
      match ← take with
      | none => return ['\n']
      | some c =>
        match escape? c (← get) with
        | some (d, after) =>
          set after
          return d :: (← textLines fuel)
        | none => return c :: (← textLines fuel)
    | some c => return c :: (← textLines fuel)

/-- The text of a command that shows one. -/
def commandText (fuel : Nat) : Reader Raw := do
  skipBlanks
  match ← peek with
  | none => fail "expected \\ after `a', `c' or `i'"
  | some '\\' =>
    let _ ← take
    match (← get).dropWhile isBlank with
    | [] => return []
    | '\n' :: rest =>
      set (rest.dropWhile isBlank)
      if rest.isEmpty then return [] else textLines fuel
    | _ :: _ => textLines fuel
  | some '\n' => fail "expected \\ after `a', `c' or `i'"
  | some _ => textLines fuel

/-- The parts of a replacement. -/
def replacementParts : (fuel : Nat) → (held : Raw) → Raw → List ReplacementPart
  | 0, held, _ => [.text held.reverse]
  | _, held, [] => if held.isEmpty then [] else [.text held.reverse]
  | fuel + 1, held, c :: rest =>
    let on (p : ReplacementPart) (after : Raw) : List ReplacementPart :=
      (if held.isEmpty then [] else [.text held.reverse]) ++ p :: replacementParts fuel [] after
    match c, rest with
    | '&', rest => on (.group 0) rest
    | '\\', d :: after =>
      if d.isDigit then on (.group (d.toNat - 48)) after
      else if "LUluE".toList.contains d then on (.capitals d) after
      else if d = 'n' then replacementParts fuel ('\n' :: held) after
      else match escape? d after with
        | some (e, after) => replacementParts fuel (e :: held) after
        | none => replacementParts fuel (d :: held) after
    | c, rest => replacementParts fuel (c :: held) rest

/-- The flags of a replacement. -/
structure Flags where
  all : Bool
  shows : Bool
  first : Option Nat
  letters : List Char
  file : Option Raw

/-- Reads the flags of a replacement. -/
def flags : (fuel : Nat) → Flags → Reader Flags
  | 0, f => return f
  | fuel + 1, f => do
    match ← peek with
    | none => return f
    | some c =>
      if c = '\x7d' || c = '#' then return f
      else if c.isDigit then
        if f.first.isSome then
          let _ ← take
          fail "multiple number options to `s' command"
        else
          let n ← natural
          if n = 0 then fail "number option to `s' command may not be zero"
          else flags fuel { f with first := some n }
      else
        let _ ← take
        match c with
        | '\n' | ';' => return f
        | 'g' => if f.all then fail "multiple `g' options to `s' command" else flags fuel { f with all := true }
        | 'p' => if f.shows then fail "multiple `p' options to `s' command" else flags fuel { f with shows := true }
        | 'i' | 'I' => flags fuel { f with letters := 'I' :: f.letters }
        | 'm' | 'M' => flags fuel { f with letters := 'M' :: f.letters }
        | 'w' => return { f with file := some (← fileName) }
        | c => if isBlank c then flags fuel f else fail "unknown option to `s'"

/-- Reads a replacement. -/
def replacement (d : Dialect) (fuel : Nat) : Reader Action := do
  let unterminated : Reader Action := fail "unterminated `s' command"
  match ← take with
  | none => unterminated
  | some mark =>
    match ← delimited mark true fuel with
    | none => unterminated
    | some pattern =>
      match ← delimited mark false fuel with
      | none => unterminated
      | some text =>
        let f ← flags fuel ⟨false, false, none, [], none⟩
        let e ← patternOf d f.letters pattern
        let parts := replacementParts (text.length + 1) [] text
        let most := ((parts.map fun p => match p with
          | .group n => n
          | _ => 0).max?).getD 0
        if e.any fun e => most > e.groups then fail s!"invalid reference \\{most} on `s' command's RHS"
        else return .replace ⟨e, parts, f.first.getD 1, f.all, f.shows, f.file⟩

/-- The characters of a text in which a backslash stands before a backslash, a mark or the letter for an end of
line. -/
def translated : Raw → Raw
  | [] => []
  | '\\' :: 'n' :: rest => '\n' :: translated rest
  | '\\' :: '\\' :: rest => '\\' :: translated rest
  | c :: rest => c :: translated rest

/-- Reads a translation. -/
def translation (fuel : Nat) : Reader Action := do
  let unterminated : Reader Action := fail "unterminated `y' command"
  match ← take with
  | none => unterminated
  | some mark =>
    match ← delimited mark false fuel with
    | none => unterminated
    | some a =>
      match ← delimited mark false fuel with
      | none => unterminated
      | some b =>
        let a := translated a
        let b := translated b
        if a.length != b.length then fail "strings for `y' command are different lengths"
        else
          finished
          return .translate (a.zip b)

/-- Reads an exit code. -/
def exitCode : Reader Nat := do
  skipBlanks
  let n ← natural
  finished
  return n

/-- Whether an address is one that no line has. -/
def isZero : Address → Bool
  | .line 0 => true
  | _ => false

/-- Whether the lines that are meant start before the first without need. -/
def Target.isNowhere : Target → Bool
  | all => false
  | one a => isZero a
  | range _ (.at (.matching _)) => false
  | range a _ => isZero a

/-- Reads commands; `depth` is how many braces are open. -/
def commands (d : Dialect) : (fuel : Nat) → (depth : Nat) → Reader Script
  | 0, _ => return []
  | fuel + 1, depth => do
    let _ ← takeWhile fun c => Raw.isSpace c || c = ';'
    if (← get).isEmpty then
      if depth > 0 then throw ⟨0, Raw.ofText "unmatched `\x7b'"⟩ else return []
    else
      let t ← target d fuel
      skipBlanks
      let negated := (← peek) = some '!'
      if negated then
        let _ ← take
        skipBlanks
        if (← peek) = some '!' then
          let _ ← take
          fail "multiple `!'s"
      let on (a : Action) : Reader Script := return ⟨t, negated, a⟩ :: (← commands d fuel depth)
      let simple (a : Action) : Reader Script := do
        finished
        on a
      let alone : Reader Unit := do
        match t with
        | .range .. => fail "command only uses one address"
        | _ => pure ()
      let letter ← take
      if t.isNowhere then fail "invalid usage of line address 0"
      match letter with
      | none => fail "missing command"
      | some '#' =>
        match t with
        | .all =>
          let _ ← lineRest
          commands d fuel depth
        | _ => fail "comments don't accept any addresses"
      | some '\x7b' => return ⟨t, negated, .begin⟩ :: (← commands d fuel (depth + 1))
      | some '\x7d' =>
        if depth = 0 then fail "unexpected `\x7d'"
        else match t with
          | .all =>
            finished
            return ⟨.all, false, .finish⟩ :: (← commands d fuel (depth - 1))
          | _ => fail "\x7d doesn't want any addresses"
      | some ':' =>
        match t with
        | .all =>
          let name ← label
          if name.isEmpty then fail "\":\" lacks a label" else on (.label name)
        | _ => fail ": doesn't want any addresses"
      | some '=' => simple .number
      | some 'a' =>
        let text ← commandText fuel
        on (.append text)
      | some 'i' =>
        let text ← commandText fuel
        on (.insert text)
      | some 'c' =>
        let text ← commandText fuel
        on (.change text)
      | some 'b' => on (.jump (← label))
      | some 't' => on (.jumpIfReplaced (← label))
      | some 'T' => on (.jumpUnlessReplaced (← label))
      | some 'd' => simple .delete
      | some 'D' => simple .deleteLine
      | some 'F' => simple .fileName
      | some 'g' => simple .get
      | some 'G' => simple .getMore
      | some 'h' => simple .hold
      | some 'H' => simple .holdMore
      | some 'l' =>
        skipBlanks
        let ds ← takeWhile Char.isDigit
        simple (.spell (if ds.isEmpty then none else some (Raw.valueIn 10 ds)))
      | some 'n' => simple .next
      | some 'N' => simple .nextMore
      | some 'p' => simple .print
      | some 'P' => simple .printLine
      | some 'q' =>
        alone
        let code ← exitCode
        on (.quit code)
      | some 'Q' =>
        alone
        let code ← exitCode
        on (.quitSilently code)
      | some 'r' => on (.read (← fileName))
      | some 'w' => on (.write (← fileName))
      | some 'W' => on (.writeLine (← fileName))
      | some 's' =>
        let a ← replacement d fuel
        on a
      | some 'y' =>
        let a ← translation fuel
        on a
      | some 'x' => simple .exchange
      | some 'z' => simple .empty
      | some 'v' =>
        let _ ← label
        on .nothing
      | some c => fail s!"unknown command: `{c}'"

/-- Reads a script. -/
def Script.ofText (d : Dialect) (text : Raw) : Except Fault Script := do
  let (s, _) ← (commands d (2 * text.length + 2) 0).run text
  return s

/-- The labels that a script jumps to and does not have. -/
def Script.missingLabels (s : Script) : List Raw :=
  let labels := s.filterMap fun c => match c.action with
    | .label name => some name
    | _ => none
  s.filterMap fun c => match c.action with
    | .jump l | .jumpIfReplaced l | .jumpUnlessReplaced l => if l.isEmpty || labels.contains l then none else some l
    | _ => none

end RunMeter.Machine.Editing
