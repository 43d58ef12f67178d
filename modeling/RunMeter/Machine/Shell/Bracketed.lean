import RunMeter.Machine.Shell.Nesting
import RunMeter.Machine.Utility.Condition

/-!
# RunMeter.Machine.Shell.Bracketed — the form of conditions in double brackets

A condition in double brackets is made of words, parentheses and the marks that join conditions.  An end of line may
stand only where a condition has ended or one is to start.

* `parts`: what a condition is made of.
* `read`: the condition at the start of a script, up to its closing brackets, or what is wrong with it.

Nothing that is proved depends on this module.
-/

namespace RunMeter.Machine.Shell.Bracketed

/-- What a word is read as. -/
inductive Mode where
  | text
  /-- A pattern, which may hold groups of alternatives. -/
  | pattern
  /-- A regular expression, to which parentheses and bars belong. -/
  | expression
  deriving DecidableEq

/-- A part of a condition. -/
inductive Part where
  | word (w : Raw)
  | both
  | either
  | opening
  | closing
  | less
  | greater
  /-- A mark without a place in conditions. -/
  | other (mark : String)
  | lineEnd
  | brackets
  | atEnd
  /-- The script ends inside something. -/
  | unclosed (inside : Nesting.Inside)

/-- The word at the start of a text, as written, and the rest; `depth` parentheses of an expression are open. -/
def wordAt (mode : Mode) : (fuel : Nat) → (depth : Nat) → (taken : Raw) → Raw → Except Nesting.Inside (Raw × Raw)
  | 0, _, taken, rest => .ok (taken.reverse, rest)
  | _, _, taken, [] => .ok (taken.reverse, [])
  | fuel + 1, depth, taken, '\\' :: c :: rest => wordAt mode fuel depth (c :: '\\' :: taken) rest
  | fuel + 1, depth, taken, c :: rest =>
    let within (inside : Nesting.Inside) (opening : Raw) (rest : Raw) : Except Nesting.Inside (Raw × Raw) := do
      let (text, after) ← Nesting.scan false (rest.length + 1) [inside] [] rest
      wordAt mode fuel depth (text.reverse ++ opening.reverse ++ taken) after
    match c, rest with
    | '\'', rest =>
      let inner := rest.takeWhile (· != '\'')
      if inner.length = rest.length then .error .quotes
      else wordAt mode fuel depth ('\'' :: inner.reverse ++ '\'' :: taken) (rest.drop (inner.length + 1))
    | '"', rest => within .quotes ['"'] rest
    | '`', rest => within .backquotes ['`'] rest
    | '$', '(' :: rest => within .parens ['$', '('] rest
    | '$', '\x7b' :: rest => within .braces ['$', '\x7b'] rest
    | c, rest =>
      if mode = .pattern && Nesting.startsGroup c rest then within .parens [c, '('] (rest.drop 1)
      else if mode = .expression then
        if c = '(' then wordAt mode fuel (depth + 1) (c :: taken) rest
        else if c = ')' && depth > 0 then wordAt mode fuel (depth - 1) (c :: taken) rest
        else if depth = 0 && (Nesting.endsWord c && c != '|') then .ok (taken.reverse, c :: rest)
        else wordAt mode fuel depth (c :: taken) rest
      else if Nesting.endsWord c then .ok (taken.reverse, c :: rest)
      else wordAt mode fuel depth (c :: taken) rest

/-- The mark at the start of a text, and the rest. -/
def mark? : Raw → Option (Part × Raw)
  | '&' :: '&' :: rest => some (.both, rest)
  | '|' :: '|' :: rest => some (.either, rest)
  | '(' :: rest => some (.opening, rest)
  | ')' :: rest => some (.closing, rest)
  | '<' :: rest => some (.less, rest)
  | '>' :: rest => some (.greater, rest)
  | ';' :: ';' :: rest => some (.other ";;", rest)
  | ';' :: rest => some (.other ";", rest)
  | '|' :: rest => some (.other "|", rest)
  | '&' :: rest => some (.other "&", rest)
  | _ => none

/-- A text without the blanks at its start. -/
def pastBlanks : Raw → Raw
  | '\\' :: '\n' :: rest => pastBlanks rest
  | c :: rest => if Nesting.isSpace c then pastBlanks rest else c :: rest
  | [] => []

/-- The part at the start of a text, and the rest. -/
def partAt (mode : Mode) (text : Raw) : Part × Raw :=
  match pastBlanks text with
  | [] => (.atEnd, [])
  | '\n' :: rest => (.lineEnd, rest)
  | text =>
    match if mode = .expression then none else mark? text with
    | some found => found
    | none =>
      match wordAt mode (text.length + 1) 0 [] text with
      | .error inside => (.unclosed inside, [])
      | .ok ([], _) => (mark? text).getD (.atEnd, [])
      | .ok (w, rest) => (if w = "]]".toList then .brackets else .word w, rest)

/-- What the word after a word is read as. -/
def modeAfter (op : Raw) : Mode :=
  match Raw.text op with
  | "=" | "==" | "!=" => .pattern
  | "=~" => .expression
  | _ => .text

/-- The parts of a condition without its ends of line. -/
def parts : (fuel : Nat) → Mode → Raw → List Part
  | 0, _, _ => []
  | fuel + 1, mode, text =>
    match partAt mode text with
    | (.atEnd, _) | (.unclosed _, _) => []
    | (.lineEnd, rest) => parts fuel .text rest
    | (.word w, rest) => .word w :: parts fuel (if mode = .text then modeAfter w else .text) rest
    | (part, rest) => part :: parts fuel .text rest

/-- Whether a word joins two others. -/
def joins (op : Raw) : Bool :=
  op == "=~".toList || Condition.isBinary .extended op

/-- What is wrong with a condition: what is said of it, whether of the line that it starts in, and the text at which
reading stopped, before what is left. -/
structure Fault where
  said : Option Raw
  atStart : Bool
  rest : Raw
  atEnd : Bool

/-- How a part is called, if it is no word. -/
def Part.name? : Part → Option Raw
  | word _ | atEnd | unclosed _ => none
  | both => some "&&".toList
  | either => some "||".toList
  | opening => some ['(']
  | closing => some [')']
  | less => some ['<']
  | greater => some ['>']
  | other mark => some mark.toList
  | lineEnd => some "newline".toList
  | brackets => some "]]".toList

/-- A fault at a part, which is named if it has a name. -/
def faultAt (part : Part) (rest : Raw) (named : Raw → Raw) (nameless : String) : Fault :=
  let atEnd := match part with
    | .atEnd | .unclosed _ => true
    | _ => false
  ⟨some (((part.name?).map named).getD (Raw.ofText nameless)), false, rest, atEnd⟩

/-- The part after the ends of line at the start of a text. -/
def partPastLines : (fuel : Nat) → Raw → Part × Raw
  | 0, text => (.atEnd, text)
  | fuel + 1, text =>
    match partAt .text text with
    | (.lineEnd, rest) => partPastLines fuel rest
    | found => found

/-- What is read: a choice, a conjunction or a single condition. -/
inductive Goal where
  | alternatives
  | conjunction
  | term

/-- A name between the marks that messages use. -/
def marked (name : Raw) : Raw := '`' :: name ++ ['\'']

/-- Reads what stands at the start of a text.  Gives the part after it, and the rest. -/
def check : (fuel : Nat) → Goal → Raw → Except Fault (Part × Raw)
  | 0, _, text => .ok (.atEnd, text)
  | fuel + 1, .alternatives, text => do
    let (part, rest) ← check fuel .conjunction text
    match part with
    | .either => check fuel .alternatives rest
    | part => return (part, rest)
  | fuel + 1, .conjunction, text => do
    let (part, rest) ← check fuel .term text
    match part with
    | .both => check fuel .conjunction rest
    | part => return (part, rest)
  | fuel + 1, .term, text => do
    let lines := text.length + 1
    let (part, rest) := partPastLines lines text
    match part with
    | .brackets => throw ⟨none, false, rest, false⟩
    | .atEnd | .unclosed _ => throw ⟨none, false, rest, true⟩
    | .opening =>
      let (part, rest) ← check fuel .alternatives rest
      match part with
      | .closing => return partPastLines lines rest
      | part => throw (faultAt part rest
          (fun n => Raw.ofText "unexpected token " ++ marked n ++ Raw.ofText ", expected `)'") "expected `)'")
    | .word ['!'] => check fuel .term rest
    | .word w =>
      let argument (mode : Mode) (arity : String) (rest : Raw) : Except Fault (Part × Raw) :=
        match partAt mode rest with
        | (.word _, rest) => .ok (partPastLines lines rest)
        | (part, rest) => .error (faultAt part rest
            (fun n => Raw.ofText "unexpected argument " ++ marked n ++ Raw.ofText (" to conditional " ++ arity ++ " operator"))
            ("unexpected argument to conditional " ++ arity ++ " operator"))
      if Condition.isUnary .extended w then argument .text "unary" rest
      else
        let binary : String := "conditional binary operator expected"
        match partAt .text rest with
        | (.word op, rest) =>
          if joins op then argument (modeAfter op) "binary" rest
          else throw ⟨some (Raw.ofText binary), false, rest, false⟩
        | (.less, rest) | (.greater, rest) => argument .text "binary" rest
        | (.brackets, rest) => return (.brackets, rest)
        | (.both, rest) => return (.both, rest)
        | (.either, rest) => return (.either, rest)
        | (.closing, rest) => return (.closing, rest)
        | (part, rest) => throw (faultAt part rest
            (fun n => Raw.ofText "unexpected token " ++ marked n ++ Raw.ofText (", " ++ binary)) binary)
    | part => throw (faultAt part rest
        (fun n => Raw.ofText "unexpected token " ++ marked n ++ Raw.ofText " in conditional command") "")

/-- The text of the condition at the start of a script, which stands after its opening brackets, and the rest after
its closing ones. -/
def read (text : Raw) : Except Fault (Raw × Raw) := do
  let (part, rest) ← check (4 * text.length + 4) .alternatives text
  match part with
  | .brackets => return ((text.take (text.length - rest.length)).dropLast.dropLast, rest)
  | .atEnd | .unclosed _ => throw ⟨some (Raw.ofText "unexpected EOF while looking for `]]'"), true, rest, true⟩
  | part =>
    let general : String := "syntax error in conditional expression"
    throw { faultAt part rest (fun n => Raw.ofText (general ++ ": unexpected token ") ++ marked n) general with
      atStart := true }

/-- The text that is near a place in a line: `before` is the line up to it, and `next` the character there. -/
def near (before : Raw) (next : Option Char) : Raw :=
  let isBlank (c : Char) : Bool := Nesting.isSpace c || c == '\n'
  let ends (c : Char) : Bool := isBlank c || c == ';' || c == '|' || c == '&'
  let back := (next.toList ++ before.reverse).dropWhile isBlank
  let word := back.takeWhile fun c => !ends c
  match word, back.drop word.length with
  | [], c :: _ => [c]
  | word, c :: _ => if isBlank c then word.reverse else c :: word.reverse
  | word, [] => word.reverse

end RunMeter.Machine.Shell.Bracketed
