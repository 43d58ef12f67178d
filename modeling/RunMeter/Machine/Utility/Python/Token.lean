import RunMeter.Machine.Utility.Python.Program
import RunMeter.Text.Utf8

/-!
# RunMeter.Machine.Utility.Python.Token — the parts of a Python program

* `Text.ofRaw`, `Text.toRaw`: characters and octets.
* `tokens`: the parts of a text, with signs where blocks of lines begin and end.

Nothing that is proved depends on this module.
-/

namespace RunMeter.Machine.Python

namespace Text

/-- The first of the characters that stand for octets that are no text. -/
def strayBase : Nat := 0x10FF00

/-- Characters and octets that are no text, from octets. -/
def ofRaw (r : Raw) : Text :=
  (Utf8.spans (Raw.toOctets r)).flatMap fun p => match p with
    | (some c, _) => [c]
    | (none, bs) => bs.map fun b => Char.ofNat (strayBase + b.toNat)

/-- The octet that a character stands for, if it is no text. -/
def stray? (c : Char) : Option Nat :=
  if strayBase + 128 ≤ c.toNat && c.toNat < strayBase + 256 then some (c.toNat - strayBase) else none

/-- Octets of characters. -/
def toRaw (t : Text) : Raw :=
  t.flatMap fun c =>
    if c.toNat < 128 then [c]
    else match stray? c with
      | some n => [Char.ofNat n]
      | none => (String.utf8EncodeChar c).map fun b => Char.ofNat b.toNat

/-- A text of the library's own. -/
def plain (s : String) : Text := s.toList

end Text

/-- A part of a text. -/
inductive Token where
  | name (n : Text)
  | int (n : Nat)
  | real (f : Float)
  | text (t : Text)
  | octets (r : Raw)
  /-- A text with expressions in it, as it is written; `verbatim` says that backslashes stand for themselves. -/
  | joined (verbatim : Bool) (body : Text)
  | sign (s : String)
  | newline
  | indent
  | dedent
  | finish
  deriving BEq

/-- A part of a text and where it is: its line, its column from 0 on, and how many columns it has. -/
structure Placed where
  token : Token
  line : Nat
  column : Nat
  width : Nat

/-- What is shown of a line with a fault. -/
inductive FaultSpot where
  | line
  /-- A column from 0 on, and how many columns are meant. -/
  | range (column width : Nat)
  /-- The same, but only of a text from a file. -/
  | ofFile (column width : Nat)

/-- What is wrong with a program. -/
structure Fault where
  kind : String
  message : String
  line : Nat
  spot : FaultSpot

/-- The words with a meaning of their own. -/
def keywords : List String :=
  ["False", "None", "True", "and", "as", "assert", "async", "await", "break", "class", "continue", "def", "del", "elif",
   "else", "except", "finally", "for", "from", "global", "if", "import", "in", "is", "lambda", "nonlocal", "not", "or",
   "pass", "raise", "return", "try", "while", "with", "yield"]

/-- The signs, longer ones before those they begin with. -/
def signs : List String :=
  ["**=", "//=", ">>=", "<<=", "...", "!=", "==", "<=", ">=", "->", ":=", "+=", "-=", "*=", "/=", "%=", "&=", "|=",
   "^=", "@=", "**", "//", "<<", ">>", "+", "-", "*", "/", "%", "@", "&", "|", "^", "~", "<", ">", "(", ")", "[", "]",
   "\x7b", "\x7d", ",", ":", ".", ";", "="]

/-- Whether a character can stand in a name. -/
def isNameChar (c : Char) : Bool := c.isAlphanum || c = '_' || c.toNat ≥ 128

/-- The control characters that escapes stand for. -/
def control? (c : Char) : Option Char :=
  match c with
  | '\\' => some '\\'
  | '\'' => some '\''
  | '"' => some '"'
  | 'a' => some '\x07'
  | 'b' => some '\x08'
  | 'f' => some '\x0c'
  | 'n' => some '\n'
  | 'r' => some '\r'
  | 't' => some '\t'
  | 'v' => some '\x0b'
  | _ => none

/-- A text with its escapes replaced by what they mean; those by number of a character only if `wide`. -/
def unescaped (wide : Bool) : (fuel : Nat) → Text → Text
  | 0, t => t
  | _, [] => []
  | fuel + 1, '\\' :: '\n' :: rest => unescaped wide fuel rest
  | fuel + 1, '\\' :: c :: rest =>
    let numbered (digits : Nat) : Option Text :=
      let ds := (rest.take digits).takeWhile Raw.isHex
      if ds.length = digits then some (Char.ofNat (Raw.valueIn 16 ds) :: unescaped wide fuel (rest.drop digits))
      else none
    match control? c with
    | some d => d :: unescaped wide fuel rest
    | none =>
      if Raw.isOctal c then
        let ds := ((c :: rest).take 3).takeWhile Raw.isOctal
        Char.ofNat (Raw.valueIn 8 ds) :: unescaped wide fuel ((c :: rest).drop ds.length)
      else
        let found := match c with
          | 'x' => numbered 2
          | 'u' => if wide then numbered 4 else none
          | 'U' => if wide then numbered 8 else none
          | _ => none
        found.getD ('\\' :: c :: unescaped wide fuel rest)
  | fuel + 1, c :: rest => c :: unescaped wide fuel rest

/-- How a text in quotes is meant, by the letters before it. -/
structure Quoting where
  verbatim : Bool
  octets : Bool
  joined : Bool

/-- How letters before a quote are meant, if they can stand there. -/
def quoting? (letters : Text) : Option Quoting :=
  let lower := Raw.text (Raw.toLower letters)
  if ["", "r", "u", "b", "br", "rb", "f", "fr", "rf"].contains lower then
    some ⟨letters.any fun c => c.toLower = 'r', letters.any fun c => c.toLower = 'b', letters.any fun c => c.toLower = 'f'⟩
  else none

/-- A text up to its closing quotes, as it stands, and the rest; nothing if none close it.  Only three quotes
hold more than a line. -/
def quotedBody (quote : Char) (triple : Bool) : (fuel : Nat) → Text → Text → Option (Text × Text)
  | 0, _, _ => none
  | fuel + 1, taken, r =>
    match r with
    | [] => none
    | '\\' :: c :: rest => quotedBody quote triple fuel (c :: '\\' :: taken) rest
    | c :: rest =>
      if c = quote then
        if triple then
          if rest.take 2 = [quote, quote] then some (taken.reverse, rest.drop 2)
          else quotedBody quote triple fuel (c :: taken) rest
        else some (taken.reverse, rest)
      else if c = '\n' && !triple then none
      else quotedBody quote triple fuel (c :: taken) rest

/-- A number at the start of a text, and the rest. -/
def numberText (r : Text) : Token × Text :=
  let digitsOf (test : Char → Bool) (t : Text) : Text × Text :=
    let taken := t.takeWhile fun c => test c || c = '_'
    (taken.filter (· != '_'), t.drop taken.length)
  match r with
  | '0' :: letter :: more =>
    let based (base : Nat) (test : Char → Bool) : Token × Text :=
      let (ds, rest) := digitsOf test more
      (.int (Raw.valueIn base ds), rest)
    match letter.toLower with
    | 'x' => based 16 Raw.isHex
    | 'o' => based 8 Raw.isOctal
    | 'b' => based 2 fun c => c = '0' || c = '1'
    | _ => decimal digitsOf r
  | r => decimal digitsOf r
where
  /-- A number in base ten, with or without a fraction. -/
  decimal (digitsOf : (Char → Bool) → Text → Text × Text) (r : Text) : Token × Text :=
    let (whole, rest) := digitsOf Char.isDigit r
    let (point, fraction, rest) : Bool × Text × Text := match rest with
      | '.' :: more =>
        let (ds, rest) := digitsOf Char.isDigit more
        (true, ds, rest)
      | rest => (false, [], rest)
    let (exponent, rest) : Option Int × Text := match rest with
      | e :: more =>
        if e != 'e' && e != 'E' then (none, rest)
        else
          let (negative, ds) := match more with
            | '-' :: ds => (true, ds)
            | '+' :: ds => (false, ds)
            | ds => (false, ds)
          let digits := ds.takeWhile Char.isDigit
          if digits.isEmpty then (none, rest)
          else
            let n : Int := min (Raw.valueIn 10 digits) 9999
            (some (if negative then -n else n), ds.drop digits.length)
      | [] => (none, [])
    if !point && exponent.isNone then (.int (Raw.valueIn 10 whole), rest)
    else
      let places : Int := exponent.getD 0 - fraction.length
      let m := Raw.valueIn 10 (whole ++ fraction)
      (.real (Float.ofScientific m (places < 0) places.natAbs), rest)

/-- Where the division of a text into parts is. -/
structure Cutting where
  rest : Text
  line : Nat
  column : Nat
  /-- The open brackets with their places, the innermost first. -/
  brackets : List (Char × Nat × Nat)
  /-- The indentations of the blocks that are open, the innermost first. -/
  indents : List Nat
  /-- The parts so far, the last first. -/
  found : List Placed

namespace Cutting

/-- A part that is so many columns wide and takes so many characters. -/
def put (c : Cutting) (t : Token) (width : Nat) : Cutting :=
  { c with found := ⟨t, c.line, c.column, width⟩ :: c.found, rest := c.rest.drop width, column := c.column + width }

/-- A part without a width. -/
def mark (c : Cutting) (t : Token) : Cutting :=
  { c with found := ⟨t, c.line, c.column, 0⟩ :: c.found }

/-- A fault at the place. -/
def fault (c : Cutting) (message : String) (width : Nat) : Fault :=
  ⟨"SyntaxError", message, c.line, .range c.column width⟩

/-- Whether the next part begins a line. -/
def atStart (c : Cutting) : Bool :=
  match c.found with
  | [] => true
  | t :: _ => t.token == .newline || t.token == .dedent

/-- Ends blocks that are indented more than so many columns. -/
def outdented (c : Cutting) (depth : Nat) : Cutting :=
  let closed := c.indents.takeWhile (· > depth)
  { c with
    indents := c.indents.drop closed.length
    found := closed.map (fun _ => ⟨.dedent, c.line, c.column, 0⟩) ++ c.found }

/-- What closes a bracket. -/
def closing (c : Char) : Char :=
  match c with
  | '(' => ')'
  | '[' => ']'
  | _ => '\x7d'

/-- A text in quotes after some letters. -/
def quoted (c : Cutting) (letters : Nat) (q : Quoting) (quote : Char) : Except Fault Cutting :=
  let after := c.rest.drop (letters + 1)
  let triple := after.take 2 = [quote, quote]
  let body := if triple then after.drop 2 else after
  match quotedBody quote triple (body.length + 1) [] body with
  | none =>
    if triple then
      let lines := (c.rest.filter (· == '\n')).length
      .error (c.fault s!"unterminated triple-quoted string literal (detected at line {c.line + lines})" 1)
    else .error (c.fault s!"unterminated string literal (detected at line {c.line})" 1)
  | some (inner, rest) =>
    let t : Token :=
      if q.joined then .joined q.verbatim inner
      else if q.octets then
        .octets (if q.verbatim then inner else (unescaped false (inner.length + 1) inner).map fun ch => Char.ofNat (ch.toNat % 256))
      else .text (if q.verbatim then inner else unescaped true (inner.length + 1) inner)
    let width := c.rest.length - rest.length
    let taken := c.rest.take width
    let breaks := (taken.filter (· == '\n')).length
    let column := if breaks = 0 then c.column + width else (taken.reverse.takeWhile (· != '\n')).length
    .ok { c with
      found := ⟨t, c.line, c.column, width⟩ :: c.found
      rest := rest
      line := c.line + breaks
      column := column }

/-- Takes the next part, or passes over what is none; nothing is left at the end. -/
def next (c : Cutting) : Except Fault Cutting :=
  if c.atStart && c.brackets.isEmpty && c.column = 0 && !c.rest.isEmpty then
    let blanks := c.rest.takeWhile fun ch => ch = ' ' || ch = '\t' || ch = '\x0c'
    let depth := blanks.foldl (fun n ch => if ch = '\t' then (n / 8 + 1) * 8 else n + 1) 0
    let after := c.rest.drop blanks.length
    let c := { c with rest := after, column := blanks.length }
    match after with
    | [] => .ok c
    | '\n' :: rest => .ok { c with rest := rest, line := c.line + 1, column := 0 }
    | '#' :: rest =>
      let left := rest.dropWhile (· != '\n')
      .ok { c with rest := left.drop 1, line := c.line + 1, column := 0 }
    | _ =>
      let here := c.indents.headD 0
      if depth > here then beyond { c.mark .indent with indents := depth :: c.indents }
      else if depth < here then
        let c := c.outdented depth
        if c.indents.headD 0 = depth then beyond c
        else .error ⟨"IndentationError", "unindent does not match any outer indentation level", c.line,
            .range (blanks ++ after.takeWhile (· != '\n')).length 0⟩
      else beyond c
  else beyond c
where
  /-- Takes a part that does not begin a line. -/
  beyond (c : Cutting) : Except Fault Cutting :=
    match c.rest with
    | [] => .ok c
    | '\\' :: '\n' :: rest => .ok { c with rest := rest, line := c.line + 1, column := 0 }
    | '\\' :: _ => .error (c.fault "unexpected character after line continuation character" 1)
    | '\n' :: rest =>
      let c := if c.brackets.isEmpty then c.mark .newline else c
      .ok { c with rest := rest, line := c.line + 1, column := 0 }
    | ch :: rest =>
      if ch = ' ' || ch = '\t' || ch = '\x0c' || ch = '\r' then .ok { c with rest := rest, column := c.column + 1 }
      else if ch = '#' then
        let left := rest.dropWhile (· != '\n')
        .ok { c with rest := left, column := c.column + (c.rest.length - left.length) }
      else if ch.isDigit || (ch = '.' && (rest.head?).any Char.isDigit) then
        let (t, left) := numberText c.rest
        let width := c.rest.length - left.length
        if (left.head?).any isNameChar then
          .error { c.fault "invalid decimal literal" 1 with spot := .range (c.column + width - 1) 1 }
        else .ok (c.put t width)
      else if ch = '"' || ch = '\'' then c.quoted 0 ⟨false, false, false⟩ ch
      else if isNameChar ch then
        let word := c.rest.takeWhile isNameChar
        let left := c.rest.drop word.length
        match left.head?, quoting? word with
        | some quote, some q =>
          if quote = '"' || quote = '\'' then c.quoted word.length q quote else .ok (c.put (.name word) word.length)
        | _, _ => .ok (c.put (.name word) word.length)
      else
        match signs.find? fun s => s.toList.isPrefixOf c.rest with
        | none => .error (c.fault "invalid syntax" 1)
        | some s =>
          let placed := c.put (.sign s) s.length
          if ch = '(' || ch = '[' || ch = '\x7b' then .ok { placed with brackets := (ch, c.line, c.column) :: c.brackets }
          else if ch = ')' || ch = ']' || ch = '\x7d' then
            match c.brackets with
            | [] => .error (c.fault ("unmatched '" ++ String.singleton ch ++ "'") 1)
            | (opened, line, _) :: more =>
              if closing opened = ch then .ok { placed with brackets := more }
              else
                let elsewhere := if line = c.line then "" else s!" on line {line}"
                .error (c.fault ("closing parenthesis '" ++ String.singleton ch ++ "' does not match opening parenthesis '" ++
                  String.singleton opened ++ "'" ++ elsewhere) 1)
          else .ok placed

/-- Takes all parts; at most `fuel` of them.  A fault comes with the parts before it. -/
def all : (fuel : Nat) → Cutting → Cutting × Option Fault
  | 0, c => (c, none)
  | fuel + 1, c =>
    if c.rest.isEmpty then (c, none)
    else match c.next with
      | .ok c => all fuel c
      | .error f => (c, some f)

end Cutting

/-- The parts of a text, and what is wrong after the last of them. -/
def tokens (t : Text) : List Placed × Option Fault :=
  let (c, fault) := Cutting.all (2 * t.length + 10) ⟨t, 1, 0, [], [0], []⟩
  match fault with
  | some f => (c.found.reverse, some f)
  | none =>
    match c.brackets with
    | (opened, line, column) :: _ =>
      (c.found.reverse, some ⟨"SyntaxError", "'" ++ String.singleton opened ++ "' was never closed", line, .range column 1⟩)
    | [] =>
      let c := if c.found.isEmpty || c.atStart then c else c.mark .newline
      let c := { c with line := if c.column = 0 then c.line else c.line + 1, column := 0 }
      ((c.outdented 0).mark .finish |>.found.reverse, none)

end RunMeter.Machine.Python
