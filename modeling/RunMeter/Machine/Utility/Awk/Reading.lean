import RunMeter.Machine.Utility.Awk.Program

/-!
# RunMeter.Machine.Utility.Awk.Reading — awk programs as they are written

* `tokens`: the parts of a text.
* `Program.ofText`: reads a program.

Nothing that is proved depends on this module.
-/

namespace RunMeter.Machine.Awk

/-! ## Parts of a text -/

/-- A part of a text. -/
inductive Token where
  | number (value : Float)
  | text (value : Raw)
  | pattern (text : Raw)
  | name (name : Raw)
  /-- A name right before an opening parenthesis. -/
  | functionName (name : Raw)
  | builtin (name : Raw)
  | keyword (name : Raw)
  | sign (s : String)
  | newline
  deriving BEq

/-- A part of a text and the line it is on. -/
structure Placed where
  token : Token
  line : Nat

/-- What is wrong with a program. -/
structure Fault where
  message : Raw

/-- A fault on a line. -/
def Fault.at (line : Nat) (message : Raw) : Fault := ⟨Raw.ofText s!"line {line}: " ++ message⟩

/-- The words with a meaning of their own. -/
def keywords : List String :=
  ["BEGIN", "END", "if", "else", "while", "do", "for", "in", "break", "continue", "next", "nextfile", "exit", "return",
   "delete", "function", "print", "printf", "getline"]

/-- The functions that are always there. -/
def builtins : List String :=
  ["length", "substr", "index", "split", "sub", "gsub", "match", "sprintf", "sin", "cos", "atan2", "exp", "log", "sqrt",
   "int", "rand", "srand", "tolower", "toupper", "system", "close", "fflush", "systime", "strftime", "mktime"]

/-- The signs, longer ones before those they begin with. -/
def signs : List String :=
  ["&&", "||", "++", "--", "+=", "-=", "*=", "/=", "%=", "^=", "==", "<=", ">=", "!=", "!~", ">>", "\x7b", "\x7d", "(",
   ")", "[", "]", ";", ",", "+", "-", "*", "/", "%", "^", "!", ">", "<", "|", "?", ":", "~", "$", "="]

/-- Whether a slash after a part divides, and does not begin an expression. -/
def endsOperand : Option Token → Bool
  | some (.number _) | some (.text _) | some (.pattern _) | some (.name _) | some (.builtin _) => true
  | some (.sign s) => s == ")" || s == "]" || s == "++" || s == "--" || s == "$"
  | _ => false

/-- A text in quotes from after the first quote, as it stands, and the rest; nothing if no quote ends it. -/
def quotedText : (fuel : Nat) → Raw → Option (Raw × Raw)
  | 0, _ => none
  | fuel + 1, r =>
    match r with
    | [] => none
    | '\n' :: _ => none
    | '"' :: rest => some ([], rest)
    | '\\' :: '\n' :: rest => quotedText fuel rest
    | '\\' :: c :: rest => (quotedText fuel rest).map fun (t, after) => ('\\' :: c :: t, after)
    | c :: rest => (quotedText fuel rest).map fun (t, after) => (c :: t, after)

/-- A text with its escapes replaced by what they mean. -/
def unescaped : (fuel : Nat) → Raw → Raw
  | 0, r => r
  | _, [] => []
  | fuel + 1, '\\' :: c :: rest =>
    match "\"\\/abfnrtv".toList.findIdx? (· == c) with
    | some 2 => '\\' :: '/' :: unescaped fuel rest
    | some i => "\"\\/\x07\x08\x0c\n\r\t\x0b".toList.getD i c :: unescaped fuel rest
    | none =>
      if Raw.isOctal c then
        let ds := ((c :: rest).take 3).takeWhile Raw.isOctal
        Char.ofNat (Raw.valueIn 8 ds % 256) :: unescaped fuel ((c :: rest).drop ds.length)
      else if c = 'x' && (rest.head?).any Raw.isHex then
        let ds := (rest.take 2).takeWhile Raw.isHex
        Char.ofNat (Raw.valueIn 16 ds % 256) :: unescaped fuel (rest.drop ds.length)
      else '\\' :: c :: unescaped fuel rest
  | fuel + 1, c :: rest => c :: unescaped fuel rest

/-- An expression from after its first slash, and the rest; nothing if no slash ends it. -/
def patternText : (fuel : Nat) → (inSet : Bool) → Raw → Option (Raw × Raw)
  | 0, _, _ => none
  | fuel + 1, inSet, r =>
    match r with
    | [] | '\n' :: _ => none
    | '/' :: rest =>
      if inSet then (patternText fuel inSet rest).map fun (t, after) => ('/' :: t, after) else some ([], rest)
    | '\\' :: '/' :: rest => (patternText fuel inSet rest).map fun (t, after) => ('/' :: t, after)
    | '\\' :: c :: rest => (patternText fuel inSet rest).map fun (t, after) => ('\\' :: c :: t, after)
    | '[' :: '^' :: ']' :: rest => (patternText fuel true rest).map fun (t, after) => ("[^]".toList ++ t, after)
    | '[' :: ']' :: rest => (patternText fuel true rest).map fun (t, after) => ("[]".toList ++ t, after)
    | c :: rest =>
      let inSet := if c = '[' then true else if c = ']' then false else inSet
      (patternText fuel inSet rest).map fun (t, after) => (c :: t, after)

/-- A number at the start of a text, and the rest. -/
def numberText (r : Raw) : Float × Raw :=
  let whole := r.takeWhile Char.isDigit
  let rest := r.drop whole.length
  let (fraction, rest) : Raw × Raw := match rest with
    | '.' :: more =>
      let ds := more.takeWhile Char.isDigit
      (ds, more.drop ds.length)
    | rest => ([], rest)
  let (exponent, rest) : Int × Raw := match rest with
    | e :: more =>
      if e != 'e' && e != 'E' then (0, rest)
      else
        let (negative, ds) := match more with
          | '-' :: ds => (true, ds)
          | '+' :: ds => (false, ds)
          | ds => (false, ds)
        let digits := ds.takeWhile Char.isDigit
        if digits.isEmpty then (0, rest)
        else
          let n : Int := min (Raw.valueIn 10 digits) 9999
          (if negative then -n else n, ds.drop digits.length)
    | [] => (0, [])
  let places : Int := exponent - fraction.length
  let m := Raw.valueIn 10 (whole ++ fraction)
  (if places < 0 then Float.ofScientific m true places.natAbs else Float.ofScientific m false places.natAbs, rest)

/-- The parts of a text. -/
def tokens : (fuel : Nat) → (line : Nat) → (before : Option Token) → Raw → Except Fault (List Placed)
  | 0, _, _, _ => .ok []
  | _, line, _, [] => .ok [⟨.newline, line⟩]
  | fuel + 1, line, before, c :: rest => do
    let on (t : Token) (after : Raw) : Except Fault (List Placed) := do
      return ⟨t, line⟩ :: (← tokens fuel line (some t) after)
    if c = '\n' then return ⟨.newline, line⟩ :: (← tokens fuel (line + 1) (some .newline) rest)
    else if Raw.isSpace c then tokens fuel line before rest
    else if c = '#' then tokens fuel line before (rest.dropWhile (· != '\n'))
    else if c = '\\' && rest.head? = some '\n' then tokens fuel (line + 1) before (rest.drop 1)
    else if c.isDigit || (c = '.' && (rest.head?).any Char.isDigit) then
      let (n, after) := numberText (c :: rest)
      on (.number n) after
    else if c.isAlpha || c = '_' then
      let word := (c :: rest).takeWhile fun ch => ch.isAlphanum || ch = '_'
      let after := (c :: rest).drop word.length
      let s := Raw.text word
      let t : Token :=
        if s == "func" then .keyword "function".toList
        else if keywords.contains s then .keyword word
        else if builtins.contains s then .builtin word
        else if after.head? = some '(' then .functionName word
        else .name word
      on t after
    else if c = '"' then
      match quotedText (rest.length + 1) rest with
      | some (text, after) =>
        return ⟨.text (unescaped (text.length + 1) text), line⟩ ::
          (← tokens fuel (line + ((rest.take (rest.length - after.length)).filter (· == '\n')).length) (some (.text [])) after)
      | none => .error (.at line (Raw.ofText "runaway string constant \"" ++ (rest.takeWhile (· != '\n')).take 10 ++
          Raw.ofText " ..."))
    else if c = '/' && !endsOperand before then
      match patternText (rest.length + 1) false rest with
      | some (text, after) => on (.pattern text) after
      | none => .error (.at line (Raw.ofText "runaway regular expression /" ++ (rest.takeWhile (· != '\n')).take 10 ++
          Raw.ofText " ..."))
    else
      match signs.find? fun s => s.toList.isPrefixOf (c :: rest) with
      | some s => on (.sign s) ((c :: rest).drop s.length)
      | none => .error ⟨Raw.ofText s!"{line}: unexpected character '" ++ [c, '\'']⟩

/-! ## Reading -/

/-- Where reading is. -/
structure Place where
  left : List Placed
  /-- How many braces and parentheses are open. -/
  braces : Nat
  parens : Nat
  loops : Nat
  inFunction : Bool
  inRule : Bool

/-- A part of reading. -/
abbrev Reader := StateT Place (Except Fault)

namespace Reader

/-- The next part. -/
def peek : Reader (Option Token) := return ((← get).left.head?).map Placed.token

/-- The line of the next part. -/
def line : Reader Nat := return (((← get).left.head?).map Placed.line).getD 1

/-- Ends reading with a fault. -/
def fail {α : Type} (message : Raw) : Reader α := do
  throw (.at (← line) message)

/-- Takes the next part. -/
def advance : Reader Unit := modify fun p => { p with left := p.left.drop 1 }

/-- How a part is written in a message. -/
def shown : Token → Raw
  | .number f => (toString f).toList
  | .text r => '"' :: r ++ ['"']
  | .pattern r => '/' :: r ++ ['/']
  | .name r | .functionName r | .builtin r | .keyword r => r
  | .sign s => s.toList
  | .newline => Raw.ofText "end of line"

/-- Ends reading where nothing fits. -/
def unexpected {α : Type} : Reader α := do
  let p ← get
  match p.left with
  | [] => throw (.at 2 (Raw.ofText "missing \x7d near end of file"))
  | [last] =>
    if p.braces > 0 then throw (.at (last.line + 1) (Raw.ofText "missing \x7d near end of file"))
    else fail (Raw.ofText "syntax error at or near end of line")
  | t :: _ =>
    if p.parens > 0 && t.token == .sign "\x7d" then fail (Raw.ofText "missing ) near \x7d")
    else if p.parens = 0 && t.token == .sign ")" then fail (Raw.ofText "extra ')'")
    else if p.braces = 0 && t.token == .sign "\x7d" then fail (Raw.ofText "extra '\x7d'")
    else fail (Raw.ofText "syntax error at or near " ++ shown t.token)

/-- Whether the next part is a sign. -/
def atSign (s : String) : Reader Bool := return (← peek) == some (.sign s)

/-- Whether the next part is a keyword. -/
def atKeyword (s : String) : Reader Bool := return (← peek) == some (.keyword s.toList)

/-- Takes a sign if it is the next part. -/
def takes (s : String) : Reader Bool := do
  if ← atSign s then
    advance
    return true
  else return false

/-- Takes a sign. -/
def expect (s : String) : Reader Unit := do
  if !(← takes s) then unexpected

/-- Leaves out ends of lines, at most `fuel`. -/
def skipLines : (fuel : Nat) → Reader Unit
  | 0 => return
  | fuel + 1 => do
    match (← get).left with
    | ⟨.newline, _⟩ :: _ :: _ =>
      advance
      skipLines fuel
    | _ => return

/-- As many as there are parts. -/
def bound : Reader Nat := return (← get).left.length + 1

/-- Leaves out ends of lines. -/
def skip : Reader Unit := do skipLines (← bound)

/-- Does something between parentheses. -/
def parenthesized {α : Type} (body : Reader α) : Reader α := do
  expect "("
  modify fun p => { p with parens := p.parens + 1 }
  let x ← body
  expect ")"
  modify fun p => { p with parens := p.parens - 1 }
  return x

end Reader

open Reader

/-- How an expression may be written where it stands. -/
structure Setting where
  /-- Whether a greater sign compares. -/
  greater : Bool
  /-- Whether the word for membership may stand. -/
  membership : Bool

/-- Whether an expression names something that can be given a value. -/
def isTarget : Expr → Bool
  | .name _ | .element .. | .field _ => true
  | _ => false

/-- The arithmetic of a sign that gives a value. -/
def assignment? (s : String) : Option (Option Arithmetic) :=
  match s with
  | "=" => some none
  | "+=" => some (some .add)
  | "-=" => some (some .subtract)
  | "*=" => some (some .multiply)
  | "/=" => some (some .divide)
  | "%=" => some (some .modulo)
  | "^=" => some (some .power)
  | _ => none

/-- The comparison of a sign. -/
def order? (s : String) : Option Order :=
  match s with
  | "<" => some .less
  | "<=" => some .atMost
  | "==" => some .equal
  | "!=" => some .different
  | ">" => some .greater
  | ">=" => some .atLeast
  | _ => none

/-- Whether a part begins an operand, so that a text is joined with it. -/
def beginsOperand : Option Token → Bool
  | some (.number _) | some (.text _) | some (.pattern _) | some (.name _) | some (.functionName _) | some (.builtin _) =>
    true
  | some (.sign s) => ["(", "$", "!", "-", "+", "++", "--"].contains s
  | _ => false

/-- The levels of operators, from those that bind least. -/
inductive Level where
  | assignment
  | choice
  | either
  | both
  | membership
  | matching
  | comparison
  | joining
  | sum
  | product
  | unary
  | power
  | postfixed
  | operand

/-- The list of expressions up to a closing sign. -/
def listed (one : Reader Expr) (closing : String) : (fuel : Nat) → Reader (List Expr)
  | 0 => return []
  | fuel + 1 => do
    skip
    if ← atSign closing then return []
    else
      let e ← one
      skip
      if ← takes "," then return e :: (← listed one closing fuel) else return [e]

/-- What operators make of an operand and those after it, from the left; `next` takes one operator and its operand. -/
def chain (next : Expr → Reader (Option Expr)) : (fuel : Nat) → Expr → Reader Expr
  | 0, a => return a
  | fuel + 1, a => do
    match ← next a with
    | some b => chain next fuel b
    | none => return a

/-- What a record is read into, if that is said. -/
def readTarget (operand : Reader Expr) : Reader (Option Expr) := do
  match ← peek with
  | some (.name _) => return some (← operand)
  | some (.sign "$") => return some (← operand)
  | _ => return none

/-- Reads an expression of a level. -/
def expr : (fuel : Nat) → Setting → Level → Reader Expr
  | 0, _, _ => unexpected
  | fuel + 1, s, .assignment => do
    let a ← expr fuel s .choice
    match ← peek with
    | some (.sign sign) =>
      match assignment? sign with
      | some op =>
        if isTarget a then
          advance
          skip
          return .assign op a (← expr fuel s .assignment)
        else return a
      | none => return a
    | _ => return a
  | fuel + 1, s, .choice => do
    let test ← expr fuel s .either
    if ← takes "?" then
      skip
      let a ← expr fuel s .assignment
      skip
      expect ":"
      skip
      let b ← expr fuel s .assignment
      return .choice test a b
    else return test
  | fuel + 1, s, .either => do
    let a ← expr fuel s .both
    chain (fun a => do
      if ← takes "||" then
        skip
        return some (.either a (← expr fuel s .both))
      else return none) (← bound) a
  | fuel + 1, s, .both => do
    let a ← expr fuel s .membership
    chain (fun a => do
      if ← takes "&&" then
        skip
        return some (.both a (← expr fuel s .membership))
      else return none) (← bound) a
  | fuel + 1, s, .membership => do
    let a ← expr fuel s .matching
    chain (fun a => do
      if s.membership && (← atKeyword "in") then
        advance
        match ← peek with
        | some (.name n) =>
          advance
          return some (.isKey [a] n)
        | _ => unexpected
      else return none) (← bound) a
  | fuel + 1, s, .matching => do
    let a ← expr fuel s .comparison
    chain (fun a => do
      if ← takes "~" then return some (.matches false a (← expr fuel s .comparison))
      else if ← takes "!~" then return some (.matches true a (← expr fuel s .comparison))
      else return none) (← bound) a
  | fuel + 1, s, .comparison => do
    let a ← expr fuel s .joining
    match ← peek with
    | some (.sign sign) =>
      match order? sign with
      | some op =>
        if op = .greater && !s.greater then return a
        else
          advance
          return .compare op a (← expr fuel s .joining)
      | none => return a
    | _ => return a
  | fuel + 1, s, .joining => do
    let a ← expr fuel s .sum
    chain (fun a => do
      let next ← peek
      if next == some (.sign "|") then
        match (← get).left with
        | _ :: ⟨.keyword word, _⟩ :: _ =>
          if word = "getline".toList then
            advance
            advance
            let target ← readTarget (expr fuel s .operand)
            return some (.readCommand target a)
          else return none
        | _ => return none
      else if beginsOperand next && next != some (.sign "-") && next != some (.sign "+") then
        return some (.joined a (← expr fuel s .sum))
      else return none) (← bound) a
  | fuel + 1, s, .sum => do
    let a ← expr fuel s .product
    chain (fun a => do
      if ← takes "+" then return some (.arithmetic .add a (← expr fuel s .product))
      else if ← takes "-" then return some (.arithmetic .subtract a (← expr fuel s .product))
      else return none) (← bound) a
  | fuel + 1, s, .product => do
    let a ← expr fuel s .unary
    chain (fun a => do
      if ← takes "*" then return some (.arithmetic .multiply a (← expr fuel s .unary))
      else if ← takes "/" then return some (.arithmetic .divide a (← expr fuel s .unary))
      else if ← takes "%" then return some (.arithmetic .modulo a (← expr fuel s .unary))
      else return none) (← bound) a
  | fuel + 1, s, .unary => do
    if ← takes "!" then return .not (← expr fuel s .unary)
    else if ← takes "-" then return .negative (← expr fuel s .unary)
    else if ← takes "+" then return .positive (← expr fuel s .unary)
    else expr fuel s .power
  | fuel + 1, s, .power => do
    let a ← expr fuel s .postfixed
    if ← takes "^" then
      if ← takes "-" then return .arithmetic .power a (.negative (← expr fuel s .power))
      else return .arithmetic .power a (← expr fuel s .power)
    else return a
  | fuel + 1, s, .postfixed => do
    let a ← expr fuel s .operand
    if isTarget a then
      if ← takes "++" then return .step true false a
      else if ← takes "--" then return .step false false a
      else return a
    else return a
  | fuel + 1, s, .operand => do
    let whole : Reader Expr := expr fuel ⟨true, true⟩ .assignment
    let arguments : Reader (List Expr) := do
      parenthesized (listed whole ")" (← bound))
    match ← peek with
    | some (.number n) =>
      advance
      return .number n
    | some (.text t) =>
      advance
      return .text t
    | some (.pattern t) =>
      advance
      return .pattern t
    | some (.name n) =>
      advance
      if ← takes "[" then
        let keys ← listed whole "]" (← bound)
        if keys.isEmpty then unexpected
        else
          expect "]"
          return .element n keys
      else return .name n
    | some (.functionName n) =>
      advance
      return .call n (← arguments)
    | some (.builtin n) =>
      advance
      if ← atSign "(" then return .builtin n (← arguments)
      else if Raw.text n == "length" then return .builtin n []
      else unexpected
    | some (.keyword word) =>
      if word = "getline".toList then
        advance
        let target ← readTarget (expr fuel s .operand)
        if ← takes "<" then return .readFile target (← expr fuel s .postfixed) else return .read target
      else unexpected
    | some (.sign sign) =>
      match sign with
      | "$" =>
        advance
        if ← takes "++" then return .field (.step true true (← expr fuel s .operand))
        else if ← takes "--" then return .field (.step false true (← expr fuel s .operand))
        else if ← takes "-" then return .field (.negative (← expr fuel s .operand))
        else return .field (← expr fuel s .operand)
      | "++" =>
        advance
        return .step true true (← expr fuel s .operand)
      | "--" =>
        advance
        return .step false true (← expr fuel s .operand)
      | "(" =>
        let values ← parenthesized (do listed whole ")" (← bound))
        match values with
        | [e] => return .group e
        | [] => unexpected
        | keys =>
          if ← atKeyword "in" then
            advance
            match ← peek with
            | some (.name n) =>
              advance
              return .isKey keys n
            | _ => unexpected
          else unexpected
      | "-" | "+" | "!" => expr fuel s .unary
      | _ => unexpected
    | _ => unexpected

/-! ## Statements -/

/-- As much fuel as expressions among the parts that are left can need. -/
def exprFuel : Reader Nat := return 20 * (← get).left.length + 50

/-- Reads a whole expression. -/
def wholeExpr (s : Setting) : Reader Expr := do expr (← exprFuel) s .assignment

/-- Reads an expression that may stand anywhere. -/
def anyExpr : Reader Expr := wholeExpr ⟨true, true⟩

/-- Whether a statement may end here. -/
def atEnd : Reader Bool := do
  match ← peek with
  | some .newline | none => return true
  | some (.sign s) => return s == ";" || s == "\x7d"
  | _ => return false

/-- Takes the end of a statement. -/
def ended : Reader Unit := do
  match ← peek with
  | some .newline =>
    if (← get).left.length > 1 then advance
  | some (.sign s) => if s == ";" then advance else if s == "\x7d" then return else unexpected
  | none => return
  | _ => unexpected

/-- Whether output is led somewhere here, or a statement ends. -/
def atOutlet : Reader Bool := do
  if ← atEnd then return true
  else return (← atSign ">") || (← atSign ">>") || (← atSign "|")

/-- Reads what is shown. -/
def shownValues : Reader (List Expr) := do
  let plain : Reader (List Expr) := do
    if ← atOutlet then return [] else listed (wholeExpr ⟨false, true⟩) ";" (← bound)
  if ← atSign "(" then
    (do
      let values ← parenthesized (do listed anyExpr ")" (← bound))
      if ← atOutlet then return values else unexpected) <|> plain
  else plain

/-- Reads where output goes. -/
def outlet : Reader Outlet := do
  let place : Reader Expr := do expr (← exprFuel) ⟨false, true⟩ .joining
  if ← takes ">" then return .file (← place)
  else if ← takes ">>" then return .append (← place)
  else if ← takes "|" then return .command (← place)
  else return .standard

/-- Reads a statement that holds no others. -/
def simple : Reader Statement := do
  if ← atKeyword "print" then
    advance
    let values ← shownValues
    return .print values (← outlet)
  else if ← atKeyword "printf" then
    advance
    let values ← shownValues
    if values.isEmpty then fail (Raw.ofText "no arguments in call to printf") else return .printf values (← outlet)
  else if ← atKeyword "delete" then
    advance
    match ← peek with
    | some (.name n) =>
      advance
      if ← takes "[" then
        let keys ← listed anyExpr "]" (← bound)
        expect "]"
        return .delete n (some keys)
      else return .delete n none
    | _ => unexpected
  else return .value (← anyExpr)

/-- Reads a statement. -/
def statement : (fuel : Nat) → Reader Statement
  | 0 => unexpected
  | fuel + 1 => do
    let inLoop {α : Type} (body : Reader α) : Reader α := do
      modify fun p => { p with loops := p.loops + 1 }
      let x ← body
      modify fun p => { p with loops := p.loops - 1 }
      return x
    let inner : Reader (List Statement) := do
      skip
      if ← atSign "\x7d" then return [] else return [← statement fuel]
    let rec block : (count : Nat) → Reader (List Statement)
      | 0 => return []
      | count + 1 => do
        skip
        if ← takes "\x7d" then return []
        else
          let first ← statement fuel
          return first :: (← block count)
    skip
    match ← peek with
    | some (.sign "\x7b") =>
      advance
      modify fun p => { p with braces := p.braces + 1 }
      let body ← block (← bound)
      modify fun p => { p with braces := p.braces - 1 }
      return .block body
    | some (.sign ";") =>
      advance
      return .block []
    | some (.keyword word) =>
      match Raw.text word with
      | "if" =>
        advance
        let test ← parenthesized anyExpr
        let yes ← inner
        let before ← get
        skip
        if ← takes ";" then skip
        if ← atKeyword "else" then
          advance
          return .choice test yes (← inner)
        else
          set before
          return .choice test yes []
      | "while" =>
        advance
        let test ← parenthesized anyExpr
        if ← takes ";" then return .loop test [] else return .loop test (← inLoop inner)
      | "do" =>
        advance
        let body ← inLoop inner
        skip
        if ← takes ";" then skip
        if ← atKeyword "while" then
          advance
          let test ← parenthesized anyExpr
          ended
          return .loopAfter body test
        else unexpected
      | "for" =>
        advance
        expect "("
        modify fun p => { p with parens := p.parens + 1 }
        let closed : Reader Unit := do
          expect ")"
          modify fun p => { p with parens := p.parens - 1 }
        match (← get).left with
        | ⟨.name key, _⟩ :: ⟨.keyword i, _⟩ :: ⟨.name n, _⟩ :: ⟨.sign ")", _⟩ :: _ =>
          if i = "in".toList then
            advance
            advance
            advance
            closed
            return .each key n (← inLoop inner)
          else unexpected
        | _ =>
          let first ← if ← atSign ";" then pure none else some <$> simple
          expect ";"
          skip
          let test ← if ← atSign ";" then pure none else some <$> anyExpr
          expect ";"
          skip
          let step ← if ← atSign ")" then pure none else some <$> simple
          closed
          if ← takes ";" then return .count first test step []
          else return .count first test step (← inLoop inner)
      | "break" =>
        if (← get).loops = 0 then fail (Raw.ofText "break statement outside of loop")
        advance
        ended
        return .leave
      | "continue" =>
        if (← get).loops = 0 then fail (Raw.ofText "continue statement outside of loop")
        advance
        ended
        return .again
      | "next" =>
        if !(← get).inRule then fail (Raw.ofText "improper use of next")
        advance
        ended
        return .next
      | "nextfile" =>
        advance
        ended
        return .nextFile
      | "exit" =>
        advance
        let code ← if ← atEnd then pure none else some <$> anyExpr
        ended
        return .exit code
      | "return" =>
        if !(← get).inFunction then fail (Raw.ofText "return outside function body")
        advance
        let value ← if ← atEnd then pure none else some <$> anyExpr
        ended
        return .give value
      | _ =>
        let s ← simple
        ended
        return s
    | _ =>
      let s ← simple
      ended
      return s

/-- Reads the action of a rule or the body of a function. -/
def body : Reader (List Statement) := do
  match ← statement (4 * (← bound) + 8) with
  | .block b => return b
  | s => return [s]

/-- Names up to a closing parenthesis. -/
def parameterNames : (fuel : Nat) → Reader (List Raw)
  | 0 => return []
  | fuel + 1 => do
    skip
    match ← peek with
    | some (.name n) =>
      advance
      skip
      if ← takes "," then return n :: (← parameterNames fuel) else return [n]
    | _ => return []

/-- Reads rules and functions. -/
def items : (fuel : Nat) → Program → Reader Program
  | 0, p => return p
  | fuel + 1, p => do
    skip
    if ← takes ";" then items fuel p
    else match (← get).left with
      | [] | [⟨.newline, _⟩] => return p
      | _ =>
        let setting (isRule isFunction : Bool) : Reader Unit :=
          modify fun s => { s with inRule := isRule, inFunction := isFunction }
        let on (r : Rule) : Reader Program := items fuel { p with rules := p.rules ++ [r] }
        match ← peek with
        | some (.keyword word) =>
          match Raw.text word with
          | "BEGIN" =>
            advance
            setting false false
            if ← atSign "\x7b" then on ⟨.start, some (← body)⟩ else unexpected
          | "END" =>
            advance
            setting false false
            if ← atSign "\x7b" then on ⟨.finish, some (← body)⟩ else unexpected
          | "function" =>
            advance
            setting true true
            match ← peek with
            | some (.functionName n) | some (.name n) =>
              advance
              let names ← parenthesized (do parameterNames (← bound))
              skip
              if ← atSign "\x7b" then
                let b ← body
                items fuel { p with functions := p.functions ++ [⟨n, names, b⟩] }
              else unexpected
            | _ => unexpected
          | _ => unexpected
        | some (.sign "\x7b") =>
          setting true false
          on ⟨.always, some (← body)⟩
        | _ => do
          setting true false
          let first ← anyExpr
          let occasion ← if ← takes "," then
              skip
              pure (Occasion.between first (← anyExpr))
            else pure (Occasion.when first)
          if ← atSign "\x7b" then on ⟨occasion, some (← body)⟩
          else
            ended
            on ⟨occasion, none⟩

/-- The functions that are called and not there, with the lines where they are. -/
def missing (p : Program) : List Placed → List (Raw × Nat)
  | ⟨.functionName n, line⟩ :: rest =>
    (if p.functions.any fun f => f.name = n then [] else [(n, line)]) ++ missing p rest
  | _ :: rest => missing p rest
  | [] => []

/-- Reads a program. -/
def Program.ofText (text : Raw) : Except Fault Program := do
  let ts ← tokens (text.length + 2) 1 none text
  let (p, _) ← (items (ts.length + 1) ⟨[], []⟩).run ⟨ts, 0, 0, 0, false, false⟩
  match missing p ts with
  | [] => return p
  | (n, _) :: _ => throw (.at (((ts.getLast?).map Placed.line).getD 1 + 1)
      (Raw.ofText "function " ++ n ++ Raw.ofText " never defined"))

end RunMeter.Machine.Awk
