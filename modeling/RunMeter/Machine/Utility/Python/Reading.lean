import RunMeter.Machine.Utility.Python.Token

/-!
# RunMeter.Machine.Utility.Python.Reading — Python programs as they are written

* `linesOf`: the lines of a program, or what is wrong with it.
* `exprOf`: an expression by itself.

Nothing that is proved depends on this module.
-/

namespace RunMeter.Machine.Python

/-- Where reading is. -/
structure Place where
  left : List Placed
  /-- The names that the function at hand binds. -/
  bound : List Text
  /-- The names that belong to others than the function at hand. -/
  foreign : List Text
  inFunction : Bool
  inLoop : Bool
  /-- Whether the function at hand gives values one after another. -/
  yields : Bool

/-- A part of reading. -/
abbrev Reader := StateT Place (Except Fault)

namespace Reader

/-- What stands where nothing is left. -/
def nowhere : Placed := ⟨.finish, 0, 0, 0⟩

/-- The next part and its place. -/
def here : Reader Placed := return (← get).left.headD nowhere

/-- The next part. -/
def peek : Reader Token := return (← here).token

/-- Takes the next part. -/
def advance : Reader Unit := modify fun p => { p with left := p.left.drop 1 }

/-- Ends reading with a fault at the next part. -/
def fail {α : Type} (message : String) : Reader α := do
  let p ← here
  throw ⟨"SyntaxError", message, p.line, .range p.column (max p.width 1)⟩

/-- Ends reading where nothing fits. -/
def unexpected {α : Type} : Reader α := do
  let p ← here
  match p.token with
  | .indent => throw ⟨"IndentationError", "unexpected indent", p.line, .line⟩
  | _ => fail "invalid syntax"

/-- Whether the next part is a sign. -/
def atSign (s : String) : Reader Bool := return (← peek) == .sign s

/-- Whether a part is a word. -/
def isWord (w : String) : Token → Bool
  | .name n => n == w.toList
  | _ => false

/-- Whether the next part is a word. -/
def atWord (w : String) : Reader Bool := return isWord w (← peek)

/-- Takes a sign if it is the next part. -/
def takes (s : String) : Reader Bool := do
  if ← atSign s then
    advance
    return true
  else return false

/-- Takes a word if it is the next part. -/
def takesWord (w : String) : Reader Bool := do
  if ← atWord w then
    advance
    return true
  else return false

/-- Takes a sign. -/
def expect (s : String) : Reader Unit := do
  if !(← takes s) then
    if s == ":" then fail "expected ':'" else unexpected

/-- Takes a word. -/
def expectWord (w : String) : Reader Unit := do
  if !(← takesWord w) then unexpected

/-- Takes a name that is no keyword. -/
def identifier : Reader Text := do
  match ← peek with
  | .name n =>
    if keywords.contains (Raw.text n) then unexpected
    else
      advance
      return n
  | _ => unexpected

/-- As many as there are parts. -/
def bound : Reader Nat := return (← get).left.length + 1

/-- Notes that the function at hand binds a name. -/
def binds (n : Text) : Reader Unit :=
  modify fun p => if p.bound.contains n then p else { p with bound := n :: p.bound }

/-- What operators make of an operand and those after it, from the left; `next` takes one operator and its operand. -/
def chain {α : Type} (next : α → Reader (Option α)) : (fuel : Nat) → α → Reader α
  | 0, a => return a
  | fuel + 1, a => do
    match ← next a with
    | some b => chain next fuel b
    | none => return a

/-- Items with commas between them, up to a closing sign; a comma may stand after the last. -/
def listed {α : Type} (one : Reader α) (closing : String) : (fuel : Nat) → Reader (List α)
  | 0 => return []
  | fuel + 1 => do
    if ← takes closing then return []
    else
      let x ← one
      if ← takes "," then return x :: (← listed one closing fuel)
      else
        expect closing
        return [x]

/-- A name with points in it. -/
def dotted : Reader Text := do
  let first ← identifier
  chain (fun n => do
    if ← takes "." then return some (n ++ '.' :: (← identifier)) else return none) (← bound) first

end Reader

open Reader

/-- The levels of operators of two values, from those that bind least. -/
def levels : List (List Operator) :=
  [[.bitOr], [.bitXor], [.bitAnd], [.shiftLeft, .shiftRight], [.add, .subtract],
   [.multiply, .divide, .divideDown, .modulo, .matrix]]

/-- The operator of a sign that gives a changed value. -/
def update? (s : String) : Option Operator :=
  [Operator.add, .subtract, .multiply, .divide, .divideDown, .modulo, .power, .matrix, .shiftLeft, .shiftRight, .bitAnd,
   .bitOr, .bitXor].find? fun op => op.sign ++ "=" == s

/-- Takes a comparison. -/
def comparison? : Reader (Option Comparison) := do
  let p ← get
  match p.left with
  | ⟨.sign s, _, _, _⟩ :: _ =>
    let found : Option Comparison := match s with
      | "==" => some .equal
      | "!=" => some .different
      | "<" => some .less
      | "<=" => some .atMost
      | ">" => some .greater
      | ">=" => some .atLeast
      | _ => none
    if found.isSome then advance
    return found
  | ⟨.name w, _, _, _⟩ :: rest =>
    match Raw.text w with
    | "in" =>
      advance
      return some .among
    | "is" =>
      advance
      return some (if ← takesWord "not" then .notSame else .same)
    | "not" =>
      if (rest.head?).any fun t => isWord "in" t.token then
        advance
        advance
        return some .notAmong
      else return none
    | _ => return none
  | _ => return none

/-- Notes the names that a target binds. -/
def bindTarget : (fuel : Nat) → Expr → Reader Unit
  | 0, _ => return
  | fuel + 1, e => do
    match e with
    | .name n => binds n
    | .tuple items | .list items => items.forM (bindTarget fuel)
    | .starred e => bindTarget fuel e
    | _ => return

/-- What a value that can not be assigned to is called. -/
def unassignable? : Expr → Option String
  | .constant (.truth true) => some "True"
  | .constant (.truth false) => some "False"
  | .constant .nothing => some "None"
  | .constant .ellipsis => some "ellipsis"
  | .constant _ => some "literal"
  | .call .. => some "function call"
  | .arithmetic .. | .prefixed .. | .both .. | .either .. | .not .. => some "expression"
  | .compare .. => some "comparison"
  | .function .. => some "lambda"
  | .choice .. => some "conditional expression"
  | .joined .. => some "f-string expression"
  | .collect .. => some "comprehension"
  | .dict .. => some "dict literal"
  | .set .. => some "set display"
  | _ => none

/-- The end of an expression inside a text: where its conversion, its format or its closing brace begins. -/
def innerEnd : (fuel : Nat) → (depth : Nat) → (quote : Option Char) → Text → Nat
  | 0, _, _, _ => 0
  | _, _, _, [] => 0
  | fuel + 1, depth, some q, c :: rest => 1 + innerEnd fuel depth (if c = q then none else some q) rest
  | fuel + 1, depth, none, c :: rest =>
    if c = '"' || c = '\'' then 1 + innerEnd fuel depth (some c) rest
    else if c = '(' || c = '[' || c = '\x7b' then 1 + innerEnd fuel (depth + 1) none rest
    else if depth > 0 && (c = ')' || c = ']' || c = '\x7d') then 1 + innerEnd fuel (depth - 1) none rest
    else if depth = 0 && c = '!' && rest.head? = some '=' then 2 + innerEnd fuel depth none (rest.drop 1)
    else if depth = 0 && (c = '\x7d' || c = ':' || c = '!') then 0
    else if depth = 0 && (c = '=' || c = '<' || c = '>') && rest.head? = some '=' then 2 + innerEnd fuel depth none (rest.drop 1)
    else 1 + innerEnd fuel depth none rest

/-- The characters before the next brace that stands by itself, and the rest with that brace. -/
def plainPart (nested : Bool) : (fuel : Nat) → Text → Text × Text
  | 0, t => ([], t)
  | _, [] => ([], [])
  | fuel + 1, c :: rest =>
    if c = '\x7b' || c = '\x7d' then
      if rest.head? = some c && !nested then
        let (more, left) := plainPart nested fuel (rest.drop 1)
        (c :: more, left)
      else ([], c :: rest)
    else
      let (more, left) := plainPart nested fuel rest
      (c :: more, left)

mutual

/-- Reads an expression that may be a choice or a function. -/
def test : (fuel : Nat) → Reader Expr
  | 0 => unexpected
  | fuel + 1 => do
    if ← takesWord "yield" then
      modify fun p => { p with yields := true }
      if ← takesWord "from" then return .yielded true (some (← test fuel))
      else match ← peek with
        | .newline | .finish | .sign ")" | .sign "]" | .sign ";" | .sign "=" => return .yielded false none
        | _ => return .yielded false (some (← test fuel))
    else if ← takesWord "lambda" then
      let ps ← parameters fuel ":" false
      expect ":"
      let before := (← get).bound
      modify fun p => { p with bound := [] }
      let body ← test fuel
      let inner := (← get).bound
      modify fun p => { p with bound := before }
      return .function ps inner body
    else
      let a ← either fuel
      if ← takesWord "if" then
        let condition ← either fuel
        if !(← atWord "else") then fail "expected 'else' after 'if' expression"
        advance
        return .choice condition a (← test fuel)
      else return a

/-- Reads an expression that may bind a name. -/
def namedTest : (fuel : Nat) → Reader Expr
  | 0 => unexpected
  | fuel + 1 => do
    let e ← test fuel
    match e with
    | .name n =>
      if ← takes ":=" then
        binds n
        return .named n (← test fuel)
      else return e
    | _ => return e

/-- Reads conditions of which one has to hold. -/
def either : (fuel : Nat) → Reader Expr
  | 0 => unexpected
  | fuel + 1 => do
    let a ← both fuel
    chain (fun a => do
      if ← takesWord "or" then return some (.either a (← both fuel)) else return none) (← bound) a

/-- Reads conditions that have to hold together. -/
def both : (fuel : Nat) → Reader Expr
  | 0 => unexpected
  | fuel + 1 => do
    let a ← negation fuel
    chain (fun a => do
      if ← takesWord "and" then return some (.both a (← negation fuel)) else return none) (← bound) a

/-- Reads a condition that may be negated. -/
def negation : (fuel : Nat) → Reader Expr
  | 0 => unexpected
  | fuel + 1 => do
    if ← takesWord "not" then return .not (← negation fuel)
    else
      let a ← level fuel levels
      let rest ← links fuel
      return if rest.isEmpty then a else .compare a rest

/-- Reads the further parts of a comparison. -/
def links : (fuel : Nat) → Reader (List Link)
  | 0 => unexpected
  | fuel + 1 => do
    match ← comparison? with
    | none => return []
    | some op =>
      let e ← level fuel levels
      return .mk op e :: (← links fuel)

/-- Reads an expression with the operators of some levels. -/
def level : (fuel : Nat) → List (List Operator) → Reader Expr
  | 0, _ => unexpected
  | fuel + 1, [] => factor fuel
  | fuel + 1, ops :: inner => do
    let a ← level fuel inner
    chain (fun a => do
      match ← peek with
      | .sign s =>
        match ops.find? fun op => op.sign == s with
        | some op =>
          advance
          return some (.arithmetic op a (← level fuel inner))
        | none => return none
      | _ => return none) (← bound) a

/-- Reads an expression with an operator before it. -/
def factor : (fuel : Nat) → Reader Expr
  | 0 => unexpected
  | fuel + 1 => do
    if ← takes "-" then return .prefixed .negative (← factor fuel)
    else if ← takes "+" then return .prefixed .positive (← factor fuel)
    else if ← takes "~" then return .prefixed .inverted (← factor fuel)
    else
      let a ← operand fuel
      let e ← chain (trailer fuel) (← bound) a
      if ← takes "**" then return .arithmetic .power e (← factor fuel) else return e

/-- Reads what may follow an operand: a call, an element or an attribute. -/
def trailer : (fuel : Nat) → Expr → Reader (Option Expr)
  | 0, _ => unexpected
  | fuel + 1, a => do
    if ← takes "(" then return some (.call a (← arguments fuel))
    else if ← takes "[" then
      let first ← subscript fuel
      if ← atSign "," then
        advance
        let rest ← listed (subscript fuel) "]" (← bound)
        return some (.element a (.tuple (first :: rest)))
      else
        expect "]"
        return some (.element a first)
    else if ← takes "." then return some (.part a (← identifier))
    else return none

/-- Reads the arguments of a call after its bracket. -/
def arguments : (fuel : Nat) → Reader (List Argument)
  | 0 => unexpected
  | fuel + 1 => do
    listed (argument fuel) ")" (← bound)

/-- Reads an argument of a call. -/
def argument : (fuel : Nat) → Reader Argument
  | 0 => unexpected
  | fuel + 1 => do
    if ← takes "**" then return .mk .spreadNamed (← test fuel)
    else if ← takes "*" then return .mk .spread (← test fuel)
    else
      let p ← get
      match p.left with
      | ⟨.name n, _, _, _⟩ :: ⟨.sign "=", _, _, _⟩ :: _ =>
        advance
        advance
        return .mk (.named n) (← test fuel)
      | _ =>
        let start ← here
        let e ← namedTest fuel
        if (← atWord "for") then
          return .mk .plain (.collect .iterator e (← clauses fuel))
        else
          missingComma start
          return .mk .plain e

/-- Ends reading where an expression follows another one in brackets. -/
def missingComma (start : Placed) : Reader Unit := do
  let next ← here
  let begins := match next.token with
    | .name n => !(keywords.contains (Raw.text n)) || ["None", "True", "False"].contains (Raw.text n)
    | .int _ | .real _ | .text _ | .joined .. | .octets _ => true
    | _ => false
  if begins then
    let width := if next.line = start.line then next.column + next.width - start.column else 1
    throw ⟨"SyntaxError", "invalid syntax. Perhaps you forgot a comma?", start.line, .range start.column width⟩

/-- Reads an index or a range of them. -/
def subscript : (fuel : Nat) → Reader Expr
  | 0 => unexpected
  | fuel + 1 => do
    let bounded (closers : List String) : Reader (Option Expr) := do
      match ← peek with
      | .sign s => if closers.contains s then return none else return some (← namedTest fuel)
      | _ => return some (← namedTest fuel)
    let first ← bounded [":"]
    if ← takes ":" then
      let last ← bounded [":", "]", ","]
      let step ← if ← takes ":" then bounded ["]", ","] else pure none
      return .slice first last step
    else match first with
      | some e => return e
      | none => unexpected

/-- Reads the clauses of a comprehension. -/
def clauses : (fuel : Nat) → Reader (List Clause)
  | 0 => unexpected
  | fuel + 1 => do
    if ← takesWord "for" then
      let before := (← get).bound
      let target ← targets fuel
      expectWord "in"
      let source ← either fuel
      modify fun p => { p with bound := before }
      return .each target source :: (← clauses fuel)
    else if ← takesWord "if" then
      let condition ← either fuel
      return .provided condition :: (← clauses fuel)
    else return []

/-- Reads the targets of a loop. -/
def targets : (fuel : Nat) → Reader Expr
  | 0 => unexpected
  | fuel + 1 => do
    let one : Reader Expr := do
      if ← takes "*" then return .starred (← level fuel levels) else level fuel levels
    let first ← one
    let (items, several) ← chain (fun (items, _) => do
      if ← takes "," then
        if ← atWord "in" then return some (items, true)
        else if ← atSign "=" then return some (items, true)
        else
          let e ← one
          return some (items ++ [e], true)
      else return (none : Option (List Expr × Bool))) (← Reader.bound) ([first], false)
    return if several then .tuple items else first

/-- Reads an operand. -/
def operand : (fuel : Nat) → Reader Expr
  | 0 => unexpected
  | fuel + 1 => do
    match ← peek with
    | .int n =>
      advance
      return .constant (.int n)
    | .real f =>
      advance
      return .constant (.real f)
    | .octets _ => do
      let parts ← chain (fun r => do
        match ← peek with
        | .octets more =>
          advance
          return some (r ++ more)
        | _ => return (none : Option Raw)) (← bound) []
      return .constant (.octets parts)
    | .text _ | .joined .. => do
      let parts ← chain (fun ps => do
        match ← peek with
        | .text t =>
          advance
          return some (ps ++ [.plain t])
        | .joined verbatim body =>
          let spot ← here
          advance
          return some (ps ++ (← textParts fuel spot.line verbatim false body).1 ++ [.plain []])
        | _ => return (none : Option (List TextPart))) (← bound) []
      let allPlain := parts.all fun p => match p with
        | .plain t => !t.isEmpty || parts.length = 1
        | .value .. => false
      if allPlain then
        return .constant (.text (parts.flatMap fun p => match p with
          | .plain t => t
          | .value .. => []))
      else return .joined parts
    | .sign "(" =>
      advance
      if ← takes ")" then return .tuple []
      else
        let start ← here
        let e ← starredTest fuel
        if ← atWord "for" then
          let cs ← clauses fuel
          expect ")"
          return .collect .iterator e cs
        else if ← takes "," then
          let rest ← listed (starredTest fuel) ")" (← bound)
          return .tuple (e :: rest)
        else
          missingComma start
          expect ")"
          return e
    | .sign "[" =>
      advance
      if ← takes "]" then return .list []
      else
        let start ← here
        let e ← starredTest fuel
        if ← atWord "for" then
          let cs ← clauses fuel
          expect "]"
          return .collect .list e cs
        else if ← takes "," then
          let rest ← listed (starredTest fuel) "]" (← bound)
          return .list (e :: rest)
        else
          missingComma start
          expect "]"
          return .list [e]
    | .sign "\x7b" =>
      advance
      if ← takes "\x7d" then return .dict []
      else
        let entry : Reader (Option Expr × Expr) := do
          if ← takes "**" then return (none, ← level fuel levels)
          else
            let key ← starredTest fuel
            if ← takes ":" then return (some key, ← test fuel) else return (none, key)
        let spread ← atSign "**"
        let (key, value) ← entry
        if ← atWord "for" then
          let cs ← clauses fuel
          expect "\x7d"
          match key with
          | some k => return .collectDict k value cs
          | none => return .collect .set value cs
        else
          let more ← if ← takes "," then listed entry "\x7d" (← bound) else do
            expect "\x7d"
            pure []
          if key.isSome || spread then
            return .dict (((key, value) :: more).map fun (k, v) => .mk k v)
          else return .set (((key, value) :: more).map Prod.snd)
    | .sign "..." =>
      advance
      return .constant .ellipsis
    | .name n =>
      match Raw.text n with
      | "True" =>
        advance
        return .constant (.truth true)
      | "False" =>
        advance
        return .constant (.truth false)
      | "None" =>
        advance
        return .constant .nothing
      | _ => return .name (← identifier)
    | _ => unexpected

/-- Reads an item that may be spread out. -/
def starredTest : (fuel : Nat) → Reader Expr
  | 0 => unexpected
  | fuel + 1 => do
    if ← takes "*" then return .starred (← level fuel levels) else namedTest fuel

/-- Reads the parts of a text with expressions in it, up to its end or to the closing brace of the format that it
is; gives the rest. -/
def textParts : (fuel : Nat) → (line : Nat) → (verbatim nested : Bool) → Text → Reader (List TextPart × Text)
  | 0, _, _, _, _ => unexpected
  | fuel + 1, line, verbatim, nested, body => do
    let fault {α : Type} (message : String) : Reader α :=
      throw ⟨"SyntaxError", "f-string: " ++ message, line, .line⟩
    let (plain, rest) := plainPart nested (body.length + 1) body
    let start : List TextPart :=
      if plain.isEmpty then [] else [.plain (if verbatim then plain else unescaped true (plain.length + 1) plain)]
    match rest with
    | [] => return (start, [])
    | '\x7d' :: after =>
      if nested then return (start, '\x7d' :: after) else fault "single '\x7d' is not allowed"
    | _ :: after =>
      let width := innerEnd (after.length + 1) 0 none after
      let inner := after.take width
      let rest := after.drop width
      let trimmed := Raw.dropEndWhile Raw.isSpace inner
      let shows := trimmed.getLast? = some '=' && !(["==", "!=", "<=", ">="].any fun s => s.toList.isSuffixOf trimmed)
      let source := if shows then trimmed.dropLast else inner
      if source.all Raw.isSpace then fault "empty expression not allowed"
      let (ts, wrong) := tokens ('(' :: source ++ [')'])
      match wrong with
      | some f => throw { f with message := "f-string: " ++ f.message, line := line, spot := .line }
      | none => pure ()
      let outside ← get
      set { outside with left := ts.drop 1 }
      let e ← namedTest fuel
      let e ← if ← atSign "," then do
          advance
          pure (Expr.tuple (e :: (← listed (namedTest fuel) ")" (← bound))))
        else do
          expect ")"
          pure e
      modify fun p => { p with left := outside.left }
      let (conversion, rest) : Option Char × Text := match rest with
        | '!' :: c :: rest => (some c, rest)
        | rest => (none, rest)
      let (form, rest) ← match rest with
        | ':' :: rest => textParts fuel line verbatim true rest
        | rest => pure ([], rest)
      match rest with
      | '\x7d' :: rest =>
        let conversion := if shows && conversion.isNone && form.isEmpty then some 'r' else conversion
        let label : List TextPart := if shows then [.plain inner] else []
        let (more, left) ← textParts fuel line verbatim nested rest
        return (start ++ label ++ .value e conversion form :: more, left)
      | _ => fault "expecting '\x7d'"

/-- Reads parameters up to a sign. -/
def parameters : (fuel : Nat) → (closing : String) → (annotated : Bool) → Reader (List Parameter)
  | 0, _, _ => unexpected
  | fuel + 1, closing, annotated => do
    let one (onlyNamed : Bool) : Reader (Option Parameter × Bool) := do
      let note : Reader Unit := do
        if annotated then
          if ← takes ":" then
            let _ ← test fuel
      if ← takes "**" then
        let n ← identifier
        note
        return (some (.mk .restNamed n none), onlyNamed)
      else if ← takes "*" then
        if ← atSign "," then return (none, true)
        else
          let n ← identifier
          note
          return (some (.mk .rest n none), true)
      else if ← takes "/" then return (none, onlyNamed)
      else
        let n ← identifier
        note
        let usual ← if ← takes "=" then do pure (some (← test fuel)) else pure none
        return (some (.mk (if onlyNamed then .onlyNamed else .plain) n usual), onlyNamed)
    let (found, _, _) ← chain (fun (found, onlyNamed, done) => do
      if done then return (none : Option (List Parameter × Bool × Bool))
      else if ← atSign closing then return none
      else
        let (p, only) ← one onlyNamed
        let comma ← takes ","
        return some (found ++ p.toList, only, !comma)) (← bound) (([] : List Parameter), false, false)
    return found

end

/-- Reads expressions with commas between them, which make a tuple. -/
def testList (fuel : Nat) : Reader Expr := do
  let first ← starredTest fuel
  let (items, several) ← chain (fun (items, _) => do
    if ← takes "," then
      match ← peek with
      | .newline | .finish | .sign "=" | .sign ")" | .sign ";" | .sign ":" => return some (items, true)
      | _ =>
        let e ← starredTest fuel
        return some (items ++ [e], true)
    else return (none : Option (List Expr × Bool))) (← bound) ([first], false)
  return if several then .tuple items else first

/-- The last of the parts that were taken of some. -/
def lastTaken (before : List Placed) : Reader Placed := do
  let left := (← get).left
  return ((before.take (before.length - left.length)).getLast?).getD nowhere

/-- Checks that something can be assigned to; `before` are the parts that it began with. -/
def checkTarget (before : List Placed) (e : Expr) : Reader Unit := do
  match unassignable? e with
  | some what =>
    let start := before.headD nowhere
    let finish := ((before.take (before.length - (← get).left.length - 1)).getLast?).getD start
    let width := if finish.line = start.line then finish.column + finish.width - start.column else 1
    let message := if ["True", "False", "None"].contains what then "cannot assign to " ++ what
      else "cannot assign to " ++ what ++ " here. Maybe you meant '==' instead of '='?"
    throw ⟨"SyntaxError", message, start.line, .range start.column width⟩
  | none => bindTarget 100 e

/-- Reads a statement that takes no block. -/
def smallStatement (fuel : Nat) : Reader Statement := do
  let start ← here
  let word := match start.token with
    | .name n => Raw.text n
    | _ => ""
  let atEnd : Reader Bool := do
    match ← peek with
    | .newline | .finish | .sign ";" => return true
    | _ => return false
  let optional : Reader (Option Expr) := do
    if ← atEnd then return none else return some (← testList fuel)
  let newName : Reader (Option Text) := do
    if ← takesWord "as" then
      let n ← identifier
      return some n
    else return none
  match word with
  | "pass" =>
    advance
    return .idle
  | "break" =>
    if !(← get).inLoop then throw ⟨"SyntaxError", "'break' outside loop", start.line, .ofFile start.column 5⟩
    advance
    return .leave
  | "continue" =>
    if !(← get).inLoop then
      throw ⟨"SyntaxError", "'continue' not properly in loop", start.line, .ofFile start.column 8⟩
    advance
    return .again
  | "return" =>
    advance
    let e ← optional
    if !(← get).inFunction then
      throw ⟨"SyntaxError", "'return' outside function", start.line, .ofFile start.column 6⟩
    return .give e
  | "raise" =>
    advance
    if ← atEnd then return .raise none none
    else
      let e ← test fuel
      let cause ← if ← takesWord "from" then do pure (some (← test fuel)) else pure none
      return .raise (some e) cause
  | "assert" =>
    advance
    let e ← test fuel
    let message ← if ← takes "," then do pure (some (← test fuel)) else pure none
    return .check e message
  | "del" =>
    advance
    match ← testList fuel with
    | .tuple items => return .delete items
    | e => return .delete [e]
  | "global" | "nonlocal" =>
    advance
    let first ← identifier
    let names ← chain (fun ns => do
      if ← takes "," then return some (ns ++ [← identifier]) else return none) (← bound) [first]
    modify fun p => { p with foreign := names ++ p.foreign }
    return if word == "global" then .globals names else .outer names
  | "import" =>
    advance
    let one : Reader (Text × Option Text) := do
      let n ← dotted
      let a ← newName
      binds (a.getD (n.takeWhile (· != '.')))
      return (n, a)
    let first ← one
    let all ← chain (fun ns => do
      if ← takes "," then return some (ns ++ [← one]) else return none) (← bound) [first]
    return .importModules all
  | "from" =>
    advance
    let module ← dotted
    expectWord "import"
    if ← takes "*" then return .importNames module [(['*'], none)]
    else
      let one : Reader (Text × Option Text) := do
        let n ← identifier
        let a ← newName
        binds (a.getD n)
        return (n, a)
      if ← takes "(" then return .importNames module (← listed one ")" (← bound))
      else
        let first ← one
        let all ← chain (fun ns => do
          if ← takes "," then return some (ns ++ [← one]) else return none) (← bound) [first]
        return .importNames module all
  | _ =>
    let before := (← get).left
    let e ← testList fuel
    let next ← here
    match next.token with
    | .sign "=" =>
      let (found, value) ← chain (fun (found, e) => do
        if ← takes "=" then
          checkTarget before e
          let v ← testList fuel
          return some (found ++ [e], v)
        else return (none : Option (List Expr × Expr))) (← bound) (([] : List Expr), e)
      return .assign found value
    | .sign ":" =>
      match e with
      | .name n =>
        advance
        let _ ← test fuel
        if ← takes "=" then
          binds n
          return .assign [e] (← testList fuel)
        else return .idle
      | _ => return .value e
    | .sign s =>
      match update? s with
      | some op =>
        bindTarget 100 e
        advance
        return .update op e (← testList fuel)
      | none => return .value e
    | .text _ | .name _ | .int _ | .joined .. =>
      match e with
      | .name n =>
        if n = "print".toList || n = "exec".toList then
          let lastPart := ((← get).left.takeWhile fun t => !(t.token == .newline)).getLast?.getD next
          throw ⟨"SyntaxError", "Missing parentheses in call to '" ++ Raw.text n ++ "'. Did you mean " ++ Raw.text n ++
            "(...)?", start.line,
            .range start.column (lastPart.column + lastPart.width - start.column)⟩
        else return .value e
      | _ => return .value e
    | _ => return .value e

/-- Reads statements on a line, up to its end. -/
def smallStatements (fuel : Nat) : Reader (List Line) := do
  let one : Reader Line := do
    let p ← here
    return .mk p.line (← smallStatement fuel)
  let first ← one
  let all ← chain (fun ls => do
    if ← takes ";" then
      match ← peek with
      | .newline | .finish => return none
      | _ => return some (ls ++ [← one])
    else return none) (← bound) [first]
  match ← peek with
  | .newline =>
    advance
    return all
  | .finish => return all
  | _ => unexpected

/-- Does something inside a function, whose own names are told apart from others. -/
def asFunction {α : Type} (body : Reader α) : Reader (α × List Text × Bool) := do
  let before ← get
  set { before with bound := [], foreign := [], inFunction := true, inLoop := false, yields := false }
  let x ← body
  let after ← get
  set { after with
    bound := before.bound
    foreign := before.foreign
    inFunction := before.inFunction
    inLoop := before.inLoop
    yields := before.yields }
  return (x, after.bound.filter fun n => !after.foreign.contains n, after.yields)

/-- Does something inside a loop. -/
def asLoop {α : Type} (body : Reader α) : Reader α := do
  let before := (← get).inLoop
  modify fun p => { p with inLoop := true }
  let x ← body
  modify fun p => { p with inLoop := before }
  return x

mutual

/-- Reads the block of a statement; `what` and `line` name the statement. -/
def block : (fuel : Nat) → (what : String) → (line : Nat) → Reader (List Line)
  | 0, _, _ => unexpected
  | fuel + 1, what, line => do
    if !(← takes ":") then
      let forced :=
        ["'else' statement", "'try' statement", "'finally' statement", "function definition", "class definition"]
      if forced.contains what || (← peek) == .newline then fail "expected ':'" else unexpected
    match ← peek with
    | .newline =>
      advance
      match ← peek with
      | .indent =>
        advance
        lines fuel
      | _ =>
        let p ← here
        throw ⟨"IndentationError", s!"expected an indented block after {what} on line {line}", p.line,
          .range p.column 1⟩
    | _ => smallStatements fuel

/-- Reads lines up to the end of their block. -/
def lines : (fuel : Nat) → Reader (List Line)
  | 0 => unexpected
  | fuel + 1 => do
    match ← peek with
    | .dedent =>
      advance
      return []
    | .finish => return []
    | .newline =>
      advance
      lines fuel
    | _ =>
      let first ← statement fuel
      return first ++ (← lines fuel)

/-- Reads a statement, or several on one line. -/
def statement : (fuel : Nat) → Reader (List Line)
  | 0 => unexpected
  | fuel + 1 => do
    let p ← here
    let word := match p.token with
      | .name n => Raw.text n
      | _ => ""
    let on (s : Statement) : List Line := [.mk p.line s]
    match word with
    | "if" =>
      advance
      return on (← choice fuel "'if' statement" p.line)
    | "while" =>
      advance
      let e ← namedTest fuel
      let body ← asLoop (block fuel "'while' statement" p.line)
      return on (.loop e body (← otherwise fuel "else"))
    | "for" =>
      advance
      let target ← targets fuel
      bindTarget 100 target
      expectWord "in"
      let source ← testList fuel
      let body ← asLoop (block fuel "'for' statement" p.line)
      return on (.each target source body (← otherwise fuel "else"))
    | "try" =>
      advance
      let body ← block fuel "'try' statement" p.line
      let handlers ← exceptions fuel
      let other ← otherwise fuel "else"
      let finish ← otherwise fuel "finally"
      if handlers.isEmpty && finish.isEmpty then fail "expected 'except' or 'finally' block"
      return on (.attempt body handlers other finish)
    | "with" =>
      advance
      let one : Reader (Expr × Option Expr) := do
        let e ← test fuel
        if ← takesWord "as" then
          let target ← level fuel levels
          bindTarget 100 target
          return (e, some target)
        else return (e, none)
      let first ← one
      let items ← chain (fun is => do
        if ← takes "," then return some (is ++ [← one]) else return none) (← bound) [first]
      return on (.within items (← block fuel "'with' statement" p.line))
    | "def" => return on (← definition fuel [])
    | "class" => return on (← kind fuel)
    | _ =>
      if p.token == .sign "@" then
        let wrappers ← chain (fun ws => do
          if ← takes "@" then
            let e ← namedTest fuel
            if (← peek) == .newline then advance
            return some (ws ++ [e])
          else return none) (← bound) []
        if ← atWord "class" then return on (← kind fuel) else return on (← definition fuel wrappers)
      else smallStatements fuel

/-- Reads a choice after its word. -/
def choice : (fuel : Nat) → (what : String) → (line : Nat) → Reader Statement
  | 0, _, _ => unexpected
  | fuel + 1, what, line => do
    let before := (← get).left
    let e ← namedTest fuel
    if ← takes "=" then
      let start := before.headD nowhere
      let _ ← level fuel levels
      let finish ← lastTaken before
      throw ⟨"SyntaxError", "invalid syntax. Maybe you meant '==' or ':=' instead of '='?", start.line,
        .range start.column (finish.column + finish.width - start.column)⟩
    let yes ← block fuel what line
    let p ← here
    if ← takesWord "elif" then
      let inner ← choice fuel "'elif' statement" p.line
      return .choice e yes [.mk p.line inner]
    else return .choice e yes (← otherwise fuel "else")

/-- Reads a block after a word, if it is there. -/
def otherwise : (fuel : Nat) → (word : String) → Reader (List Line)
  | 0, _ => unexpected
  | fuel + 1, word => do
    let p ← here
    if ← takesWord word then block fuel ("'" ++ word ++ "' statement") p.line else return []

/-- Reads what is done about exceptions. -/
def exceptions : (fuel : Nat) → Reader (List Handler)
  | 0 => unexpected
  | fuel + 1 => do
    let p ← here
    if ← takesWord "except" then
      let kinds ← if ← atSign ":" then pure none else do pure (some (← testList fuel))
      let name ← if ← takesWord "as" then do
          let n ← identifier
          binds n
          pure (some n)
        else pure none
      let body ← block fuel "'except' statement" p.line
      return .mk p.line kinds name body :: (← exceptions fuel)
    else return []

/-- Reads a function. -/
def definition : (fuel : Nat) → List Expr → Reader Statement
  | 0, _ => unexpected
  | fuel + 1, wrappers => do
    let p ← here
    expectWord "def"
    let name ← identifier
    binds name
    expect "("
    let ps ← parameters fuel ")" true
    expect ")"
    if ← takes "->" then
      let _ ← test fuel
    let (body, locals, yields) ← asFunction (block fuel "function definition" p.line)
    return .function name ps locals yields body wrappers

/-- Reads a kind of objects. -/
def kind : (fuel : Nat) → Reader Statement
  | 0 => unexpected
  | fuel + 1 => do
    let p ← here
    expectWord "class"
    let name ← identifier
    binds name
    let bases ← if ← takes "(" then arguments fuel else pure []
    let (body, _, _) ← asFunction (block fuel "class definition" p.line)
    return .kind name bases body

end

/-- Reads a whole program. -/
def linesOf (t : Text) : Except Fault (List Line) :=
  let (parts, wrong) := tokens t
  let start : Place := ⟨parts, [], [], false, false, false⟩
  match wrong with
  | none => (lines (20 * parts.length + 100)).run start |>.map Prod.fst
  | some late =>
    -- brackets that are left open count only if nothing was wrong on the line where they begin
    let isOpen := late.message.endsWith "was never closed"
    match (lines (20 * parts.length + 100)).run start with
    | .error early =>
      if early.line = 0 then .error late
      else if early.message != "invalid syntax" then .error early
      else if isOpen && early.line ≤ late.line then .error early else .error late
    | .ok _ => .error late

/-- Reads an expression by itself. -/
def exprOf (t : Text) : Except Fault Expr :=
  let (parts, wrong) := tokens t
  match wrong with
  | some f => .error f
  | none =>
    (do
      let e ← testList (20 * parts.length + 100)
      match ← peek with
      | .newline | .finish => return e
      | _ => unexpected : Reader Expr).run ⟨parts, [], [], false, false, false⟩ |>.map Prod.fst

end RunMeter.Machine.Python
