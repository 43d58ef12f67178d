import RunMeter.Machine.Shell.Arithmetic.Basic

/-!
# RunMeter.Machine.Shell.Arithmetic.Extended — the arithmetic of the extended dialect

Expressions have powers, increments, lists of expressions joined by commas, numbers in any base up to 64, and
places in lists.  The text in a place is an expression itself.  A mistake shows the expression and the text from the
last token that was read.

Nothing that is proved depends on this module.
-/

namespace RunMeter.Machine.Shell.Arithmetic.Extended

/-- A token of an expression. -/
inductive Token where
  | atEnd
  | number (v : Int64)
  | place (h : Holder)
  | mark (name : String)

/-- Where the reading of an expression stands: the token at hand and the one before it, the text from the last token
on, and the text after it. -/
structure Scan where
  whole : Raw
  token : Token
  last : Token
  shown : Raw
  rest : Raw

namespace Scan

/-- Ends the command over a mistake in an expression. -/
def mistake {α : Type} (s : Scan) (message : String) : Sh α := do
  Sh.complain (Raw.trimStart s.whole ++ Raw.ofText (": " ++ message ++ " (error token is \"") ++ s.shown ++ ['"', ')'])
  throw (.fault 1)

/-- Whether the token at hand is a mark. -/
def atMark (s : Scan) (name : String) : Bool :=
  match s.token with
  | .mark n => n == name
  | _ => false

/-- Whether an operand can follow a token. -/
def opensOperand : Token → Bool
  | .atEnd | .mark _ => true
  | _ => false

end Scan

/-- The digits of a number that follow a base: its value, or what is wrong with it. -/
def digits (base : Nat) (based : Bool) : (v : Nat) → Raw → Except String Int64
  | v, [] => .ok (Int64.ofInt v)
  | v, '#' :: rest =>
    if based then .error "invalid number"
    else if v < 2 || 64 < v then .error "invalid arithmetic base"
    else if rest.isEmpty then .error "invalid integer constant"
    else match rest.mapM (digitValue? v) with
      | some ds => .ok (Int64.ofInt ((ds.foldl (fun n d => n * v + d) 0 : Nat) : Int))
      | none => .error (if rest.contains '#' then "invalid number" else "value too great for base")
  | v, c :: rest =>
    match digitValue? base c with
    | some d => digits base based (v * base + d) rest
    | none => .error "value too great for base"

/-- The number that a word is: octal after a zero, hexadecimal after a zero and an x, or after its base and a hash
mark. -/
def number (w : Raw) : Except String Int64 :=
  match w with
  | ['0'] => .ok 0
  | '0' :: 'x' :: ds | '0' :: 'X' :: ds => digits 16 true 0 ds
  | '0' :: ds => digits 8 true 0 ds
  | ds => digits 10 false 0 ds

/-- Marks of several characters, longer ones first. -/
def longMarks : List String :=
  ["<<=", ">>=", "==", "!=", ">=", "<=", "<<", ">>", "&&", "||", "**", "*=", "/=", "%=", "+=", "-=", "&=", "^=", "|="]

/-- Marks of one character. -/
def shortMarks : Raw := "=<>+-*/%!()&|^~?:,".toList

/-- What stands before the bracket that closes the one before it, and the rest after that. -/
def untilBracket? : (depth : Nat) → (taken : Raw) → Raw → Option (Raw × Raw)
  | _, _, [] => none
  | depth, taken, c :: rest =>
    if c = '[' then untilBracket? (depth + 1) (c :: taken) rest
    else if c = ']' then
      match depth with
      | 0 => some (taken.reverse, rest)
      | depth + 1 => untilBracket? depth (c :: taken) rest
    else untilBracket? depth (c :: taken) rest

/-- Goes on to the next token. -/
def next (s : Scan) : Sh Scan := do
  match skipBlanks s.rest with
  | [] => return { s with last := s.token, token := .atEnd, rest := [] }
  | c :: more =>
    let cs := c :: more
    let s := { s with shown := cs }
    let advance (token : Token) (rest : Raw) : Sh Scan :=
      return { s with last := s.token, token := token, rest := rest }
    let name := Raw.nameAtStart cs
    if !name.isEmpty then
      match cs.drop name.length with
      | '[' :: inner =>
        match untilBracket? 0 [] inner with
        | some (index, rest) => advance (.place ⟨name, some index⟩) rest
        | none => s.mistake "bad array subscript"
      | rest => advance (.place ⟨name, none⟩) rest
    else if c.isDigit then
      let word := cs.takeWhile fun c => c.isAlphanum || c == '#' || c == '@' || c == '_'
      let rest := cs.drop word.length
      match number word with
      | .ok v => advance (.number v) rest
      | .error message =>
        Scan.mistake { s with whole := s.whole.take (s.whole.length - rest.length), shown := word } message
    else if (c = '+' || c = '-') && more.head? = some c then
      let twice : String := String.ofList [c, c]
      match s.token, s.last with
      | .place _, _ => advance (.mark ("post" ++ twice)) (more.drop 1)
      | .number _, .mark "pre++" | .number _, .mark "pre--" => s.mistake (twice ++ ": assignment requires lvalue")
      | _, _ =>
        if (Raw.nameAtStart (skipBlanks (more.drop 1))).isEmpty then advance (.mark (String.ofList [c])) more
        else advance (.mark ("pre" ++ twice)) (more.drop 1)
    else match longMarks.find? fun m => m.toList.isPrefixOf cs with
      | some m => advance (.mark m) (cs.drop m.length)
      | none =>
        if shortMarks.contains c then advance (.mark (String.ofList [c])) more
        else s.mistake (if Scan.opensOperand s.token then "syntax error: operand expected"
          else "syntax error: invalid arithmetic operator")

/-- What is read next. -/
inductive Goal where
  /-- Expressions joined by commas, the last of which counts. -/
  | series
  | assignment
  | choice
  /-- Operands joined by operators that bind so tightly or more. -/
  | binary (level : Nat)
  /-- What follows a left operand. -/
  | more (level : Nat) (left : Int64)
  /-- A power, which binds to the right. -/
  | power
  /-- An operand, perhaps with a sign. -/
  | signed
  | operand

/-- The operators between two operands that bind equally, those that bind least first. -/
def levels : List (List String) :=
  [["||"], ["&&"], ["|"], ["^"], ["&"], ["==", "!="], ["<", ">", "<=", ">="], ["<<", ">>"], ["+", "-"], ["*", "/", "%"]]

/-- The operator of an assignment; empty if the value is taken as it is. -/
def assignment? : Token → Option String
  | .mark "=" => some ""
  | .mark m =>
    if ["<<=", ">>=", "*=", "/=", "%=", "+=", "-=", "&=", "^=", "|="].contains m then
      some (String.ofList m.toList.dropLast)
    else none
  | _ => none

/-- A power of a word that wraps round. -/
def powerOf (a : Int64) (n : Nat) : Int64 :=
  ((List.range 63).foldl (fun (v, square) i => (if n.testBit i then v * square else v, square * square)) (1, a)).1

/-- The value of an operator; a quotient that is no word wraps round. -/
def combined? (name : String) (a b : Int64) : Option Int64 :=
  if a = Int64.minValue && b = -1 && name = "/" then some a
  else if a = Int64.minValue && b = -1 && name = "%" then some 0
  else Arithmetic.combined? name a b

/-- How deep texts in places lead to others. -/
def depthBound : Nat := 1024

/-- Reads towards a goal, and evaluates if `live`; `depth` texts in places can lead to others. -/
def evaluate : (fuel : Nat) → (depth : Nat) → (live : Bool) → Goal → Scan → Sh (Int64 × Scan)
  | 0, _, _, _, s => s.mistake "expression recursion level exceeded"
  | fuel + 1, depth, live, goal, s => do
    let again := evaluate fuel depth live
    let ofText (text : Raw) : Sh Int64 := do
      if (skipBlanks text).isEmpty then return 0
      match depth with
      | 0 => s.mistake "expression recursion level exceeded"
      | depth + 1 =>
        let first ← next ⟨text, .atEnd, .atEnd, [], text⟩
        let (v, s) ← evaluate fuel depth true .series first
        match s.token with
        | .atEnd => return v
        | _ => s.mistake "syntax error in expression"
    let indexOf (h : Holder) : Sh Int64 := do
      match h.index, (← Sh.binding? h.name).bind Variable.value with
      | some _, some (.map _) => return 0
      | some i, _ => ofText i
      | none, _ => return 0
    let valueOf (h : Holder) : Sh Int64 := do
      if !live then return 0
      let index ← indexOf h
      match ← heldText h index with
      | some r => ofText r
      | none =>
        if (← Sh.isOn "nounset") && (← Sh.binding? h.name).isNone then
          Sh.complain (h.name ++ Raw.ofText ": unbound variable")
          throw (.exit 1)
        return 0
    let put (h : Holder) (v : Int64) : Sh Unit := do
      if live then hold h (← indexOf h) v
    match goal with
    | .series =>
      let (v, s) ← again .assignment s
      if s.atMark "," then again .series (← next s) else return (v, s)
    | .assignment =>
      let (left, s) ← again .choice s
      match assignment? s.token with
      | none => return (left, s)
      | some op =>
        match s.last with
        | .place h =>
          let (right, s) ← again .assignment (← next s)
          let v ← if op.isEmpty then pure right
            else match combined? op left right with
              | some v => pure v
              | none => if live then s.mistake "division by 0" else pure 0
          put h v
          return (v, s)
        | _ => s.mistake "attempted assignment to non-variable"
    | .choice =>
      let (test, s) ← again (.binary 0) s
      if !s.atMark "?" then return (test, s)
      let s ← next s
      let isOver (s : Scan) : Bool := match s.token with
        | .atEnd => true
        | _ => false
      if isOver s || s.atMark ":" then s.mistake "expression expected"
      let (yes, s) ← evaluate fuel depth (live && test != 0) .series s
      if !s.atMark ":" then s.mistake "`:' expected for conditional expression"
      let s ← next s
      if isOver s then s.mistake "expression expected"
      let (no, s) ← evaluate fuel depth (live && test == 0) .choice s
      return (if test != 0 then yes else no, { s with last := .mark "?" })
    | .binary level =>
      let (left, s) ← if level < levels.length then again (.binary (level + 1)) s else again .power s
      again (.more level left) s
    | .more level left =>
      match s.token with
      | .mark m =>
        if !(levels.getD level []).contains m then return (left, s)
        let needed := if m = "&&" then left != 0 else if m = "||" then left == 0 else true
        let after := skipBlanks s.rest
        let s ← next s
        let (right, s) ← evaluate fuel depth (live && needed) (.binary (level + 1)) s
        let v ← match combined? m left right with
          | some v => pure v
          | none => if live then Scan.mistake { s with shown := after } "division by 0" else pure 0
        again (.more level v) { s with last := if level < 2 then .mark m else .number v }
      | _ => return (left, s)
    | .power =>
      let (base, s) ← again .signed s
      if !s.atMark "**" then return (base, s)
      let (n, s) ← again .power (← next s)
      if n < 0 then s.mistake "exponent less than 0"
      return (powerOf base n.toInt.toNat, { s with last := .number 0 })
    | .signed =>
      let sign (f : Int64 → Int64) : Sh (Int64 × Scan) := do
        let (v, s) ← again .signed (← next s)
        return (f v, { s with last := .number 0 })
      match s.token with
      | .mark "!" => sign fun v => truth (v == 0)
      | .mark "~" => sign fun v => ~~~v
      | .mark "-" => sign fun v => -v
      | .mark "+" => sign id
      | _ => again .operand s
    | .operand =>
      match s.token with
      | .mark "pre++" | .mark "pre--" =>
        let by_ : Int64 := if s.atMark "pre++" then 1 else -1
        let s ← next s
        match s.token with
        | .place h =>
          let v := (← valueOf h) + by_
          put h v
          return (v, ← next { s with token := .number v })
        | _ => s.mistake "identifier expected after pre-increment or pre-decrement"
      | .mark "(" =>
        let (v, s) ← again .series (← next s)
        if !s.atMark ")" then s.mistake "missing `)'"
        return (v, ← next s)
      | .number v => return (v, ← next s)
      | .place h =>
        let after ← next s
        match after.token with
        | .mark "post++" | .mark "post--" =>
          let by_ : Int64 := if after.atMark "post++" then 1 else -1
          let v ← valueOf h
          put h (v + by_)
          return (v, ← next { after with token := .number v })
        | .mark "=" => return (0, after)
        | _ => return (← valueOf h, after)
      | _ => s.mistake "syntax error: operand expected"

/-- The value of an expression. -/
def value (expression : Raw) : Sh Int64 := do
  if (skipBlanks expression).isEmpty then return 0
  let first ← next ⟨expression, .atEnd, .atEnd, [], expression⟩
  let (v, s) ← evaluate (100000 + 30 * expression.length) depthBound true .series first
  match s.token with
  | .atEnd => return v
  | _ => s.mistake "syntax error in expression"

end RunMeter.Machine.Shell.Arithmetic.Extended
