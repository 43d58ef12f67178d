import RunMeter.Machine.Regex
import RunMeter.Machine.Utility.Call

/-!
# RunMeter.Machine.Utility.Expression — expressions of words

The operators of an expression, from those that bind least: a bar, an ampersand, comparisons, sums, products, and
the colon that matches a pattern.  A part that does not count is read all the same.

Nothing that is proved depends on this module.
-/

namespace RunMeter.Machine.Expression

/-- What is wrong with an expression. -/
inductive Fault where
  | missing (previous : Raw)
  | unexpected (w : Raw)
  | unopened
  | unclosed (previous : Raw)
  | notNumber
  | divisionByZero
  | pattern (fault : Regex.Fault)

/-- What is said about a fault. -/
def Fault.message : Fault → Raw
  | missing w => Raw.ofText "syntax error: missing argument after " ++ Raw.quoted w
  | unexpected w => Raw.ofText "syntax error: unexpected argument " ++ Raw.quoted w
  | unopened => Raw.ofText "syntax error: unexpected ')'"
  | unclosed w => Raw.ofText "syntax error: expecting ')' after " ++ Raw.quoted w
  | notNumber => Raw.ofText "non-integer argument"
  | divisionByZero => Raw.ofText "division by zero"
  | pattern fault => Raw.ofText fault.message

/-- A place in an expression: the word before it and the words after it. -/
structure Place where
  previous : Raw
  rest : List Raw

/-- The next place. -/
def Place.next (p : Place) : Place :=
  match p.rest with
  | w :: rest => ⟨w, rest⟩
  | [] => p

/-- The whole number that a word is. -/
def number? (w : Raw) : Option Int :=
  match w with
  | '-' :: ds => (Raw.natural? ds).map fun n => -(n : Int)
  | ds => (Raw.natural? ds).map fun n => (n : Int)

/-- The whole number that a value has to be. -/
def numberOf (w : Raw) : Except Fault Int :=
  match number? w with
  | some n => .ok n
  | none => .error .notNumber

/-- Whether a value counts as nothing: it is empty or zero. -/
def isNull (w : Raw) : Bool := w.isEmpty || number? w == some 0

/-- What a truth value is written as. -/
def truth (b : Bool) : Raw := if b then ['1'] else ['0']

/-- What a pattern finds at the start of a text: its group if it has one, or how far it reaches. -/
def matching (text pattern : Raw) : Except Fault Raw :=
  match Regex.ofText .basic pattern with
  | .error fault => .error (.pattern fault)
  | .ok e =>
    let chars := text.toArray
    match e.matchAt? chars 0 with
    | some m => .ok (if e.groups > 0 then (m.group? chars 1).getD [] else Raw.ofNat m.last)
    | none => .ok (if e.groups > 0 then [] else ['0'])

/-- The operators that bind equally, from those that bind least. -/
def levels : List (List String) :=
  [["|"], ["&"], ["<", "<=", "=", "==", "!=", ">=", ">"], ["+", "-"], ["*", "/", "%"], [":"]]

/-- The value of two values with an operator between them. -/
def combine (op : String) (a b : Raw) : Except Fault Raw := do
  let compared (f : Int → Int → Bool) (g : Bool → Bool → Bool) : Except Fault Raw :=
    match number? a, number? b with
    | some x, some y => .ok (truth (f x y))
    | _, _ => .ok (truth (g (Raw.atMost a b) (Raw.atMost b a)))
  match op with
  | "|" => return if !isNull a then a else if isNull b then ['0'] else b
  | "&" => return if isNull a || isNull b then ['0'] else a
  | "<" => compared (· < ·) fun _ above => !above
  | "<=" => compared (· ≤ ·) fun under _ => under
  | "=" | "==" => compared (· == ·) fun under above => under && above
  | "!=" => compared (· != ·) fun under above => !(under && above)
  | ">=" => compared (· ≥ ·) fun _ above => above
  | ">" => compared (· > ·) fun under _ => !under
  | ":" => matching a b
  | _ =>
    let x ← numberOf a
    let y ← numberOf b
    match op with
    | "+" => return Raw.ofInt (x + y)
    | "-" => return Raw.ofInt (x - y)
    | "*" => return Raw.ofInt (x * y)
    | _ =>
      if y = 0 then throw .divisionByZero
      else if op = "/" then return Raw.ofInt (x.tdiv y)
      else return Raw.ofInt (x.tmod y)

/-- Reads operators that bind equally with the values between them, after the first value. -/
def chain (operand : Bool → Place → Except Fault (Raw × Place)) (ops : List String) (counts : Bool) :
    (fuel : Nat) → Raw → Place → Except Fault (Raw × Place)
  | 0, a, p => return (a, p)
  | fuel + 1, a, p =>
    let op := Raw.text (p.rest.headD [])
    if p.rest.isEmpty || !ops.contains op then return (a, p)
    else do
      let skipped := (op == "|" && !isNull a) || (op == "&" && isNull a)
      let (b, p) ← operand (counts && !skipped) p.next
      let a ← if !counts then pure []
        else if skipped then pure (if op == "&" then ['0'] else a)
        else combine op a b
      chain operand ops counts fuel a p

/-- Reads the value of a place.  `counts` is false for a part that is only read. -/
def value : (fuel : Nat) → (counts : Bool) → (levels : List (List String)) → Place → Except Fault (Raw × Place)
  | 0, _, _, p => .error (.missing p.previous)
  | fuel + 1, counts, ops :: levels, p => do
    let (first, p) ← value fuel counts levels p
    chain (value fuel · levels ·) ops counts p.rest.length first p
  | fuel + 1, counts, [], p =>
    let part (p : Place) : Except Fault (Raw × Place) := value fuel counts [] p
    match p.rest with
    | [] => .error (.missing p.previous)
    | ['('] :: _ => do
      let (v, p) ← value fuel counts Expression.levels p.next
      match p.rest with
      | [] => .error (.unclosed p.previous)
      | [')'] :: _ => return (v, p.next)
      | w :: _ => .error (.unexpected w)
    | [')'] :: _ => .error .unopened
    | w :: _ =>
      let p := p.next
      match Raw.text w with
      | "+" =>
        match p.rest with
        | [] => .error (.missing p.previous)
        | v :: _ => return (v, p.next)
      | "length" => do
        let (v, p) ← part p
        return (Raw.ofNat v.length, p)
      | "match" => do
        let (a, p) ← part p
        let (b, p) ← part p
        return (← if counts then matching a b else pure [], p)
      | "index" => do
        let (a, p) ← part p
        let (b, p) ← part p
        return (Raw.ofNat ((a.findIdx? b.contains).elim 0 (· + 1)), p)
      | "substr" => do
        let (a, p) ← part p
        let (i, p) ← part p
        let (n, p) ← part p
        match number? i, number? n with
        | some i, some n =>
          return (if i ≤ 0 || n ≤ 0 then [] else (a.drop (i.toNat - 1)).take n.toNat, p)
        | _, _ => return ([], p)
      | _ => return (w, p)

/-- The value of words. -/
def ofWords (words : List Raw) : Except Fault Raw := do
  let (v, p) ← value (8 * words.length + 16) true levels ⟨[], words⟩
  match p.rest with
  | [] => return v
  | [')'] :: _ => .error (.unexpected [')'])
  | w :: _ => .error (.unexpected w)

/-- Shows the value of an expression; succeeds if it does not count as nothing. -/
def expr : Utility := fun c => do
  let words := if c.args.head? = some ['-', '-'] then c.args.tail else c.args
  match words with
  | [] => c.misused (Raw.ofText "missing operand") 2
  | words =>
    match ofWords words with
    | .error fault => c.fail fault.message 2
    | .ok v =>
      c.emit (v ++ ['\n']) 3
      return if isNull v then 1 else 0

/-- The programs by name. -/
def programs : List (String × Utility) := [("expr", expr)]

end RunMeter.Machine.Expression
