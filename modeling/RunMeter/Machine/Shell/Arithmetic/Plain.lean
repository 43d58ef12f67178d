import RunMeter.Machine.Shell.Arithmetic.Basic

/-!
# RunMeter.Machine.Shell.Arithmetic.Plain — the arithmetic of the plain dialect

A name stands for the number in its variable, 0 if it is not set.  Operators bind as in the usual order, and an
assignment gives its value.  What an operator does not need is read and not evaluated.

The quotient of the least number and minus one is no word, and its division ends the shell by a signal.

Nothing that is proved depends on this module.
-/

namespace RunMeter.Machine.Shell.Arithmetic.Plain

/-- What is read next. -/
inductive Goal where
  /-- An assignment, or an expression with a choice. -/
  | assignment
  /-- A number, a name, or something in parentheses, perhaps with a sign. -/
  | operand
  /-- Operands joined by operators that bind at least so tightly. -/
  | binary (level : Nat)
  /-- What follows a left operand. -/
  | more (level : Nat) (left : Int64)

/-- The operators between two operands and how tightly they bind, longer ones first. -/
def operators : List (String × Nat) :=
  [("<<", 9), (">>", 9), ("<=", 8), (">=", 8), ("==", 7), ("!=", 7), ("&&", 3), ("||", 2), ("<", 8), (">", 8),
   ("&", 6), ("^", 5), ("|", 4), ("+", 10), ("-", 10), ("*", 11), ("/", 11), ("%", 11)]

/-- The operator at the start of a text, how tightly it binds, and the rest. -/
def operator? (cs : Raw) : Option (String × Nat × Raw) :=
  (operators.find? fun o => o.1.toList.isPrefixOf cs).map fun o => (o.1, o.2, cs.drop o.1.length)

/-- The number at the start of a text and the rest: octal after a zero, hexadecimal after a zero and an x.  A number
that is no word is the greatest one. -/
def number? (cs : Raw) : Option (Int64 × Raw) :=
  let word (n : Nat) : Int64 := if n < 9223372036854775808 then Int64.ofNat n else Int64.maxValue
  let (base, digits) := match cs with
    | '0' :: 'x' :: rest => (16, rest)
    | '0' :: 'X' :: rest => (16, rest)
    | '0' :: _ => (8, cs)
    | _ => (10, cs)
  let taken := digits.takeWhile fun c => (digitValue? base c).isSome
  if taken.isEmpty then
    match cs with
    | '0' :: rest => some (0, rest)
    | _ => none
  else some (word (valueIn base taken), digits.drop taken.length)

/-- Ends the shell over a mistake in an expression. -/
def mistake {α : Type} (message : String) (whole : Raw) : Sh α :=
  Sh.fatal (Raw.ofText ("arithmetic expression: " ++ message ++ ": \"") ++ whole ++ ['"']) 2

/-- The value of an operator, or a mistake. -/
def combined (whole : Raw) (name : String) (a b : Int64) : Sh Int64 := do
  if (name = "/" || name = "%") && a = Int64.minValue && b = -1 then Sh.finish (.signal SignalNumber.arithmetic)
  else match combined? name a b with
    | some v => return v
    | none => mistake "division by zero" whole

/-- The operator in an assignment at the start of a text, and the rest. -/
def assignment? (cs : Raw) : Option (String × Raw) :=
  match cs with
  | '=' :: '=' :: _ => none
  | '=' :: rest => some ("", rest)
  | _ =>
    match operator? cs with
    | some (name, _, '=' :: rest) =>
      if ["<=", ">=", "==", "!=", "&&", "||", "<", ">"].contains name then none else some (name, rest)
    | _ => none

/-- The place at the start of a text, and the rest. -/
def holder? (cs : Raw) : Option (Holder × Raw) :=
  let name := Raw.nameAtStart cs
  if name.isEmpty then none else some (⟨name, none⟩, cs.drop name.length)

/-- The number that the text of a variable is. -/
def numberOf (value : Raw) : Sh Int64 := do
  let wrong : Sh Int64 := Sh.fatal (Raw.ofText "Illegal number: " ++ value) 2
  let trimmed := skipBlanks value
  let (negative, digits) := match trimmed with
    | '-' :: ds => (true, ds)
    | '+' :: ds => (false, ds)
    | ds => (false, ds)
  if digits.isEmpty then return 0
  match number? digits with
  | some (n, rest) => if (skipBlanks rest).isEmpty then return if negative then -n else n else wrong
  | none => wrong

/-- The number in a place. -/
def heldNumber (h : Holder) : Sh Int64 := do
  match ← heldText h 0 with
  | some r => numberOf r
  | none => return 0

/-- Reads towards a goal, and evaluates if `live`.  `whole` is the expression for messages. -/
def evaluate (whole : Raw) : (fuel : Nat) → (live : Bool) → Goal → Raw → Sh (Int64 × Raw)
  | 0, _, _, _ => mistake "expecting primary" whole
  | fuel + 1, live, .assignment, cs => do
    let choice : Sh (Int64 × Raw) := do
      let (test, rest) ← evaluate whole fuel live (.binary 2) cs
      match skipBlanks rest with
      | '?' :: rest => do
        let (yes, rest) ← evaluate whole fuel (live && test != 0) .assignment rest
        match skipBlanks rest with
        | ':' :: rest =>
          let (no, rest) ← evaluate whole fuel (live && test == 0) .assignment rest
          return (if test != 0 then yes else no, rest)
        | _ => mistake "expecting ':'" whole
      | rest => return (test, rest)
    match holder? (skipBlanks cs) with
    | none => choice
    | some (h, rest) =>
      match assignment? (skipBlanks rest) with
      | none => choice
      | some (op, rest) =>
        let (right, rest) ← evaluate whole fuel live .assignment rest
        if !live then return (0, rest)
        let value ← if op.isEmpty then pure right else do combined whole op (← heldNumber h) right
        hold h 0 value
        return (value, rest)
  | fuel + 1, live, .operand, cs =>
    match skipBlanks cs with
    | '(' :: rest => do
      let (v, rest) ← evaluate whole fuel live .assignment rest
      match skipBlanks rest with
      | ')' :: rest => return (v, rest)
      | _ => mistake "expecting ')'" whole
    | '-' :: rest => do
      let (v, rest) ← evaluate whole fuel live .operand rest
      return (-v, rest)
    | '+' :: rest => evaluate whole fuel live .operand rest
    | '!' :: rest => do
      let (v, rest) ← evaluate whole fuel live .operand rest
      return (truth (v == 0), rest)
    | '~' :: rest => do
      let (v, rest) ← evaluate whole fuel live .operand rest
      return (~~~v, rest)
    | cs => do
      match number? cs with
      | some found => return found
      | none =>
        match holder? cs with
        | none => mistake "expecting primary" whole
        | some (h, rest) => return (← if live then heldNumber h else pure 0, rest)
  | fuel + 1, live, .binary level, cs => do
    let (left, rest) ← evaluate whole fuel live .operand cs
    evaluate whole fuel live (.more level left) rest
  | fuel + 1, live, .more level left, cs =>
    let cs := skipBlanks cs
    match operator? cs with
    | some (name, binds, rest) =>
      if binds < level || (assignment? cs).isSome then return (left, cs)
      else do
        let needed := if name = "&&" then left != 0 else if name = "||" then left == 0 else true
        let (right, after) ← evaluate whole fuel (live && needed) (.binary (binds + 1)) rest
        let v ← if live && needed then combined whole name left right
          else pure (if name = "||" then 1 else 0)
        evaluate whole fuel live (.more level v) after
    | none => return (left, cs)

/-- The value of an expression. -/
def value (expression : Raw) : Sh Int64 := do
  let (v, rest) ← evaluate expression (6 * expression.length + 200) true .assignment expression
  if (skipBlanks rest).isEmpty then return v else mistake "expecting EOF" expression

end RunMeter.Machine.Shell.Arithmetic.Plain
