import RunMeter.Machine.Utility.Python.Sequences

/-!
# RunMeter.Machine.Utility.Python.Operators — what operators make of values

* `arithmetic`: an operator of two values.
* `compared`: a comparison.
* `percentFormatted`: a text with conversions, each of which shows a value.

Nothing that is proved depends on this module.
-/

namespace RunMeter.Machine.Python
namespace Running

/-- The length from which a repeated sequence is not spread out. -/
def vastLength : Nat := 200000

/-- The length that no sequence can have. -/
def mostLength : Nat := 1099511627776

/-- The most binary digits that a power is computed to. -/
def mostBits : Nat := 4000000

/-- A sequence repeated. -/
def repeated (v : Value) (length : Nat) (count : Int) (spread : Nat → Running Value) : Running Value := do
  let n := count.toNat
  if length * n ≥ mostLength then raise "MemoryError" ""
  else if length * n ≥ vastLength then return .vast v n
  else spread n

/-- The remainder of two floating-point numbers, with the sign of the second. -/
def realModulo (a b : Float) : Float :=
  match Quantity.ofFloat a, Quantity.ofFloat b with
  | ⟨na, .finite x⟩, ⟨nb, .finite y⟩ =>
    let p := if na then -x else x
    let q := if nb then -y else y
    let rest := p - ((p / q).floor : Rat) * q
    Float.ofInt rest.num / Float.ofNat rest.den
  | ⟨na, .finite _⟩, ⟨nb, .infinite⟩ => if na == nb || a == 0 then a else b
  | _, _ => 0.0 / 0.0

/-- A whole number taken from a floating-point one by cutting its fraction, if it is finite. -/
def wholePart? (f : Float) : Option Int :=
  match Quantity.ofFloat f with
  | ⟨negative, .finite q⟩ => some (if negative then -q.floor else q.floor)
  | _ => none

/-! ## Texts with conversions -/

/-- A text with conversions, each of which shows a value. -/
def percentParts (m : Means) (source : Option Value) : (fuel : Nat) → Text → List Value → Running (List Text × List Value)
  | 0, _, vs => return ([], vs)
  | _, [], vs => return ([], vs)
  | fuel + 1, '%' :: '%' :: rest, vs => do
    let (more, left) ← percentParts m source fuel rest vs
    return (['%'] :: more, left)
  | fuel + 1, '%' :: spec, vs => do
    let (key, spec) : Option Text × Text := match spec with
      | '(' :: body =>
        let k := body.takeWhile (· != ')')
        (some k, body.drop (k.length + 1))
      | spec => (none, spec)
    let flags := spec.takeWhile "-+ #0".toList.contains
    let spec := spec.drop flags.length
    let (width, spec, vs) ← match spec, vs with
      | '*' :: rest, v :: more => do pure (some (← intOf v), rest, more)
      | spec, vs =>
        let ds := spec.takeWhile Char.isDigit
        pure (if ds.isEmpty then none else some (Raw.valueIn 10 ds : Int), spec.drop ds.length, vs)
    let (precision, spec) : Option Int × Text := match spec with
      | '.' :: rest =>
        let ds := rest.takeWhile Char.isDigit
        (some (Raw.valueIn 10 ds), rest.drop ds.length)
      | spec => (none, spec)
    match spec.dropWhile "hlL".toList.contains with
    | [] => raise "ValueError" "incomplete format"
    | letter :: after =>
      let (v, vs) ← match key, source with
        | some k, some d => do pure (← elementOf m d (.text k), vs)
        | some _, none => raiseKind "format requires a mapping"
        | none, _ =>
          match vs with
          | v :: more => pure (v, more)
          | [] => raiseKind "not enough arguments for format string"
      let c : Conversion := ⟨flags, width, precision, if letter = 'i' || letter = 'u' then 'd' else letter⟩
      let number : Running Int := do
        match v with
        | .real f =>
          match wholePart? f with
          | some n => return n
          | none => raise "OverflowError" "cannot convert float infinity to integer"
        | v =>
          match v.int? with
          | some n => return n
          | none =>
            raiseKind ("%" ++ String.singleton letter ++ " format: a real number is required, not " ++ (← kindName v))
      let shown ← match letter with
        | 'd' | 'i' | 'u' => do pure (c.signed (← number))
        | 'x' | 'X' | 'o' => do
          let n ← number
          let mark : Text := if !flags.contains '#' then [] else if letter = 'o' then ['0', 'o'] else ['0', letter]
          let ds := Raw.digits (if letter = 'o' then 8 else 16) n.natAbs
          pure (c.number (c.sign (n < 0) ++ mark) (if letter = 'X' then Raw.toUpper ds else ds))
        | 'e' | 'E' | 'f' | 'F' | 'g' | 'G' => do
          match v.real? with
          | some f => pure (c.real true (Quantity.ofFloat f))
          | none => raiseKind ("must be real number, not " ++ (← kindName v))
        | 'c' => do
          match v with
          | .text t => pure (c.field t)
          | v => pure (c.field [Char.ofNat (← intOf v).toNat])
        | 's' => do pure (c.text (← printedBy m v))
        | 'r' | 'a' => do pure (c.text (← shownBy m v))
        | l => raise "ValueError" ("unsupported format character '" ++ String.singleton l ++ "' (0x" ++
            Raw.text (Value.hexDigits 2 l.toNat) ++ ")")
      let (more, left) ← percentParts m source fuel after vs
      return (shown :: more, left)
  | fuel + 1, c :: rest, vs => do
    let plain := (c :: rest).takeWhile (· != '%')
    let (more, left) ← percentParts m source fuel ((c :: rest).drop plain.length) vs
    return (plain :: more, left)

/-- A text with conversions, each of which shows a value. -/
def percentFormatted (m : Means) (form : Text) (v : Value) : Running Text := do
  let isDict ← match v with
    | .object n => do
      match ← objectAt n with
      | .dict _ => pure true
      | _ => pure false
    | _ => pure false
  let vs := match v with
    | .tuple vs => vs
    | v => [v]
  let (parts, left) ← percentParts m (if isDict then some v else none) (form.length + 1) form vs
  if !left.isEmpty && !isDict then raiseKind "not all arguments converted during string formatting"
  return parts.flatten

/-! ## Arithmetic -/

/-- Begins to leave because an operator does not fit two values. -/
def unfit {α : Type} (sign : String) (a b : Value) : Running α := do
  let sign := if sign == "**" then "** or pow()" else sign
  raiseKind ("unsupported operand type(s) for " ++ sign ++ ": '" ++ (← kindName a) ++ "' and '" ++ (← kindName b) ++ "'")

/-- An operator of whole numbers. -/
def wholeArithmetic (op : Operator) (a b : Int) : Running Value := do
  match op with
  | .add => return .int (a + b)
  | .subtract => return .int (a - b)
  | .multiply => return .int (a * b)
  | .divide =>
    if b = 0 then raise "ZeroDivisionError" "division by zero"
    else
      let q : Rat := (a : Rat) / (b : Rat)
      let r := Rounding.toBits 53 (if q < 0 then -q else q)
      let f := Float.ofInt r.num / Float.ofNat r.den
      return .real (if q < 0 then -f else f)
  | .divideDown =>
    if b = 0 then raise "ZeroDivisionError" "integer division or modulo by zero" else return .int (Int.fdiv a b)
  | .modulo => if b = 0 then raise "ZeroDivisionError" "integer modulo by zero" else return .int (Int.fmod a b)
  | .power =>
    if b < 0 then
      if a = 0 then raise "ZeroDivisionError" "0.0 cannot be raised to a negative power"
      else return .real (Float.pow (Float.ofInt a) (Float.ofInt b))
    else if (Nat.log2 a.natAbs + 1) * b.toNat > mostBits && a.natAbs > 1 then raise "MemoryError" ""
    else return .int (Int.pow a b.toNat)
  | .shiftLeft =>
    if b < 0 then raise "ValueError" "negative shift count"
    else if b.toNat > mostBits && a != 0 then raise "MemoryError" ""
    else return .int (a * (Nat.pow 2 b.toNat : Nat))
  | .shiftRight =>
    if b < 0 then raise "ValueError" "negative shift count"
    else return .int (if b.toNat > mostBits then (if a < 0 then -1 else 0) else Int.fdiv a (Nat.pow 2 b.toNat : Nat))
  | .bitAnd => return .int (bits Nat.land a b)
  | .bitOr => return .int (bits Nat.lor a b)
  | .bitXor => return .int (bits Nat.xor a b)
  | .matrix => unfit "@" (.int a) (.int b)
where
  /-- An operator of binary digits, of which a negative number has endlessly many before those that are told. -/
  bits (f : Nat → Nat → Nat) (a b : Int) : Int :=
    let width := max (Nat.log2 a.natAbs) (Nat.log2 b.natAbs) + 2
    let modulus : Nat := Nat.pow 2 width
    let word (n : Int) : Nat := (n % (modulus : Int)).toNat
    let r := f (word a) (word b)
    if r ≥ modulus / 2 then (r : Int) - modulus else r

/-- An operator of floating-point numbers. -/
def realArithmetic (op : Operator) (a b : Float) : Running Value := do
  match op with
  | .add => return .real (a + b)
  | .subtract => return .real (a - b)
  | .multiply => return .real (a * b)
  | .divide => if b == 0 then raise "ZeroDivisionError" "float division by zero" else return .real (a / b)
  | .divideDown =>
    if b == 0 then raise "ZeroDivisionError" "float floor division by zero" else return .real (Float.floor (a / b))
  | .modulo => if b == 0 then raise "ZeroDivisionError" "float modulo" else return .real (realModulo a b)
  | .power =>
    if a == 0 && b < 0 then raise "ZeroDivisionError" "0.0 cannot be raised to a negative power"
    else
      let f := Float.pow a b
      if f.isInf && !(a.isInf || b.isInf) then
        raiseWith "OverflowError" [.int 34, .text "Numerical result out of range".toList] []
      else return .real f
  | op => unfit op.sign (.real a) (.real b)

/-- An operator of two values. -/
def arithmetic (m : Means) (op : Operator) (sign : String) (a b : Value) : Running Value := do
  let s ← store
  let own (name : String) (v w : Value) : Running (Option Value) := do
    match ← ownMethod? v name with
    | some f => return some (← m.call f [v, w] [])
    | none => return none
  let name := match op with
    | .add => "add"
    | .subtract => "sub"
    | .multiply => "mul"
    | .divide => "truediv"
    | .divideDown => "floordiv"
    | .modulo => "mod"
    | .power => "pow"
    | .matrix => "matmul"
    | .shiftLeft => "lshift"
    | .shiftRight => "rshift"
    | .bitAnd => "and"
    | .bitOr => "or"
    | .bitXor => "xor"
  match a, b with
  | .truth x, .truth y =>
    match op with
    | .bitAnd => return .truth (x && y)
    | .bitOr => return .truth (x || y)
    | .bitXor => return .truth (x != y)
    | op => wholeArithmetic op (if x then 1 else 0) (if y then 1 else 0)
  | a, b =>
    match a.int?, b.int? with
    | some x, some y => wholeArithmetic op x y
    | _, _ =>
      match a.real?, b.real? with
      | some x, some y => realArithmetic op x y
      | _, _ =>
        match op, a, b with
        | .modulo, .text t, v => return .text (← percentFormatted m t v)
        | .modulo, .octets r, v => return .octets (← percentFormatted m r v)
        | .add, .text t, .text u => return .text (t ++ u)
        | .add, .tuple vs, .tuple ws => return .tuple (vs ++ ws)
        | .multiply, v, w =>
          let times (v : Value) (n : Int) : Running (Option Value) := do
            match v with
            | .text t => return some (← repeated v t.length n fun k => pure (.text (List.replicate k t).flatten))
            | .octets r => return some (← repeated v r.length n fun k => pure (.octets (List.replicate k r).flatten))
            | .tuple vs => return some (← repeated v vs.length n fun k => pure (.tuple (List.replicate k vs).flatten))
            | .vast u k => return some (.vast u (k * n.toNat))
            | .object i =>
              match s.at i with
              | .list vs =>
                match vs.toList with
                | [u] => return some (← repeated u 1 n fun k => newList (List.replicate k u))
                | vs => return some (← newList (List.replicate n.toNat vs).flatten)
              | .octetArray r => return some (← create (.octetArray (List.replicate n.toNat r).flatten))
              | _ => return none
            | _ => return none
          let product ← match w.int?, v.int? with
            | some n, _ => times v n
            | none, some n => times w n
            | none, none => pure none
          match product with
          | some p => return p
          | none =>
            match ← own "__mul__" v w with
            | some r => return r
            | none =>
              let isSequence (v : Value) : Bool := (v matches .text _ | .octets _ | .tuple _) || (v.items? s).isSome
              if isSequence v then raiseKind ("can't multiply sequence by non-int of type '" ++ w.kindName s ++ "'")
              else unfit sign v w
        | op, a, b =>
          match op, a.octets? s, b.octets? s with
          | .add, some r, some q =>
            match a with
            | .object _ => create (.octetArray (r ++ q))
            | _ => return .octets (r ++ q)
          | _, _, _ =>
            let sets : Option (List Value × List Value) := match a, b with
              | .object i, .object j => match s.at i, s.at j with
                | .set _ vs, .set _ ws => some (vs, ws)
                | _, _ => none
              | _, _ => none
            let isIn (v : Value) (ws : List Value) : Bool := ws.any (Value.equal s v)
            let newSet (vs : List Value) : Running Value := create (.set false vs)
            match op, sets with
            | .bitOr, some (vs, ws) => newSet (distinct s (vs ++ ws))
            | .bitAnd, some (vs, ws) => newSet (vs.filter fun v => isIn v ws)
            | .subtract, some (vs, ws) => newSet (vs.filter fun v => !(isIn v ws))
            | .bitXor, some (vs, ws) => newSet (vs.filter (fun v => !(isIn v ws)) ++ ws.filter fun v => !(isIn v vs))
            | op, _ =>
              let dicts : Option (List (Value × Value) × List (Value × Value)) := match a, b with
                | .object i, .object j => match s.at i, s.at j with
                  | .dict es, .dict fs => some (es, fs)
                  | _, _ => none
                | _, _ => none
              match op, dicts with
              | .bitOr, some (es, fs) => create (.dict (fs.foldl (fun es (k, v) => withEntry s k v es) es))
              | op, _ =>
                match ← own ("__" ++ name ++ "__") a b with
                | some v => return v
                | none =>
                  match ← own ("__r" ++ name ++ "__") b a with
                  | some v => return v
                  | none =>
                    match op, a with
                    | .add, .text _ => raiseKind ("can only concatenate str (not \"" ++ b.kindName s ++ "\") to str")
                    | .add, .tuple _ =>
                      raiseKind ("can only concatenate tuple (not \"" ++ b.kindName s ++ "\") to tuple")
                    | .add, .octets _ => raiseKind ("can't concat " ++ b.kindName s ++ " to bytes")
                    | .add, a =>
                      match a.items? s, b.items? s with
                      | some vs, some ws => newList (vs ++ ws)
                      | some _, none => raiseKind ("can only concatenate list (not \"" ++ b.kindName s ++ "\") to list")
                      | none, _ => unfit sign a b
                    | _, a => unfit sign a b

/-- An operator of one value. -/
def prefixed (m : Means) (op : Prefixed) (v : Value) : Running Value := do
  let sign := match op with
    | .negative => "-"
    | .positive => "+"
    | .inverted => "~"
  match op, v with
  | .negative, .real f => return .real (-f)
  | .positive, .real _ => return v
  | op, v =>
    match v.int? with
    | some n => return .int (match op with
        | .negative => -n
        | .positive => n
        | .inverted => -n - 1)
    | none =>
      match ← ownMethod? v (match op with
          | .negative => "__neg__"
          | .positive => "__pos__"
          | .inverted => "__invert__") with
      | some f => m.call f [v] []
      | none => raiseKind ("bad operand type for unary " ++ sign ++ ": '" ++ (← kindName v) ++ "'")

/-- A comparison of two values. -/
def compared (m : Means) (op : Comparison) (a b : Value) : Running Value := do
  let s ← store
  let own (name : String) : Running (Option Value) := do
    match ← ownMethod? a name with
    | some f => return some (← m.call f [a, b] [])
    | none => return none
  let order (name : String) (test : Ordering → Bool) : Running Value := do
    match a.orderWithin s Value.depth b with
    | some (some o) => return .truth (test o)
    | some none => return .truth false
    | none =>
      let sets : Option (List Value × List Value) := match a, b with
        | .object i, .object j => match s.at i, s.at j with
          | .set _ vs, .set _ ws => some (vs, ws)
          | _, _ => none
        | _, _ => none
      match sets with
      | some (vs, ws) =>
        let within (vs ws : List Value) : Bool := vs.all fun v => ws.any (Value.equal s v)
        let o : Option Ordering := if within vs ws then some (if within ws vs then .eq else .lt)
          else if within ws vs then some .gt else none
        return .truth ((o.map test).getD false)
      | none =>
        match ← own name with
        | some v => return v
        | none =>
          raiseKind ("'" ++ op.sign ++ "' not supported between instances of '" ++ a.kindName s ++ "' and '" ++ b.kindName s ++ "'")
  match op with
  | .equal => do
    match ← own "__eq__" with
    | some v => return v
    | none => return .truth (a.equal s b)
  | .different => do
    match ← own "__eq__" with
    | some v => return .truth (!(v.isTrue s))
    | none => return .truth (!(a.equal s b))
  | .same => return .truth (a.identical s b)
  | .notSame => return .truth (!(a.identical s b))
  | .among => return .truth (← contains m b a)
  | .notAmong => return .truth (!(← contains m b a))
  | .less => order "__lt__" (· == .lt)
  | .atMost => order "__le__" (· != .gt)
  | .greater => order "__gt__" (· == .gt)
  | .atLeast => order "__ge__" (· != .lt)

end Running
end RunMeter.Machine.Python
