import RunMeter.Machine.Format
import RunMeter.Machine.Utility.Perl.Program
import Std.Data.HashMap

/-!
# RunMeter.Machine.Utility.Perl.Value — what variables hold

A single value is a number, a text or a reference, and numbers and texts can be taken for each other.  Arrays hold
values in order, tables hold them by key.

* `Value.number`, `Value.text`: a value as a number and as a text.
* `Operator.apply?`: what an operator makes of two values.

Nothing that is proved depends on this module.
-/

namespace RunMeter.Machine.Perl

/-- A single value. -/
inductive Value where
  | undefined
  | int (n : Int)
  | real (f : Float)
  | text (r : Raw)
  /-- A value that is one thing as a number and another as a text. -/
  | dual (n : Int) (r : Raw)
  /-- What leads to a variable with a number. -/
  | reference (sign : Sign) (cell : Nat)
  /-- An expression for texts. -/
  | pattern (text flags : Raw)

/-! ## Tables -/

/-- Values by key, each with a mark that says when its key was first put there. -/
structure Table where
  cells : Std.HashMap Raw (Nat × Value)
  clock : Nat
  /-- Which key comes next where they are gone through one after another. -/
  turn : Nat

namespace Table

/-- The table without values. -/
def empty : Table := ⟨∅, 0, 0⟩

/-- The value of a key. -/
def get? (t : Table) (key : Raw) : Option Value := (t.cells.get? key).map Prod.snd

/-- Puts a value. -/
def put (t : Table) (key : Raw) (v : Value) : Table :=
  let mark := ((t.cells.get? key).map Prod.fst).getD t.clock
  { t with cells := t.cells.insert key (mark, v), clock := t.clock + 1 }

/-- Takes a value out. -/
def erase (t : Table) (key : Raw) : Table := { t with cells := t.cells.erase key }

/-- How many values there are. -/
def size (t : Table) : Nat := t.cells.size

/-- Keys and values in the order in which the keys were put there. -/
def entries (t : Table) : List (Raw × Value) :=
  let marked := t.cells.toList.mergeSort fun a b => a.2.1 ≤ b.2.1
  marked.map fun (key, _, v) => (key, v)

end Table

/-! ## Numbers -/

/-- The least and the greatest whole number that is held exactly. -/
def leastInt : Int := -9223372036854775808

@[inherit_doc leastInt]
def greatestInt : Int := 18446744073709551615

/-- A whole number as a floating-point number. -/
def floatOf (n : Int) : Float := Float.ofInt n

/-- A whole number, as a floating-point number if it is too large. -/
def ofInt (n : Int) : Value :=
  if leastInt ≤ n && n ≤ greatestInt then .int n else .real (floatOf n)

/-- The whole number that a floating-point number is, if it is one that has all its digits. -/
def whole? (f : Float) : Option Int :=
  match Quantity.ofFloat f with
  | ⟨negative, .finite q⟩ =>
    if q.den = 1 && q.num < 9007199254740992 then some (if negative then -q.num else q.num) else none
  | _ => none

/-- A floating-point number cut to a whole one within the bounds of what is held. -/
def cutToInt (f : Float) : Int :=
  match Quantity.ofFloat f with
  | ⟨negative, .finite q⟩ => if negative then max (-(q.floor)) leastInt else min q.floor greatestInt
  | ⟨negative, .infinite⟩ => if negative then leastInt else greatestInt
  | ⟨_, .undefined⟩ => 0

/-- A floating-point number as it is shown. -/
def realShown (f : Float) : Raw :=
  let q := Quantity.ofFloat f
  match q.magnitude with
  | .infinite => if q.negative then "-Inf".toList else "Inf".toList
  | .undefined => "NaN".toList
  | .finite r =>
    let body := Quantity.general r 15 false 'e'
    if q.negative && r != 0 then '-' :: body else body

/-- A number without a sign at the start of a text, and the rest. -/
def unsignedNumber (body : Raw) : Value × Raw :=
  let whole := body.takeWhile Char.isDigit
  let rest := body.drop whole.length
  let fraction : Option Raw := match rest with
    | '.' :: more => some (more.takeWhile Char.isDigit)
    | _ => none
  if whole.isEmpty && (fraction.getD []).isEmpty then
    let lower := Raw.toLower body
    if "infinity".toList.isPrefixOf lower then (.real (1.0 / 0.0), body.drop 8)
    else if "inf".toList.isPrefixOf lower then (.real (1.0 / 0.0), body.drop 3)
    else if "nan".toList.isPrefixOf lower then (.real (0.0 / 0.0), body.drop 3)
    else (.int 0, body)
  else
    let after := match fraction with
      | some ds => rest.drop (ds.length + 1)
      | none => rest
    let exponent : Option (Int × Raw) := match after with
      | e :: more => if e = 'e' || e = 'E' then Quantity.exponent? more else none
      | [] => none
    match fraction, exponent with
    | none, none =>
      let n := Raw.valueIn 10 whole
      (ofInt n, after)
    | _, _ =>
      let ds := fraction.getD []
      let e := (exponent.map Prod.fst).getD 0
      let rest := (exponent.map Prod.snd).getD after
      (.real (Float.ofScientific (Raw.valueIn 10 (whole ++ ds)) (e - ds.length < 0) (e - ds.length).natAbs), rest)

/-- A number of the opposite sign. -/
def opposite : Value → Value
  | .int n => ofInt (-n)
  | .real f => .real (-f)
  | v => v

/-- The number at the start of a text, and the rest. -/
def leadingNumber (r : Raw) : Value × Raw :=
  match Raw.trimStart r with
  | '-' :: rest =>
    let (v, left) := unsignedNumber rest
    (opposite v, left)
  | '+' :: rest => unsignedNumber rest
  | rest => unsignedNumber rest

/-- Whether a text is a number, blanks at its ends apart. -/
def looksLikeNumber (r : Raw) : Bool :=
  let body := Raw.trim r
  let (_, rest) := leadingNumber body
  rest.isEmpty && !body.isEmpty

/-- The word for what a reference leads to. -/
def Sign.word : Sign → String
  | scalar => "SCALAR"
  | array => "ARRAY"
  | table => "HASH"
  | code => "CODE"
  | handle => "GLOB"

namespace Value

/-- A truth value. -/
def ofBool (b : Bool) : Value := if b then .int 1 else .dual 0 []

/-- The number that stands for a reference. -/
def address (cell : Nat) : Nat := 0x55d0c8a00000 + 24 * cell

/-- The text of an expression with its flags. -/
def patternText (r flags : Raw) : Raw :=
  "(?^".toList ++ flags ++ ':' :: r ++ [')']

/-- A value as a number, whole or not. -/
def number : Value → Value
  | undefined => int 0
  | int n => int n
  | real f => real f
  | text r => (leadingNumber r).1
  | dual n _ => int n
  | reference _ c => int (address c)
  | pattern .. => int 0

/-- A value as a floating-point number. -/
def float (v : Value) : Float :=
  match v.number with
  | int n => floatOf n
  | real f => f
  | _ => 0

/-- A value as a whole number, cut where it has a fraction. -/
def toInt (v : Value) : Int :=
  match v.number with
  | int n => n
  | real f => cutToInt f
  | _ => 0

/-- A value as a natural number; 0 where it is negative. -/
def toNat (v : Value) : Nat := v.toInt.toNat

/-- The text of a reference. -/
def referenceText (sign : Sign) (cell : Nat) : Raw :=
  sign.word.toList ++ "(0x".toList ++ Raw.digits 16 (address cell) ++ [')']

/-- A value as a text. -/
def toText : Value → Raw
  | undefined => []
  | int n => Raw.ofInt n
  | real f => realShown f
  | text r => r
  | dual _ r => r
  | reference sign cell => referenceText sign cell
  | pattern r flags => patternText r flags

/-- Whether a value counts as true. -/
def isTrue : Value → Bool
  | undefined => false
  | int n => n != 0
  | real f => f != 0
  | text r => !(r.isEmpty || r = ['0'])
  | dual _ r => !(r.isEmpty || r = ['0'])
  | reference .. => true
  | pattern .. => true

/-- Whether there is a value. -/
def isDefined : Value → Bool
  | undefined => false
  | _ => true

/-- A number that is whole as a whole number. -/
def settled : Value → Value
  | real f => ((whole? f).map int).getD (real f)
  | v => v

/-- A word of 64 bits. -/
def toWord (v : Value) : Nat := (v.toInt % 18446744073709551616).toNat

end Value

/-! ## Operators -/

namespace Order

/-- Whether an ordering is as a comparison asks. -/
def admits : Order → Ordering → Bool
  | less, o => o == .lt
  | atMost, o => o != .gt
  | equal, o => o == .eq
  | different, o => o != .eq
  | greater, o => o == .gt
  | atLeast, o => o != .lt

end Order

/-- How a text stands to another by its octets. -/
def textOrder (a b : Raw) : Ordering :=
  if a == b then .eq else if Raw.atMost a b then .lt else .gt

/-- How a number stands to another; nothing if one of them is none. -/
def numberOrder (a b : Value) : Option Ordering :=
  match a.number.settled, b.number.settled with
  | .int m, .int n => some (compare m n)
  | x, y =>
    let f := x.float
    let g := y.float
    if f < g then some .lt else if f == g then some .eq else if f > g then some .gt else none

/-- A floating-point remainder is that of the whole parts, with the sign of the divisor. -/
def remainder (a b : Value) : Option Value :=
  let m := a.toInt
  let n := b.toInt
  if n = 0 then none else some (.int (Int.fmod m n))

/-- How many binary digits a number has. -/
def bitLength (n : Nat) : Nat := if n = 0 then 0 else Nat.log2 n + 1

/-- A number to the power of another: exactly where the binary digits of whole numbers are few enough. -/
def powerOf (a b : Value) : Value :=
  match a.number.settled, b.number.settled with
  | .int m, .int n =>
    let size := m.natAbs
    if n ≥ 0 && size &&& (size - 1) != 0 && bitLength size * n.toNat ≤ 64 then ofInt (Int.pow m n.toNat)
    else .real (Float.pow (floatOf m) (floatOf n))
  | x, y => .real (Float.pow x.float y.float)

/-- Two texts combined octet by octet. -/
def octetwise (op : Nat → Nat → Nat) (longer : Bool) (a b : Raw) : Raw :=
  let size := if longer then max a.length b.length else min a.length b.length
  let fill (r : Raw) : Raw := r ++ List.replicate (size - r.length) '\x00'
  (List.zip (fill a) (fill b)).take size |>.map fun (x, y) => Char.ofNat (op x.toNat y.toNat)

/-- Why an operator has no value. -/
inductive OperatorFault where
  | division
  | modulus

/-- What is said about it. -/
def OperatorFault.message : OperatorFault → String
  | division => "Illegal division by zero"
  | modulus => "Illegal modulus zero"

/-- What an operator of bits makes of two values: of their octets if both are texts. -/
def bitwise (op : Nat → Nat → Nat) (longer : Bool) (a b : Value) : Value :=
  match a, b with
  | .text x, .text y => .text (octetwise op longer x y)
  | a, b => .int (op a.toWord b.toWord)

/-- What an operator of numbers makes of two values: exactly where both are whole. -/
def arithmetic (exact : Int → Int → Int) (rounded : Float → Float → Float) (a b : Value) : Value :=
  match a.number.settled, b.number.settled with
  | .int m, .int n =>
    let r := exact m n
    if leastInt ≤ r && r ≤ greatestInt then .int r else .real (rounded (floatOf m) (floatOf n))
  | x, y => .real (rounded x.float y.float)

/-- How many octets a repeated text may have. -/
def repeatBound : Nat := 100000000

/-- What an operator makes of two values. -/
def Operator.apply : Operator → Value → Value → Except OperatorFault Value
  | add, a, b => .ok (arithmetic (· + ·) (· + ·) a b)
  | subtract, a, b => .ok (arithmetic (· - ·) (· - ·) a b)
  | multiply, a, b => .ok (arithmetic (· * ·) (· * ·) a b)
  | divide, a, b =>
    match a.number.settled, b.number.settled with
    | .int m, .int n =>
      if n = 0 then .error .division
      else if m % n = 0 then .ok (.int (m / n))
      else .ok (.real (floatOf m / floatOf n))
    | x, y => if y.float == 0 then .error .division else .ok (.real (x.float / y.float))
  | modulo, a, b =>
    match remainder a b with
    | some v => .ok v
    | none => .error .modulus
  | power, a, b => .ok (powerOf a b)
  | join, a, b => .ok (.text (a.toText ++ b.toText))
  | repeated, a, b =>
    let r := a.toText
    let count := min b.toNat (repeatBound / max r.length 1)
    .ok (.text (List.replicate count r).flatten)
  | shiftLeft, a, b =>
    .ok (.int (if b.toNat ≥ 64 then 0 else a.toWord * Nat.pow 2 b.toNat % 18446744073709551616 : Nat))
  | shiftRight, a, b => .ok (.int (if b.toNat ≥ 64 then 0 else a.toWord / Nat.pow 2 b.toNat : Nat))
  | bitAnd, a, b => .ok (bitwise Nat.land false a b)
  | bitOr, a, b => .ok (bitwise Nat.lor true a b)
  | bitXor, a, b => .ok (bitwise Nat.xor true a b)
  | compare true order, a, b => .ok (.ofBool (order.admits (textOrder a.toText b.toText)))
  | compare false order, a, b =>
    .ok (.ofBool (match numberOrder a b with
      | some o => order.admits o
      | none => order = .different))
  | ordering textual, a, b =>
    let o := if textual then some (textOrder a.toText b.toText) else numberOrder a b
    .ok (match o with
      | some .lt => .int (-1)
      | some .eq => .int 0
      | some .gt => .int 1
      | none => .undefined)

/-! ## Steps -/

/-- The text after one in the order of letters and digits, from the last place on. -/
def textAfter : Raw → Raw
  | [] => []
  | ['z'] => ['a', 'a']
  | ['Z'] => ['A', 'A']
  | ['9'] => ['0', '1']
  | 'z' :: rest => 'a' :: textAfter rest
  | 'Z' :: rest => 'A' :: textAfter rest
  | '9' :: rest => '0' :: textAfter rest
  | c :: rest => Char.ofNat (c.toNat + 1) :: rest

/-- Whether a text is letters and then digits, and no number. -/
def isStepText (r : Raw) : Bool :=
  let rest := r.dropWhile Char.isAlpha
  !r.isEmpty && rest.all Char.isDigit && rest.length < r.length

/-- A value one step up or down. -/
def stepped (up : Bool) (v : Value) : Value :=
  match v, up with
  | .text r, true =>
    if isStepText r then .text (textAfter r.reverse).reverse else arithmetic (· + ·) (· + ·) v (.int 1)
  | v, true => arithmetic (· + ·) (· + ·) v (.int 1)
  | v, false => arithmetic (· - ·) (· - ·) v (.int 1)

/-- How many values a range may have. -/
def rangeBound : Nat := 10000000

/-- Texts from one on, up to another or to those that are longer. -/
def textsBetween (last : Raw) : (fuel : Nat) → Raw → List Value
  | 0, _ => []
  | fuel + 1, r =>
    if r.length > last.length then []
    else if r == last then [.text r]
    else .text r :: textsBetween last fuel (textAfter r.reverse).reverse

/-- The values from one to another. -/
def rangeOf (first last : Value) : List Value :=
  let isPlain (r : Raw) : Bool := looksLikeNumber r && !(r.head? = some '0' && r.length > 1)
  match first with
  | .text r =>
    if r.isEmpty then [.text []]
    else if isPlain r then numbers
    else if isStepText r || r.all Char.isDigit then textsBetween last.toText rangeBound r
    else [.text r]
  | _ => numbers
where
  /-- The whole numbers between them. -/
  numbers : List Value :=
    let a := first.toInt
    let b := last.toInt
    if b < a then []
    else (List.range (min ((b - a).toNat + 1) rangeBound)).map fun (i : Nat) => .int (a + (i : Int))

/-! ## Formats -/

/-- The digits of a number in base two. -/
def binaryDigits (n : Nat) : Raw := Raw.digits 2 n

/-- A value in a conversion. -/
def converted (c : Conversion) (v : Value) : Raw :=
  let special : Option Raw := match v.number with
    | .real f => if f.isFinite then none else some (realShown f)
    | _ => none
  match c.letter with
  | 's' => c.text v.toText
  | 'c' => c.field [Char.ofNat v.toNat]
  | 'd' | 'i' => match special with
    | some r => c.field r
    | none => c.signed v.toInt
  | 'u' => { c with letter := 'u' }.unsigned v.toWord
  | 'o' | 'x' | 'X' => c.unsigned v.toWord
  | 'b' | 'B' =>
    let ds := binaryDigits v.toWord
    c.number (if c.flags.contains '#' && v.toWord != 0 then ['0', c.letter] else []) ds
  | _ => match special with
    | some r => c.field r
    | none => c.real true (Quantity.ofFloat v.float)

/-- What a format writes with values. -/
def formatted (all : List Value) : (fuel : Nat) → Raw → List Value → Raw
  | 0, _, _ => []
  | _, [], _ => []
  | fuel + 1, '%' :: '%' :: rest, vs => '%' :: formatted all fuel rest vs
  | fuel + 1, '%' :: spec, vs =>
    let number := spec.takeWhile Char.isDigit
    let (chosen, spec) : Option Value × Raw := match number, spec.drop number.length with
      | _ :: _, '$' :: rest => (some (all.getD (Raw.valueIn 10 number - 1) .undefined), rest)
      | _, _ => (none, spec)
    let flags := spec.takeWhile "-+ #0".toList.contains
    let measure (r : Raw) (vs : List Value) : Option Int × Raw × List Value :=
      match r with
      | '*' :: rest => (some (vs.headD .undefined).toInt, rest, vs.drop 1)
      | r =>
        let ds := r.takeWhile Char.isDigit
        (if ds.isEmpty then none else some (Raw.valueIn 10 ds : Int), r.drop ds.length, vs)
    let dots : Bool := (spec.drop flags.length).head? = some 'v'
    let (width, rest, left) := measure (spec.drop (flags.length + if dots then 1 else 0)) vs
    let (precision, rest, left) : Option Int × Raw × List Value := match rest with
      | '.' :: rest =>
        let (p, rest, left) := measure rest left
        (some (p.getD 0), rest, left)
      | rest => (none, rest, left)
    match rest.dropWhile "hlLqVzt".toList.contains with
    | letter :: after =>
      if "sdiuoxXbBeEfFgGaAcD".toList.contains letter then
        let (v, left) : Value × List Value := match chosen with
          | some v => (v, left)
          | none => (left.headD .undefined, left.drop 1)
        let c : Conversion := ⟨flags, width, precision, letter⟩
        let shown := if dots then Raw.joined ['.'] (v.toText.map fun ch => Raw.ofNat ch.toNat) else converted c v
        shown ++ formatted all fuel after left
      else '%' :: (spec.take (spec.length - after.length)) ++ formatted all fuel after vs
    | [] => '%' :: spec
  | fuel + 1, c :: rest, vs => c :: formatted all fuel rest vs

/-- What a format writes. -/
def printedWith (format : Raw) (vs : List Value) : Raw :=
  formatted vs (format.length + 1) format vs

end RunMeter.Machine.Perl
