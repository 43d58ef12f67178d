import RunMeter.Machine.Raw
import RunMeter.Time.Rounding

/-!
# RunMeter.Machine.Format — numbers as formats write them

A conversion of a format has flags, a width, a precision and a letter.  Numbers with a fraction are rational, or
no finite numbers; how a text is rounded to binary digits is said where it is read.

* `Conversion.field`, `Conversion.number`: texts and whole numbers in a field.
* `Quantity.ofText`: the number at the start of a text.
* `Conversion.real`: a number with a fraction, in positional or exponential notation.

Nothing that is proved depends on this module.
-/

namespace RunMeter.Machine

/-- A conversion of a format. -/
structure Conversion where
  flags : Raw
  width : Option Int
  precision : Option Int
  letter : Char

namespace Conversion

/-- The conversion without flags and sizes. -/
def plain (letter : Char) : Conversion := ⟨[], none, none, letter⟩

/-- A precision that counts: a negative one does not. -/
def places? (c : Conversion) : Option Nat :=
  match c.precision with
  | some p => if p < 0 then none else some p.toNat
  | none => none

/-- A text in a field of a width. -/
def field (c : Conversion) (text : Raw) : Raw :=
  let width := c.width.getD 0
  let gap := List.replicate (width.natAbs - text.length) ' '
  if c.flags.contains '-' || width < 0 then text ++ gap else gap ++ text

/-- A text cut to the precision, in a field. -/
def text (c : Conversion) (r : Raw) : Raw :=
  c.field (match c.places? with
    | some p => r.take p
    | none => r)

/-- A sign and digits in a field, with zeros between them if the flags say so. -/
def zeroField (c : Conversion) (sign digits : Raw) : Raw :=
  if c.flags.contains '0' && !c.flags.contains '-' && c.width.all (· ≥ 0) then
    let width := (c.width.getD 0).natAbs
    sign ++ List.replicate (width - sign.length - digits.length) '0' ++ digits
  else c.field (sign ++ digits)

/-- A number of digits in a field: at least as many as the precision says. -/
def number (c : Conversion) (sign digits : Raw) : Raw :=
  match c.places? with
  | some p =>
    let digits := if p = 0 && digits = ['0'] then [] else Raw.padZeros p digits
    c.field (sign ++ digits)
  | none => c.zeroField sign digits

/-- The sign of a number: what the flags put in front of one that is not negative. -/
def sign (c : Conversion) (negative : Bool) : Raw :=
  if negative then ['-'] else if c.flags.contains '+' then ['+'] else if c.flags.contains ' ' then [' '] else []

/-- A whole number with its sign. -/
def signed (c : Conversion) (n : Int) : Raw :=
  c.number (c.sign (n < 0)) (Raw.ofNat n.natAbs)

/-- A whole number without a sign, in the base of the letter. -/
def unsigned (c : Conversion) (n : Nat) : Raw :=
  match c.letter with
  | 'o' =>
    let ds := Raw.digits 8 n
    let ds := if c.flags.contains '#' && ds.head? != some '0' then '0' :: ds else ds
    c.number [] ds
  | 'x' => c.number (if c.flags.contains '#' && n != 0 then ['0', 'x'] else []) (Raw.digits 16 n)
  | 'X' => c.number (if c.flags.contains '#' && n != 0 then ['0', 'X'] else []) (Raw.toUpper (Raw.digits 16 n))
  | _ => c.number [] (Raw.ofNat n)

end Conversion

/-- How large a number is, apart from its sign. -/
inductive Magnitude where
  | finite (q : Rat)
  | infinite
  | undefined

/-- A number with a sign. -/
structure Quantity where
  negative : Bool
  magnitude : Magnitude

namespace Quantity

/-- Zero. -/
def zero : Quantity := ⟨false, .finite 0⟩

/-- A rational number. -/
def ofRat (q : Rat) : Quantity := if q < 0 then ⟨true, .finite (-q)⟩ else ⟨false, .finite q⟩

/-- The power of ten with an exponent of either sign. -/
def tenPow (e : Int) : Rat :=
  match e with
  | .ofNat n => (Nat.pow 10 n : Nat)
  | .negSucc n => 1 / (Nat.pow 10 (n + 1) : Nat)

/-- The greatest exponent that is taken as it is. -/
def maxExponent : Nat := 6000

/-- An exponent after its letter, and the rest; nothing if none stands there. -/
def exponent? (cs : Raw) : Option (Int × Raw) :=
  let (negative, ds) := match cs with
    | '-' :: rest => (true, rest)
    | '+' :: rest => (false, rest)
    | rest => (false, rest)
  let digits := ds.takeWhile Char.isDigit
  if digits.isEmpty then none
  else
    let n : Int := min (Raw.valueIn 10 digits) maxExponent
    some (if negative then -n else n, ds.drop digits.length)

/-- A number in positional notation in a base: its value, how many digits it has, and the rest. -/
def mantissa (base : Nat) (isDigit : Char → Bool) (cs : Raw) : Rat × Nat × Raw :=
  let whole := cs.takeWhile isDigit
  let rest := cs.drop whole.length
  let (fraction, after) := match rest with
    | '.' :: more =>
      let f := more.takeWhile isDigit
      (f, if whole.isEmpty && f.isEmpty then rest else more.drop f.length)
    | _ => ([], rest)
  ((Raw.valueIn base (whole ++ fraction) : Nat) / (Nat.pow base fraction.length : Nat),
    whole.length + fraction.length, after)

/-- The number at the start of a text and the rest, rounded to so many binary digits; nothing if there is none. -/
def ofText? (bits : Nat) (cs : Raw) : Option (Quantity × Raw) :=
  let body := Raw.trimStart cs
  let (negative, body) := match body with
    | '-' :: rest => (true, rest)
    | '+' :: rest => (false, rest)
    | rest => (false, rest)
  let lower := Raw.toLower body
  let finite (q : Rat) : Quantity := ⟨negative, .finite (Rounding.toBits bits q)⟩
  if "infinity".toList.isPrefixOf lower then some (⟨negative, .infinite⟩, body.drop 8)
  else if "inf".toList.isPrefixOf lower then some (⟨negative, .infinite⟩, body.drop 3)
  else if "nan".toList.isPrefixOf lower then some (⟨negative, .undefined⟩, body.drop 3)
  else if "0x".toList.isPrefixOf lower && (mantissa 16 Raw.isHex (body.drop 2)).2.1 > 0 then
    let (q, _, rest) := mantissa 16 Raw.isHex (body.drop 2)
    match rest with
    | c :: more =>
      match if c = 'p' || c = 'P' then exponent? more else none with
      | some (e, after) => some (finite (q * Rounding.twoPow e), after)
      | none => some (finite q, rest)
    | [] => some (finite q, [])
  else
    let (q, count, rest) := mantissa 10 Char.isDigit body
    if count = 0 then none
    else match rest with
      | c :: more =>
        match if c = 'e' || c = 'E' then exponent? more else none with
        | some (e, after) => some (finite (q * tenPow e), after)
        | none => some (finite q, rest)
      | [] => some (finite q, [])

/-- The number that a double-precision word holds. -/
def ofFloat (f : Float) : Quantity :=
  let bits : Nat := f.toBits.toNat
  let hidden : Nat := 4503599627370496
  let negative : Bool := bits / hidden ≥ 2048
  let e : Nat := bits / hidden % 2048
  let m : Nat := bits % hidden
  if e = 2047 then ⟨negative, if m = 0 then .infinite else .undefined⟩
  else if e = 0 then ⟨negative, .finite ((m : Rat) * Rounding.twoPow (-1074))⟩
  else ⟨negative, .finite (((m + hidden : Nat) : Rat) * Rounding.twoPow ((e : Int) - 1075))⟩

/-- The decimal exponent of a positive number: the greatest power of ten that is not above it. -/
def decade (q : Rat) : Int :=
  let guess : Int := ((Nat.log2 q.num.toNat : Int) - (Nat.log2 q.den : Int)) * 30103 / 100000
  let guess := if tenPow (guess + 1) ≤ q then guess + 1 else guess
  if tenPow guess ≤ q then guess else guess - 1

/-- A number with so many places after the point; the point is kept without places if asked to. -/
def fixed (q : Rat) (places : Nat) (point : Bool) : Raw :=
  let n := (Rounding.halfEven (q * tenPow places)).toNat
  let ds := Raw.padZeros (places + 1) (Raw.ofNat n)
  let whole := ds.take (ds.length - places)
  whole ++ (if places > 0 || point then ['.'] else []) ++ ds.drop (ds.length - places)

/-- The digits of a number to so many places after the first, and its decimal exponent. -/
def scaled (q : Rat) (places : Nat) : Raw × Int :=
  if q ≤ 0 then (List.replicate (places + 1) '0', 0)
  else
    let e := decade q
    let n := (Rounding.halfEven (q * tenPow (places - e))).toNat
    let ds := Raw.ofNat n
    if ds.length > places + 1 then (ds.take (places + 1), e + 1) else (ds, e)

/-- A decimal exponent: a sign and at least two digits. -/
def exponentText (e : Int) : Raw :=
  (if e < 0 then '-' else '+') :: Raw.padZeros 2 (Raw.ofNat e.natAbs)

/-- A number in exponential notation. -/
def exponential (q : Rat) (places : Nat) (point : Bool) (letter : Char) : Raw :=
  let (ds, e) := scaled q places
  ds.take 1 ++ (if places > 0 || point then ['.'] else []) ++ ds.drop 1 ++ letter :: exponentText e

/-- A text with a point without the zeros at its end, and without a point at its end. -/
def withoutZeros (r : Raw) : Raw :=
  if r.contains '.' then
    let bare := Raw.dropEndWhile (· == '0') r
    if bare.getLast? = some '.' then bare.dropLast else bare
  else r

/-- A number to so many digits, in the shorter notation. -/
def general (q : Rat) (precision : Nat) (whole : Bool) (letter : Char) : Raw :=
  let p := max precision 1
  let e := (scaled q (p - 1)).2
  if e < -4 || e ≥ p then
    let text := exponential q (p - 1) whole letter
    if whole then text
    else
      let head := text.takeWhile (· != letter)
      withoutZeros head ++ text.drop head.length
  else
    let text := fixed q ((p : Int) - 1 - e).toNat whole
    if whole then text else withoutZeros text

/-- The digits of a fraction below one in base sixteen. -/
def hexPlaces : (fuel : Nat) → Rat → Raw
  | 0, _ => []
  | fuel + 1, q =>
    if q ≤ 0 then []
    else
      let scaled := q * 16
      let d := scaled.floor.toNat
      Raw.digits 16 d ++ hexPlaces fuel (scaled - (d : Rat))

/-- A number in base sixteen with a binary exponent; its first digit holds the highest four bits if `wide`. -/
def hexadecimal (wide : Bool) (q : Rat) : Raw :=
  if q ≤ 0 then "0x0p+0".toList
  else
    let e := Rounding.binade q - if wide then 3 else 0
    let m := q / Rounding.twoPow e
    let whole := m.floor.toNat
    let places := hexPlaces 20 (m - (whole : Rat))
    "0x".toList ++ Raw.digits 16 whole ++ (if places.isEmpty then [] else '.' :: places) ++
      'p' :: (if e < 0 then '-' else '+') :: Raw.ofNat e.natAbs

end Quantity

namespace Conversion

/-- A number with a fraction in a field. -/
def real (c : Conversion) (wide : Bool) (r : Quantity) : Raw :=
  let upper := c.letter.isUpper
  let cased (t : Raw) : Raw := if upper then Raw.toUpper t else t
  let sign := c.sign r.negative
  match r.magnitude with
  | .infinite => c.field (sign ++ cased "inf".toList)
  | .undefined => c.field (sign ++ cased "nan".toList)
  | .finite q =>
    let p := c.places?.getD 6
    let keep := c.flags.contains '#'
    let body : Raw := match c.letter.toLower with
      | 'f' => Quantity.fixed q p keep
      | 'e' => cased (Quantity.exponential q p keep 'e')
      | 'a' => cased (Quantity.hexadecimal wide q)
      | _ => cased (Quantity.general q p keep 'e')
    c.zeroField sign body

/-- The conversion at the start of a text after its mark, whose sizes are digits, and the rest. -/
def ofText (cs : Raw) : Conversion × Raw :=
  let flags := cs.takeWhile "-+ #0".toList.contains
  let rest := cs.drop flags.length
  let width := rest.takeWhile Char.isDigit
  let rest := rest.drop width.length
  let (precision, rest) : Option Int × Raw := match rest with
    | '.' :: more =>
      let ds := more.takeWhile Char.isDigit
      (some (Raw.valueIn 10 ds : Int), more.drop ds.length)
    | rest => (none, rest)
  (⟨flags, if width.isEmpty then none else some (Raw.valueIn 10 width : Int), precision, rest.headD ' '⟩, rest.drop 1)

end Conversion
end RunMeter.Machine
