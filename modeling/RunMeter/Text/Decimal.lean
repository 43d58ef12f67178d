/-!
# RunMeter.Text.Decimal — decimal numerals

* `digits`, `ofNat`, `ofInt`: the shortest decimal text of a number, with a minus sign where it is negative.
* `padded`: exactly so many digits, zeros in front.
* `magnitude?`, `unsigned?`, `signed?`: the number that a text denotes.  A numeral is an optional sign and one or
  more ASCII digits, and nothing else.
-/

namespace RunMeter.Decimal

/-- The digit of a number below ten. -/
def digit (n : Nat) : Char :=
  Char.ofNat (48 + n)

/-- The digits of a number, most significant first, without superfluous zeros. -/
def digits (n : Nat) : List Char :=
  if n < 10 then [digit n] else digits (n / 10) ++ [digit (n % 10)]
termination_by n
decreasing_by omega

/-- The last `width` digits of a number, zeros in front. -/
def padded : (width : Nat) → Nat → List Char
  | 0, _ => []
  | width + 1, n => padded width (n / 10) ++ [digit (n % 10)]

/-- The decimal text of a natural number. -/
def ofNat (n : Nat) : String :=
  String.ofList (digits n)

/-- The decimal text of an integer. -/
def ofInt : Int → String
  | .ofNat n => ofNat n
  | .negSucc n => String.ofList ('-' :: digits (n + 1))

/-- The number that digits denote, most significant first. -/
def value (cs : List Char) : Nat :=
  cs.foldl (fun v c => 10 * v + (c.toNat - 48)) 0

/-- The number of a run of one or more ASCII digits. -/
def magnitude? (cs : List Char) : Option Nat :=
  if !cs.isEmpty && cs.all Char.isDigit then some (value cs) else none

/-- The number of a numeral that may have a plus sign. -/
def unsigned? : List Char → Option Nat
  | '+' :: cs => magnitude? cs
  | cs => magnitude? cs

/-- The number of a numeral that may have either sign. -/
def signed? : List Char → Option Int
  | '-' :: cs => (magnitude? cs).map fun n => -(n : Int)
  | cs => (unsigned? cs).map fun n => (n : Int)

end RunMeter.Decimal
