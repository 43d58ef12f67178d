/-!
# RunMeter.Time.Rounding — rounding rational numbers

* `halfEven`: the nearest integer, and of two the even one.
* `toBits bits`: the nearest number with so many significant binary digits, ties to the even one, with no bound
  on the exponent.
-/

namespace RunMeter.Rounding

/-- The nearest integer; a half goes to the even neighbour. -/
def halfEven (q : Rat) : Int :=
  let below := q.floor
  let rest := q - below
  if rest < 1 / 2 then below
  else if 1 / 2 < rest then below + 1
  else if below % 2 = 0 then below
  else below + 1

/-- The power of two with an exponent of either sign. -/
def twoPow (e : Int) : Rat :=
  (2 : Rat) ^ e

/-- The exponent of the binade of a positive number: the greatest power of two that is not above it. -/
def binade (x : Rat) : Int :=
  let guess : Int := (Nat.log2 x.num.toNat : Int) - (Nat.log2 x.den : Int)
  if twoPow guess ≤ x then guess else guess - 1

/-- The nearest number with `bits` significant binary digits; a tie goes to the even last digit. -/
def toBits (bits : Nat) (x : Rat) : Rat :=
  if x ≤ 0 then 0
  else
    let unit := twoPow (binade x - ((bits : Int) - 1))
    (halfEven (x / unit) : Rat) * unit

end RunMeter.Rounding
