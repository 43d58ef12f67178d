import RunMeter.Text.Decimal
import RunMeter.Time.Rounding

/-!
# RunMeter.Time.Duration — spans of time and their decimal text

A duration is whole seconds and nanoseconds.  For the report it becomes a double: the seconds, the nanoseconds
divided by 10^9 and the sum of the two are each rounded to 53 binary digits.  The double's exact value is then
rounded to five decimal places.
-/

namespace RunMeter

/-- A span of time. -/
structure Duration where
  secs : UInt64
  nanos : Nat
  nanos_lt : nanos < 1000000000

namespace Duration

/-- No time at all. -/
def zero : Duration := ⟨0, 0, by decide⟩

/-- So many nanoseconds. -/
def ofNanos (n : Nat) : Duration :=
  ⟨UInt64.ofNat (n / 1000000000), n % 1000000000, Nat.mod_lt n (by decide)⟩

/-- The binary digits of a double. -/
def precision : Nat := 53

/-- The duration in seconds, as a double. -/
def seconds (d : Duration) : Rat :=
  let whole := Rounding.toBits precision (d.secs.toNat : Rat)
  let part := Rounding.toBits precision ((d.nanos : Rat) / 1000000000)
  Rounding.toBits precision (whole + part)

/-- The duration in units of 10 microseconds, the last place that the report shows. -/
def hundredthMillis (d : Duration) : Nat :=
  (Rounding.halfEven (d.seconds * 100000)).toNat

/-- The seconds with five decimal places. -/
def text (d : Duration) : String :=
  let n := d.hundredthMillis
  String.ofList (Decimal.digits (n / 100000) ++ '.' :: Decimal.padded 5 n)

/-- The whole milliseconds of a duration, on a word that wraps round. -/
def millis (d : Duration) : UInt64 :=
  UInt64.ofNat (d.secs.toNat * 1000 + d.nanos / 1000000)

end Duration
end RunMeter
