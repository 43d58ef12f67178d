import RunMeter.Time.Duration

/-!
# RunMeter.Measurement — what a run is measured by

The time that the run took and the most memory that the child held, and the two lines that report them.
-/

namespace RunMeter

/-- The figures of one run. -/
structure Measurement where
  elapsed : Duration
  peakKb : UInt64

namespace Measurement

/-- The figures in two lines, without an end of line after the second. -/
def text (m : Measurement) : String :=
  "Time: " ++ m.elapsed.text ++ "s\nPeak Memory: " ++ Decimal.ofNat m.peakKb.toNat ++ " KB"

/-- The report of a run: its figures in two lines. -/
def report (m : Measurement) : String :=
  m.text ++ "\n"

/-- The peak in kibibytes that the system's figure tells.  A negative figure tells nothing. -/
def peakOfRaw (raw : Int64) : UInt64 :=
  UInt64.ofNat raw.toInt.toNat

end Measurement
end RunMeter
