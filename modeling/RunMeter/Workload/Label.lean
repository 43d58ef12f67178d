import RunMeter.Text.Decimal

/-!
# RunMeter.Workload.Label — how the workloads name their sizes

A size is shown in decimal.  The usual loop limit is shown in words, and a positive number of whole millions as
a depth is shown in millions.
-/

namespace RunMeter.Workload

/-- The loop limit that is shown in words. -/
def tenBillion : Int := 10000000000

/-- The number of a million. -/
def million : Int := 1000000

/-- The label of a loop limit. -/
def loopLabel (limit : Int64) : String :=
  if limit.toInt = tenBillion then "10 Billion" else Decimal.ofInt limit.toInt

/-- The label of a depth. -/
def depthLabel (depth : Int64) : String :=
  let d := depth.toInt
  if million ≤ d ∧ d % million = 0 then Decimal.ofInt (d / million) ++ "M" else Decimal.ofInt d

end RunMeter.Workload
