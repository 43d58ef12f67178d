import RunMeter.Settings.Reading
import RunMeter.Text.Quoted

/-!
# RunMeter.Settings.Workload — settings of the workloads

How much each workload does.  A Fibonacci index whose number is no signed word counts as not set.
-/

namespace RunMeter

/-- The settings of the workloads. -/
structure WorkloadSettings where
  logFilter : String
  tightLoopIterations : Int64
  fibIndex : Int64
  sumLoopLimit : Int64
  diveDepth : Int64
  /-- The size of the diving thread's stack in mebibytes. -/
  diveStackMiB : UInt64
  deriving DecidableEq

namespace WorkloadSettings

/-- The variable that holds the log filter. -/
def logVariable : String := "WORKLOAD_LOG"

/-- The log filter of a workload without settings. -/
def defaultFilter : String := "workloads=warn"

/-- The greatest index whose Fibonacci number is a signed word. -/
def maxFibIndex : Int64 := 92

/-- The index of a workload without settings. -/
def defaultFibIndex : Int64 := 50

/-- The index itself up to the greatest one, and the default past it. -/
def fibIndexOf (n : Int64) : Int64 :=
  if n ≤ maxFibIndex then n else defaultFibIndex

/-- The settings that the variables tell. -/
def ofLookup (lookup : Lookup) : WorkloadSettings where
  logFilter := Reading.filterOr defaultFilter (lookup logVariable)
  tightLoopIterations := Reading.int64Or 1000000 (lookup "TIGHT_LOOP_ITERATIONS")
  fibIndex := fibIndexOf (Reading.int64Or defaultFibIndex (lookup "FIB_N"))
  sumLoopLimit := Reading.int64Or 10000000000 (lookup "SUM_LOOP_LIMIT")
  diveDepth := Reading.int64Or 10000000 (lookup "STACK_DIVE_DEPTH")
  diveStackMiB := Reading.uint64Or 2048 (lookup "STACK_DIVE_STACK_MB")

/-- The settings of an environment. -/
def ofEnvironment (env : Environment) : WorkloadSettings :=
  ofLookup env.lookup

/-- The settings as a log line shows them. -/
def describe (s : WorkloadSettings) : String :=
  let field (name value : String) : String := name ++ ": " ++ value
  let fields :=
    [field "log_filter" (Quoted.ofString s.logFilter),
     field "tight_loop_iterations" (Decimal.ofInt s.tightLoopIterations.toInt),
     field "fib_n" (Decimal.ofInt s.fibIndex.toInt),
     field "sum_loop_limit" (Decimal.ofInt s.sumLoopLimit.toInt),
     field "stack_dive_depth" (Decimal.ofInt s.diveDepth.toInt),
     field "stack_dive_stack_mb" (Decimal.ofNat s.diveStackMiB.toNat)]
  "Config \x7b " ++ ", ".intercalate fields ++ " \x7d"

end WorkloadSettings
end RunMeter
