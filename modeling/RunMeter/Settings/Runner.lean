import RunMeter.Settings.Reading
import RunMeter.SignalPolicy

/-!
# RunMeter.Settings.Runner — settings of the runner

The runner has a log filter and a policy for children that a signal ends.
-/

namespace RunMeter

/-- The settings of the runner. -/
structure RunnerSettings where
  logFilter : String
  signalPolicy : SignalPolicy
  deriving DecidableEq

namespace RunnerSettings

/-- The variable that holds the log filter. -/
def logVariable : String := "BENCH_RUNNER_LOG"

/-- The variable that names the policy. -/
def policyVariable : String := "BENCH_RUNNER_SIGNAL_EXIT"

/-- The log filter of a runner without settings. -/
def defaultFilter : String := "bench_runner=warn"

/-- The policy of a variable: 0 for every signal unless the variable names another. -/
def policyOf : Option String → SignalPolicy
  | some s => (SignalPolicy.named s).toOption.getD .zero
  | none => .zero

/-- The settings that the variables tell. -/
def ofLookup (lookup : Lookup) : RunnerSettings where
  logFilter := Reading.filterOr defaultFilter (lookup logVariable)
  signalPolicy := policyOf (lookup policyVariable)

/-- The settings of an environment. -/
def ofEnvironment (env : Environment) : RunnerSettings :=
  ofLookup env.lookup

end RunnerSettings
end RunMeter
