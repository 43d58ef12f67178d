import RunMeter.Text.Decimal

/-!
# RunMeter.System.Signal — names of signals

Signals 1 to 31 have names; every other number is shown in decimal.
-/

namespace RunMeter.Signal

/-- The names of signals 1 to 31 without their common start, in order. -/
def stems : List String :=
  ["HUP", "INT", "QUIT", "ILL", "TRAP", "ABRT", "BUS", "FPE", "KILL", "USR1", "SEGV", "USR2", "PIPE", "ALRM",
   "TERM", "STKFLT", "CHLD", "CONT", "STOP", "TSTP", "TTIN", "TTOU", "URG", "XCPU", "XFSZ", "VTALRM", "PROF",
   "WINCH", "IO", "PWR", "SYS"]

/-- The name of a signal, such as SIGKILL for 9. -/
def name? (signal : Int32) : Option String :=
  let n := signal.toInt
  if 1 ≤ n && n ≤ 31 then stems[(n - 1).toNat]?.map fun stem => "SIG" ++ stem else none

/-- How a signal is shown: by name if it has one, else as a number. -/
def describe (signal : Int32) : String :=
  match name? signal with
  | some name => name
  | none => "signal " ++ Decimal.ofInt signal.toInt

end RunMeter.Signal
