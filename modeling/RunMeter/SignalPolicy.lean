import RunMeter.Text.Blank

/-!
# RunMeter.SignalPolicy — exit codes for children that a signal ends

A policy is chosen by name.  Case does not matter for ASCII letters, nor do blanks around the name.
-/

namespace RunMeter

/-- What the runner's exit code says of a child that a signal ended. -/
inductive SignalPolicy where
  /-- The exit code is 0, as for a clean exit. -/
  | zero
  /-- The exit code is 128 and the signal, as a shell has it. -/
  | shell
  deriving DecidableEq

namespace SignalPolicy

/-- The name of a policy. -/
def name : SignalPolicy → String
  | zero => "zero"
  | shell => "shell"

/-- The name of a policy in log lines. -/
def title : SignalPolicy → String
  | zero => "Zero"
  | shell => "Shell"

/-- A text as names are compared: without blanks around it and with small ASCII letters. -/
def folded (s : String) : String :=
  String.ofList ((Blank.trimChars s.toList).map Char.toLower)

/-- The policy that a text names, or the text as it was compared. -/
def named (s : String) : Except String SignalPolicy :=
  if folded s = zero.name then .ok zero
  else if folded s = shell.name then .ok shell
  else .error (folded s)

/-- The text that is shown for a name that no policy has. -/
def unknownMessage (folded : String) : String :=
  "unknown signal exit policy '" ++ folded ++ "'"

end SignalPolicy
end RunMeter
