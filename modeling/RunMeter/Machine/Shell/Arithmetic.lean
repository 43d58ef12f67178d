import RunMeter.Machine.Shell.Arithmetic.Extended
import RunMeter.Machine.Shell.Arithmetic.Plain

/-!
# RunMeter.Machine.Shell.Arithmetic — the arithmetic of scripts

The value of an expression in the dialect of the shell at hand.

Nothing that is proved depends on this module.
-/

namespace RunMeter.Machine.Shell.Arithmetic

/-- What stands before the bracket that closes the one before it, and the rest after that. -/
def untilBracket (r : Raw) : Raw × Raw :=
  (Extended.untilBracket? 0 [] r).getD (r, [])

/-- The value of an expression. -/
def value (expression : Raw) : Sh Int64 := do
  if ← Sh.extended then Extended.value expression else Plain.value expression

/-- The value of an expression as a text. -/
def result (expression : Raw) : Sh Raw := do
  return text (← value expression)

end RunMeter.Machine.Shell.Arithmetic
