import RunMeter.Text.Utf8

/-!
# RunMeter.System.Command — what the system is asked to run

A command is a program and its arguments, octet for octet.  Its name as a text is for messages only.
-/

namespace RunMeter

/-- A program and its arguments. -/
structure Command where
  program : Octets
  args : List Octets
  deriving DecidableEq

namespace Command

/-- The program's name in messages. -/
def name (c : Command) : String :=
  Utf8.lossy c.program

/-- The strings that the program is started with, its own name first. -/
def words (c : Command) : List Octets :=
  c.program :: c.args

end Command
end RunMeter
