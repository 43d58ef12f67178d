import RunMeter.System.Command
import RunMeter.System.IoError

/-!
# RunMeter.RunError — why a run has no measurement

The four causes, each with the text that is shown for it.
-/

namespace RunMeter

/-- Why a run has no measurement. -/
inductive RunError where
  /-- No command was given; `tool` is the name that the runner was called by. -/
  | usage (tool : String)
  /-- The program could not be started. -/
  | launch (program : String) (cause : IoError)
  /-- Waiting for the child failed. -/
  | wait (cause : IoError)
  /-- The system did not say how much memory the child used. -/
  | resources (cause : Errno)
  deriving DecidableEq

namespace RunError

/-- The text of the cause beneath an error, if it has one. -/
def cause? : RunError → Option String
  | usage _ => none
  | launch _ cause => some cause.message
  | wait cause => some cause.message
  | resources cause => some cause.describe

/-- The text that is shown for an error. -/
def message : RunError → String
  | usage tool => "Usage: " ++ tool ++ " <command> [args...]"
  | launch program cause => "Failed to launch '" ++ program ++ "': " ++ cause.message
  | wait cause => "Failed to wait for child process: " ++ cause.message
  | resources cause => "Failed to get resource usage: " ++ cause.describe

end RunError

namespace Command

/-- The name that the runner goes by when it is called with no words at all. -/
def runnerName : String := "bench_runner"

/-- The command in the words that the runner was called with: the first word is the runner itself, the second
the program, and the rest are its arguments. -/
def ofWords : List Octets → Except RunError Command
  | _ :: program :: args => .ok ⟨program, args⟩
  | [runner] => .error (.usage (Utf8.lossy runner))
  | [] => .error (.usage runnerName)

end Command
end RunMeter
