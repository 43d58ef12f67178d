import RunMeter.Effect
import RunMeter.System.WaitStatus

/-!
# RunMeter.Host — what the system answers to the runner

Everything that the runner does not decide itself: whether the command starts, what happens until the child has
ended, how it ended, how long that took, what the system knows of its memory, and how the sink of the report
behaves.  Standard error is no part of it: every line is taken to arrive there.  Nor is the listener for interrupts,
which is taken to work.
-/

namespace RunMeter

/-- Something that happens while the runner waits for the child.  The listener for interrupts is taken to work: its
failure is no moment, and only the relation of single steps has it (`Act.lose` in `Proofs.Runner.Waiting`). -/
inductive Moment where
  /-- The runner is interrupted. -/
  | interrupt
  /-- The child writes octets to a stream. -/
  | output (stream : Stream) (octets : Octets)
  deriving DecidableEq

/-- The system's part in one run. -/
structure Host where
  /-- The process number of the child, or why the command did not start. -/
  launch : Except IoError Nat
  /-- What happens before the child's end, in order. -/
  moments : List Moment
  /-- How the child ended, or why that can not be told. -/
  ending : Except IoError WaitStatus
  /-- The time from the start of the child to its end. -/
  elapsed : Duration
  /-- The most memory that the child held, in kibibytes. -/
  peak : Except Errno UInt64
  /-- Where the report goes. -/
  sink : Sink

end RunMeter
