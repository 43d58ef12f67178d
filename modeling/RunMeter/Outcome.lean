import RunMeter.SignalPolicy
import RunMeter.System.Signal
import RunMeter.System.WaitStatus

/-!
# RunMeter.Outcome — how a run ended

* `ofStatus`: the outcome that a status word tells.
* `exitCode`: the runner's own exit code for it.
* `describe`: the outcome in words.
-/

namespace RunMeter

/-- How a run ended. -/
inductive Outcome where
  /-- The child exited with code 0. -/
  | success
  /-- The child exited with another code. -/
  | failed (code : Int32)
  /-- A signal ended the child. -/
  | killed (signal : Int32)
  /-- There was no child, or no news of it. -/
  | notRun
  deriving DecidableEq

namespace Outcome

/-- The outcome that a status word tells.  A child that only stopped or went on counts as a success. -/
def ofStatus (s : WaitStatus) : Outcome :=
  match s.exitCode? with
  | some code => if code = 0 then success else failed code
  | none =>
    match s.signal? with
    | some signal => killed signal
    | none => success

/-- The octet with the value of a word, if there is one. -/
def octet? (w : Int32) : Option UInt8 :=
  if 0 ≤ w.toInt ∧ w.toInt ≤ 255 then some (UInt8.ofNat w.toInt.toNat) else none

/-- The shell's exit code for a signal, at most 255. -/
def shellCode (signal : Int32) : UInt8 :=
  match octet? signal with
  | some n => if n < 128 then 128 + n else 255
  | none => 255

/-- The runner's exit code.  A child's code that is no octet counts as 1. -/
def exitCode (policy : SignalPolicy) : Outcome → UInt8
  | success => 0
  | failed code => (octet? code).getD 1
  | killed signal =>
    match policy with
    | .zero => 0
    | .shell => shellCode signal
  | notRun => 1

/-- The outcome in words. -/
def describe : Outcome → String
  | success => "exited with code 0"
  | failed code => "exited with code " ++ Decimal.ofInt code.toInt
  | killed signal => "killed by " ++ Signal.describe signal
  | notRun => "failed to launch"

end Outcome
end RunMeter
