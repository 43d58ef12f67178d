import RunMeter.System.Errno

/-!
# RunMeter.System.IoError — why an operation of the system failed

An error is an error number, a bare kind of failure, or a text of its own; `message` is how it reads.
-/

namespace RunMeter

/-- The kinds of failure that can stand without an error number. -/
inductive IoErrorKind where
  | notFound
  | permissionDenied
  | invalidInput
  | interrupted
  | outOfMemory
  | wouldBlock
  | other
  deriving DecidableEq

namespace IoErrorKind

/-- The text of a bare kind. -/
def message : IoErrorKind → String
  | notFound => "entity not found"
  | permissionDenied => "permission denied"
  | invalidInput => "invalid input parameter"
  | interrupted => "operation interrupted"
  | outOfMemory => "out of memory"
  | wouldBlock => "operation would block"
  | other => "other error"

end IoErrorKind

/-- Why an operation of the system failed. -/
inductive IoError where
  | os (code : Errno)
  | bare (kind : IoErrorKind)
  | custom (text : String)
  deriving DecidableEq

namespace IoError

/-- How an error reads: an error number shows after the system's message, a text stands alone. -/
def message : IoError → String
  | os code => code.message ++ " (os error " ++ Decimal.ofInt code.number.toInt ++ ")"
  | bare kind => kind.message
  | custom text => text

/-- A zero octet inside a text that the system ends by one. -/
def zeroOctet : IoError :=
  custom "nul byte found in provided data"

end IoError
end RunMeter
