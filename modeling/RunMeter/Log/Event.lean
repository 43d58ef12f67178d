import RunMeter.Text.Quoted

/-!
# RunMeter.Log.Event — log events and their lines

An event has a level, a target, a message and fields.  Its line gives them in this order, a field as its name,
an equals sign and its value.  A control character of the message that could steer a terminal is written by its
number.
-/

namespace RunMeter.Log

/-- How much an event matters, from errors down to traces. -/
inductive Level where
  | error
  | warn
  | info
  | debug
  | trace
  deriving DecidableEq

namespace Level

/-- The place of a level: the higher, the less it matters. -/
def rank : Level → Nat
  | error => 1
  | warn => 2
  | info => 3
  | debug => 4
  | trace => 5

/-- The name of a level on a log line. -/
def name : Level → String
  | error => "ERROR"
  | warn => "WARN"
  | info => "INFO"
  | debug => "DEBUG"
  | trace => "TRACE"

end Level

/-- A field of an event. -/
structure Field where
  name : String
  value : String
  deriving DecidableEq

/-- Something that happened, for the log. -/
structure Event where
  level : Level
  target : String
  message : String
  fields : List Field
  deriving DecidableEq

namespace Event

/-- The value of a field of an event. -/
def field? (e : Event) (name : String) : Option String :=
  (e.fields.find? fun f => f.name == name).map Field.value

/-- One character of a message as a line shows it. -/
def shielded (c : Char) : List Char :=
  let n := c.toNat
  if n = 0x1B ∨ n = 0x07 ∨ n = 0x08 ∨ n = 0x0C ∨ n = 0x7F then
    ['\\', 'x', Quoted.hexDigit false (n / 16), Quoted.hexDigit false (n % 16)]
  else if 0x80 ≤ n ∧ n ≤ 0x9F then
    '\\' :: 'u' :: '\x7b' :: Quoted.hexDigits n ++ ['\x7d']
  else [c]

/-- The line that shows an event, without its time and without an end of line. -/
def line (e : Event) : String :=
  e.fields.foldl (fun text f => text ++ " " ++ f.name ++ "=" ++ f.value)
    (e.level.name ++ " " ++ e.target ++ ": " ++
      String.ofList (e.message.toList.flatMap shielded))

end Event
end RunMeter.Log
