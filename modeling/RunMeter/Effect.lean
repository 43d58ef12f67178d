import RunMeter.Log.Filter
import RunMeter.Measurement
import RunMeter.RunError

/-!
# RunMeter.Effect — what a program does, in order

A run of a program is the list of its effects and its exit code.  What each reader sees of the run is a view of
that list: the standard output, the lines on standard error, the log and the sink of the report.

Standard error is taken to accept every line.  A program that can not write a complaint there ends at once, with the
exit code 101; the runs here leave that out.
-/

namespace RunMeter

/-- The two streams that a program writes to. -/
inductive Stream where
  | stdout
  | stderr
  deriving DecidableEq

/-- One effect of a program. -/
inductive Effect where
  /-- The system is asked to start a command. -/
  | launch (command : Command)
  /-- The child writes octets to a stream that it shares with the runner. -/
  | child (stream : Stream) (octets : Octets)
  /-- An event for the log. -/
  | log (event : Log.Event)
  /-- The system is asked how much memory the child used. -/
  | query
  /-- The figures of the run are handed to the sink of the report. -/
  | report (m : Measurement)
  /-- A text and an end of line for standard output. -/
  | print (line : String)
  /-- A text and an end of line for standard error, whatever the log shows.  It is taken to arrive there. -/
  | complain (line : String)

/-- The effects of a program and its exit code. -/
structure Run where
  effects : List Effect
  exitCode : UInt8

/-- How the sink of the report behaves. -/
inductive Sink where
  /-- It takes everything. -/
  | accepts
  /-- It refuses every octet. -/
  | failsWrite (cause : IoError)
  /-- It takes the report, but can not pass it on. -/
  | failsFlush (cause : IoError)

namespace Sink

/-- Why the sink can not take a report. -/
def failure? : Sink → Option IoError
  | accepts => none
  | failsWrite cause => some cause
  | failsFlush cause => some cause

/-- Whether what is handed to the sink arrives there. -/
def takes : Sink → Bool
  | failsWrite _ => false
  | _ => true

/-- The reports among some effects that arrive at the sink. -/
def received (sink : Sink) (effects : List Effect) : String :=
  if sink.takes then
    String.join (effects.filterMap fun
      | .report m => some m.report
      | _ => none)
  else ""

end Sink

namespace Effect

/-- What the child writes to a stream. -/
def childOutput (stream : Stream) (effects : List Effect) : Octets :=
  effects.flatMap fun
    | .child s octets => if s = stream then octets else []
    | _ => []

/-- What is written to standard output, which is also the sink of the report.  All of it arrives there if the sink takes
the report (`arriving`). -/
def stdout (effects : List Effect) : Octets :=
  effects.flatMap fun
    | .child .stdout octets => octets
    | .report m => Utf8.encode m.report
    | .print line => Utf8.encode (line ++ "\n")
    | _ => []

/-- The log of a run, whether it is shown or not. -/
def events (effects : List Effect) : List Log.Event :=
  effects.filterMap fun
    | .log event => some event
    | _ => none

/-- The lines that a program puts on standard error besides its log. -/
def complaints (effects : List Effect) : List String :=
  effects.filterMap fun
    | .complain line => some line
    | _ => none

/-- Whether an effect shows, when a rule decides which events do. -/
def passes (shows : Log.Event → Bool) : Effect → Bool
  | .log event => shows event
  | _ => true

/-- What shows of some effects. -/
def passing (shows : Log.Event → Bool) (effects : List Effect) : List Effect :=
  effects.filter (passes shows)

/-- What arrives on a stream of an effect that shows.  A report arrives if the sink takes it. -/
def output? (sink : Sink) : Effect → Option (Stream × Octets)
  | .child stream octets => some (stream, octets)
  | .log event => some (.stderr, Utf8.encode (event.line ++ "\n"))
  | .report m => if sink.takes then some (.stdout, Utf8.encode m.report) else none
  | .print line => some (.stdout, Utf8.encode (line ++ "\n"))
  | .complain line => some (.stderr, Utf8.encode (line ++ "\n"))
  | .launch _ | .query => none

/-- What arrives on one of the streams of an effect that shows. -/
def outputOn (sink : Sink) (stream : Stream) (effect : Effect) : Octets :=
  match effect.output? sink with
  | some (s, octets) => if s = stream then octets else []
  | none => []

/-- What arrives on a stream, when standard output is such a sink and a rule decides which events show. -/
def arriving (sink : Sink) (shows : Log.Event → Bool) (stream : Stream) (effects : List Effect) : Octets :=
  (passing shows effects).flatMap (outputOn sink stream)

/-- The lines about a filter that are put on standard error while it is read. -/
def opening (filter : Log.Filter) : List Effect :=
  filter.notices.map .complain

section Views

variable (a b : List Effect)

@[simp] theorem childOutput_append (stream : Stream) :
    childOutput stream (a ++ b) = childOutput stream a ++ childOutput stream b :=
  List.flatMap_append

@[simp] theorem stdout_append : stdout (a ++ b) = stdout a ++ stdout b :=
  List.flatMap_append

@[simp] theorem events_append : events (a ++ b) = events a ++ events b :=
  List.filterMap_append

@[simp] theorem complaints_append : complaints (a ++ b) = complaints a ++ complaints b :=
  List.filterMap_append

@[simp] theorem stdout_print (line : String) (es : List Effect) :
    stdout (.print line :: es) = Utf8.encode (line ++ "\n") ++ stdout es := rfl

@[simp] theorem stdout_log (event : Log.Event) (es : List Effect) :
    stdout (.log event :: es) = stdout es := rfl

end Views

end Effect

/-- A run with its log: the lines about the filter come before all else. -/
def Run.logged (run : Run) (filter : Log.Filter) : Run :=
  ⟨Effect.opening filter ++ run.effects, run.exitCode⟩

end RunMeter
