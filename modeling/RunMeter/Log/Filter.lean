import RunMeter.Log.Event

/-!
# RunMeter.Log.Filter — which events are shown

The programs leave it to a library which events of their log show.  The library is no part of them, so it is a
parameter: anything that reads filters from texts (`Library`).  It reads a text strictly, and then refuses one with a
part that it can not read, or leniently, and then passes over such a part and may tell so on standard error.

* `Library.inForce`: the filter of a program, from the overriding variable or from the configured text.
* `Filter.GoesBy`: a filter that asks for levels and targets only.
-/

namespace RunMeter.Log

/-- A filter as the library has read it. -/
structure Filter where
  /-- Whether the filter shows an event. -/
  admits : Event → Bool
  /-- The lines that the library has put on standard error while it read the filter. -/
  notices : List String

/-- A filter shows the events whose level and target a rule shows.  The library's documentation says so of every filter
whose directives name no spans and no fields. -/
structure Filter.GoesBy (f : Filter) (rule : Level → String → Bool) : Prop where
  admits_eq : ∀ e : Event, f.admits e = rule e.level e.target

/-- A library of filters. -/
structure Library where
  /-- The strict reading of a text: no filter and no line if there is a part that can not be read. -/
  strict? : String → Option Filter
  /-- The lenient reading of a text. -/
  lenient : String → Filter

/-- The variable whose filter comes before every configured one. -/
def overrideVariable : String := "RUST_LOG"

/-- The filter in force: the strict reading of the override, if it is a text and can be read so, and else the lenient
reading of the configured text. -/
def Library.inForce (lib : Library) (override : Option String) (configured : String) : Filter :=
  (override.bind lib.strict?).getD (lib.lenient configured)

end RunMeter.Log
