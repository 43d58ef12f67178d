import RunMeter.Effect

/-!
# RunMeter.Proofs.Log.Passing — what a filter takes from a run

A filter decides which events of a run show.  All else of the run passes: standard output, the complaints and the
child's output are the same under every filter.  The filter in force is the strict reading of the overriding
variable, and the lenient one of the configured text if there is none (`inForce_of_strict`, `inForce_of_unread`).
-/

namespace RunMeter

/-! ### The filter in force -/

namespace Log.Library

variable (lib : Library)

/-- An override that can be read strictly is in force. -/
theorem inForce_of_strict {text : String} {f : Filter} (h : lib.strict? text = some f) (configured : String) :
    lib.inForce (some text) configured = f := by
  rw [inForce, Option.bind_some, h, Option.getD_some]

/-- An override that can not is as good as none. -/
theorem inForce_of_unread {override : Option String} (h : ∀ text, override = some text → lib.strict? text = none)
    (configured : String) : lib.inForce override configured = lib.lenient configured := by
  rw [inForce, Option.bind_eq_none_iff.2 h, Option.getD_none]

end Log.Library

/-! ### Effects -/

namespace Effect

variable {α : Type} (shows : Log.Event → Bool)

/-- A view that finds nothing in events is the same whichever of them show. -/
theorem filterMap_passing {f : Effect → Option α} (h : ∀ event, f (.log event) = none) (es : List Effect) :
    (passing shows es).filterMap f = es.filterMap f := by
  rw [passing, List.filterMap_filter]
  congr 1
  funext e
  cases e with
  | log event => rw [h, ite_self]
  | _ => rfl

theorem passing_cons (e : Effect) (es : List Effect) :
    passing shows (e :: es) = if passes shows e then e :: passing shows es else passing shows es :=
  List.filter_cons

theorem flatMap_passing {g : Effect → List α} (h : ∀ event, g (.log event) = []) (es : List Effect) :
    (passing shows es).flatMap g = es.flatMap g := by
  induction es with
  | nil => rfl
  | cons e es ih =>
    rw [passing_cons, List.flatMap_cons]
    split
    · rw [List.flatMap_cons, ih]
    · rename_i hpass
      cases e with
      | log event => rw [h, ih, List.nil_append]
      | _ => exact absurd rfl hpass

theorem complaints_passing (es : List Effect) : complaints (passing shows es) = complaints es :=
  filterMap_passing shows (fun _ => rfl) es

theorem stdout_passing (es : List Effect) : stdout (passing shows es) = stdout es :=
  flatMap_passing shows (fun _ => rfl) es

/-- The log that shows is the log of the events that the rule lets through. -/
theorem events_passing (es : List Effect) : events (passing shows es) = (events es).filter shows := by
  rw [events, events, passing, List.filterMap_filter, List.filter_filterMap]
  congr 1
  funext e
  cases e with
  | log event => cases hshow : shows event <;> simp [passes, Option.filter, hshow]
  | _ => rfl

/-- A filter shows the events whose level and target its rule shows. -/
theorem events_passing_of_goesBy {f : Log.Filter} {rule : Log.Level → String → Bool} (h : f.GoesBy rule)
    (es : List Effect) : events (passing f.admits es) = (events es).filter fun e => rule e.level e.target := by
  rw [events_passing]
  exact List.filter_congr fun e _ => h.admits_eq e

/-! ### Standard output -/

/-- **Standard output is the same under every rule.** -/
theorem arriving_stdout (sink : Sink) (es : List Effect) :
    arriving sink shows .stdout es = es.flatMap (outputOn sink .stdout) :=
  flatMap_passing shows (fun _ => rfl) es

/-- If the sink takes the report, all that is written arrives. -/
theorem arriving_stdout_of_takes {sink : Sink} (h : sink.takes = true) (es : List Effect) :
    arriving sink shows .stdout es = stdout es := by
  rw [arriving_stdout, stdout]
  congr 1
  funext e
  cases e with
  | child stream octets => cases stream <;> rfl
  | report m => rw [outputOn, output?, if_pos h]; rfl
  | _ => rfl

end Effect
end RunMeter
