import RunMeter.Proofs.Settings.Number
import RunMeter.Proofs.Settings.Reading
import RunMeter.Proofs.Settings.Schema
import RunMeter.Settings.Runner
import RunMeter.Settings.Workload

/-!
# RunMeter.Proofs.Settings.Image — which settings a program can have

The variables of an environment may hold anything, the settings may not: a log filter has ink, and a Fibonacci index is
at most 92.  These are the only bounds.  Both records of settings are schemas (`WorkloadSettings.schema`,
`RunnerSettings.schema`), and `settings_image` says for both what their variables can and can not do.
-/

namespace RunMeter

/-! ### The workloads -/

namespace WorkloadSettings

/-- The fields of the settings. -/
inductive Field where
  | logFilter
  | tightLoopIterations
  | fibIndex
  | sumLoopLimit
  | diveDepth
  | diveStackMiB
  deriving DecidableEq

namespace Field

/-- All fields. -/
def all : List Field :=
  [logFilter, tightLoopIterations, fibIndex, sumLoopLimit, diveDepth, diveStackMiB]

/-- The variable that a field is read from. -/
def variableName : Field → String
  | logFilter => logVariable
  | tightLoopIterations => "TIGHT_LOOP_ITERATIONS"
  | fibIndex => "FIB_N"
  | sumLoopLimit => "SUM_LOOP_LIMIT"
  | diveDepth => "STACK_DIVE_DEPTH"
  | diveStackMiB => "STACK_DIVE_STACK_MB"

/-- What a field holds. -/
def Value : Field → Type
  | logFilter => String
  | diveStackMiB => UInt64
  | _ => Int64

/-- The value of a field. -/
def get (s : WorkloadSettings) : (f : Field) → f.Value
  | logFilter => s.logFilter
  | tightLoopIterations => s.tightLoopIterations
  | fibIndex => s.fibIndex
  | sumLoopLimit => s.sumLoopLimit
  | diveDepth => s.diveDepth
  | diveStackMiB => s.diveStackMiB

/-- The text of a value: a filter itself, a number in decimal. -/
def write : (f : Field) → f.Value → String
  | logFilter => fun filter => filter
  | tightLoopIterations => fun n : Int64 => Decimal.ofInt n.toInt
  | fibIndex => fun n : Int64 => Decimal.ofInt n.toInt
  | sumLoopLimit => fun n : Int64 => Decimal.ofInt n.toInt
  | diveDepth => fun n : Int64 => Decimal.ofInt n.toInt
  | diveStackMiB => fun n : UInt64 => Decimal.ofNat n.toNat

/-- The values that a field can have. -/
def Legal : (f : Field) → f.Value → Prop
  | logFilter => Inked
  | fibIndex => fun n : Int64 => n.toInt ≤ 92
  | _ => fun _ => True

theorem mem_all (f : Field) : f ∈ all := by
  cases f <;> decide

end Field

theorem fibIndexOf_le (n : Int64) : (fibIndexOf n).toInt ≤ 92 := by
  unfold fibIndexOf
  split
  · rename_i h
    exact Int64.le_iff_toInt_le.1 h
  · decide

/-- An index that is not too great is read from its numeral. -/
theorem fibIndexOf_read {n : Int64} (h : n.toInt ≤ 92) :
    fibIndexOf (Reading.int64Or defaultFibIndex (some (Decimal.ofInt n.toInt))) = n := by
  rw [Reading.int64Or_ofInt]
  exact if_pos (Int64.le_iff_toInt_le.2 h)

theorem legal_ofLookup (lookup : Lookup) (f : Field) : f.Legal (f.get (ofLookup lookup)) := by
  cases f with
  | logFilter => exact Reading.inked_filterOr (hasInk_iff_inked.1 (by decide)) _
  | fibIndex => exact fibIndexOf_le _
  | _ => exact True.intro

theorem get_ofLookup_write (f : Field) (v : f.Value) (h : f.Legal v) :
    f.get (ofLookup fun _ => some (f.write v)) = v := by
  cases f with
  | logFilter => exact Reading.filterOr_of_inked h _
  | fibIndex =>
    simp only [Field.get, ofLookup]
    exact fibIndexOf_read h
  | diveStackMiB => exact Reading.uint64Or_ofNat _ _
  | _ => exact Reading.int64Or_ofInt _ _

/-- The settings of the workloads, field by field. -/
def schema : Schema WorkloadSettings where
  Field := Field
  fields := Field.all
  mem_fields := Field.mem_all
  Value := Field.Value
  get := Field.get
  ext := fun {s t} h => by
    cases s
    cases t
    rw [mk.injEq]
    exact ⟨h .logFilter, h .tightLoopIterations, h .fibIndex, h .sumLoopLimit, h .diveDepth, h .diveStackMiB⟩
  variableName := Field.variableName
  nodup := by decide
  write := Field.write
  Legal := Field.Legal
  ofLookup := ofLookup
  get_ofLookup := fun _ f => by cases f <;> rfl
  legal_ofLookup := legal_ofLookup
  get_ofLookup_write := get_ofLookup_write

/-- Ink in the filter and the bound on the index are all that is asked of the settings. -/
theorem legal_fields {s : WorkloadSettings} (hink : Inked s.logFilter) (hfib : s.fibIndex.toInt ≤ 92) (f : Field) :
    f.Legal (f.get s) := by
  cases f with
  | logFilter => exact hink
  | fibIndex => exact hfib
  | _ => exact True.intro

end WorkloadSettings

/-! ### The runner -/

namespace RunnerSettings

/-- The fields of the settings. -/
inductive Field where
  | logFilter
  | signalPolicy
  deriving DecidableEq

namespace Field

/-- All fields. -/
def all : List Field := [logFilter, signalPolicy]

/-- The variable that a field is read from. -/
def variableName : Field → String
  | logFilter => logVariable
  | signalPolicy => policyVariable

/-- What a field holds. -/
def Value : Field → Type
  | logFilter => String
  | signalPolicy => SignalPolicy

/-- The value of a field. -/
def get (s : RunnerSettings) : (f : Field) → f.Value
  | logFilter => s.logFilter
  | signalPolicy => s.signalPolicy

/-- The text of a value: a filter itself, a policy by its name. -/
def write : (f : Field) → f.Value → String
  | logFilter => fun filter => filter
  | signalPolicy => SignalPolicy.name

/-- The values that a field can have. -/
def Legal : (f : Field) → f.Value → Prop
  | logFilter => Inked
  | signalPolicy => fun _ => True

theorem mem_all (f : Field) : f ∈ all := by
  cases f <;> decide

end Field

theorem policyOf_name (p : SignalPolicy) : policyOf (some p.name) = p := by
  cases p <;> decide

theorem legal_ofLookup (lookup : Lookup) (f : Field) : f.Legal (f.get (ofLookup lookup)) := by
  cases f with
  | logFilter => exact Reading.inked_filterOr (hasInk_iff_inked.1 (by decide)) _
  | signalPolicy => exact True.intro

theorem get_ofLookup_write (f : Field) (v : f.Value) (h : f.Legal v) :
    f.get (ofLookup fun _ => some (f.write v)) = v := by
  cases f with
  | logFilter => exact Reading.filterOr_of_inked h _
  | signalPolicy =>
    simp only [Field.get, ofLookup]
    exact policyOf_name v

/-- The settings of the runner, field by field. -/
def schema : Schema RunnerSettings where
  Field := Field
  fields := Field.all
  mem_fields := Field.mem_all
  Value := Field.Value
  get := Field.get
  ext := fun {s t} h => by
    cases s
    cases t
    rw [mk.injEq]
    exact ⟨h .logFilter, h .signalPolicy⟩
  variableName := Field.variableName
  nodup := by decide
  write := Field.write
  Legal := Field.Legal
  ofLookup := ofLookup
  get_ofLookup := fun _ f => by cases f <;> rfl
  legal_ofLookup := legal_ofLookup
  get_ofLookup_write := get_ofLookup_write

/-- Ink in the filter is all that is asked of the settings. -/
theorem legal_fields {s : RunnerSettings} (hink : Inked s.logFilter) (f : Field) : f.Legal (f.get s) := by
  cases f with
  | logFilter => exact hink
  | signalPolicy => exact True.intro

end RunnerSettings

/-! ### The two programs -/

/-- **Which settings the variables can tell.**  Whatever the variables hold, a log filter has ink and a Fibonacci index
is at most 92.  Every record with these two properties is told by the texts of its fields, whatever else is set.  A
filter is never trimmed: it is the variable's value octet for octet, or the default.  A value that is no text counts as
no value, and a variable changes no field but its own. -/
theorem settings_image :
    (∀ lookup, Inked (WorkloadSettings.ofLookup lookup).logFilter ∧
      (WorkloadSettings.ofLookup lookup).fibIndex.toInt ≤ 92 ∧ Inked (RunnerSettings.ofLookup lookup).logFilter) ∧
    (∀ s : WorkloadSettings, Inked s.logFilter → s.fibIndex.toInt ≤ 92 →
      WorkloadSettings.ofEnvironment (.ofTexts (WorkloadSettings.schema.texts s)) = s ∧
      ∀ lookup : Lookup, (∀ entry ∈ WorkloadSettings.schema.texts s, lookup entry.1 = some entry.2) →
        WorkloadSettings.ofLookup lookup = s) ∧
    (∀ s : RunnerSettings, Inked s.logFilter →
      RunnerSettings.ofEnvironment (.ofTexts (RunnerSettings.schema.texts s)) = s ∧
      ∀ lookup : Lookup, (∀ entry ∈ RunnerSettings.schema.texts s, lookup entry.1 = some entry.2) →
        RunnerSettings.ofLookup lookup = s) ∧
    (∀ (env : Environment) (filter : String), Inked filter →
      (env.get? WorkloadSettings.logVariable = some (Utf8.encode filter) →
        (WorkloadSettings.ofEnvironment env).logFilter = filter) ∧
      (env.get? RunnerSettings.logVariable = some (Utf8.encode filter) →
        (RunnerSettings.ofEnvironment env).logFilter = filter)) ∧
    (∀ env : Environment,
      (env.get? WorkloadSettings.logVariable = some (Utf8.encode (WorkloadSettings.ofEnvironment env).logFilter) ∨
        (WorkloadSettings.ofEnvironment env).logFilter = WorkloadSettings.defaultFilter) ∧
      (env.get? RunnerSettings.logVariable = some (Utf8.encode (RunnerSettings.ofEnvironment env).logFilter) ∨
        (RunnerSettings.ofEnvironment env).logFilter = RunnerSettings.defaultFilter)) ∧
    (∀ (env : Environment) (name : String), (∀ text, env.get? name ≠ some (Utf8.encode text)) →
      WorkloadSettings.ofEnvironment (env.erase name) = WorkloadSettings.ofEnvironment env ∧
      RunnerSettings.ofEnvironment (env.erase name) = RunnerSettings.ofEnvironment env) ∧
    (∀ (env env' : Environment) (name : String), env.AgreeExcept [name] env' →
      (∀ f : WorkloadSettings.Field, f.variableName ≠ name →
        f.get (WorkloadSettings.ofEnvironment env) = f.get (WorkloadSettings.ofEnvironment env')) ∧
      (∀ f : RunnerSettings.Field, f.variableName ≠ name →
        f.get (RunnerSettings.ofEnvironment env) = f.get (RunnerSettings.ofEnvironment env'))) := by
  refine ⟨fun lookup => ⟨?_, ?_, ?_⟩, fun s hink hfib => ?_, fun s hink => ?_, fun env filter hink => ⟨?_, ?_⟩,
    fun env => ⟨?_, ?_⟩, fun env name hnone => ?_, fun env env' name hagree => ⟨fun f hf => ?_, fun f hf => ?_⟩⟩
  · exact WorkloadSettings.schema.legal_ofLookup lookup .logFilter
  · exact WorkloadSettings.schema.legal_ofLookup lookup .fibIndex
  · exact RunnerSettings.schema.legal_ofLookup lookup .logFilter
  · have hlegal := WorkloadSettings.legal_fields hink hfib
    exact ⟨WorkloadSettings.schema.ofLookup_ofTexts hlegal, fun _ => WorkloadSettings.schema.ofLookup_of_writes hlegal⟩
  · have hlegal := RunnerSettings.legal_fields hink
    exact ⟨RunnerSettings.schema.ofLookup_ofTexts hlegal, fun _ => RunnerSettings.schema.ofLookup_of_writes hlegal⟩
  · exact fun hget => Reading.filterOr_text?_of_inked hink hget _
  · exact fun hget => Reading.filterOr_text?_of_inked hink hget _
  · exact Reading.filterOr_text?_cases _ _ _
  · exact Reading.filterOr_text?_cases _ _ _
  · have hlookup : (env.erase name).lookup = env.lookup :=
      Environment.text?_erase ((env.text?_eq_none_iff name).2 hnone)
    exact ⟨congrArg WorkloadSettings.ofLookup hlookup, congrArg RunnerSettings.ofLookup hlookup⟩
  · exact WorkloadSettings.schema.get_ofLookup_congr (hagree.text? fun h => hf (List.mem_singleton.1 h))
  · exact RunnerSettings.schema.get_ofLookup_congr (hagree.text? fun h => hf (List.mem_singleton.1 h))

/-- Filters with blanks around them, the least and the greatest words and a negative index, all read back; an index that
is no text, which only makes the index the default. -/
theorem settings_image_extremes :
    let filter := "\u00a0 debug\t"
    let s : WorkloadSettings := ⟨filter, Int64.minValue, -5, Int64.maxValue, 0, 18446744073709551615⟩
    let env : Environment := .ofTexts (WorkloadSettings.schema.texts s)
    let env' := env.set "FIB_N" [0x35, 0xff]
    WorkloadSettings.ofEnvironment env = s ∧
    RunnerSettings.ofEnvironment (.ofTexts (RunnerSettings.schema.texts ⟨filter, .shell⟩)) = ⟨filter, .shell⟩ ∧
    (WorkloadSettings.ofEnvironment env').logFilter = filter ∧
    WorkloadSettings.ofEnvironment (env'.erase "FIB_N") = WorkloadSettings.ofEnvironment env' ∧
    (WorkloadSettings.ofEnvironment env').diveStackMiB = (WorkloadSettings.ofEnvironment env).diveStackMiB := by
  intro filter s env env'
  have hink : Inked filter := hasInk_iff_inked.1 (by decide)
  have hget : env'.get? WorkloadSettings.logVariable = some (Utf8.encode filter) := by decide +kernel
  have hnone : env'.text? "FIB_N" = none := by decide +kernel
  obtain ⟨-, workload, runner, verbatim, -, unset, others⟩ := settings_image
  refine ⟨(workload s hink (by decide)).1, (runner ⟨filter, .shell⟩ hink).1, (verbatim env' filter hink).1 hget,
    (unset env' "FIB_N" ((env'.text?_eq_none_iff _).1 hnone)).1, ?_⟩
  exact (others env' env "FIB_N" (env.agreeExcept_set _ _)).1 .diveStackMiB (by decide)

end RunMeter
