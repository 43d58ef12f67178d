import Mathlib.Data.List.Nodup
import RunMeter.Proofs.System.Environment
import RunMeter.Settings.Reading

/-!
# RunMeter.Proofs.Settings.Schema — settings that are read field by field

Each program has a record of settings, and reads each field of it from a variable of its own.  A `Schema` says this of
a record: what its fields are, which values each can have, how it is written, and that it is read back.  From the laws
of the fields follow those of the record:

* `ofLookup_of_writes`, `ofLookup_ofTexts`: every record of legal fields is read from the texts that they are written
  as.
* `get_ofLookup_congr`: a field is a matter of its own variable.
-/

namespace RunMeter

/-- Settings of the type `σ`, read field by field. -/
structure Schema (σ : Type) where
  Field : Type
  /-- All fields. -/
  fields : List Field
  mem_fields : ∀ f, f ∈ fields
  /-- What a field holds. -/
  Value : Field → Type
  get : σ → (f : Field) → Value f
  ext : ∀ {s t : σ}, (∀ f, get s f = get t f) → s = t
  /-- The variable that a field is read from. -/
  variableName : Field → String
  nodup : (fields.map variableName).Nodup
  /-- The text of a value. -/
  write : (f : Field) → Value f → String
  /-- The values that a field can have. -/
  Legal : (f : Field) → Value f → Prop
  /-- The settings that the variables tell. -/
  ofLookup : Lookup → σ
  /-- A field is read as if every variable held what its own one holds. -/
  get_ofLookup : ∀ lookup f, get (ofLookup lookup) f = get (ofLookup fun _ => lookup (variableName f)) f
  /-- Whatever is read is legal. -/
  legal_ofLookup : ∀ lookup f, Legal f (get (ofLookup lookup) f)
  /-- A legal value is read from its own text. -/
  get_ofLookup_write : ∀ f v, Legal f v → get (ofLookup fun _ => some (write f v)) f = v

namespace Schema

variable {σ : Type} (c : Schema σ)

/-- The variables of some settings, each with the text of its field. -/
def texts (s : σ) : List (String × String) :=
  c.fields.map fun f => (c.variableName f, c.write f (c.get s f))

variable {c}

theorem mem_texts (s : σ) (f : c.Field) : (c.variableName f, c.write f (c.get s f)) ∈ c.texts s :=
  List.mem_map_of_mem (c.mem_fields f)

/-- No variable has two fields. -/
theorem variableName_injective : Function.Injective c.variableName := fun f g h =>
  List.inj_on_of_nodup_map c.nodup (c.mem_fields f) (c.mem_fields g) h

/-- **Whatever is legal is read** from its own texts, with any other variables beside them. -/
theorem ofLookup_of_writes {s : σ} (hs : ∀ f, c.Legal f (c.get s f)) {lookup : Lookup}
    (h : ∀ entry ∈ c.texts s, lookup entry.1 = some entry.2) : c.ofLookup lookup = s := by
  refine c.ext fun f => ?_
  rw [c.get_ofLookup, h _ (mem_texts s f)]
  exact c.get_ofLookup_write f _ (hs f)

/-- An environment of those texts holds every one of them. -/
theorem text?_ofTexts_of_mem {s : σ} {entry : String × String} (h : entry ∈ c.texts s) :
    (Environment.ofTexts (c.texts s)).text? entry.1 = some entry.2 := by
  obtain ⟨f, -, rfl⟩ := List.mem_map.1 h
  rw [Environment.text?_ofTexts]
  cases hfind : (c.texts s).find? fun entry => entry.1 == c.variableName f with
  | none => exact absurd (beq_self_eq_true _) (List.find?_eq_none.1 hfind _ h)
  | some found =>
    obtain ⟨g, -, rfl⟩ := List.mem_map.1 (List.mem_of_find?_eq_some hfind)
    obtain rfl : g = f := variableName_injective (beq_iff_eq.1 (List.find?_some hfind :))
    rfl

theorem ofLookup_ofTexts {s : σ} (hs : ∀ f, c.Legal f (c.get s f)) :
    c.ofLookup (Environment.ofTexts (c.texts s)).lookup = s :=
  ofLookup_of_writes hs fun _ h => text?_ofTexts_of_mem h

/-- Lookups that agree on a field's variable give the field the same value. -/
theorem get_ofLookup_congr {lookup lookup' : Lookup} {f : c.Field}
    (h : lookup (c.variableName f) = lookup' (c.variableName f)) :
    c.get (c.ofLookup lookup) f = c.get (c.ofLookup lookup') f := by
  rw [c.get_ofLookup lookup, c.get_ofLookup lookup', h]

end Schema
end RunMeter
