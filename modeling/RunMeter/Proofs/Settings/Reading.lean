import RunMeter.Proofs.System.Environment
import RunMeter.Settings.Reading

/-!
# RunMeter.Proofs.Settings.Reading — what a log filter is read from

* `inked_filterOr`: every filter that is read has ink.
* `filterOr_text?_of_inked`: one with ink is read octet for octet; what is not read so is the default
  (`filterOr_text?_cases`).
-/

namespace RunMeter

/-- A text with a character that is no white space. -/
def Inked (text : String) : Prop :=
  ∃ c ∈ text.toList, Blank.isBlank c = false

theorem hasInk_iff_inked {text : String} : Blank.hasInk text = true ↔ Inked text := by
  simp [Blank.hasInk, Inked]

namespace Reading

/-! ### Filters -/

theorem inked_filterOr {fallback : String} (h : Inked fallback) (text : Option String) :
    Inked (filterOr fallback text) := by
  cases text with
  | none => exact h
  | some s =>
    by_cases hs : Blank.hasInk s = true
    · rw [filterOr, if_pos hs]
      exact hasInk_iff_inked.1 hs
    · rw [filterOr, if_neg hs]
      exact h

theorem filterOr_of_inked {filter : String} (h : Inked filter) (fallback : String) :
    filterOr fallback (some filter) = filter := by
  rw [filterOr, if_pos (hasInk_iff_inked.2 h)]

/-- A filter with ink is read as it stands in the environment, the blanks around it and all. -/
theorem filterOr_text?_of_inked {env : Environment} {name filter : String} (h : Inked filter)
    (hget : env.get? name = some (Utf8.encode filter)) (fallback : String) :
    filterOr fallback (env.text? name) = filter := by
  rw [(env.text?_eq_some_iff name).2 hget, filterOr_of_inked h]

/-- A filter that is read stands in the environment, or is the default. -/
theorem filterOr_text?_cases (env : Environment) (name fallback : String) :
    env.get? name = some (Utf8.encode (filterOr fallback (env.text? name))) ∨
      filterOr fallback (env.text? name) = fallback := by
  cases htext : env.text? name with
  | none => exact .inr rfl
  | some text =>
    by_cases hink : Blank.hasInk text = true
    · rw [filterOr, if_pos hink]
      exact .inl ((env.text?_eq_some_iff name).1 htext)
    · rw [filterOr, if_neg hink]
      exact .inr rfl

end Reading
end RunMeter
