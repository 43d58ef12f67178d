import Mathlib.Data.List.DropRight
import RunMeter.Text.Blank

/-!
# RunMeter.Proofs.Text.Blank — a text and the blanks around it

Trimming takes a text apart: blanks, a core without a blank at either end, blanks (`Trimmed`).  A text has one core,
since blanks around a text do not count for its trimming.

* `trimChars_surrounded`: what is put around a text.
* `trimmed_iff`: the core is what trimming leaves.
-/

namespace RunMeter.Blank

/-- Blanks and nothing else, perhaps none at all. -/
def Run (cs : List Char) : Prop :=
  ∀ c ∈ cs, isBlank c = true

/-- The core of a text: what is left of it without the blanks around it. -/
structure Trimmed (cs core : List Char) : Prop where
  around : ∃ before after, Run before ∧ Run after ∧ cs = before ++ core ++ after
  head : ∀ c ∈ core.head?, isBlank c = false
  last : ∀ c ∈ core.getLast?, isBlank c = false

theorem trimChars_eq_rdropWhile (cs : List Char) : trimChars cs = (cs.dropWhile isBlank).rdropWhile isBlank := rfl

/-- Blanks around a text do not count. -/
theorem trimChars_surrounded {before after : List Char} (hbefore : Run before) (hafter : Run after) (cs : List Char) :
    trimChars (before ++ cs ++ after) = trimChars cs := by
  unfold trimChars
  rw [List.append_assoc, List.dropWhile_append_of_pos hbefore, List.dropWhile_append]
  by_cases hcs : (cs.dropWhile isBlank).isEmpty = true
  · -- nothing but blanks, so the blanks after it go as well
    have hnil : after.dropWhile isBlank = [] := List.dropWhile_eq_nil_iff.2 hafter
    rw [if_pos hcs, hnil, List.isEmpty_iff.1 hcs]
  · have hreverse : ∀ c ∈ after.reverse, isBlank c = true := fun c hc => hafter c (List.mem_reverse.1 hc)
    rw [if_neg hcs, List.reverse_append, List.dropWhile_append_of_pos hreverse]

/-- A text without a blank at either end stays as it is. -/
theorem trimChars_of_ends {cs : List Char} (hhead : ∀ c ∈ cs.head?, isBlank c = false)
    (hlast : ∀ c ∈ cs.getLast?, isBlank c = false) : trimChars cs = cs := by
  have hdrop : cs.dropWhile isBlank = cs := by
    cases cs with
    | nil => rfl
    | cons c cs => exact List.dropWhile_cons_of_neg (by simp [hhead c rfl])
  rw [trimChars_eq_rdropWhile, hdrop, List.rdropWhile_eq_self_iff]
  intro hne
  simp [hlast _ (List.getLast?_eq_some_getLast hne)]

theorem trimmed_trimChars (cs : List Char) : Trimmed cs (trimChars cs) where
  around := by
    refine ⟨cs.takeWhile isBlank, (cs.dropWhile isBlank).rtakeWhile isBlank, ?_, ?_, ?_⟩
    · exact fun c hc => List.mem_takeWhile_imp hc
    · exact fun c hc => List.mem_rtakeWhile_imp hc
    · rw [trimChars_eq_rdropWhile, List.append_assoc, List.rdropWhile_append_rtakeWhile,
        List.takeWhile_append_dropWhile]
  head := by
    intro c hc
    -- what trimming leaves begins as the text without the blanks before it begins
    have hdrop : (cs.dropWhile isBlank).head? = some c := by
      obtain ⟨after, hafter⟩ := List.rdropWhile_prefix (p := isBlank) (l := cs.dropWhile isBlank)
      rw [← hafter, List.head?_append, ← trimChars_eq_rdropWhile, Option.mem_def.1 hc, Option.some_or]
    have hnot := List.head?_dropWhile_not isBlank cs
    rw [hdrop] at hnot
    exact hnot
  last := by
    intro c hc
    obtain ⟨hne, rfl⟩ := List.mem_getLast?_eq_getLast hc
    exact Bool.eq_false_iff.2 (List.rdropWhile_last_not isBlank (cs.dropWhile isBlank) hne)

/-- **Trimming**: the core of a text is what trimming leaves of it. -/
theorem trimmed_iff {cs core : List Char} : Trimmed cs core ↔ core = trimChars cs := by
  constructor
  · intro h
    obtain ⟨before, after, hbefore, hafter, rfl⟩ := h.around
    rw [trimChars_surrounded hbefore hafter, trimChars_of_ends h.head h.last]
  · rintro rfl
    exact trimmed_trimChars cs

/-- What is no blank is in the core. -/
theorem Trimmed.mem {cs core : List Char} (h : Trimmed cs core) {c : Char} (hc : c ∈ cs) (hink : isBlank c = false) :
    c ∈ core := by
  obtain ⟨before, after, hbefore, hafter, rfl⟩ := h.around
  rcases List.mem_append.1 hc with hc | hc
  · rcases List.mem_append.1 hc with hc | hc
    · exact absurd (hbefore c hc) (by simp [hink])
    · exact hc
  · exact absurd (hafter c hc) (by simp [hink])

end RunMeter.Blank
