import Mathlib.Data.List.Induction
import RunMeter.Text.Utf8

/-!
# RunMeter.Proofs.Text.Lines — the lines of what arrives on a stream

A line ends with a newline.  What stands after the last newline is a line that nobody has ended; it counts if there is
anything in it.

* `lines_append_lines`: text that starts at the end of other text continues its last line.
* `unfinished_eq_nil_iff`: that line is empty after a newline, and where nothing has been written.
* `firstStarting`, `lastStarting`: what a reader finds who looks for a line by its start, from the top or from the end.
-/

namespace RunMeter.Lines

/-- The end of a line. -/
def newline : UInt8 := 0x0A

/-- The lines that a newline ends. -/
def ended (o : Octets) : List Octets :=
  (o.splitOn newline).dropLast

/-- What stands after the last newline. -/
def unfinished (o : Octets) : Octets :=
  (o.splitOn newline).getLastD []

/-- The lines of some octets. -/
def lines (o : Octets) : List Octets :=
  if unfinished o = [] then ended o else ended o ++ [unfinished o]

/-- The first line with a start. -/
def firstStarting (start : Octets) (ls : List Octets) : Option Octets :=
  ls.find? fun l => start.isPrefixOf l

/-- The last line with a start. -/
def lastStarting (start : Octets) (ls : List Octets) : Option Octets :=
  ls.reverse.find? fun l => start.isPrefixOf l

/-! ### The last newline -/

/-- Octets have a last newline or none. -/
theorem exists_last_newline (o : Octets) :
    newline ∉ o ∨ ∃ before after, newline ∉ after ∧ o = before ++ newline :: after := by
  induction o using List.reverseRecOn with
  | nil => exact .inl List.not_mem_nil
  | append_singleton o b ih =>
    by_cases hb : newline = b
    · subst hb
      exact .inr ⟨o, [], List.not_mem_nil, rfl⟩
    · rcases ih with h | ⟨before, after, h, rfl⟩
      · exact .inl (by simp [h, hb])
      · exact .inr ⟨before, after ++ [b], by simp [h, hb], by simp⟩

theorem splitOn_of_notMem {o : Octets} (h : newline ∉ o) : o.splitOn newline = [o] :=
  List.splitOn_eq_singleton h

theorem ended_of_notMem {o : Octets} (h : newline ∉ o) : ended o = [] ∧ unfinished o = o := by
  simp [ended, unfinished, splitOn_of_notMem h]

theorem ended_append_newline {after : Octets} (before : Octets) (h : newline ∉ after) :
    ended (before ++ newline :: after) = before.splitOn newline ∧
      unfinished (before ++ newline :: after) = after := by
  simp [ended, unfinished, List.splitOn_append_cons_self, splitOn_of_notMem h]

/-- Text without a newline goes on the last line. -/
theorem splitOn_append {t : Octets} (o : Octets) (h : newline ∉ t) :
    (o ++ t).splitOn newline = ended o ++ [unfinished o ++ t] := by
  rcases exists_last_newline o with ho | ⟨before, after, hafter, rfl⟩
  · obtain ⟨h1, h2⟩ := ended_of_notMem ho
    have hline : newline ∉ o ++ t := by simp [ho, h]
    rw [h1, h2, splitOn_of_notMem hline, List.nil_append]
  · obtain ⟨h1, h2⟩ := ended_append_newline before hafter
    have hline : newline ∉ after ++ t := by simp [hafter, h]
    rw [h1, h2, List.append_assoc, List.cons_append, List.splitOn_append_cons_self, splitOn_of_notMem hline]

theorem unfinished_eq_nil_iff (o : Octets) : unfinished o = [] ↔ o = [] ∨ o.getLast? = some newline := by
  rcases exists_last_newline o with ho | ⟨before, after, hafter, rfl⟩
  · rw [(ended_of_notMem ho).2]
    constructor
    · exact .inl
    · rintro (h | h)
      · exact h
      · exact absurd (List.mem_of_getLast? h) ho
  · rw [(ended_append_newline before hafter).2]
    constructor
    · rintro rfl
      exact .inr (by simp)
    · intro h
      have hlast := h.resolve_left (by simp)
      rcases List.eq_nil_or_concat after with rfl | ⟨rest, b, rfl⟩
      · rfl
      · rw [List.concat_eq_append] at hlast hafter
        rw [← List.cons_append, ← List.append_assoc, List.getLast?_concat] at hlast
        exact absurd (by simp [Option.some.inj hlast]) hafter

/-! ### Lines after other text -/

/-- A line that is ended after some text: the text's last line goes on, and is ended. -/
theorem ended_append_line {t : Octets} (o : Octets) (h : newline ∉ t) :
    ended (o ++ (t ++ [newline])) = ended o ++ [unfinished o ++ t] ∧ unfinished (o ++ (t ++ [newline])) = [] := by
  have hline := ended_append_newline (o ++ t) List.not_mem_nil
  rw [← List.append_assoc]
  exact ⟨hline.1.trans (splitOn_append o h), hline.2⟩

/-- **Two lines after some text**: the first goes on where the text ends, the second is a line of its own. -/
theorem lines_append_lines {t p : Octets} (o : Octets) (ht : newline ∉ t) (hp : newline ∉ p) :
    lines (o ++ (t ++ [newline]) ++ (p ++ [newline])) = ended o ++ [unfinished o ++ t, p] := by
  obtain ⟨hended, hrest⟩ := ended_append_line o ht
  obtain ⟨hended', hrest'⟩ := ended_append_line (o ++ (t ++ [newline])) hp
  rw [lines, if_pos hrest', hended', hended, hrest, List.nil_append, List.append_assoc, List.singleton_append]

/-! ### Looking for a line -/

variable {start b : Octets} {ls : List Octets}

theorem lastStarting_of_last (h : start <+: b) : lastStarting start (ls ++ [b]) = some b := by
  rw [lastStarting, List.reverse_append, List.reverse_singleton, List.singleton_append]
  exact List.find?_cons_of_pos (List.isPrefixOf_iff_prefix.2 h)

theorem lastStarting_of_not (h : ¬start <+: b) : lastStarting start (ls ++ [b]) = lastStarting start ls := by
  rw [lastStarting, List.reverse_append, List.reverse_singleton, List.singleton_append]
  exact List.find?_cons_of_neg fun hb => h (List.isPrefixOf_iff_prefix.1 hb)

theorem firstStarting_of_first (h : start <+: b) : firstStarting start (b :: ls) = some b :=
  List.find?_cons_of_pos (List.isPrefixOf_iff_prefix.2 h)

/-- Lines without the start are passed over. -/
theorem firstStarting_append (h : ∀ l ∈ ls, ¬start <+: l) (ls' : List Octets) :
    firstStarting start (ls ++ ls') = firstStarting start ls' := by
  have hnone : (ls.find? fun l => start.isPrefixOf l) = none :=
    List.find?_eq_none.2 fun l hl hstart => h l hl (List.isPrefixOf_iff_prefix.1 hstart)
  rw [firstStarting, List.find?_append, hnone, Option.none_or, firstStarting]

end RunMeter.Lines
