/-!
# RunMeter.Checked — arithmetic on 64-bit words that notices overflow

A sum or difference is given only when the exact one is a word.
-/

namespace RunMeter.Checked

/-- Whether an integer lies in the range of the signed 64-bit words. -/
def fits (z : Int) : Bool :=
  Int64.minValue.toInt ≤ z && z ≤ Int64.maxValue.toInt

/-- The word with the value `z`, if there is one. -/
def word? (z : Int) : Option Int64 :=
  if fits z then some (Int64.ofInt z) else none

/-- The exact sum, if it is a word. -/
def add (a b : Int64) : Option Int64 :=
  word? (a.toInt + b.toInt)

/-- The exact difference, if it is a word. -/
def sub (a b : Int64) : Option Int64 :=
  word? (a.toInt - b.toInt)

theorem fits_iff {z : Int} : fits z = true ↔ Int64.minValue.toInt ≤ z ∧ z ≤ Int64.maxValue.toInt := by
  simp [fits]

theorem toInt_of_word? {z : Int} {w : Int64} (h : word? z = some w) : w.toInt = z := by
  unfold word? at h
  split at h
  · rename_i hz
    obtain rfl := Option.some.inj h
    obtain ⟨h1, h2⟩ := fits_iff.1 hz
    exact Int64.toInt_ofInt_of_le h1 (Int.lt_of_le_of_lt h2 (by decide))
  · contradiction

/-- Between the least and the greatest word every integer is the value of a word. -/
theorem exists_word {z : Int} (hlo : Int64.minValue.toInt ≤ z) (hhi : z ≤ Int64.maxValue.toInt) :
    ∃ w, word? z = some w ∧ w.toInt = z := by
  have h : word? z = some (Int64.ofInt z) := if_pos (fits_iff.2 ⟨hlo, hhi⟩)
  exact ⟨_, h, toInt_of_word? h⟩

theorem toInt_of_add {a b w : Int64} (h : add a b = some w) : w.toInt = a.toInt + b.toInt :=
  toInt_of_word? h

theorem toInt_of_sub {a b w : Int64} (h : sub a b = some w) : w.toInt = a.toInt - b.toInt :=
  toInt_of_word? h

@[simp] theorem toInt_one : (1 : Int64).toInt = 1 := by decide

/-- A word below another one can be stepped up. -/
theorem exists_succ {a : Int64} (h : a.toInt < Int64.maxValue.toInt) :
    ∃ w, add a 1 = some w ∧ w.toInt = a.toInt + 1 := by
  have hlo := a.minValue_le_toInt
  exact exists_word (by rw [toInt_one]; omega) (by rw [toInt_one]; omega)

end RunMeter.Checked
