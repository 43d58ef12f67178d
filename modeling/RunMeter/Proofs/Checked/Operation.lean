import Mathlib.Algebra.Order.Ring.Int
import RunMeter.Checked

/-!
# RunMeter.Proofs.Checked.Operation — single additions and subtractions of words

Checked arithmetic hides which of its operations failed.  An `Operation` names one with its two words, so that a run
can be told operation by operation: it `Fits` when its exact result is a word.  Then the checked result is the one of
words that wrap round, and otherwise there is none (`checked?_of_fits`, `checked?_of_not_fits`).
-/

namespace RunMeter.Checked

/-- An addition or a subtraction of two words. -/
inductive Operation where
  | add (a b : Int64)
  | sub (a b : Int64)
  deriving DecidableEq

namespace Operation

/-- The result over the integers. -/
def exact : Operation → Int
  | add a b => a.toInt + b.toInt
  | sub a b => a.toInt - b.toInt

/-- The exact result is a signed 64-bit word: the operation does not overflow. -/
def Fits (op : Operation) : Prop :=
  -2 ^ 63 ≤ op.exact ∧ op.exact ≤ 2 ^ 63 - 1

instance (op : Operation) : Decidable op.Fits :=
  inferInstanceAs (Decidable (_ ∧ _))

/-- The result in words that wrap round. -/
def wrapped : Operation → Int64
  | add a b => a + b
  | sub a b => a - b

/-- The result of checked arithmetic. -/
def checked? : Operation → Option Int64
  | add a b => Checked.add a b
  | sub a b => Checked.sub a b

theorem checked?_eq_word? (op : Operation) : op.checked? = word? op.exact := by
  cases op <;> rfl

theorem ofInt_exact (op : Operation) : Int64.ofInt op.exact = op.wrapped := by
  cases op with
  | add a b => rw [exact, wrapped, Int64.ofInt_add, Int64.ofInt_toInt, Int64.ofInt_toInt]
  | sub a b => rw [exact, wrapped, Int64.ofInt_sub, Int64.ofInt_toInt, Int64.ofInt_toInt]

theorem fits_iff_fits_exact (op : Operation) : op.Fits ↔ fits op.exact = true := by
  rw [fits_iff, Int64.toInt_minValue, Int64.toInt_maxValue]
  rfl

/-- An operation that fits wraps nothing round. -/
theorem checked?_of_fits {op : Operation} (h : op.Fits) : op.checked? = some op.wrapped := by
  rw [checked?_eq_word?, word?, if_pos (op.fits_iff_fits_exact.1 h), ofInt_exact]

theorem checked?_of_not_fits {op : Operation} (h : ¬op.Fits) : op.checked? = none := by
  rw [checked?_eq_word?, word?, if_neg (mt op.fits_iff_fits_exact.2 h)]

theorem fits_of_checked? {op : Operation} {w : Int64} (h : op.checked? = some w) : op.Fits := by
  refine Decidable.byContradiction fun hfits => ?_
  rw [checked?_of_not_fits hfits] at h
  contradiction

theorem toInt_wrapped {op : Operation} (h : op.Fits) : op.wrapped.toInt = op.exact :=
  toInt_of_word? (by rw [← checked?_eq_word?, checked?_of_fits h])

end Operation

/-! ### Stepping up -/

/-- A word can be stepped up just if it is not the greatest. -/
theorem fits_add_one_iff {i : Int64} : (Operation.add i 1).Fits ↔ i.toInt + 1 ≤ Int64.maxValue.toInt := by
  have hlo := i.minValue_le_toInt
  rw [Int64.toInt_minValue] at hlo
  rw [Int64.toInt_maxValue]
  simp only [Operation.Fits, Operation.exact, toInt_one]
  omega

/-- A word below another one can be stepped up. -/
theorem fits_next {i limit : Int64} (h : i < limit) : (Operation.add i 1).Fits := by
  have hlt := Int64.lt_iff_toInt_lt.1 h
  have hhi := limit.toInt_le
  exact fits_add_one_iff.2 (by omega)

theorem toInt_next {i limit : Int64} (h : i < limit) : (i + 1).toInt = i.toInt + 1 :=
  Operation.toInt_wrapped (fits_next h)

theorem add_one_of_lt {i limit : Int64} (h : i < limit) : add i 1 = some (i + 1) :=
  Operation.checked?_of_fits (fits_next h)

end RunMeter.Checked
