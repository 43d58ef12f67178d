import Mathlib.Data.List.Induction
import Mathlib.Tactic.IntervalCases
import Mathlib.Tactic.Ring
import RunMeter.Text.Decimal

/-!
# RunMeter.Proofs.Text.Decimal — decimal numerals are the usual ones

The digits of a number are those of `Nat.toDigits`, so a numeral here is what `repr` writes.

* `isNumeral_digits`: digits alone, at least one, and none too many.
* `value_padded`: the last digits of a number are its rest by a power of ten.
* `unsigned?_digits`: a numeral reads as the number that it was written for.
-/

namespace RunMeter.Decimal

theorem digit_eq_digitChar {n : Nat} (h : n < 10) : digit n = Nat.digitChar n := by
  interval_cases n <;> rfl

theorem digits_of_lt {n : Nat} (h : n < 10) : digits n = [digit n] := by
  rw [digits, if_pos h]

theorem digits_of_le {n : Nat} (h : 10 ≤ n) : digits n = digits (n / 10) ++ [digit (n % 10)] := by
  rw [digits, if_neg (by omega)]

theorem digits_eq_toDigits (n : Nat) : digits n = Nat.toDigits 10 n := by
  induction n using Nat.strong_induction_on with
  | _ n ih =>
    by_cases h : n < 10
    · rw [digits_of_lt h, Nat.toDigits_of_lt_base h, digit_eq_digitChar h]
    · rw [digits_of_le (by omega), Nat.toDigits_of_base_le (by decide) (by omega), ih (n / 10) (by omega),
        digit_eq_digitChar (by omega)]

theorem ofNat_eq_repr (n : Nat) : ofNat n = n.repr := by
  rw [ofNat, digits_eq_toDigits, Nat.repr_eq_ofList_toDigits]

theorem ofInt_eq_repr (z : Int) : ofInt z = z.repr := by
  cases z with
  | ofNat n => exact ofNat_eq_repr n
  | negSucc n =>
    change String.ofList ('-' :: digits (n + 1)) = "-" ++ (n + 1).repr
    rw [digits_eq_toDigits, Nat.repr_eq_ofList_toDigits, String.ofList_cons]
    rfl

/-! ### The form of a numeral -/

/-- One or more digits, of which the first is a zero only where it stands alone. -/
structure IsNumeral (cs : List Char) : Prop where
  ne_nil : cs ≠ []
  isDigit : ∀ c ∈ cs, c.isDigit = true
  eq_zero_of_head : cs.head? = some '0' → cs = ['0']

theorem digits_ne_nil (n : Nat) : digits n ≠ [] := by
  rw [digits_eq_toDigits]
  exact Nat.toDigits_ne_nil

theorem isDigit_of_mem_digits {n : Nat} {c : Char} (h : c ∈ digits n) : c.isDigit = true := by
  rw [digits_eq_toDigits] at h
  exact Nat.isDigit_of_mem_toDigits (by decide) (by decide) h

/-- The first digit of a number is a zero for the number zero only. -/
theorem eq_zero_of_head?_digits {n : Nat} (h : (digits n).head? = some '0') : n = 0 := by
  induction n using Nat.strong_induction_on with
  | _ n ih =>
    by_cases hlt : n < 10
    · rw [digits_of_lt hlt, List.head?_cons] at h
      have hdigit : digit n = '0' := Option.some.inj h
      revert hdigit
      interval_cases n <;> decide
    · obtain ⟨d, ds, hd⟩ := List.exists_cons_of_ne_nil (digits_ne_nil (n / 10))
      rw [digits_of_le (by omega), hd, List.cons_append, List.head?_cons] at h
      have hzero := ih (n / 10) (by omega) (by rw [hd]; exact h)
      omega

theorem isNumeral_digits (n : Nat) : IsNumeral (digits n) where
  ne_nil := digits_ne_nil n
  isDigit := fun _ h => isDigit_of_mem_digits h
  eq_zero_of_head := fun h => by
    rw [eq_zero_of_head?_digits h, digits_of_lt (by decide)]
    rfl

theorem length_padded (width n : Nat) : (padded width n).length = width := by
  induction width generalizing n with
  | zero => rfl
  | succ width ih => rw [padded, List.length_append, ih, List.length_singleton]

theorem isDigit_of_mem_padded {width n : Nat} {c : Char} (h : c ∈ padded width n) : c.isDigit = true := by
  induction width generalizing n with
  | zero => contradiction
  | succ width ih =>
    rw [padded, List.mem_append, List.mem_singleton] at h
    rcases h with h | rfl
    · exact ih h
    · have hdigit : digits (n % 10) = [digit (n % 10)] := digits_of_lt (by omega)
      exact isDigit_of_mem_digits (hdigit ▸ List.mem_singleton_self _)

/-! ### The number of a run of digits -/

theorem value_concat (cs : List Char) (c : Char) : value (cs ++ [c]) = 10 * value cs + (c.toNat - 48) := by
  rw [value, List.foldl_append]
  rfl

/-- Digits in front count by as many tens as there are digits after them. -/
theorem value_append (cs ds : List Char) : value (cs ++ ds) = value cs * 10 ^ ds.length + value ds := by
  induction ds using List.reverseRecOn with
  | nil => simp [value]
  | append_singleton ds c ih =>
    rw [← List.append_assoc, value_concat, value_concat, ih, List.length_append, List.length_singleton]
    ring

theorem toNat_digit {n : Nat} (h : n < 10) : (digit n).toNat = 48 + n := by
  interval_cases n <;> rfl

theorem value_padded (width n : Nat) : value (padded width n) = n % 10 ^ width := by
  induction width generalizing n with
  | zero => simp [padded, value, Nat.mod_one]
  | succ width ih =>
    have hlast : n % 10 < 10 := Nat.mod_lt _ (by decide)
    rw [padded, value_concat, ih, toNat_digit hlast, Nat.pow_succ', Nat.mod_mul]
    omega

/-! ### Reading a numeral back -/

theorem value_digits (n : Nat) : value (digits n) = n := by
  rw [digits_eq_toDigits]
  exact Nat.ofDigitChars_toDigits (by decide) (by decide)

theorem magnitude?_digits (n : Nat) : magnitude? (digits n) = some n := by
  have hall : (digits n).all Char.isDigit = true := List.all_eq_true.2 fun _ h => isDigit_of_mem_digits h
  have hne : (digits n).isEmpty = false := List.isEmpty_eq_false_iff.2 (digits_ne_nil n)
  rw [magnitude?, hall, hne, value_digits]
  rfl

/-- Digits stand for themselves where a sign might stand. -/
theorem unsigned?_of_isDigit {cs : List Char} (h : ∀ c ∈ cs, c.isDigit = true) : unsigned? cs = magnitude? cs := by
  unfold unsigned?
  split
  · exact absurd (h '+' List.mem_cons_self) (by decide)
  · rfl

theorem unsigned?_digits (n : Nat) : unsigned? (digits n) = some n := by
  rw [unsigned?_of_isDigit fun _ h => isDigit_of_mem_digits h, magnitude?_digits]

end RunMeter.Decimal
