import Mathlib.Data.Nat.Digits.Defs
import RunMeter.Proofs.Text.Decimal

/-!
# RunMeter.Proofs.Text.Numeral — which texts are numerals

A numeral is a sign, if any, and one or more ASCII digits, and it denotes the number that the digits stand for by their
places (`Denotes`).  The readers accept these texts and no others.

* `unsigned?_eq_some_iff`, `signed?_eq_some_iff`: what the readers give is what the text denotes.
* `Denotes.sign_or_isDigit`, `Denotes.countP_isSign_le`, `Denotes.exists_isDigit`: what a text must be like to denote
  anything.
* `Writes.denotes`: an integer is denoted by its shortest text, with any number of zeros after the sign.
* `signed?_ofInt`, `ofInt_injective`: the shortest text reads back, so that it tells which integer it is of.
-/

namespace RunMeter.Decimal

/-- A sign in front of digits, or none. -/
inductive Sign where
  | none
  | plus
  | minus
  deriving DecidableEq

namespace Sign

/-- The characters of a sign. -/
def text : Sign → List Char
  | none => []
  | plus => ['+']
  | minus => ['-']

/-- A magnitude with a sign. -/
def apply : Sign → Nat → Int
  | minus, n => -(n : Int)
  | _, n => n

end Sign

/-- Whether a character is a sign. -/
def isSign (c : Char) : Bool :=
  c == '+' || c == '-'

/-- The number that digits stand for: the last one counts as it is, and each one before counts ten times as much as
the one after it. -/
def placeValue (ds : List Char) : Nat :=
  Nat.ofDigits 10 (ds.reverse.map fun d => d.toNat - 48)

/-- A text is one of some signs and one or more ASCII digits, and denotes an integer. -/
def Denotes (signs : List Sign) (cs : List Char) (z : Int) : Prop :=
  ∃ sign ∈ signs, ∃ ds : List Char,
    ds ≠ [] ∧ (∀ d ∈ ds, d.isDigit = true) ∧ cs = sign.text ++ ds ∧ z = sign.apply (placeValue ds)

theorem value_eq_placeValue (ds : List Char) : value ds = placeValue ds := by
  induction ds using List.reverseRecOn with
  | nil => rfl
  | append_singleton ds d ih =>
    rw [value_concat, ih, placeValue, placeValue, List.reverse_append, List.reverse_singleton, List.singleton_append,
      List.map_cons, Nat.ofDigits_cons, Nat.add_comm]

/-! ### The readers -/

theorem magnitude?_eq_some_iff (ds : List Char) (n : Nat) :
    magnitude? ds = some n ↔ ds ≠ [] ∧ (∀ d ∈ ds, d.isDigit = true) ∧ n = placeValue ds := by
  unfold magnitude?
  rw [value_eq_placeValue]
  constructor
  · intro h
    split at h
    · rename_i hds
      obtain ⟨hne, hdigits⟩ := Bool.and_eq_true_iff.1 hds
      exact ⟨by simpa using hne, List.all_eq_true.1 hdigits, (Option.some.inj h).symm⟩
    · contradiction
  · rintro ⟨hne, hdigits, rfl⟩
    have hall : ds.all Char.isDigit = true := List.all_eq_true.2 hdigits
    have hsome : (!ds.isEmpty) = true := by simpa using hne
    rw [hall, hsome]
    rfl

theorem unsigned?_eq_some_iff (cs : List Char) (n : Nat) :
    unsigned? cs = some n ↔ Denotes [.none, .plus] cs n := by
  constructor
  · intro h
    unfold unsigned? at h
    split at h
    · rename_i ds
      obtain ⟨hne, hdigits, rfl⟩ := (magnitude?_eq_some_iff ds n).1 h
      exact ⟨.plus, by simp, ds, hne, hdigits, rfl, rfl⟩
    · obtain ⟨hne, hdigits, rfl⟩ := (magnitude?_eq_some_iff cs n).1 h
      exact ⟨.none, by simp, cs, hne, hdigits, rfl, rfl⟩
  · rintro ⟨sign, hsign, ds, hne, hdigits, rfl, hn⟩
    have hmagnitude := (magnitude?_eq_some_iff ds (placeValue ds)).2 ⟨hne, hdigits, rfl⟩
    cases sign with
    | none =>
      rw [Int.natCast_inj.1 hn]
      exact (unsigned?_of_isDigit hdigits).trans hmagnitude
    | plus =>
      rw [Int.natCast_inj.1 hn]
      exact hmagnitude
    | minus => simp at hsign

theorem signed?_minus (ds : List Char) : signed? ('-' :: ds) = Option.map Sign.minus.apply (magnitude? ds) := by
  simp only [signed?]
  cases magnitude? ds <;> rfl

theorem signed?_of_head? {cs : List Char} (h : cs.head? ≠ some '-') :
    signed? cs = Option.map Int.ofNat (unsigned? cs) := by
  unfold signed?
  split
  · exact absurd rfl h
  · cases unsigned? cs <;> rfl

theorem signed?_eq_some_iff (cs : List Char) (z : Int) :
    signed? cs = some z ↔ Denotes [.none, .plus, .minus] cs z := by
  constructor
  · intro h
    by_cases hhead : cs.head? = some '-'
    · obtain ⟨ds, rfl⟩ := List.head?_eq_some_iff.1 hhead
      rw [signed?_minus] at h
      obtain ⟨n, hn, rfl⟩ := Option.map_eq_some_iff.1 h
      obtain ⟨hne, hdigits, rfl⟩ := (magnitude?_eq_some_iff ds n).1 hn
      exact ⟨.minus, by simp, ds, hne, hdigits, rfl, rfl⟩
    · rw [signed?_of_head? hhead] at h
      obtain ⟨n, hn, rfl⟩ := Option.map_eq_some_iff.1 h
      obtain ⟨sign, hsign, hds⟩ := (unsigned?_eq_some_iff cs n).1 hn
      exact ⟨sign, List.mem_append_left [Sign.minus] hsign, hds⟩
  · rintro ⟨sign, hsign, ds, hne, hdigits, rfl, rfl⟩
    cases sign with
    | minus =>
      have hmagnitude := (magnitude?_eq_some_iff ds (placeValue ds)).2 ⟨hne, hdigits, rfl⟩
      exact (signed?_minus ds).trans (by rw [hmagnitude, Option.map_some])
    | none =>
      have hread : unsigned? ds = some (placeValue ds) :=
        (unsigned?_eq_some_iff _ _).2 ⟨.none, by simp, ds, hne, hdigits, rfl, rfl⟩
      have hhead : ds.head? ≠ some '-' := fun h => absurd (hdigits '-' (List.mem_of_mem_head? h)) (by decide)
      exact (signed?_of_head? hhead).trans (by rw [hread]; rfl)
    | plus =>
      have hread : unsigned? ('+' :: ds) = some (placeValue ds) :=
        (unsigned?_eq_some_iff _ _).2 ⟨.plus, by simp, ds, hne, hdigits, rfl, rfl⟩
      have hhead : ('+' :: ds).head? ≠ some '-' := by simp
      exact (signed?_of_head? hhead).trans (by rw [hread]; rfl)

/-! ### What a numeral is like -/

theorem not_isDigit_of_isSign {c : Char} (h : isSign c = true) : ¬c.isDigit = true := by
  rcases Bool.or_eq_true_iff.1 h with h | h
  · rw [beq_iff_eq.1 h]
    decide
  · rw [beq_iff_eq.1 h]
    decide

namespace Denotes

variable {signs : List Sign} {cs : List Char} {z : Int}

theorem mono {signs' : List Sign} (hsub : signs ⊆ signs') (h : Denotes signs cs z) : Denotes signs' cs z := by
  obtain ⟨sign, hsign, hds⟩ := h
  exact ⟨sign, hsub hsign, hds⟩

/-- A numeral denotes one integer. -/
theorem unique {y : Int} (hy : Denotes signs cs y) (hz : Denotes signs cs z) : y = z := by
  have hall : signs ⊆ [.none, .plus, .minus] := fun sign _ => by cases sign <;> simp
  have hread := (signed?_eq_some_iff cs y).2 (hy.mono hall)
  rw [(signed?_eq_some_iff cs z).2 (hz.mono hall)] at hread
  exact (Option.some.inj hread).symm

theorem sign_or_isDigit (h : Denotes signs cs z) {c : Char} (hc : c ∈ cs) : isSign c = true ∨ c.isDigit = true := by
  obtain ⟨sign, -, ds, -, hdigits, rfl, -⟩ := h
  rcases List.mem_append.1 hc with hc | hc
  · cases sign with
    | none => contradiction
    | plus => exact .inl (List.mem_singleton.1 hc ▸ rfl)
    | minus => exact .inl (List.mem_singleton.1 hc ▸ rfl)
  · exact .inr (hdigits c hc)

theorem exists_isDigit (h : Denotes signs cs z) : ∃ c ∈ cs, c.isDigit = true := by
  obtain ⟨sign, -, ds, hne, hdigits, rfl, -⟩ := h
  obtain ⟨d, hd⟩ := List.exists_mem_of_ne_nil ds hne
  exact ⟨d, List.mem_append_right _ hd, hdigits d hd⟩

/-- A numeral has one sign at most. -/
theorem countP_isSign_le (h : Denotes signs cs z) : cs.countP isSign ≤ 1 := by
  obtain ⟨sign, -, ds, -, hdigits, rfl, -⟩ := h
  have hnone : ds.countP isSign = 0 :=
    List.countP_eq_zero.2 fun d hd hsign => not_isDigit_of_isSign hsign (hdigits d hd)
  rw [List.countP_append, hnone]
  cases sign <;> decide

/-- Without a minus sign among the signs there is none in the text, and the integer is not negative. -/
theorem nonneg (h : Denotes signs cs z) (hminus : .minus ∉ signs) : 0 ≤ z ∧ '-' ∉ cs := by
  obtain ⟨sign, hsign, ds, -, hdigits, rfl, rfl⟩ := h
  have hds : '-' ∉ ds := fun h => absurd (hdigits '-' h) (by decide)
  cases sign with
  | none => exact ⟨Int.natCast_nonneg _, hds⟩
  | plus => exact ⟨Int.natCast_nonneg _, by simpa [Sign.text] using hds⟩
  | minus => exact absurd hsign hminus

end Denotes

/-! ### The numerals of an integer -/

/-- A text of an integer: its digits, zeros in front of them, and a sign, which may be left out unless it is minus. -/
inductive Writes : Int → List Char → Prop
  | plain (n zeros : Nat) : Writes n (List.replicate zeros '0' ++ digits n)
  | plus (n zeros : Nat) : Writes n ('+' :: (List.replicate zeros '0' ++ digits n))
  | minus (n zeros : Nat) (pos : 0 < n) : Writes (-n) ('-' :: (List.replicate zeros '0' ++ digits n))

/-- The shortest text is one of them. -/
theorem writes_ofInt (z : Int) : Writes z (ofInt z).toList := by
  cases z with
  | ofNat n =>
    rw [ofInt, ofNat, String.toList_ofList]
    exact .plain n 0
  | negSucc n =>
    rw [ofInt, String.toList_ofList]
    exact .minus (n + 1) 0 n.succ_pos

theorem isDigit_of_mem_zeros_digits {n zeros : Nat} {d : Char} (h : d ∈ List.replicate zeros '0' ++ digits n) :
    d.isDigit = true := by
  rcases List.mem_append.1 h with h | h
  · rw [List.eq_of_mem_replicate h]
    rfl
  · exact isDigit_of_mem_digits h

/-- Zeros in front do not count. -/
theorem placeValue_zeros_digits (n zeros : Nat) : placeValue (List.replicate zeros '0' ++ digits n) = n := by
  have hzeros : value (List.replicate zeros '0') = 0 := by
    induction zeros with
    | zero => rfl
    | succ zeros ih => rw [List.replicate_succ', value_concat, ih]; rfl
  rw [← value_eq_placeValue, value_append, hzeros, Nat.zero_mul, Nat.zero_add, value_digits]

/-- **Every text of an integer denotes it**, where its sign is one of the signs. -/
theorem Writes.denotes {z : Int} {cs : List Char} (h : Writes z cs) {signs : List Sign}
    (hnone : .none ∈ signs) (hplus : .plus ∈ signs) (hminus : z < 0 → .minus ∈ signs) : Denotes signs cs z := by
  have hne (n zeros : Nat) : List.replicate zeros '0' ++ digits n ≠ [] := by simp [digits_ne_nil]
  cases h with
  | plain n zeros =>
    exact ⟨.none, hnone, _, hne n zeros, fun _ => isDigit_of_mem_zeros_digits, rfl,
      by rw [placeValue_zeros_digits, Sign.apply]; nofun⟩
  | plus n zeros =>
    exact ⟨.plus, hplus, _, hne n zeros, fun _ => isDigit_of_mem_zeros_digits, rfl,
      by rw [placeValue_zeros_digits, Sign.apply]; nofun⟩
  | minus n zeros pos =>
    exact ⟨.minus, hminus (by omega), _, hne n zeros, fun _ => isDigit_of_mem_zeros_digits, rfl,
      by rw [placeValue_zeros_digits, Sign.apply]⟩

/-! ### The shortest text of an integer -/

theorem denotes_ofInt (z : Int) : Denotes [.none, .plus, .minus] (ofInt z).toList z :=
  (writes_ofInt z).denotes (by simp) (by simp) (by simp)

@[simp] theorem signed?_ofInt (z : Int) : signed? (ofInt z).toList = some z :=
  (signed?_eq_some_iff _ z).2 (denotes_ofInt z)

theorem ofInt_injective : Function.Injective ofInt := by
  intro y z h
  have hy := denotes_ofInt y
  rw [h] at hy
  exact hy.unique (denotes_ofInt z)

/-- A character that is neither a sign nor a digit does not occur. -/
theorem notMem_ofInt {c : Char} (hsign : isSign c = false) (hdigit : c.isDigit = false) (z : Int) :
    c ∉ (ofInt z).toList := by
  intro hc
  rcases (denotes_ofInt z).sign_or_isDigit hc with h | h
  · rw [hsign] at h
    contradiction
  · rw [hdigit] at h
    contradiction

end RunMeter.Decimal
