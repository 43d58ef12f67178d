import Mathlib.Data.Int.Log
import Mathlib.Data.Rat.Floor
import Mathlib.Tactic.Linarith
import Mathlib.Tactic.Positivity
import Mathlib.Tactic.Ring
import RunMeter.Time.Rounding

/-!
# RunMeter.Proofs.Time.Rounding — roundings go to the nearest and keep the order

What each of the two roundings is for is said apart from how it is done: an integer is the nearest (`NearestEven`), and
a number with so many binary digits is the nearest of its kind (`RoundsTo`).  Both kinds of nearest keep the order of
the numbers that are rounded, and leave alone what needs no rounding.

* `nearestEven_halfEven`, `roundsTo_toBits`: the two roundings find the nearest.
* `halfEven_mono`, `toBits_mono`: the order is kept.
* `abs_sub_toBits_le`: how far a number is moved, by the power of two that it lies under.
* `toBits_add_of_lt_one`: a number so large that its last digit counts twos does not move for less than one.
-/

namespace RunMeter.Rounding

/-! ### The nearest integer -/

/-- The integer is a nearest one, and where there are two it is the even one. -/
structure NearestEven (q : Rat) (n : Int) : Prop where
  near : |q - n| ≤ 1 / 2
  even_of_half : |q - n| = 1 / 2 → n % 2 = 0

theorem nearestEven_halfEven (q : Rat) : NearestEven q (halfEven q) := by
  have hle : (q.floor : Rat) ≤ q := Int.floor_le q
  have hlt : q < q.floor + 1 := Int.lt_floor_add_one q
  have hbelow : |q - q.floor| = q - q.floor := abs_of_nonneg (by linarith)
  have habove : |q - (q.floor + 1 : Int)| = 1 - (q - q.floor) := by
    rw [abs_sub_comm, Int.cast_add, Int.cast_one, abs_of_nonneg (by linarith)]
    ring
  unfold halfEven
  dsimp only
  split_ifs with hless hmore heven
  · exact ⟨by linarith, fun h => by linarith⟩
  · exact ⟨by linarith, fun h => by linarith⟩
  · exact ⟨by linarith, fun _ => heven⟩
  · exact ⟨by linarith, fun _ => by omega⟩

namespace NearestEven

variable {q r : Rat} {m n : Int}

/-- Any other integer is half a unit away, or more. -/
theorem half_le (h : NearestEven q n) (hne : m ≠ n) : 1 / 2 ≤ |q - m| := by
  have hone : (1 : Rat) ≤ |(m : Rat) - n| := by exact_mod_cast Int.one_le_abs (sub_ne_zero.2 hne)
  have htriangle := abs_sub_le (m : Rat) q n
  rw [abs_sub_comm (m : Rat) q] at htriangle
  linarith [h.near]

theorem le (h : NearestEven q n) (m : Int) : |q - n| ≤ |q - m| := by
  rcases eq_or_ne m n with rfl | hne
  · exact le_rfl
  · exact h.near.trans (h.half_le hne)

theorem even_of_tie (h : NearestEven q n) (hne : m ≠ n) (htie : |q - m| = |q - n|) : n % 2 = 0 :=
  h.even_of_half (le_antisymm h.near (htie ▸ h.half_le hne))

/-- The order is kept.  Were it not, both numbers would be the one half way, and both integers even. -/
theorem mono (h : NearestEven q m) (h' : NearestEven r n) (hqr : q ≤ r) : m ≤ n := by
  by_contra hlt
  have hstep : n + 1 ≤ m := by omega
  have hstep' : (n : Rat) + 1 ≤ m := by exact_mod_cast hstep
  obtain ⟨hm, hm'⟩ := abs_le.1 h.near
  obtain ⟨hn, hn'⟩ := abs_le.1 h'.near
  have hq : |q - m| = 1 / 2 := by
    rw [abs_sub_comm, abs_of_nonneg (by linarith)]
    linarith
  have hr : |r - n| = 1 / 2 := by
    rw [abs_of_nonneg (by linarith)]
    linarith
  have hsucc : (m : Rat) = n + 1 := by linarith
  have hsucc' : m = n + 1 := by exact_mod_cast hsucc
  have hmeven := h.even_of_half hq
  have hneven := h'.even_of_half hr
  omega

end NearestEven

theorem halfEven_mono {q r : Rat} (h : q ≤ r) : halfEven q ≤ halfEven r :=
  (nearestEven_halfEven q).mono (nearestEven_halfEven r) h

theorem nearestEven_intCast (n : Int) : NearestEven n n :=
  ⟨by simp, by simp⟩

/-- An integer bound on a number bounds the rounded number. -/
theorem le_halfEven {q : Rat} {n : Int} (h : (n : Rat) ≤ q) : n ≤ halfEven q :=
  (nearestEven_intCast n).mono (nearestEven_halfEven q) h

theorem halfEven_le {q : Rat} {n : Int} (h : q ≤ n) : halfEven q ≤ n :=
  (nearestEven_halfEven q).mono (nearestEven_intCast n) h

/-! ### Binades -/

theorem twoPow_pos (e : Int) : 0 < twoPow e :=
  zpow_pos two_pos e

theorem twoPow_add (d e : Int) : twoPow (d + e) = twoPow d * twoPow e :=
  zpow_add₀ two_ne_zero d e

theorem twoPow_one : twoPow 1 = 2 :=
  zpow_one 2

theorem twoPow_natCast (n : Nat) : twoPow n = (2 : Rat) ^ n :=
  zpow_natCast 2 n

theorem twoPow_le_iff_le_log {e : Int} {x : Rat} (h : 0 < x) : twoPow e ≤ x ↔ e ≤ Int.log 2 x :=
  Int.zpow_le_iff_le_log one_lt_two h

theorem lt_twoPow_iff_log_lt {e : Int} {x : Rat} (h : 0 < x) : x < twoPow e ↔ Int.log 2 x < e :=
  Int.lt_zpow_iff_log_lt one_lt_two h

/-- The exponents of numerator and denominator leave two binades for their quotient. -/
theorem binade_eq_log {x : Rat} (h : 0 < x) : binade x = Int.log 2 x := by
  obtain ⟨n, hn⟩ := Int.eq_ofNat_of_zero_le (Rat.num_pos.2 h).le
  have hnum : n ≠ 0 := by
    rintro rfl
    exact absurd (Rat.num_pos.2 h) (by rw [hn]; decide)
  have hden : (0 : Rat) < x.den := by exact_mod_cast x.den_pos
  have hx : x * x.den = n := by
    rw [Rat.mul_den_eq_num, hn]
    rfl
  have hnlow : twoPow n.log2 ≤ n := by
    rw [twoPow_natCast]
    exact_mod_cast Nat.log2_self_le hnum
  have hnhigh : (n : Rat) < twoPow (n.log2 + 1) := by
    rw [← Nat.cast_succ, twoPow_natCast]
    exact_mod_cast Nat.lt_log2_self
  have hdlow : twoPow x.den.log2 ≤ x.den := by
    rw [twoPow_natCast]
    exact_mod_cast Nat.log2_self_le x.den_ne_zero
  have hdhigh : (x.den : Rat) < twoPow (x.den.log2 + 1) := by
    rw [← Nat.cast_succ, twoPow_natCast]
    exact_mod_cast Nat.lt_log2_self
  have hlow : twoPow ((n.log2 : Int) - x.den.log2 - 1) ≤ x := by
    have hpow := twoPow_add ((n.log2 : Int) - x.den.log2 - 1) (x.den.log2 + 1)
    rw [show (n.log2 : Int) - x.den.log2 - 1 + (x.den.log2 + 1) = n.log2 by ring] at hpow
    refine le_of_mul_le_mul_right ?_ hden
    calc twoPow ((n.log2 : Int) - x.den.log2 - 1) * x.den
        ≤ twoPow ((n.log2 : Int) - x.den.log2 - 1) * twoPow (x.den.log2 + 1) :=
          mul_le_mul_of_nonneg_left hdhigh.le (twoPow_pos _).le
      _ = twoPow n.log2 := hpow.symm
      _ ≤ x * x.den := hx ▸ hnlow
  have hhigh : x < twoPow ((n.log2 : Int) - x.den.log2 + 1) := by
    have hpow := twoPow_add ((n.log2 : Int) - x.den.log2 + 1) x.den.log2
    rw [show (n.log2 : Int) - x.den.log2 + 1 + x.den.log2 = n.log2 + 1 by ring] at hpow
    refine lt_of_mul_lt_mul_right ?_ hden.le
    calc x * x.den < twoPow (n.log2 + 1) := hx ▸ hnhigh
      _ = twoPow ((n.log2 : Int) - x.den.log2 + 1) * twoPow x.den.log2 := hpow
      _ ≤ twoPow ((n.log2 : Int) - x.den.log2 + 1) * x.den :=
          mul_le_mul_of_nonneg_left hdlow (twoPow_pos _).le
  rw [twoPow_le_iff_le_log h] at hlow
  rw [lt_twoPow_iff_log_lt h] at hhigh
  have hnat : x.num.toNat = n := by rw [hn]; rfl
  unfold binade
  rw [hnat]
  dsimp only
  split_ifs with hguess
  · rw [twoPow_le_iff_le_log h] at hguess
    omega
  · rw [twoPow_le_iff_le_log h] at hguess
    omega

/-! ### The nearest number with so many binary digits -/

/-- A number that is written with so many binary digits and a power of two. -/
def Representable (bits : Nat) (x : Rat) : Prop :=
  ∃ (m : Nat) (e : Int), m < 2 ^ bits ∧ x = m * twoPow e

/-- `y` is a nearest number to `x` with so many binary digits, and where there are two it is the one whose last digit
is even, so that one digit less will do. -/
structure RoundsTo (bits : Nat) (x y : Rat) : Prop where
  representable : Representable bits y
  nearest : ∀ z, Representable bits z → |x - y| ≤ |x - z|
  even : ∀ z, Representable bits z → z ≠ y → |x - z| = |x - y| → Representable (bits - 1) y

variable {bits : Nat}

theorem representable_zero : Representable bits 0 :=
  ⟨0, 0, Nat.two_pow_pos bits, by simp⟩

/-- A power of two needs one digit. -/
theorem representable_of_le (hbits : 1 ≤ bits) {m : Nat} (hm : m ≤ 2 ^ bits) (e : Int) :
    Representable bits (m * twoPow e) := by
  rcases hm.lt_or_eq with hlt | rfl
  · exact ⟨m, e, hlt, rfl⟩
  · refine ⟨1, e + bits, Nat.one_lt_two_pow (by omega), ?_⟩
    rw [add_comm, twoPow_add, twoPow_natCast, Nat.cast_one, one_mul, Nat.cast_pow, Nat.cast_two]

theorem representable_natCast (hbits : 1 ≤ bits) {m : Nat} (hm : m ≤ 2 ^ bits) : Representable bits m := by
  have hzero : (m : Rat) = m * twoPow 0 := (mul_one (m : Rat)).symm
  rw [hzero]
  exact representable_of_le hbits hm 0

/-- From the first number on that has a digit for twos and none for ones, all are even. -/
theorem Representable.exists_two_mul {z : Rat} (h : Representable bits z) (hz : 2 ^ bits ≤ z) :
    ∃ j : Int, z = 2 * j := by
  obtain ⟨m, e, hm, rfl⟩ := h
  have hone : 1 ≤ e := by
    by_contra hneg
    have hpow : twoPow e ≤ 1 := zpow_le_one_of_nonpos₀ one_le_two (by omega)
    have hm' : (m : Rat) < 2 ^ bits := by exact_mod_cast hm
    have hsmall : (m : Rat) * twoPow e ≤ m * 1 := mul_le_mul_of_nonneg_left hpow m.cast_nonneg
    linarith
  obtain ⟨k, hk⟩ := Int.eq_ofNat_of_zero_le (sub_nonneg.2 hone)
  refine ⟨m * 2 ^ k, ?_⟩
  have he : e = 1 + (k : Int) := by omega
  rw [he, twoPow_add, twoPow_natCast, twoPow_one]
  push_cast
  ring

/-! ### Its last digit -/

/-- What the last of so many digits of a positive number counts. -/
def lastDigit (bits : Nat) (x : Rat) : Rat :=
  twoPow (Int.log 2 x - (bits - 1))

theorem lastDigit_pos (bits : Nat) (x : Rat) : 0 < lastDigit bits x :=
  twoPow_pos _

/-- The digits of a positive number that is rounded, as an integer. -/
def significand (bits : Nat) (x : Rat) : Int :=
  halfEven (x / lastDigit bits x)

theorem toBits_of_pos {x : Rat} (h : 0 < x) : toBits bits x = significand bits x * lastDigit bits x := by
  rw [toBits, if_neg (not_le.2 h), binade_eq_log h]
  rfl

theorem toBits_zero : toBits bits 0 = 0 :=
  if_pos le_rfl

theorem abs_sub_mul {x u : Rat} (hu : 0 < u) (j : Int) : |x - j * u| = |x / u - j| * u := by
  rw [← abs_of_pos hu, ← abs_mul, abs_of_pos hu, sub_mul, div_mul_cancel₀ x hu.ne']

/-- The binade starts at a multiple of the last digit. -/
theorem mul_lastDigit_eq_twoPow (hbits : 1 ≤ bits) (x : Rat) :
    ((2 ^ (bits - 1) : Nat) : Rat) * lastDigit bits x = twoPow (Int.log 2 x) := by
  rw [Nat.cast_pow, Nat.cast_two, ← twoPow_natCast, lastDigit, ← twoPow_add]
  congr 1
  omega

/-- A number with so many digits is a multiple of the last, or lies under the binade. -/
theorem Representable.multiple_or_lt {z : Rat} (hz : Representable bits z) (x : Rat) :
    (∃ j : Int, z = j * lastDigit bits x) ∨ z < twoPow (Int.log 2 x) := by
  obtain ⟨m, e, hm, rfl⟩ := hz
  by_cases hexp : Int.log 2 x - (bits - 1) ≤ e
  · obtain ⟨k, hk⟩ := Int.eq_ofNat_of_zero_le (sub_nonneg.2 hexp)
    refine .inl ⟨m * 2 ^ k, ?_⟩
    have he : e = (k : Int) + (Int.log 2 x - (bits - 1)) := by omega
    rw [he, twoPow_add, twoPow_natCast, lastDigit]
    push_cast
    ring
  · right
    have hm' : (m : Rat) < twoPow bits := by
      rw [twoPow_natCast]
      exact_mod_cast hm
    calc (m : Rat) * twoPow e < twoPow bits * twoPow e := mul_lt_mul_of_pos_right hm' (twoPow_pos e)
      _ = twoPow (bits + e) := (twoPow_add _ _).symm
      _ ≤ twoPow (Int.log 2 x) := zpow_le_zpow_right₀ one_le_two (by omega)

section Positive

variable {x : Rat} (hpos : 0 < x)
include hpos

theorem twoPow_log_le : twoPow (Int.log 2 x) ≤ x :=
  (twoPow_le_iff_le_log hpos).2 le_rfl

/-- The digits make a number that is not negative and not above the next power of two. -/
theorem significand_bounds (bits : Nat) : 0 ≤ significand bits x ∧ significand bits x ≤ (2 ^ bits : Nat) := by
  have hu := lastDigit_pos bits x
  have hhigh : x < ((2 ^ bits : Nat) : Rat) * lastDigit bits x := by
    rw [Nat.cast_pow, Nat.cast_two, ← twoPow_natCast, lastDigit, ← twoPow_add]
    exact (lt_twoPow_iff_log_lt hpos).2 (by omega)
  have hquot : x / lastDigit bits x ≤ (2 ^ bits : Nat) := ((div_lt_iff₀ hu).2 hhigh).le
  exact ⟨le_halfEven (by simpa using (div_pos hpos hu).le), halfEven_le (by exact_mod_cast hquot)⟩

theorem abs_sub_toBits : |x - toBits bits x| = |x / lastDigit bits x - significand bits x| * lastDigit bits x := by
  rw [toBits_of_pos hpos, abs_sub_mul (lastDigit_pos bits x)]

theorem abs_sub_toBits_le_multiple (bits : Nat) (j : Int) : |x - toBits bits x| ≤ |x - j * lastDigit bits x| := by
  have hu := lastDigit_pos bits x
  rw [abs_sub_toBits hpos, abs_sub_mul hu]
  exact mul_le_mul_of_nonneg_right ((nearestEven_halfEven _).le j) hu.le

/-- What lies under the binade is farther away than the start of the binade. -/
theorem abs_sub_toBits_lt (hbits : 1 ≤ bits) {z : Rat} (hz : z < twoPow (Int.log 2 x)) :
    |x - toBits bits x| < |x - z| := by
  have hstart := twoPow_log_le hpos
  have hle := abs_sub_toBits_le_multiple hpos bits (2 ^ (bits - 1) : Nat)
  rw [Int.cast_natCast, mul_lastDigit_eq_twoPow hbits, abs_of_nonneg (sub_nonneg.2 hstart)] at hle
  calc |x - toBits bits x| ≤ x - twoPow (Int.log 2 x) := hle
    _ < x - z := by linarith
    _ ≤ |x - z| := le_abs_self _

theorem representable_toBits (hbits : 1 ≤ bits) : Representable bits (toBits bits x) := by
  obtain ⟨hlow, hhigh⟩ := significand_bounds hpos bits
  obtain ⟨m, hm⟩ := Int.eq_ofNat_of_zero_le hlow
  rw [toBits_of_pos hpos, hm]
  exact representable_of_le hbits (by omega) _

/-- An even number of the last digit is a number of the digit before. -/
theorem representable_toBits_of_even (hbits : 2 ≤ bits) (heven : significand bits x % 2 = 0) :
    Representable (bits - 1) (toBits bits x) := by
  obtain ⟨hlow, hhigh⟩ := significand_bounds hpos bits
  obtain ⟨m, hm⟩ : ∃ m : Nat, significand bits x = 2 * m := ⟨(significand bits x / 2).toNat, by omega⟩
  have hpow : 2 ^ bits = 2 * 2 ^ (bits - 1) := by
    rw [← Nat.pow_succ']
    congr 1
    omega
  have hdouble : toBits bits x = m * twoPow (1 + (Int.log 2 x - (bits - 1))) := by
    rw [toBits_of_pos hpos, hm, lastDigit, twoPow_add, twoPow_one]
    push_cast
    ring
  rw [hdouble]
  exact representable_of_le (by omega) (by omega) _

end Positive

/-- **Rounding to so many binary digits finds the nearest number that has them**, and of two the even one. -/
theorem roundsTo_toBits (hbits : 2 ≤ bits) {x : Rat} (hx : 0 ≤ x) : RoundsTo bits x (toBits bits x) := by
  rcases hx.eq_or_lt with rfl | hpos
  · rw [toBits_zero]
    refine ⟨representable_zero, fun z _ => by simp, fun z _ hne htie => ?_⟩
    exact absurd (by simpa using htie) hne
  refine ⟨representable_toBits hpos (by omega), fun z hz => ?_, fun z hz hne htie => ?_⟩
  · rcases hz.multiple_or_lt x with ⟨j, rfl⟩ | hlt
    · exact abs_sub_toBits_le_multiple hpos bits j
    · exact (abs_sub_toBits_lt hpos (by omega) hlt).le
  · rcases hz.multiple_or_lt x with ⟨j, rfl⟩ | hlt
    · have hu := lastDigit_pos bits x
      have hj : j ≠ significand bits x := fun h => hne (by rw [h, toBits_of_pos hpos])
      rw [abs_sub_toBits hpos, abs_sub_mul hu] at htie
      have heven := (nearestEven_halfEven _).even_of_tie hj (mul_right_cancel₀ hu.ne' htie)
      exact representable_toBits_of_even hpos hbits heven
    · exact absurd htie (abs_sub_toBits_lt hpos (by omega) hlt).ne'

namespace RoundsTo

variable {x x' y y' : Rat}

theorem eq_of_representable (h : RoundsTo bits x y) (hx : Representable bits x) : y = x := by
  have hzero := h.nearest x hx
  rw [sub_self, abs_zero] at hzero
  exact (sub_eq_zero.1 (abs_nonpos_iff.1 hzero)).symm

/-- The order is kept: were the rounded numbers in the other order, each would be at least as near to the other's. -/
theorem mono (h : RoundsTo bits x y) (h' : RoundsTo bits x' y') (hlt : x < x') : y ≤ y' := by
  by_contra hgt
  have hnear := sq_le_sq.2 (h.nearest y' h'.representable)
  have hnear' := sq_le_sq.2 (h'.nearest y h.representable)
  nlinarith [not_le.1 hgt]

end RoundsTo

theorem toBits_mono (hbits : 2 ≤ bits) {x y : Rat} (hx : 0 ≤ x) (h : x ≤ y) : toBits bits x ≤ toBits bits y := by
  rcases h.eq_or_lt with rfl | hlt
  · exact le_rfl
  · exact (roundsTo_toBits hbits hx).mono (roundsTo_toBits hbits (hx.trans h)) hlt

theorem toBits_of_representable (hbits : 2 ≤ bits) {x : Rat} (hx : 0 ≤ x) (h : Representable bits x) :
    toBits bits x = x :=
  (roundsTo_toBits hbits hx).eq_of_representable h

/-- A bound that has so many digits itself bounds the rounded number. -/
theorem le_toBits (hbits : 2 ≤ bits) {x y : Rat} (hy : Representable bits y) (hpos : 0 ≤ y) (h : y ≤ x) :
    y ≤ toBits bits x := by
  have hmono := toBits_mono hbits hpos h
  rwa [toBits_of_representable hbits hpos hy] at hmono

theorem toBits_nonneg (hbits : 2 ≤ bits) {x : Rat} (hx : 0 ≤ x) : 0 ≤ toBits bits x :=
  le_toBits hbits representable_zero le_rfl hx

/-- A number under a power of two is moved by half of what the last digit counts there, at most. -/
theorem abs_sub_toBits_le (bits : Nat) {x : Rat} {k : Int} (hx : 0 ≤ x) (hk : x < twoPow k) :
    |x - toBits bits x| ≤ twoPow (k - bits - 1) := by
  rcases hx.eq_or_lt with rfl | hpos
  · rw [toBits_zero, sub_self, abs_zero]
    exact (twoPow_pos _).le
  have hlog : Int.log 2 x < k := (lt_twoPow_iff_log_lt hpos).1 hk
  have hu := lastDigit_pos bits x
  rw [abs_sub_toBits hpos]
  calc |x / lastDigit bits x - significand bits x| * lastDigit bits x
      ≤ 1 / 2 * lastDigit bits x := mul_le_mul_of_nonneg_right (nearestEven_halfEven _).near hu.le
    _ = twoPow (-1 + (Int.log 2 x - (bits - 1))) := by
        rw [twoPow_add, lastDigit]
        simp [twoPow]
    _ ≤ twoPow (k - bits - 1) := zpow_le_zpow_right₀ one_le_two (by omega)

/-- **Large numbers stand still**: where the last digit counts twos or more, a fraction of one is rounded away. -/
theorem toBits_add_of_lt_one (hbits : 2 ≤ bits) {y f : Rat} (hy : Representable bits y) (hlarge : 2 ^ bits ≤ y)
    (hf : 0 ≤ f) (hone : f < 1) : toBits bits (y + f) = y := by
  have hpos : 0 ≤ y := le_trans (by positivity) hlarge
  have hrounds := roundsTo_toBits hbits (add_nonneg hpos hf)
  have hle : y ≤ toBits bits (y + f) := le_toBits hbits hy hpos (le_add_of_nonneg_right hf)
  have hnear := hrounds.nearest y hy
  rw [add_sub_cancel_left, abs_of_nonneg hf] at hnear
  obtain ⟨i, hi⟩ := hy.exists_two_mul hlarge
  obtain ⟨j, hj⟩ := hrounds.representable.exists_two_mul (hlarge.trans hle)
  have hup := (abs_le.1 hnear).1
  have hij : i ≤ j := by
    have : (i : Rat) ≤ j := by linarith
    exact_mod_cast this
  have hji : j < i + 1 := by
    have : (j : Rat) < i + 1 := by linarith
    exact_mod_cast this
  rw [hj, hi, show j = i by omega]

end RunMeter.Rounding
