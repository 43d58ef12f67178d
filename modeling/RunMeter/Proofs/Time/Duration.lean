import RunMeter.Proofs.Text.Decimal
import RunMeter.Proofs.Time.Rounding
import RunMeter.Time.Duration

/-!
# RunMeter.Proofs.Time.Duration — the printed time is near the time and keeps its order

Four roundings lie between a duration and its text: the seconds, the nanoseconds and their sum to 53 binary digits, and
the sum to five decimal places.  Under 2^24 seconds the first is exact and the next two move the time by less than a
nanosecond together.  The time is a whole number of nanoseconds, so that is too little to bring it to the wrong side of
a place that is not half way (`abs_sub_totalNanos_le`).

The text keeps the order of all durations: one second holds all times from the rounded second to the next one rounded
(`le_seconds`, `seconds_le`), also where the doubles are further apart than a second.

* `shows_text`: the number that the text shows.
* `text_nearest_and_ordered`: the roundings, the distance of the text from the time, and the order.
-/

namespace RunMeter.Duration

open Rounding

/-- The length of a duration. -/
def totalNanos (d : Duration) : Nat :=
  d.secs.toNat * 1000000000 + d.nanos

/-! ### The number that a text shows -/

/-- The text has seconds and five places, and its digits together are the number. -/
def Shows (text : String) (n : Nat) : Prop :=
  ∃ whole places : List Char, text = String.ofList (whole ++ '.' :: places) ∧
    Decimal.IsNumeral whole ∧ (∀ c ∈ places, c.isDigit = true) ∧ places.length = 5 ∧
    Decimal.value (whole ++ places) = n

theorem shows_text (d : Duration) : Shows d.text d.hundredthMillis := by
  refine ⟨_, _, rfl, Decimal.isNumeral_digits _, fun _ => Decimal.isDigit_of_mem_padded, Decimal.length_padded _ _, ?_⟩
  rw [Decimal.value_append, Decimal.value_digits, Decimal.value_padded, Decimal.length_padded]
  omega

/-- A text shows one number, since there are five places. -/
theorem Shows.unique {text : String} {m n : Nat} (hm : Shows text m) (hn : Shows text n) : m = n := by
  obtain ⟨w, p, rfl, -, -, hp, rfl⟩ := hm
  obtain ⟨w', p', htext, -, -, hp', rfl⟩ := hn
  obtain ⟨rfl, hplaces⟩ := List.append_inj' (String.ofList_injective htext) (by simp [hp, hp'])
  rw [(List.cons.inj hplaces).2]

/-! ### The double -/

/-- The whole seconds, as a double. -/
def whole (d : Duration) : Rat :=
  toBits precision d.secs.toNat

/-- The nanoseconds over the whole seconds, as a double. -/
def part (d : Duration) : Rat :=
  toBits precision ((d.nanos : Rat) / 1000000000)

theorem two_le_precision : 2 ≤ precision := by decide

section Steps

variable (d : Duration)

theorem seconds_eq : d.seconds = toBits precision (d.whole + d.part) := rfl

theorem representable_whole : Representable precision d.whole :=
  (roundsTo_toBits two_le_precision (Nat.cast_nonneg _)).representable

theorem whole_nonneg : 0 ≤ d.whole :=
  toBits_nonneg two_le_precision (Nat.cast_nonneg _)

theorem whole_of_le {d : Duration} (h : d.secs.toNat ≤ 2 ^ precision) : d.whole = d.secs.toNat :=
  toBits_of_representable two_le_precision (Nat.cast_nonneg _) (representable_natCast (by decide) h)

theorem nanos_div_nonneg : 0 ≤ (d.nanos : Rat) / 1000000000 := by positivity

theorem nanos_div_le : (d.nanos : Rat) / 1000000000 ≤ 1 - 1 / 1000000000 := by
  have hnanos : (d.nanos : Rat) + 1 ≤ 1000000000 := by exact_mod_cast d.nanos_lt
  linarith

theorem part_nonneg : 0 ≤ d.part :=
  toBits_nonneg two_le_precision d.nanos_div_nonneg

theorem abs_sub_part_le : |(d.nanos : Rat) / 1000000000 - d.part| ≤ 1 / 2 ^ 54 := by
  have hone : (d.nanos : Rat) / 1000000000 < twoPow 0 := by
    have hzero : twoPow 0 = 1 := zpow_zero 2
    linarith [d.nanos_div_le]
  have herror := abs_sub_toBits_le precision d.nanos_div_nonneg hone
  have hpow : twoPow (0 - (precision : Int) - 1) = 1 / 2 ^ 54 := by decide +kernel
  rwa [hpow] at herror

theorem part_lt_one : d.part < 1 := by
  have herror := (abs_le.1 d.abs_sub_part_le).1
  have hle := d.nanos_div_le
  have hsmall : (1 : Rat) / 2 ^ 54 < 1 / 1000000000 := by norm_num
  linarith

theorem seconds_nonneg : 0 ≤ d.seconds :=
  toBits_nonneg two_le_precision (add_nonneg d.whole_nonneg d.part_nonneg)

theorem nearestEven_hundredthMillis : NearestEven (d.seconds * 100000) d.hundredthMillis := by
  have hnear := nearestEven_halfEven (d.seconds * 100000)
  have hscaled : 0 ≤ d.seconds * 100000 := mul_nonneg d.seconds_nonneg (by norm_num)
  have hzero : 0 ≤ halfEven (d.seconds * 100000) := le_halfEven hscaled
  rwa [← Int.toNat_of_nonneg hzero] at hnear

end Steps

/-! ### How near the text is -/

theorem totalNanos_div (d : Duration) :
    (d.totalNanos : Rat) / 1000000000 = d.secs.toNat + (d.nanos : Rat) / 1000000000 := by
  rw [totalNanos]
  push_cast
  ring

/-- **The error of the double** is under a nanosecond for any time under 2^24 seconds. -/
theorem abs_sub_seconds_lt {d : Duration} (h : d.secs.toNat < 2 ^ 24) :
    |(d.totalNanos : Rat) / 1000000000 - d.seconds| < 1 / 1000000000 := by
  have hwhole : d.whole = d.secs.toNat := whole_of_le (h.le.trans (by decide))
  have hsecs : (d.secs.toNat : Rat) + 1 ≤ 2 ^ 24 := by exact_mod_cast h
  have hpow : twoPow 24 = 2 ^ 24 := twoPow_natCast 24
  have hsum : d.whole + d.part < twoPow 24 := by
    rw [hwhole, hpow]
    linarith [d.part_lt_one]
  have herror := abs_sub_toBits_le precision (add_nonneg d.whole_nonneg d.part_nonneg) hsum
  have hunit : twoPow ((24 : Int) - precision - 1) = 1 / 2 ^ 30 := by decide +kernel
  rw [hunit, ← seconds_eq, hwhole] at herror
  have hsmall : (1 : Rat) / 2 ^ 54 + 1 / 2 ^ 30 < 1 / 1000000000 := by norm_num
  calc |(d.totalNanos : Rat) / 1000000000 - d.seconds|
      = |((d.nanos : Rat) / 1000000000 - d.part) + (d.secs.toNat + d.part - d.seconds)| := by
        rw [totalNanos_div]
        congr 1
        ring
    _ ≤ |(d.nanos : Rat) / 1000000000 - d.part| + |d.secs.toNat + d.part - d.seconds| := abs_add_le _ _
    _ ≤ 1 / 2 ^ 54 + 1 / 2 ^ 30 := add_le_add d.abs_sub_part_le herror
    _ < 1 / 1000000000 := hsmall

/-- A whole number of nanoseconds that is moved by less than one goes to a nearest multiple of 10 microseconds. -/
theorem abs_sub_le_of_near {n t : Nat} {s : Rat} (hmoved : |(t : Rat) / 1000000000 - s| < 1 / 1000000000)
    (hnear : NearestEven (s * 100000) n) : |(n * 10000 : Int) - t| ≤ 5000 := by
  obtain ⟨hdown, hup⟩ := abs_lt.1 hmoved
  obtain ⟨hlow, hhigh⟩ := abs_le.1 hnear.near
  rw [Int.cast_natCast] at hlow hhigh
  have hlow' : -(5000 + 1 : Rat) < n * 10000 - t := by linarith
  have hhigh' : (n : Rat) * 10000 - t < 5000 + 1 := by linarith
  have hlt : |(n * 10000 : Int) - t| < 5000 + 1 := by exact_mod_cast abs_lt.2 ⟨hlow', hhigh'⟩
  exact Int.lt_add_one_iff.1 hlt

theorem abs_sub_totalNanos_le {d : Duration} (h : d.secs.toNat < 2 ^ 24) :
    |(d.hundredthMillis * 10000 : Int) - d.totalNanos| ≤ 5000 :=
  abs_sub_le_of_near (abs_sub_seconds_lt h) d.nearestEven_hundredthMillis

/-- Apart from the times half way, no other number is as near. -/
theorem lt_abs_sub_totalNanos {d : Duration} {n k : Nat} (hnear : |(n * 10000 : Int) - d.totalNanos| ≤ 5000)
    (hhalf : d.nanos % 10000 ≠ 5000) (hne : k ≠ n) :
    |(n * 10000 : Int) - d.totalNanos| < |(k * 10000 : Int) - d.totalNanos| := by
  have htotal : d.totalNanos % 10000 ≠ 5000 := by
    unfold totalNanos
    omega
  obtain ⟨hlow, hhigh⟩ := abs_le.1 hnear
  have hstrict : |(n * 10000 : Int) - d.totalNanos| < 5000 := abs_lt.2 ⟨by omega, by omega⟩
  refine hstrict.trans_le (le_abs.2 ?_)
  omega

/-! ### The order of the texts -/

/-- A duration is no shorter than its whole seconds, rounded as well. -/
theorem le_seconds (d : Duration) : toBits precision d.secs.toNat ≤ d.seconds :=
  le_toBits two_le_precision d.representable_whole d.whole_nonneg (le_add_of_nonneg_right d.part_nonneg)

/-- A duration is no longer than the next whole second, rounded as well.  Up to 2^53 the seconds are exact; beyond it a
part of a second is lost. -/
theorem seconds_le (d : Duration) : d.seconds ≤ toBits precision (d.secs.toNat + 1 : Nat) := by
  rcases le_total d.secs.toNat (2 ^ precision) with hsmall | hlarge
  · have hsum : d.whole + d.part ≤ (d.secs.toNat + 1 : Nat) := by
      rw [whole_of_le hsmall, Nat.cast_succ]
      linarith [d.part_lt_one]
    exact toBits_mono two_le_precision (add_nonneg d.whole_nonneg d.part_nonneg) hsum
  · have hwhole : ((2 ^ precision : Nat) : Rat) ≤ d.whole :=
      le_toBits two_le_precision (representable_natCast (by decide) le_rfl) (Nat.cast_nonneg _) (Nat.cast_le.2 hlarge)
    have hlarge' : (2 : Rat) ^ precision ≤ d.whole := by rwa [Nat.cast_pow] at hwhole
    rw [seconds_eq, toBits_add_of_lt_one two_le_precision d.representable_whole hlarge' d.part_nonneg d.part_lt_one]
    exact toBits_mono two_le_precision (Nat.cast_nonneg _) (Nat.cast_le.2 (Nat.le_succ _))

theorem seconds_mono {d d' : Duration} (h : d.totalNanos ≤ d'.totalNanos) : d.seconds ≤ d'.seconds := by
  have hnanos := d.nanos_lt
  have hnanos' := d'.nanos_lt
  unfold totalNanos at h
  rcases (show d.secs.toNat ≤ d'.secs.toNat by omega).eq_or_lt with hsame | hless
  · have hpart : d.part ≤ d'.part := by
      have hle : d.nanos ≤ d'.nanos := by omega
      refine toBits_mono two_le_precision d.nanos_div_nonneg (div_le_div_of_nonneg_right ?_ (by norm_num))
      exact_mod_cast hle
    have hwhole : d.whole = d'.whole := by rw [whole, whole, hsame]
    rw [seconds_eq, seconds_eq, hwhole]
    exact toBits_mono two_le_precision (add_nonneg d'.whole_nonneg d.part_nonneg) (by linarith)
  · calc d.seconds ≤ toBits precision (d.secs.toNat + 1 : Nat) := d.seconds_le
      _ ≤ toBits precision d'.secs.toNat := toBits_mono two_le_precision (Nat.cast_nonneg _) (Nat.cast_le.2 hless)
      _ ≤ d'.seconds := d'.le_seconds

theorem hundredthMillis_mono {d d' : Duration} (h : d.totalNanos ≤ d'.totalNanos) :
    d.hundredthMillis ≤ d'.hundredthMillis :=
  Int.toNat_le_toNat (halfEven_mono (mul_le_mul_of_nonneg_right (seconds_mono h) (by norm_num)))

/-- **The printed time.**  The seconds, the nanoseconds and their sum are each rounded to the nearest number of 53
binary digits, and the text shows the multiple of 10 microseconds that is nearest to that sum.  Under 2^24 seconds this
is a multiple nearest to the time itself, and the only one unless the time lies half way between two.  The text of a
longer time never shows less, from no time up to the longest. -/
theorem text_nearest_and_ordered :
    (∀ d : Duration, ∃ whole part : Rat,
      RoundsTo 53 d.secs.toNat whole ∧ RoundsTo 53 ((d.nanos : Rat) / 1000000000) part ∧
      RoundsTo 53 (whole + part) d.seconds ∧ NearestEven (d.seconds * 100000) d.hundredthMillis ∧
      Shows d.text d.hundredthMillis) ∧
    (∀ (d : Duration) (n : Nat), Shows d.text n → d.secs.toNat < 2 ^ 24 →
      |(n * 10000 : Int) - d.totalNanos| ≤ 5000 ∧
      (d.nanos % 10000 ≠ 5000 → ∀ k : Nat, k ≠ n →
        |(n * 10000 : Int) - d.totalNanos| < |(k * 10000 : Int) - d.totalNanos|)) ∧
    (∀ (d d' : Duration) (n n' : Nat), Shows d.text n → Shows d'.text n' → d.totalNanos ≤ d'.totalNanos →
      n ≤ n') := by
  refine ⟨fun d => ⟨d.whole, d.part, ?_, ?_, ?_, d.nearestEven_hundredthMillis, d.shows_text⟩, ?_, ?_⟩
  · exact roundsTo_toBits two_le_precision (Nat.cast_nonneg _)
  · exact roundsTo_toBits two_le_precision d.nanos_div_nonneg
  · exact roundsTo_toBits two_le_precision (add_nonneg d.whole_nonneg d.part_nonneg)
  · intro d n hn hsecs
    obtain rfl := hn.unique d.shows_text
    have hnear := abs_sub_totalNanos_le hsecs
    exact ⟨hnear, fun hhalf k hne => lt_abs_sub_totalNanos hnear hhalf hne⟩
  · intro d d' n n' hn hn' hle
    obtain rfl := hn.unique d.shows_text
    obtain rfl := hn'.unique d'.shows_text
    exact hundredthMillis_mono hle

/-- Times half way, of which one text shows the next multiple and one the last; a time one nanosecond before half way at
the end of the range; and two times beyond 2^53 seconds, where the text of the first shows a second too little. -/
theorem text_nearest_and_ordered_ends :
    let up : Duration := ⟨0, 5000, by decide⟩
    let down : Duration := ⟨0, 35000, by decide⟩
    let last : Duration := ⟨16777215, 999994999, by decide⟩
    let odd : Duration := ⟨9007199254740993, 999999999, by decide⟩
    let longest : Duration := ⟨18446744073709551615, 999999999, by decide⟩
    (up.text = "0.00001" ∧ |(1 * 10000 : Int) - up.totalNanos| ≤ 5000) ∧
    (down.text = "0.00003" ∧ |(3 * 10000 : Int) - down.totalNanos| ≤ 5000) ∧
    (last.text = "16777215.99999" ∧ ∀ k : Nat, k ≠ 1677721599999 →
      |(1677721599999 * 10000 : Int) - last.totalNanos| < |(k * 10000 : Int) - last.totalNanos|) ∧
    (odd.text = "9007199254740992.00000" ∧ longest.text = "18446744073709551616.00000" ∧
      odd.hundredthMillis ≤ longest.hundredthMillis) := by
  intro up down last odd longest
  have hshow {d : Duration} {n : Nat} (h : d.hundredthMillis = n) : Shows d.text n := h ▸ d.shows_text
  have hup : Shows up.text 1 := hshow (by decide +kernel)
  have hdown : Shows down.text 3 := hshow (by decide +kernel)
  have hlast : Shows last.text 1677721599999 := hshow (by decide +kernel)
  have hupText : up.text = "0.00001" := by decide +kernel
  have hdownText : down.text = "0.00003" := by decide +kernel
  have hlastText : last.text = "16777215.99999" := by decide +kernel
  have hoddText : odd.text = "9007199254740992.00000" := by decide +kernel
  have hlongestText : longest.text = "18446744073709551616.00000" := by decide +kernel
  have horder : odd.totalNanos ≤ longest.totalNanos := by decide +kernel
  obtain ⟨-, hnear, hmono⟩ := text_nearest_and_ordered
  exact ⟨⟨hupText, (hnear up 1 hup (by decide)).1⟩, ⟨hdownText, (hnear down 3 hdown (by decide)).1⟩,
    ⟨hlastText, (hnear last _ hlast (by decide)).2 (by decide)⟩,
    ⟨hoddText, hlongestText, hmono odd longest _ _ odd.shows_text longest.shows_text horder⟩⟩

end RunMeter.Duration
