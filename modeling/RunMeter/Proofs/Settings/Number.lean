import RunMeter.Proofs.Text.Numeral
import RunMeter.Settings.Reading
import RunMeter.Settings.Workload

/-!
# RunMeter.Proofs.Settings.Number — which texts are numbers in the settings

A number in the settings is a numeral with underscores anywhere, and it is in the range of its words; whatever else a
variable holds, the setting is the default.  `ReadsNumbers` says this of a reader, whatever its words and its signs are,
and follows from one equation: the word that is read is the one that the text denotes without its underscores
(`ReadsNumbers.of_read`).

* `int64Or_ofInt`, `uint64Or_ofNat`: every word reads back from its shortest text.
* `numbers_read`: the signed numbers and the unsigned ones are read so.
-/

namespace RunMeter

/-- A word is the word of its own value. -/
theorem Checked.word?_toInt (w : Int64) : word? w.toInt = some w := by
  have hfits : fits w.toInt = true := fits_iff.2 ⟨w.minValue_le_toInt, w.toInt_le⟩
  rw [word?, if_pos hfits, Int64.ofInt_toInt]

namespace Reading

open Decimal (Denotes Sign Writes isSign)

/-- The second text is the first with underscores put in, anywhere and any number of them. -/
inductive Underscored : List Char → List Char → Prop
  | nil : Underscored [] []
  | keep (c : Char) {u v : List Char} (h : Underscored u v) : Underscored (c :: u) (c :: v)
  | put {u v : List Char} (h : Underscored u v) : Underscored u ('_' :: v)

/-- Texts that are no number, whatever the signs. -/
inductive Malformed (v : String) : Prop
  /-- There is nothing but underscores and signs, or nothing at all. -/
  | bare (h : ∀ c ∈ v.toList, c = '_' ∨ isSign c = true)
  /-- There are two signs or more. -/
  | signs (h : 2 ≤ v.toList.countP isSign)
  /-- There is a blank, at an end or between. -/
  | blank (c : Char) (mem : c ∈ v.toList) (h : Blank.isBlank c = true)
  /-- There is a character past ASCII, such as a digit of another script. -/
  | foreign (c : Char) (mem : c ∈ v.toList) (h : 128 ≤ c.toNat)

/-- A reader of numbers with these signs, from `lo` to `hi`: it reads what a text denotes without its underscores, and
gives the default for all else. -/
structure ReadsNumbers (signs : List Sign) (lo hi : Int) {α : Type} (toInt : α → Int)
    (readOr : α → Option String → α) : Prop where
  /-- A variable that is not set. -/
  unset : ∀ fallback, readOr fallback none = fallback
  /-- A numeral of an integer in the range. -/
  inside : ∀ fallback v z, Denotes signs (numeral v) z → lo ≤ z → z ≤ hi → toInt (readOr fallback (some v)) = z
  /-- A numeral of an integer past either end of it. -/
  outside : ∀ fallback v z, Denotes signs (numeral v) z → z < lo ∨ hi < z → readOr fallback (some v) = fallback
  /-- A text that is no numeral without its underscores. -/
  other : ∀ fallback v, (∀ z, ¬Denotes signs (numeral v) z) → readOr fallback (some v) = fallback
  /-- Every text of a word, with underscores anywhere. -/
  written : ∀ fallback x u v, Writes (toInt x) u → Underscored u v.toList → readOr fallback (some v) = x
  /-- Every text of an integer past either end of the range, the next one to it among them. -/
  past : ∀ fallback z u v, Writes z u → Underscored u v.toList → z < lo ∨ hi < z → readOr fallback (some v) = fallback
  /-- A text that is malformed. -/
  malformed : ∀ fallback v, Malformed v → readOr fallback (some v) = fallback
  /-- A minus sign where there is none to be, not even before a zero. -/
  unsigned : .minus ∉ signs → ∀ fallback v, '-' ∈ v.toList → readOr fallback (some v) = fallback

/-! ### The characters of a numeral -/

theorem mem_numeral {v : String} {c : Char} : c ∈ numeral v ↔ c ∈ v.toList ∧ c ≠ '_' := by
  simp [numeral]

theorem Underscored.filter_eq {u v : List Char} (h : Underscored u v) (hu : '_' ∉ u) :
    v.filter (fun c => c != '_') = u := by
  induction h with
  | nil => rfl
  | @keep c u v h ih =>
    rw [List.mem_cons, not_or] at hu
    rw [List.filter_cons_of_pos (by simpa using Ne.symm hu.1), ih hu.2]
  | put h ih => rw [List.filter_cons_of_neg (by simp), ih hu]

theorem underscored_self (u : List Char) : Underscored u u := by
  induction u with
  | nil => exact .nil
  | cons c u ih => exact .keep c ih

theorem countP_isSign_numeral (v : String) : (numeral v).countP isSign = v.toList.countP isSign := by
  rw [numeral, List.countP_filter]
  refine List.countP_congr fun c _ => ?_
  have hsign : isSign c = true → c ≠ '_' := by rintro h rfl; contradiction
  simpa using hsign

theorem toNat_of_sign_or_isDigit {c : Char} (h : isSign c = true ∨ c.isDigit = true) :
    c = '+' ∨ c = '-' ∨ 48 ≤ c.toNat ∧ c.toNat ≤ 57 := by
  rcases h with h | h
  · rcases Bool.or_eq_true_iff.1 h with h | h
    · exact .inl (beq_iff_eq.1 h)
    · exact .inr (.inl (beq_iff_eq.1 h))
  · obtain ⟨hlo, hhi⟩ := Bool.and_eq_true_iff.1 h
    exact .inr (.inr ⟨of_decide_eq_true hlo, of_decide_eq_true hhi⟩)

/-- Signs and digits are ASCII, and neither blank nor an underscore. -/
theorem plain_of_sign_or_isDigit {c : Char} (h : isSign c = true ∨ c.isDigit = true) :
    Blank.isBlank c = false ∧ c.toNat < 128 ∧ c ≠ '_' := by
  rcases toNat_of_sign_or_isDigit h with rfl | rfl | ⟨hlo, hhi⟩
  · decide
  · decide
  · refine ⟨?_, by omega, ?_⟩
    · simp [Blank.isBlank]
      omega
    · rintro rfl
      contradiction

/-- Underscores in a text of an integer do not count. -/
theorem denotes_of_writes {z : Int} {u : List Char} {v : String} (hz : Writes z u) (huv : Underscored u v.toList)
    (signs : List Sign) (hnone : .none ∈ signs) (hplus : .plus ∈ signs) (hminus : z < 0 → .minus ∈ signs) :
    Denotes signs (numeral v) z := by
  have hu := hz.denotes hnone hplus hminus
  have hnumeral : numeral v = u :=
    huv.filter_eq fun h => (plain_of_sign_or_isDigit (hu.sign_or_isDigit h)).2.2 rfl
  rw [hnumeral]
  exact hu

/-- Without underscores a malformed text is no numeral. -/
theorem Malformed.not_denotes {v : String} (h : Malformed v) (signs : List Sign) (z : Int) :
    ¬Denotes signs (numeral v) z := by
  intro hz
  have hplain (c : Char) (hc : c ∈ v.toList) (hne : c ≠ '_') : Blank.isBlank c = false ∧ c.toNat < 128 ∧ c ≠ '_' :=
    plain_of_sign_or_isDigit (hz.sign_or_isDigit (mem_numeral.2 ⟨hc, hne⟩))
  cases h with
  | bare h =>
    obtain ⟨c, hc, hdigit⟩ := hz.exists_isDigit
    obtain ⟨hc, hne⟩ := mem_numeral.1 hc
    exact Decimal.not_isDigit_of_isSign ((h c hc).resolve_left hne) hdigit
  | signs h =>
    have hle := hz.countP_isSign_le
    rw [countP_isSign_numeral] at hle
    omega
  | blank c mem h =>
    have hne : c ≠ '_' := by rintro rfl; contradiction
    rw [(hplain c mem hne).1] at h
    contradiction
  | foreign c mem h =>
    have hne : c ≠ '_' := by rintro rfl; revert h; decide
    have hlt := (hplain c mem hne).2.1
    omega

/-! ### The readers -/

/-- **Reading numbers**: a reader that reads just what the text denotes without its underscores reads numbers. -/
theorem ReadsNumbers.of_read {signs : List Sign} {lo hi : Int} {α : Type} {toInt : α → Int}
    {read : String → Option α} (hread : ∀ v w, read v = some w ↔ Denotes signs (numeral v) (toInt w))
    (hrange : ∀ z, lo ≤ z → z ≤ hi → ∃ w, toInt w = z) (hlo : ∀ w, lo ≤ toInt w) (hhi : ∀ w, toInt w ≤ hi)
    (hnone : .none ∈ signs) (hplus : .plus ∈ signs) (hminus : lo < 0 → .minus ∈ signs) :
    ReadsNumbers signs lo hi toInt fun fallback value => (value.bind read).getD fallback := by
  have hdefault {v : String} (fallback : α) (h : ∀ w, ¬Denotes signs (numeral v) (toInt w)) :
      ((some v).bind read).getD fallback = fallback := by
    have hfail : read v = none := Option.eq_none_iff_forall_ne_some.2 fun w hw => h w ((hread v w).1 hw)
    rw [Option.bind_some, hfail, Option.getD_none]
  have hvalue {v : String} {w : α} (fallback : α) (h : Denotes signs (numeral v) (toInt w)) :
      ((some v).bind read).getD fallback = w := by
    rw [Option.bind_some, (hread v w).2 h, Option.getD_some]
  constructor
  case unset => exact fun fallback => rfl
  case inside =>
    intro fallback v z hz hlo hhi
    obtain ⟨w, rfl⟩ := hrange z hlo hhi
    exact congrArg toInt (hvalue fallback hz)
  case outside =>
    intro fallback v z hz hout
    refine hdefault fallback fun w hw => ?_
    have hw' := hw.unique hz
    have hlo := hlo w
    have hhi := hhi w
    omega
  case other => exact fun fallback v h => hdefault fallback fun w => h (toInt w)
  case written =>
    intro fallback x u v hx huv
    have hlo := hlo x
    exact hvalue fallback (denotes_of_writes hx huv signs hnone hplus fun h => hminus (by omega))
  case past =>
    intro fallback z u v hz huv hout
    -- a negative integer may be past the range for want of a minus sign
    refine hdefault fallback fun w hw => ?_
    have hall := denotes_of_writes hz huv [.none, .plus, .minus] (by simp) (by simp) (by simp)
    have hw' := (hw.mono fun sign _ => by cases sign <;> simp).unique hall
    have hlo := hlo w
    have hhi := hhi w
    omega
  case malformed => exact fun fallback v h => hdefault fallback fun w => h.not_denotes signs (toInt w)
  case unsigned =>
    intro hminus fallback v hv
    exact hdefault fallback fun w h => (h.nonneg hminus).2 (mem_numeral.2 ⟨hv, by decide⟩)

theorem int64?_eq_some_iff (v : String) (w : Int64) :
    int64? v = some w ↔ Denotes [.none, .plus, .minus] (numeral v) w.toInt := by
  rw [int64?, Option.bind_eq_some_iff, ← Decimal.signed?_eq_some_iff]
  constructor
  · rintro ⟨z, hz, hw⟩
    rw [hz, Checked.toInt_of_word? hw]
  · exact fun h => ⟨w.toInt, h, Checked.word?_toInt w⟩

theorem uint64?_eq_some_iff (v : String) (w : UInt64) :
    uint64? v = some w ↔ Denotes [.none, .plus] (numeral v) w.toNat := by
  rw [uint64?, Option.bind_eq_some_iff, ← Decimal.unsigned?_eq_some_iff]
  constructor
  · rintro ⟨n, hn, hw⟩
    split at hw
    · rename_i hlt
      rw [hn, ← Option.some.inj hw, UInt64.toNat_ofNat_of_lt' hlt]
    · contradiction
  · intro h
    refine ⟨w.toNat, h, ?_⟩
    rw [if_pos w.toNat_lt_size, UInt64.ofNat_toNat]

theorem readsNumbers_int64Or :
    ReadsNumbers [.none, .plus, .minus] (-2 ^ 63) (2 ^ 63 - 1) Int64.toInt int64Or := by
  refine .of_read int64?_eq_some_iff ?_ ?_ ?_ (by simp) (by simp) (by simp)
  · intro z hlo hhi
    obtain ⟨w, -, hw⟩ := Checked.exists_word (z := z) (Int64.toInt_minValue ▸ hlo) (Int64.toInt_maxValue ▸ hhi)
    exact ⟨w, hw⟩
  · exact fun w => Int64.toInt_minValue ▸ w.minValue_le_toInt
  · exact fun w => Int64.toInt_maxValue ▸ w.toInt_le

theorem readsNumbers_uint64Or :
    ReadsNumbers [.none, .plus] 0 (2 ^ 64 - 1) (fun w : UInt64 => (w.toNat : Int)) uint64Or := by
  refine .of_read uint64?_eq_some_iff ?_ ?_ ?_ (by simp) (by simp) (by simp)
  · intro z hlo hhi
    have hlt : z.toNat < UInt64.size := by change z.toNat < 2 ^ 64; omega
    refine ⟨UInt64.ofNat z.toNat, ?_⟩
    rw [UInt64.toNat_ofNat_of_lt' hlt]
    omega
  · exact fun w => Int.natCast_nonneg _
  · intro w
    have hlt := w.toNat_lt
    omega

theorem int64Or_ofInt (fallback w : Int64) : int64Or fallback (some (Decimal.ofInt w.toInt)) = w :=
  readsNumbers_int64Or.written fallback w _ _ (Decimal.writes_ofInt w.toInt) (underscored_self _)

theorem uint64Or_ofNat (fallback w : UInt64) : uint64Or fallback (some (Decimal.ofNat w.toNat)) = w :=
  readsNumbers_uint64Or.written fallback w _ _ (Decimal.writes_ofInt w.toNat) (underscored_self _)

/-- **The numbers of the settings.**  A signed number is a numeral with either sign or none, underscores anywhere in it,
from -2^63 to 2^63 - 1; an unsigned one has no minus sign, not even before a zero, and goes from 0 to 2^64 - 1.  Each
reads as the integer that its digits denote, and every other text, one past an end of the range among them, as the
default.  Every number of the workloads' settings is read so from its own variable, the Fibonacci index before it is
held against its bound. -/
theorem numbers_read :
    ReadsNumbers [.none, .plus, .minus] (-2 ^ 63) (2 ^ 63 - 1) Int64.toInt int64Or ∧
    ReadsNumbers [.none, .plus] 0 (2 ^ 64 - 1) (fun w : UInt64 => (w.toNat : Int)) uint64Or ∧
    ∀ lookup : Lookup, WorkloadSettings.ofLookup lookup =
      { logFilter := filterOr WorkloadSettings.defaultFilter (lookup WorkloadSettings.logVariable)
        tightLoopIterations := int64Or 1000000 (lookup "TIGHT_LOOP_ITERATIONS")
        fibIndex := WorkloadSettings.fibIndexOf (int64Or 50 (lookup "FIB_N"))
        sumLoopLimit := int64Or 10000000000 (lookup "SUM_LOOP_LIMIT")
        diveDepth := int64Or 10000000 (lookup "STACK_DIVE_DEPTH")
        diveStackMiB := uint64Or 2048 (lookup "STACK_DIVE_STACK_MB") } :=
  ⟨readsNumbers_int64Or, readsNumbers_uint64Or, fun _ => rfl⟩

/-- The least signed number with zeros and underscores in it, and the one below it; a small one with a plus sign; the
greatest unsigned number; a minus sign before an unsigned zero; a digit that is not ASCII. -/
theorem numbers_read_ends :
    int64Or 7 (some "-_00_9223372036854775808_") = Int64.minValue ∧
    int64Or 7 (some "-9223372036854775809") = 7 ∧
    int64Or 7 (some "+_0_9") = 9 ∧
    uint64Or 7 (some "18_446_744_073_709_551_615") = 18446744073709551615 ∧
    uint64Or 7 (some "-0") = 7 ∧
    int64Or 7 (some "4\u0662") = 7 := by
  obtain ⟨signed, unsigned, -⟩ := numbers_read
  have hleast : Denotes [.none, .plus, .minus] (numeral "-_00_9223372036854775808_") (-2 ^ 63) :=
    (Decimal.signed?_eq_some_iff _ _).1 (by decide +kernel)
  have hbelow : Denotes [.none, .plus, .minus] (numeral "-9223372036854775809") (-2 ^ 63 - 1) :=
    (Decimal.signed?_eq_some_iff _ _).1 (by decide +kernel)
  have hgreatest : Denotes [.none, .plus] (numeral "18_446_744_073_709_551_615") (2 ^ 64 - 1 : Nat) :=
    (Decimal.unsigned?_eq_some_iff _ _).1 (by decide +kernel)
  have hnine : Writes (9 : Int64).toInt ['+', '0', '9'] := by
    have h := Writes.plus 9 1
    rwa [Decimal.digits_of_lt (by decide)] at h
  have hunderscored : Underscored ['+', '0', '9'] "+_0_9".toList :=
    .keep '+' (.put (.keep '0' (.put (.keep '9' .nil))))
  refine ⟨?_, ?_, ?_, ?_, ?_, ?_⟩
  · exact Int64.toInt_inj.1 (signed.inside 7 _ _ hleast (by decide) (by decide))
  · exact signed.outside 7 _ _ hbelow (.inl (by decide))
  · exact signed.written 7 9 _ _ hnine hunderscored
  · exact UInt64.toNat_inj.1 (Int.natCast_inj.1 (unsigned.inside 7 _ _ hgreatest (by decide) (by decide)))
  · exact unsigned.unsigned (by decide) 7 _ (by decide)
  · exact signed.malformed 7 _ (.foreign '\u0662' (by decide) (by decide))

end Reading
end RunMeter
