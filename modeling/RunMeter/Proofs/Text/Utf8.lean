import Mathlib.Tactic.IntervalCases
import Mathlib.Tactic.SplitIfs
import RunMeter.Text.Utf8

/-!
# RunMeter.Proofs.Text.Utf8 — reading is the inverse of writing

The reader of octets has bounds for the second octet of a sequence, the writer has none: it starts from a character,
whose number is never that of a surrogate or past the last plane.  Here the two are shown to be the same.  A sequence
is a lead octet and a trail (`trail`), and `Opens` says when a lead octet begins the sequence of a number.

* `Opens.encode`, `exists_opens`: what a lead octet begins is the sequence of a character, and every character past
  ASCII has one.
* `decode?_eq_some_iff`: the octets that read as a text are those that the text is written as, so there are no others.
-/

namespace RunMeter.Utf8

/-! ### Trails -/

/-- The continuation octets of a number: its lowest groups of six bits, the highest of them first. -/
def trail : (more : Nat) → Nat → Octets
  | 0, _ => []
  | more + 1, v => UInt8.ofNat (v / 64 ^ more % 64 + 0x80) :: trail more v

/-- Whether the first of some octets, if there is one, lies between two bounds. -/
def StartsWithin (low high : UInt8) (octets : Octets) : Prop :=
  ∀ b ∈ octets.head?, low ≤ b ∧ b ≤ high

theorem toNat_trailOctet (n : Nat) : (UInt8.ofNat (n % 64 + 0x80)).toNat = n % 64 + 0x80 := by
  rw [UInt8.toNat_ofNat']
  omega

theorem div_pow_succ (v more : Nat) : v / 64 ^ (more + 1) = v / 64 ^ more / 64 := by
  rw [Nat.pow_succ, Nat.div_div_eq_div_mul]

theorem startsWithin_trail_succ_iff {low high : UInt8} {more v : Nat} :
    StartsWithin low high (trail (more + 1) v) ↔
      low.toNat ≤ v / 64 ^ more % 64 + 0x80 ∧ v / 64 ^ more % 64 + 0x80 ≤ high.toNat := by
  simp only [StartsWithin, trail, List.head?_cons, Option.mem_some_iff, forall_eq', UInt8.le_iff_toNat_le,
    toNat_trailOctet]

theorem startsWithin_nil (low high : UInt8) : StartsWithin low high [] := fun _ h =>
  absurd h (Option.not_mem_none _)

/-- The octets of a trail lie between 0x80 and 0xBF. -/
theorem startsWithin_trail (more v : Nat) : StartsWithin 0x80 0xBF (trail more v) := by
  cases more with
  | zero => exact startsWithin_nil _ _
  | succ more =>
    rw [startsWithin_trail_succ_iff]
    simp only [UInt8.reduceToNat]
    omega

/-- A trail is read to its end. -/
theorem continued_trail {more v : Nat} {low high : UInt8} (h : StartsWithin low high (trail more v)) (rest : Octets) :
    continued more low high (v / 64 ^ more) (trail more v ++ rest) = (some (Char.ofNat v), rest) := by
  induction more generalizing low high with
  | zero => rw [Nat.pow_zero, Nat.div_one, trail, List.nil_append, continued]
  | succ more ih =>
    obtain ⟨hlow, hhigh⟩ := h _ rfl
    have hbits : v / 64 ^ (more + 1) * 64 + ((UInt8.ofNat (v / 64 ^ more % 64 + 0x80)).toNat - 0x80) =
        v / 64 ^ more := by
      rw [toNat_trailOctet, div_pow_succ]
      omega
    rw [trail, List.cons_append, continued, if_pos (by rw [decide_eq_true hlow, decide_eq_true hhigh]; rfl), hbits]
    exact ih (startsWithin_trail more v)

/-- What is read to its end is a trail. -/
theorem eq_trail_of_continued {more bits : Nat} {low high : UInt8} {bs rest : Octets} {c : Char}
    (hlow : 0x80 ≤ low) (hhigh : high ≤ 0xBF) (h : continued more low high bits bs = (some c, rest)) :
    ∃ v, v / 64 ^ more = bits ∧ Char.ofNat v = c ∧ bs = trail more v ++ rest ∧
      StartsWithin low high (trail more v) := by
  induction more generalizing low high bits bs with
  | zero =>
    simp only [continued, Prod.mk.injEq, Option.some.injEq] at h
    exact ⟨bits, by simp, h.1, by rw [h.2]; rfl, startsWithin_nil _ _⟩
  | succ more ih =>
    cases bs with
    | nil => simp [continued] at h
    | cons b bs =>
      rw [continued] at h
      split at h
      · rename_i hb
        rw [Bool.and_eq_true, decide_eq_true_eq, decide_eq_true_eq] at hb
        obtain ⟨v, hv, hc, hbs, -⟩ := ih (UInt8.le_refl _) (UInt8.le_refl _) h
        have h1 : 128 ≤ b.toNat := UInt8.le_iff_toNat_le.1 (UInt8.le_trans hlow hb.1)
        have h2 : b.toNat ≤ 191 := UInt8.le_iff_toNat_le.1 (UInt8.le_trans hb.2 hhigh)
        have hoctet : UInt8.ofNat (v / 64 ^ more % 64 + 0x80) = b := by
          rw [← UInt8.toNat_inj, toNat_trailOctet, hv]
          omega
        refine ⟨v, ?_, hc, ?_, ?_⟩
        · rw [div_pow_succ, hv]
          omega
        · rw [trail, hoctet, hbs, List.cons_append]
        · intro b' hb'
          rw [trail, hoctet] at hb'
          obtain rfl : b = b' := Option.some.inj hb'
          exact hb
      · simp at h

/-! ### Lead octets -/

theorem lead?_two {n : Nat} (h : 2 ≤ n) (h' : n ≤ 31) :
    lead? (UInt8.ofNat (n + 0xC0)) = some ⟨n, 1, 0x80, 0xBF⟩ := by
  interval_cases n <;> rfl

theorem lead?_three {n : Nat} (h : n ≤ 15) :
    ∃ low high, lead? (UInt8.ofNat (n + 0xE0)) = some ⟨n, 2, low, high⟩ ∧
      (n = 0 ∧ low.toNat = 0xA0 ∨ n ≠ 0 ∧ low.toNat = 0x80) ∧
      (n = 13 ∧ high.toNat = 0x9F ∨ n ≠ 13 ∧ high.toNat = 0xBF) := by
  interval_cases n <;> exact ⟨_, _, rfl, by decide, by decide⟩

theorem lead?_four {n : Nat} (h : n ≤ 4) :
    ∃ low high, lead? (UInt8.ofNat (n + 0xF0)) = some ⟨n, 3, low, high⟩ ∧
      (n = 0 ∧ low.toNat = 0x90 ∨ n ≠ 0 ∧ low.toNat = 0x80) ∧
      (n = 4 ∧ high.toNat = 0x8F ∨ n ≠ 4 ∧ high.toNat = 0xBF) := by
  interval_cases n <;> exact ⟨_, _, rfl, by decide, by decide⟩

theorem ofNat_sub_add {b : UInt8} {k : Nat} (h : k ≤ b.toNat) : UInt8.ofNat (b.toNat - k + k) = b := by
  rw [Nat.sub_add_cancel h, UInt8.ofNat_toNat]

/-- There are lead octets of three kinds. -/
theorem lead?_cases {b : UInt8} {l : Lead} (h : lead? b = some l) :
    (∃ n, 2 ≤ n ∧ n ≤ 31 ∧ b = UInt8.ofNat (n + 0xC0)) ∨ (∃ n, n ≤ 15 ∧ b = UInt8.ofNat (n + 0xE0)) ∨
      ∃ n, n ≤ 4 ∧ b = UInt8.ofNat (n + 0xF0) := by
  have hrange : (0xC2 ≤ b.toNat ∧ b.toNat ≤ 0xDF) ∨ (0xE0 ≤ b.toNat ∧ b.toNat ≤ 0xEF) ∨
      (0xF0 ≤ b.toNat ∧ b.toNat ≤ 0xF4) := by
    simp only [lead?, Bool.and_eq_true, decide_eq_true_eq, beq_iff_eq, UInt8.le_iff_toNat_le, ← UInt8.toNat_inj,
      UInt8.reduceToNat] at h
    split_ifs at h <;> omega
  rcases hrange with hb | hb | hb
  · exact .inl ⟨b.toNat - 0xC0, by omega, by omega, (ofNat_sub_add (by omega)).symm⟩
  · exact .inr (.inl ⟨b.toNat - 0xE0, by omega, (ofNat_sub_add (by omega)).symm⟩)
  · exact .inr (.inr ⟨b.toNat - 0xF0, by omega, (ofNat_sub_add (by omega)).symm⟩)

/-- The bounds on a second octet are never wider than those on the later ones. -/
theorem lead?_bounds {b : UInt8} {l : Lead} (h : lead? b = some l) : 0x80 ≤ l.low ∧ l.high ≤ 0xBF := by
  unfold lead? at h
  split_ifs at h <;> obtain rfl := Option.some.inj h <;> exact ⟨of_decide_eq_true rfl, of_decide_eq_true rfl⟩

theorem not_lt_of_lead? {b : UInt8} {l : Lead} (h : lead? b = some l) : ¬b < 0x80 := by
  simp only [UInt8.lt_iff_toNat_lt, UInt8.reduceToNat]
  rcases lead?_cases h with ⟨n, h2, hn, rfl⟩ | ⟨n, hn, rfl⟩ | ⟨n, hn, rfl⟩
  · rw [UInt8.toNat_ofNat']; omega
  · rw [UInt8.toNat_ofNat']; omega
  · rw [UInt8.toNat_ofNat']; omega

/-! ### Characters -/

theorem isValidChar_iff {v : Nat} : v.isValidChar ↔ v < 0xD800 ∨ (0xDFFF < v ∧ v < 0x110000) := Iff.rfl

theorem toNat_ofNat {v : Nat} (h : v.isValidChar) : (Char.ofNat v).val.toNat = v := by
  rw [Char.ofNat, dif_pos h]
  rfl

/-- The sequence of a character by its number. -/
theorem utf8EncodeChar_ofNat {v : Nat} (h : v.isValidChar) :
    String.utf8EncodeChar (Char.ofNat v) =
      if v ≤ 0x7F then [UInt8.ofNat v]
      else if v ≤ 0x7FF then UInt8.ofNat (v / 64 % 32 + 0xC0) :: trail 1 v
      else if v ≤ 0xFFFF then UInt8.ofNat (v / 64 ^ 2 % 16 + 0xE0) :: trail 2 v
      else UInt8.ofNat (v / 64 ^ 3 % 8 + 0xF0) :: trail 3 v := by
  simp only [String.utf8EncodeChar, toNat_ofNat h, trail]
  simp

theorem utf8EncodeChar_of_lt {c : Char} (h : c.toNat < 0x80) : String.utf8EncodeChar c = [UInt8.ofNat c.toNat] := by
  have henc := utf8EncodeChar_ofNat (v := c.toNat) c.valid
  rwa [if_pos (by omega), Char.ofNat_toNat] at henc

/-- A lead octet that begins the sequence of a number. -/
structure Opens (b : UInt8) (l : Lead) (v : Nat) : Prop where
  lead : lead? b = some l
  bits : v / 64 ^ l.more = l.bits
  within : StartsWithin l.low l.high (trail l.more v)

/-- **What a lead octet begins** is the number of a character, and the octets are the character's own.  The bounds on
the second octet keep out the numbers that have a shorter sequence and those that no character has. -/
theorem Opens.encode {b : UInt8} {l : Lead} {v : Nat} (h : Opens b l v) :
    v.isValidChar ∧ String.utf8EncodeChar (Char.ofNat v) = b :: trail l.more v := by
  obtain ⟨hlead, hbits, hwithin⟩ := h
  rcases lead?_cases hlead with ⟨n, h2, hn, rfl⟩ | ⟨n, hn, rfl⟩ | ⟨n, hn, rfl⟩
  · obtain rfl := Option.some.inj ((lead?_two h2 hn).symm.trans hlead)
    change v / 64 ^ 1 = n at hbits
    have hvalid : v.isValidChar := isValidChar_iff.2 (by omega)
    refine ⟨hvalid, ?_⟩
    rw [utf8EncodeChar_ofNat hvalid, if_neg (by omega), if_pos (by omega), ← Nat.pow_one 64, hbits,
      Nat.mod_eq_of_lt (by omega)]
  · obtain ⟨low, high, hthree, hlow, hhigh⟩ := lead?_three hn
    obtain rfl := Option.some.inj (hthree.symm.trans hlead)
    change v / 64 ^ 2 = n at hbits
    obtain ⟨h1, h2⟩ := startsWithin_trail_succ_iff.1 hwithin
    dsimp only at h1 h2
    have hvalid : v.isValidChar := isValidChar_iff.2 (by omega)
    refine ⟨hvalid, ?_⟩
    rw [utf8EncodeChar_ofNat hvalid, if_neg (by omega), if_neg (by omega), if_pos (by omega), hbits,
      Nat.mod_eq_of_lt (by omega)]
  · obtain ⟨low, high, hfour, hlow, hhigh⟩ := lead?_four hn
    obtain rfl := Option.some.inj (hfour.symm.trans hlead)
    change v / 64 ^ 3 = n at hbits
    obtain ⟨h1, h2⟩ := startsWithin_trail_succ_iff.1 hwithin
    dsimp only at h1 h2
    have hvalid : v.isValidChar := isValidChar_iff.2 (by omega)
    refine ⟨hvalid, ?_⟩
    rw [utf8EncodeChar_ofNat hvalid, if_neg (by omega), if_neg (by omega), if_neg (by omega), hbits,
      Nat.mod_eq_of_lt (by omega)]

/-- Every character past ASCII has a lead octet. -/
theorem exists_opens {v : Nat} (hvalid : v.isValidChar) (h : 0x80 ≤ v) : ∃ b l, Opens b l v := by
  rw [isValidChar_iff] at hvalid
  by_cases h2 : v ≤ 0x7FF
  · exact ⟨_, _, lead?_two (n := v / 64 ^ 1) (by omega) (by omega), rfl, startsWithin_trail 1 v⟩
  by_cases h3 : v ≤ 0xFFFF
  · obtain ⟨low, high, hlead, hlow, hhigh⟩ := lead?_three (n := v / 64 ^ 2) (by omega)
    exact ⟨_, _, hlead, rfl, startsWithin_trail_succ_iff.2 (by dsimp only; omega)⟩
  · obtain ⟨low, high, hlead, hlow, hhigh⟩ := lead?_four (n := v / 64 ^ 3) (by omega)
    exact ⟨_, _, hlead, rfl, startsWithin_trail_succ_iff.2 (by dsimp only; omega)⟩

/-! ### Pieces -/

/-- The sequence of a character is read as one piece. -/
theorem exists_piece (c : Char) (rest : Octets) :
    ∃ b bs, String.utf8EncodeChar c ++ rest = b :: bs ∧ piece b bs = (some c, rest) := by
  by_cases hascii : c.toNat < 0x80
  · have hb : (UInt8.ofNat c.toNat).toNat = c.toNat := by rw [UInt8.toNat_ofNat']; omega
    refine ⟨UInt8.ofNat c.toNat, rest, by rw [utf8EncodeChar_of_lt hascii]; rfl, ?_⟩
    rw [piece, if_pos (UInt8.lt_iff_toNat_lt.2 (by rw [hb]; exact hascii)), hb, Char.ofNat_toNat]
  · obtain ⟨b, l, hopens⟩ := exists_opens (v := c.toNat) c.valid (by omega)
    have henc := hopens.encode.2
    rw [Char.ofNat_toNat] at henc
    refine ⟨b, trail l.more c.toNat ++ rest, by rw [henc, List.cons_append], ?_⟩
    rw [piece, if_neg (not_lt_of_lead? hopens.lead), hopens.lead]
    dsimp only
    rw [← hopens.bits, continued_trail hopens.within, Char.ofNat_toNat]

/-- A piece that is a character is the sequence of that character. -/
theorem utf8EncodeChar_of_piece {b : UInt8} {bs rest : Octets} {c : Char} (h : piece b bs = (some c, rest)) :
    String.utf8EncodeChar c ++ rest = b :: bs := by
  unfold piece at h
  split at h
  · rename_i hb
    simp only [UInt8.lt_iff_toNat_lt, UInt8.reduceToNat] at hb
    obtain ⟨hc, rfl⟩ := Prod.mk.inj h
    obtain rfl := Option.some.inj hc
    rw [utf8EncodeChar_ofNat (isValidChar_iff.2 (by omega)), if_pos (by omega), UInt8.ofNat_toNat]
    rfl
  · split at h
    · rename_i l hlead
      obtain ⟨hlow, hhigh⟩ := lead?_bounds hlead
      obtain ⟨v, hbits, rfl, rfl, hwithin⟩ := eq_trail_of_continued hlow hhigh h
      rw [(Opens.mk hlead hbits hwithin).encode.2, List.cons_append]
    · have hnone := (Prod.mk.inj h).1
      contradiction

theorem pieces_cons (b : UInt8) (bs : Octets) : pieces (b :: bs) = (piece b bs).1 :: pieces (piece b bs).2 := by
  rw [pieces]

theorem pieces_encode (cs : List Char) : pieces (cs.flatMap String.utf8EncodeChar) = cs.map some := by
  induction cs with
  | nil => rw [List.flatMap_nil, pieces, List.map_nil]
  | cons c cs ih =>
    obtain ⟨b, bs, hbs, hpiece⟩ := exists_piece c (cs.flatMap String.utf8EncodeChar)
    rw [List.flatMap_cons, hbs, pieces_cons, hpiece, ih, List.map_cons]

theorem encode_of_pieces {bs : Octets} {cs : List Char} (h : pieces bs = cs.map some) :
    cs.flatMap String.utf8EncodeChar = bs := by
  induction cs generalizing bs with
  | nil =>
    cases bs with
    | nil => rfl
    | cons b bs => rw [pieces_cons] at h; contradiction
  | cons c cs ih =>
    cases bs with
    | nil => rw [pieces] at h; contradiction
    | cons b bs =>
      rw [pieces_cons, List.map_cons] at h
      obtain ⟨hc, hrest⟩ := List.cons.inj h
      rw [List.flatMap_cons, ih hrest, utf8EncodeChar_of_piece (Prod.ext hc rfl)]

/-! ### Texts -/

theorem map_some_filterMap {cs : List (Option Char)} (h : cs.all Option.isSome = true) :
    (cs.filterMap id).map some = cs := by
  induction cs with
  | nil => rfl
  | cons c cs ih =>
    obtain ⟨hc, hcs⟩ := Bool.and_eq_true_iff.1 h
    obtain ⟨c, rfl⟩ := Option.isSome_iff_exists.1 hc
    exact congrArg (some c :: ·) (ih hcs)

/-- Octets read as a text if their pieces are its characters. -/
theorem decode?_eq_some_iff_pieces {bs : Octets} {s : String} :
    decode? bs = some s ↔ pieces bs = s.toList.map some := by
  rw [decode?]
  constructor
  · intro h
    split at h
    · rename_i hall
      obtain rfl := Option.some.inj h
      rw [String.toList_ofList, map_some_filterMap hall]
    · contradiction
  · intro h
    rw [h, if_pos (by simp), List.filterMap_map]
    simp

/-- **The octets that read as a text** are those that the text is written as. -/
theorem decode?_eq_some_iff {bs : Octets} {s : String} : decode? bs = some s ↔ encode s = bs := by
  rw [decode?_eq_some_iff_pieces]
  refine ⟨encode_of_pieces, fun h => ?_⟩
  rw [← h, encode, pieces_encode]

theorem decode?_encode (s : String) : decode? (encode s) = some s :=
  decode?_eq_some_iff.2 rfl

theorem encode_injective : Function.Injective encode := fun s t h =>
  Option.some.inj ((decode?_encode s).symm.trans (h ▸ decode?_encode t))

end RunMeter.Utf8
