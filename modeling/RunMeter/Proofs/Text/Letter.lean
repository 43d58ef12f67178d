import Mathlib.Data.List.Forall2
import RunMeter.Proofs.Text.Blank

/-!
# RunMeter.Proofs.Text.Letter — texts that differ in the case of letters

A capital of ASCII has a small letter, 32 places after it.  Characters are alike if they are the same or such a pair
(`Alike`), so that every other character, a letter of another script for instance, is like itself alone.

* `lowered_iff`, `recased_iff`: the small letters of a text, and which texts have the same ones.
* `trimChars_map_toLower`: no letter is a blank, so a text may be trimmed before its letters are made small or after.
-/

namespace RunMeter.Letter

/-- A capital of ASCII. -/
def IsCapital (c : Char) : Prop :=
  'A' ≤ c ∧ c ≤ 'Z'

/-- A capital of ASCII and its small letter. -/
def IsPair (capital small : Char) : Prop :=
  IsCapital capital ∧ small.toNat = capital.toNat + 32

/-- The same character, or the same letter of ASCII in the other case. -/
def Alike (c d : Char) : Prop :=
  c = d ∨ IsPair c d ∨ IsPair d c

/-- The small letter of a capital of ASCII; every other character is its own. -/
def Lowers (c d : Char) : Prop :=
  IsPair c d ∨ c = d ∧ ¬IsCapital c

/-- The same text but for the case of letters of ASCII. -/
def Recased (u v : List Char) : Prop :=
  List.Forall₂ Alike u v

/-- A text and the same text with small letters of ASCII. -/
def Lowered (u v : List Char) : Prop :=
  List.Forall₂ Lowers u v

/-! ### Letters one by one -/

theorem isCapital_iff (c : Char) : IsCapital c ↔ 65 ≤ c.toNat ∧ c.toNat ≤ 90 := Iff.rfl

theorem toNat_toLower_of_isCapital {c : Char} (h : IsCapital c) : c.toLower.toNat = c.toNat + 32 := by
  have hle := (isCapital_iff c).1 h
  have hval : c.toLower.val = c.val + 32 := by
    unfold Char.toLower
    exact congrArg Char.val (dif_pos h)
  calc c.toLower.toNat = (c.val + 32).toNat := congrArg UInt32.toNat hval
    _ = (c.toNat + 32) % 2 ^ 32 := UInt32.toNat_add _ _
    _ = c.toNat + 32 := Nat.mod_eq_of_lt (by omega)

theorem toLower_of_not_isCapital {c : Char} (h : ¬IsCapital c) : c.toLower = c :=
  dif_neg h

/-- The small letter of a pair is no capital. -/
theorem IsPair.not_isCapital {c d : Char} (h : IsPair c d) : ¬IsCapital d := by
  obtain ⟨hcapital, hnext⟩ := h
  rw [isCapital_iff] at hcapital ⊢
  omega

theorem isPair_iff {c d : Char} : IsPair c d ↔ IsCapital c ∧ c.toLower = d := by
  constructor
  · rintro ⟨hcapital, hnext⟩
    exact ⟨hcapital, Char.toNat_inj.1 ((toNat_toLower_of_isCapital hcapital).trans hnext.symm)⟩
  · rintro ⟨hcapital, rfl⟩
    exact ⟨hcapital, toNat_toLower_of_isCapital hcapital⟩

/-- Small letters stay as they are. -/
@[simp] theorem toLower_toLower (c : Char) : c.toLower.toLower = c.toLower := by
  by_cases hc : IsCapital c
  · exact toLower_of_not_isCapital (isPair_iff.2 ⟨hc, rfl⟩).not_isCapital
  · rw [toLower_of_not_isCapital hc, toLower_of_not_isCapital hc]

theorem lowers_iff {c d : Char} : Lowers c d ↔ c.toLower = d := by
  rw [Lowers, isPair_iff]
  by_cases hc : IsCapital c
  · simp [hc]
  · simp [hc, toLower_of_not_isCapital hc]

theorem alike_iff {c d : Char} : Alike c d ↔ c.toLower = d.toLower := by
  constructor
  · rintro (rfl | h | h)
    · rfl
    · rw [toLower_of_not_isCapital h.not_isCapital]
      exact (isPair_iff.1 h).2
    · rw [toLower_of_not_isCapital h.not_isCapital]
      exact (isPair_iff.1 h).2.symm
  · intro h
    by_cases hc : IsCapital c
    · by_cases hd : IsCapital d
      · -- two capitals, both 32 places before the same small letter
        have hnat := congrArg Char.toNat h
        rw [toNat_toLower_of_isCapital hc, toNat_toLower_of_isCapital hd] at hnat
        exact .inl (Char.toNat_inj.1 (Nat.add_right_cancel hnat))
      · rw [toLower_of_not_isCapital hd] at h
        exact .inr (.inl (isPair_iff.2 ⟨hc, h⟩))
    · rw [toLower_of_not_isCapital hc] at h
      by_cases hd : IsCapital d
      · exact .inr (.inr (isPair_iff.2 ⟨hd, h.symm⟩))
      · rw [toLower_of_not_isCapital hd] at h
        exact .inl h

/-- A character past ASCII is no letter of ASCII, and lowers to itself alone. -/
theorem Lowers.eq_of_le {c d : Char} (h : Lowers c d) (hc : 128 ≤ c.toNat) : d = c := by
  rcases h with ⟨hcapital, -⟩ | ⟨rfl, -⟩
  · rw [isCapital_iff] at hcapital
    omega
  · rfl

/-! ### Texts -/

theorem lowered_iff {u v : List Char} : Lowered u v ↔ u.map Char.toLower = v := by
  have hlowers : Lowers = fun c d => c.toLower = d := by
    ext c d
    exact lowers_iff
  rw [Lowered, hlowers, ← List.forall₂_eq_eq_eq, List.forall₂_map_left_iff]

theorem recased_iff {u v : List Char} : Recased u v ↔ u.map Char.toLower = v.map Char.toLower := by
  have halike : Alike = fun c d => c.toLower = d.toLower := by
    ext c d
    exact alike_iff
  rw [Recased, halike, ← List.forall₂_eq_eq_eq, List.forall₂_map_left_iff, List.forall₂_map_right_iff]

/-- A character past ASCII stands in the text with small letters as it stood in the text. -/
theorem Lowered.mem_of_le {u v : List Char} (h : Lowered u v) {c : Char} (hc : 128 ≤ c.toNat) (hmem : c ∈ u) :
    c ∈ v := by
  induction h with
  | nil => contradiction
  | cons hlowers htail ih =>
    rcases List.mem_cons.1 hmem with rfl | hmem
    · rw [hlowers.eq_of_le hc]
      exact List.mem_cons_self
    · exact List.mem_cons_of_mem _ (ih hmem)

/-- No letter is a blank, whatever its case. -/
@[simp] theorem isBlank_toLower (c : Char) : Blank.isBlank c.toLower = Blank.isBlank c := by
  by_cases hc : IsCapital c
  · have hnat := toNat_toLower_of_isCapital hc
    rw [isCapital_iff] at hc
    have hsmall : Blank.isBlank c.toLower = false := by simp [Blank.isBlank, hnat]; omega
    have hcapital : Blank.isBlank c = false := by simp [Blank.isBlank]; omega
    rw [hsmall, hcapital]
  · rw [toLower_of_not_isCapital hc]

/-- Letters may be made small before a text is trimmed or after. -/
theorem trimChars_map_toLower (cs : List Char) :
    Blank.trimChars (cs.map Char.toLower) = (Blank.trimChars cs).map Char.toLower := by
  have hblank : Blank.isBlank ∘ Char.toLower = Blank.isBlank := funext isBlank_toLower
  unfold Blank.trimChars
  rw [List.dropWhile_map, hblank, ← List.map_reverse, List.dropWhile_map, hblank, List.map_reverse]

end RunMeter.Letter
