import RunMeter.Measurement
import RunMeter.Proofs.Text.Decimal
import RunMeter.Proofs.Text.Utf8

/-!
# RunMeter.Proofs.Measurement.Report — a report is read from its end

A child shares the standard output with the report and can write anything before it, a report of its own included.  So
a reader who starts at the top can be misled, and one who starts at the end can not: the peak's digits go back to a
space, the five places of the seconds go back to a point, and the digits before the point go back to a space again
(`Figures.decode`).

* `text_figures`: the form of the two lines.
* `report_inj`: two outputs that end in reports and are the same have the same figures, and the same before them.
-/

namespace RunMeter

namespace Utf8

theorem encode_append (s t : String) : encode (s ++ t) = encode s ++ encode t := by
  rw [encode, String.toList_append, List.flatMap_append]
  rfl

theorem encode_join (texts : List String) : encode (String.join texts) = texts.flatMap encode := by
  induction texts with
  | nil => rfl
  | cons s texts ih => rw [String.join_cons, encode_append, ih, List.flatMap_cons]

/-- The octets of digits and points lie between those of a point and of a nine. -/
theorem toNat_of_mem_encode {cs : List Char} (h : ∀ c ∈ cs, c.isDigit = true ∨ c = '.') {b : UInt8}
    (hb : b ∈ encode (String.ofList cs)) : 46 ≤ b.toNat ∧ b.toNat ≤ 57 := by
  rw [encode, String.toList_ofList, List.mem_flatMap] at hb
  obtain ⟨c, hc, hmem⟩ := hb
  have hrange : 46 ≤ c.toNat ∧ c.toNat ≤ 57 := by
    rcases h c hc with hdigit | rfl
    · obtain ⟨h1, h2⟩ := Bool.and_eq_true_iff.1 hdigit
      have h3 : 48 ≤ c.toNat := of_decide_eq_true h1
      have h4 : c.toNat ≤ 57 := of_decide_eq_true h2
      omega
    · decide
  rw [utf8EncodeChar_of_lt (by omega), List.mem_singleton] at hmem
  have hnat := congrArg UInt8.toNat hmem
  rw [UInt8.toNat_ofNat'] at hnat
  omega

/-- No space is among the octets of digits. -/
theorem space_notMem_encode {cs : List Char} (h : ∀ c ∈ cs, c.isDigit = true ∨ c = '.') :
    0x20 ∉ encode (String.ofList cs) := fun hb =>
  absurd (toNat_of_mem_encode h hb).1 (by decide)

end Utf8

/-- A list splits in one way at the last place where an element stands. -/
theorem append_cons_inj_of_last {α : Type} {a : α} {x y z w : List α} (h : x ++ a :: z = y ++ a :: w)
    (hz : a ∉ z) (hw : a ∉ w) : x = y ∧ z = w := by
  rcases List.append_eq_append_iff.1 h with ⟨l, rfl, hl⟩ | ⟨l, rfl, hl⟩
  · cases l with
    | nil => exact ⟨(List.append_nil x).symm, (List.cons.inj hl).2⟩
    | cons b l =>
      obtain ⟨-, rfl⟩ := List.cons.inj hl
      exact absurd (List.mem_append_right _ List.mem_cons_self) hz
  · cases l with
    | nil => exact ⟨List.append_nil y, (List.cons.inj hl).2.symm⟩
    | cons b l =>
      obtain ⟨-, rfl⟩ := List.cons.inj hl
      exact absurd (List.mem_append_right _ List.mem_cons_self) hw

namespace Measurement

/-- The digits of a report. -/
@[ext]
structure Figures where
  /-- The seconds before the point. -/
  whole : List Char
  /-- The five places after it. -/
  places : List Char
  /-- The peak in kibibytes. -/
  peak : List Char
  isNumeral_whole : Decimal.IsNumeral whole
  length_places : places.length = 5
  isDigit_places : ∀ c ∈ places, c.isDigit = true
  isNumeral_peak : Decimal.IsNumeral peak

namespace Figures

/-- The seconds. -/
def time (f : Figures) : String :=
  String.ofList (f.whole ++ '.' :: f.places)

/-- The two lines with these digits. -/
def text (f : Figures) : String :=
  "Time: " ++ f.time ++ "s\nPeak Memory: " ++ String.ofList f.peak ++ " KB"

theorem isDigit_or_point (f : Figures) {c : Char} (hc : c ∈ f.whole ++ '.' :: f.places) :
    c.isDigit = true ∨ c = '.' := by
  rcases List.mem_append.1 hc with hc | hc
  · exact .inl (f.isNumeral_whole.isDigit c hc)
  · rcases List.mem_cons.1 hc with rfl | hc
    · exact .inr rfl
    · exact .inl (f.isDigit_places c hc)

theorem space_notMem_time (f : Figures) : 0x20 ∉ Utf8.encode f.time :=
  Utf8.space_notMem_encode fun _ => f.isDigit_or_point

theorem space_notMem_peak (f : Figures) : 0x20 ∉ Utf8.encode (String.ofList f.peak) :=
  Utf8.space_notMem_encode fun c hc => .inl (f.isNumeral_peak.isDigit c hc)

/-- The octets of the two lines, cut where a reader from the end cuts them. -/
theorem encode_text (f : Figures) :
    Utf8.encode (f.text ++ "\n") =
      Utf8.encode "Time:" ++ 0x20 :: Utf8.encode f.time ++ Utf8.encode "s\nPeak Memory:" ++
        0x20 :: Utf8.encode (String.ofList f.peak) ++ Utf8.encode " KB\n" := by
  have h1 : Utf8.encode "Time: " = Utf8.encode "Time:" ++ [0x20] := by decide
  have h2 : Utf8.encode "s\nPeak Memory: " = Utf8.encode "s\nPeak Memory:" ++ [0x20] := by decide
  have h3 : Utf8.encode " KB\n" = Utf8.encode " KB" ++ Utf8.encode "\n" := by decide
  simp only [text, Utf8.encode_append, h1, h2, h3, List.append_assoc, List.cons_append, List.nil_append]

/-- The digits of the seconds are told by their text, since there are five places. -/
theorem time_inj {f g : Figures} (h : f.time = g.time) : f.whole = g.whole ∧ f.places = g.places := by
  have hcs : f.whole ++ '.' :: f.places = g.whole ++ '.' :: g.places := String.ofList_injective h
  obtain ⟨hwhole, hplaces⟩ := List.append_inj' hcs (by simp [f.length_places, g.length_places])
  exact ⟨hwhole, (List.cons.inj hplaces).2⟩

/-- **Reading from the end**: what stands before the two lines is told by the whole, and so are the digits. -/
theorem decode {f g : Figures} {c d : Octets}
    (h : c ++ Utf8.encode (f.text ++ "\n") = d ++ Utf8.encode (g.text ++ "\n")) : c = d ∧ f = g := by
  simp only [encode_text, ← List.append_assoc] at h
  obtain ⟨hbefore, hpeak⟩ :=
    append_cons_inj_of_last (List.append_cancel_right h) f.space_notMem_peak g.space_notMem_peak
  obtain ⟨hstart, htime⟩ :=
    append_cons_inj_of_last (List.append_cancel_right hbefore) f.space_notMem_time g.space_notMem_time
  obtain ⟨hwhole, hplaces⟩ := time_inj (Utf8.encode_injective htime)
  have hdigits : f.peak = g.peak := String.ofList_injective (Utf8.encode_injective hpeak)
  exact ⟨List.append_cancel_right hstart, Figures.ext hwhole hplaces hdigits⟩

end Figures

/-- The digits of a measurement's report. -/
def figures (m : Measurement) : Figures where
  whole := Decimal.digits (m.elapsed.hundredthMillis / 100000)
  places := Decimal.padded 5 m.elapsed.hundredthMillis
  peak := Decimal.digits m.peakKb.toNat
  isNumeral_whole := Decimal.isNumeral_digits _
  length_places := Decimal.length_padded _ _
  isDigit_places := fun _ => Decimal.isDigit_of_mem_padded
  isNumeral_peak := Decimal.isNumeral_digits _

theorem time_figures (m : Measurement) : m.figures.time = m.elapsed.text := rfl

/-- The form of the two lines. -/
theorem text_figures (m : Measurement) : m.text = m.figures.text := rfl

theorem unsigned?_peak (m : Measurement) : Decimal.unsigned? m.figures.peak = some m.peakKb.toNat :=
  Decimal.unsigned?_digits _

/-- Outputs that end in reports and are the same tell the same. -/
theorem report_inj {m n : Measurement} {c d : Octets}
    (h : c ++ Utf8.encode m.report = d ++ Utf8.encode n.report) :
    c = d ∧ m.peakKb = n.peakKb ∧ m.elapsed.text = n.elapsed.text := by
  obtain ⟨hbefore, hfigures⟩ := Figures.decode (f := m.figures) (g := n.figures) h
  refine ⟨hbefore, ?_, ?_⟩
  · have hpeak : some m.peakKb.toNat = some n.peakKb.toNat := by
      rw [← unsigned?_peak, ← unsigned?_peak, hfigures]
    exact UInt64.toNat_inj.1 (Option.some.inj hpeak)
  · rw [← time_figures, ← time_figures, hfigures]

end Measurement
end RunMeter
