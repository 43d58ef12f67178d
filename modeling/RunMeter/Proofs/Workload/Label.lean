import RunMeter.Proofs.Text.Numeral
import RunMeter.Workload.Label

/-!
# RunMeter.Proofs.Workload.Label — which size a label names

A label is read as a numeral, a depth label with an M at its end as so many millions, and a loop label in words as the
one number that they stand for (`depthNamed?`, `limitNamed?`; `Decimal.signed?_eq_some_iff` says what a numeral
denotes). No numeral ends in an M or has a blank in it, so the two forms of a label never meet, and reading undoes
labelling.

* `depthLabel_of_millions`, `depthLabel_of_not_millions`: the two forms of a depth label.
* `labels_name_sizes`: every label names its size, and only one.
-/

namespace RunMeter.Workload

open Decimal (signed? ofInt)

/-- The size that a loop label names: an integer in decimal, or ten billion in words. -/
def limitNamed? (label : String) : Option Int :=
  if label = "10 Billion" then some (10 ^ 10) else signed? label.toList

/-- The size that a depth label names: an integer in decimal, and so many millions if an M follows. -/
def depthNamed? (label : String) : Option Int :=
  if label.toList.getLast? = some 'M' then (signed? label.toList.dropLast).map fun n => n * 10 ^ 6
  else signed? label.toList

/-! ### Depths -/

/-- A positive number of whole millions. -/
def Millions (z : Int) : Prop :=
  0 < z ∧ 10 ^ 6 ∣ z

theorem depthLabel_of_millions {depth : Int64} (h : Millions depth.toInt) :
    ∃ n : Nat, 0 < n ∧ depth.toInt = n * 10 ^ 6 ∧ depthLabel depth = n.repr ++ "M" := by
  obtain ⟨hpos, hdvd⟩ := h
  obtain ⟨n, hn⟩ := Int.eq_ofNat_of_zero_le (show 0 ≤ depth.toInt / 10 ^ 6 by omega)
  refine ⟨n, by omega, by omega, ?_⟩
  have hif : million ≤ depth.toInt ∧ depth.toInt % million = 0 := by
    change 10 ^ 6 ≤ depth.toInt ∧ depth.toInt % 10 ^ 6 = 0
    omega
  simp only [depthLabel, if_pos hif]
  change ofInt (depth.toInt / 10 ^ 6) ++ "M" = n.repr ++ "M"
  rw [hn, Decimal.ofInt_eq_repr]
  rfl

theorem depthLabel_of_not_millions {depth : Int64} (h : ¬Millions depth.toInt) :
    depthLabel depth = ofInt depth.toInt := by
  refine if_neg fun hif => h ?_
  change 10 ^ 6 ≤ depth.toInt ∧ depth.toInt % 10 ^ 6 = 0 at hif
  exact ⟨by omega, by omega⟩

theorem getLast?_ofInt (z : Int) : (ofInt z).toList.getLast? ≠ some 'M' := fun h =>
  Decimal.notMem_ofInt (by decide) (by decide) z (List.mem_of_getLast? h)

theorem getLast?_append_M (whole : String) : (whole ++ "M").toList.getLast? = some 'M' := by
  rw [String.toList_append]
  exact List.getLast?_concat

theorem depthNamed?_append_M (z : Int) : depthNamed? (ofInt z ++ "M") = some (z * 10 ^ 6) := by
  have hrest : (ofInt z ++ "M").toList.dropLast = (ofInt z).toList := by
    rw [String.toList_append]
    exact List.dropLast_concat
  rw [depthNamed?, if_pos (getLast?_append_M _), hrest, Decimal.signed?_ofInt, Option.map_some]

theorem depthNamed?_ofInt (z : Int) : depthNamed? (ofInt z) = some z := by
  rw [depthNamed?, if_neg (getLast?_ofInt z), Decimal.signed?_ofInt]

theorem depthNamed?_depthLabel (depth : Int64) : depthNamed? (depthLabel depth) = some depth.toInt := by
  by_cases h : Millions depth.toInt
  · obtain ⟨n, -, hdepth, hlabel⟩ := depthLabel_of_millions h
    have hrepr : n.repr = ofInt n := (Decimal.ofInt_eq_repr n).symm
    rw [hlabel, hrepr, depthNamed?_append_M, hdepth]
  · rw [depthLabel_of_not_millions h, depthNamed?_ofInt]

/-- An M stands after whole millions and nowhere else. -/
theorem millions_of_depthLabel {depth : Int64} {whole : String} (h : depthLabel depth = whole ++ "M") :
    Millions depth.toInt := by
  by_contra hnot
  rw [depthLabel_of_not_millions hnot] at h
  exact getLast?_ofInt depth.toInt (h ▸ getLast?_append_M whole)

/-! ### Loop limits -/

theorem ofInt_ne_words (z : Int) : ofInt z ≠ "10 Billion" := fun h =>
  Decimal.notMem_ofInt (c := ' ') (by decide) (by decide) z (by rw [h]; decide)

theorem limitNamed?_loopLabel (limit : Int64) : limitNamed? (loopLabel limit) = some limit.toInt := by
  by_cases h : limit.toInt = tenBillion
  · rw [loopLabel, if_pos h, limitNamed?, if_pos rfl, h]
    rfl
  · rw [loopLabel, if_neg h, limitNamed?, if_neg (ofInt_ne_words _), Decimal.signed?_ofInt]

/-! ### Labels of both kinds -/

/-- Words whose labels read back differ in their labels. -/
theorem injective_of_read {label : Int64 → String} {read : String → Option Int}
    (h : ∀ w, read (label w) = some w.toInt) : Function.Injective label := by
  intro v w hvw
  have hread := h v
  rw [hvw, h w] at hread
  exact Int64.toInt_inj.1 (Option.some.inj hread).symm

/-- **Labels and sizes.**  Every depth label names its depth, be it negative or the least word.  It ends in M just for
the positive multiples of a million, and then what stands before the M is that multiple, with nothing left over.  Every
loop label names its limit.  So no two depths share a label, nor do two limits. -/
theorem labels_name_sizes :
    (∀ depth, depthNamed? (depthLabel depth) = some depth.toInt) ∧
    (∀ depth, (∃ whole, depthLabel depth = whole ++ "M") ↔ 0 < depth.toInt ∧ 10 ^ 6 ∣ depth.toInt) ∧
    (∀ depth whole, depthLabel depth = whole ++ "M" →
      ∃ n : Nat, 0 < n ∧ whole = n.repr ∧ depth.toInt = n * 10 ^ 6) ∧
    (∀ limit, limitNamed? (loopLabel limit) = some limit.toInt) ∧
    Function.Injective depthLabel ∧ Function.Injective loopLabel := by
  refine ⟨depthNamed?_depthLabel, fun depth => ⟨?_, ?_⟩, ?_, limitNamed?_loopLabel,
    injective_of_read depthNamed?_depthLabel, injective_of_read limitNamed?_loopLabel⟩
  · rintro ⟨whole, h⟩
    exact millions_of_depthLabel h
  · intro h
    obtain ⟨n, -, -, hlabel⟩ := depthLabel_of_millions h
    exact ⟨n.repr, hlabel⟩
  · intro depth whole h
    obtain ⟨n, hpos, hdepth, hlabel⟩ := depthLabel_of_millions (millions_of_depthLabel h)
    exact ⟨n, hpos, (String.append_left_inj "M").1 (h.symm.trans hlabel), hdepth⟩

/-- The least word, the greatest multiple of a million among the words, a negative one, one with a remainder, and the
limit in words beside its neighbour. -/
theorem labels_name_sizes_ends :
    depthNamed? (depthLabel Int64.minValue) = some (-2 ^ 63) ∧
    depthLabel 9223372036854000000 = "9223372036854M" ∧
    (∀ whole, depthLabel (-3000000) ≠ whole ++ "M") ∧ (∀ whole, depthLabel 3000001 ≠ whole ++ "M") ∧
    limitNamed? (loopLabel 10000000000) = some (10 ^ 10) ∧
    loopLabel 10000000000 ≠ loopLabel 10000000001 := by
  obtain ⟨reads, millions, whole, limits, -, distinct⟩ := labels_name_sizes
  refine ⟨reads Int64.minValue, ?_, ?_, ?_, limits 10000000000, ?_⟩
  · obtain ⟨text, htext⟩ := (millions 9223372036854000000).2 (by decide)
    obtain ⟨n, -, rfl, hn⟩ := whole _ _ htext
    have hvalue : n = 9223372036854 := by
      have hdepth : (9223372036854000000 : Int64).toInt = 9223372036854000000 := rfl
      omega
    rw [htext, hvalue]
    decide
  · exact fun whole h => absurd ((millions (-3000000)).1 ⟨whole, h⟩) (by decide)
  · exact fun whole h => absurd ((millions 3000001).1 ⟨whole, h⟩) (by decide)
  · exact distinct.ne (by decide)

end RunMeter.Workload
