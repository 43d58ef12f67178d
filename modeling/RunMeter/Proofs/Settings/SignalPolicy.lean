import RunMeter.Proofs.System.Environment
import RunMeter.Proofs.Text.Letter
import RunMeter.Settings.Runner

/-!
# RunMeter.Proofs.Settings.SignalPolicy — which texts name a signal policy

A text names a policy if it is the policy's name in any case of ASCII letters, with blanks around it or without
(`Spells`).  Names are compared as folded texts, so the two halves of folding are held against what they are for:
trimming against the blanks around a text, small letters against the case of a name.

* `folded_eq_iff`: a text folds to a name if it spells it.
* `folded_surrounded`: neither blanks around a text nor the case of its letters shows in the folded text.
* `policy_named`: the policy of every text, the error of all others and the policy that the runner takes.
-/

namespace RunMeter.SignalPolicy

open Blank (Run Trimmed trimChars)
open Letter (Recased Lowered)

/-- The text is a name in any case of ASCII letters, perhaps with blanks around it. -/
def Spells (name text : String) : Prop :=
  ∃ before word after, Run before ∧ Run after ∧ Recased name.toList word ∧ text.toList = before ++ word ++ after

/-! ### Folding -/

theorem toList_folded (s : String) : (folded s).toList = (trimChars s.toList).map Char.toLower :=
  String.toList_ofList

/-- The folded text is the core of the text in small letters. -/
theorem folded_spec (s told : String) :
    folded s = told ↔ ∃ core, Trimmed s.toList core ∧ Lowered core told.toList := by
  rw [← String.toList_inj, toList_folded]
  constructor
  · exact fun h => ⟨_, Blank.trimmed_trimChars s.toList, Letter.lowered_iff.2 h⟩
  · rintro ⟨core, hcore, htold⟩
    rw [← Blank.trimmed_iff.1 hcore]
    exact Letter.lowered_iff.1 htold

/-- Blanks around a text and the case of its letters do not count. -/
theorem folded_surrounded {s text : String} {before word after : List Char} (hbefore : Run before)
    (hafter : Run after) (hword : Recased s.toList word) (htext : text.toList = before ++ word ++ after) :
    folded text = folded s := by
  rw [← String.toList_inj, toList_folded, toList_folded, htext, Blank.trimChars_surrounded hbefore hafter,
    ← Letter.trimChars_map_toLower, ← Letter.trimChars_map_toLower, Letter.recased_iff.1 hword]

/-- A text folds to a name just if it spells it, for a name in small letters without blanks. -/
theorem folded_eq_iff {name : String} (hname : folded name = name) (s : String) :
    folded s = name ↔ Spells name s := by
  constructor
  · intro h
    obtain ⟨before, after, hbefore, hafter, hs⟩ := (Blank.trimmed_trimChars s.toList).around
    refine ⟨before, _, after, hbefore, hafter, Letter.recased_iff.2 ?_, hs⟩
    -- the letters of the name are small ones already
    have hsmall : (trimChars s.toList).map Char.toLower = name.toList := by rw [← toList_folded, h]
    have htwice : (name.toList).map Char.toLower = name.toList := by
      rw [← hsmall, List.map_map]
      exact List.map_congr_left fun c _ => Letter.toLower_toLower c
    rw [htwice, hsmall]
  · rintro ⟨before, word, after, hbefore, hafter, hword, hs⟩
    rw [folded_surrounded hbefore hafter hword hs, hname]

/-! ### Names -/

@[simp] theorem folded_name (p : SignalPolicy) : folded p.name = p.name := by
  cases p <;> decide

theorem toNat_of_mem_name {p : SignalPolicy} {c : Char} (h : c ∈ p.name.toList) : c.toNat < 128 := by
  have hall : (p.name.toList.all fun c => c.toNat < 128) = true := by cases p <;> rfl
  exact of_decide_eq_true (List.all_eq_true.1 hall c h)

theorem named_of_folded {s : String} {p : SignalPolicy} (h : folded s = p.name) : named s = .ok p := by
  cases p with
  | zero => rw [named, if_pos h]
  | shell => rw [named, if_neg (by rw [h]; decide), if_pos h]

theorem named_of_ne {s : String} (h : ∀ p : SignalPolicy, folded s ≠ p.name) : named s = .error (folded s) := by
  rw [named, if_neg (h .zero), if_neg (h .shell)]

theorem named_eq_ok_iff (s : String) (p : SignalPolicy) : named s = .ok p ↔ Spells p.name s := by
  rw [← folded_eq_iff (folded_name p)]
  constructor
  · intro hs
    by_cases hname : ∃ q : SignalPolicy, folded s = q.name
    · obtain ⟨q, hq⟩ := hname
      rw [named_of_folded hq] at hs
      rw [hq, Except.ok.inj hs]
    · rw [named_of_ne (not_exists.1 hname)] at hs
      contradiction
  · exact named_of_folded

/-- A text that spells no name is the error of its folded form. -/
theorem named_of_not_spells {s : String} (h : ∀ p : SignalPolicy, ¬Spells p.name s) :
    named s = .error (folded s) :=
  named_of_ne fun p hp => h p ((folded_eq_iff (folded_name p) s).1 hp)

/-- A character past ASCII that is no blank stands in the folded text, which is therefore no name. -/
theorem named_of_foreign {s : String} {c : Char} (hc : c ∈ s.toList) (hforeign : 128 ≤ c.toNat)
    (hink : Blank.isBlank c = false) : named s = .error (folded s) ∧ c ∈ (folded s).toList := by
  obtain ⟨core, hcore, hlowered⟩ := (folded_spec s (folded s)).1 rfl
  have hmem : c ∈ (folded s).toList := hlowered.mem_of_le hforeign (hcore.mem hc hink)
  refine ⟨named_of_ne fun p hp => ?_, hmem⟩
  have hlt : c.toNat < 128 := toNat_of_mem_name (hp ▸ hmem)
  omega

/-! ### The policy of the runner -/

theorem policyOf_of_named {value : Option String} {s : String} {p : SignalPolicy} (hvalue : value = some s)
    (hs : named s = .ok p) : RunnerSettings.policyOf value = p := by
  subst hvalue
  simp [RunnerSettings.policyOf, hs, Except.toOption]

theorem policyOf_of_not_named {value : Option String} (h : ∀ s p, value = some s → named s ≠ .ok p) :
    RunnerSettings.policyOf value = .zero := by
  cases value with
  | none => rfl
  | some s =>
    cases hs : named s with
    | ok p => exact absurd hs (h s p rfl)
    | error told => simp [RunnerSettings.policyOf, hs, Except.toOption]

theorem policyOf_eq_shell_iff (value : Option String) :
    RunnerSettings.policyOf value = .shell ↔ ∃ s, value = some s ∧ Spells "shell" s := by
  constructor
  · intro h
    by_cases hnamed : ∃ s p, value = some s ∧ named s = .ok p
    · obtain ⟨s, p, hvalue, hs⟩ := hnamed
      obtain rfl : p = .shell := (policyOf_of_named hvalue hs).symm.trans h
      exact ⟨s, hvalue, (named_eq_ok_iff s .shell).1 hs⟩
    · rw [policyOf_of_not_named fun s p hvalue hs => hnamed ⟨s, p, hvalue, hs⟩] at h
      contradiction
  · rintro ⟨s, hvalue, hs⟩
    exact policyOf_of_named hvalue ((named_eq_ok_iff s .shell).2 hs)

/-- **Policies by name.**  A text names the policy zero if it is the word zero in any case of its letters with blanks
around it or none, it names the policy shell likewise, and every other text is an error that quotes the text trimmed and
in small letters.  Blanks around a text and the case of its ASCII letters change neither the policy nor the error.  A
character past ASCII is never folded: a text with one that is no blank names nothing, and the error quotes that very
character.  The runner takes the policy that its variable names, and otherwise, unset or not, zero. -/
theorem policy_named :
    (∀ s, (named s = .ok .zero ↔ Spells "zero" s) ∧ (named s = .ok .shell ↔ Spells "shell" s)) ∧
    (∀ s, ¬Spells "zero" s → ¬Spells "shell" s →
      ∃ core told, Trimmed s.toList core ∧ Lowered core told.toList ∧
        (named s).mapError unknownMessage = .error ("unknown signal exit policy '" ++ told ++ "'")) ∧
    (∀ s text before word after, Run before → Run after → Recased s.toList word →
      text.toList = before ++ word ++ after → named text = named s) ∧
    (∀ s c, c ∈ s.toList → 128 ≤ c.toNat → Blank.isBlank c = false →
      ∃ told, named s = .error told ∧ c ∈ told.toList) ∧
    (∀ lookup : Lookup,
      (∀ s p, lookup "BENCH_RUNNER_SIGNAL_EXIT" = some s → named s = .ok p →
        (RunnerSettings.ofLookup lookup).signalPolicy = p) ∧
      ((∀ s p, lookup "BENCH_RUNNER_SIGNAL_EXIT" = some s → named s ≠ .ok p) →
        (RunnerSettings.ofLookup lookup).signalPolicy = .zero)) ∧
    (∀ env : Environment, (RunnerSettings.ofEnvironment env).signalPolicy = .shell ↔
      ∃ s, env.get? "BENCH_RUNNER_SIGNAL_EXIT" = some (Utf8.encode s) ∧ Spells "shell" s) := by
  refine ⟨fun s => ⟨named_eq_ok_iff s .zero, named_eq_ok_iff s .shell⟩, ?_, ?_, ?_, fun lookup => ⟨?_, ?_⟩, fun env => ?_⟩
  · intro s hzero hshell
    obtain ⟨core, hcore, hlowered⟩ := (folded_spec s (folded s)).1 rfl
    refine ⟨core, folded s, hcore, hlowered, ?_⟩
    have hs : named s = .error (folded s) := named_of_not_spells fun p => by
      cases p with
      | zero => exact hzero
      | shell => exact hshell
    rw [hs]
    rfl
  · intro s text before word after hbefore hafter hword htext
    have hfolded := folded_surrounded hbefore hafter hword htext
    rw [named, named, hfolded]
  · intro s c hc hforeign hink
    exact ⟨folded s, named_of_foreign hc hforeign hink⟩
  · exact fun s p => policyOf_of_named
  · exact policyOf_of_not_named
  · change RunnerSettings.policyOf (env.text? "BENCH_RUNNER_SIGNAL_EXIT") = .shell ↔ _
    simp only [policyOf_eq_shell_iff, Environment.text?_eq_some_iff]

/-- A policy between a no-break space and a tab, in mixed case; a long s, which is no letter of a name; a word that is
none, with blanks in it and around it; and the runner with the first two of these and with no variable. -/
theorem policy_named_padded :
    let padded := "\u00a0sHELl\t"
    let long := "\u017fhell"
    named padded = .ok .shell ∧ named padded = named "shell" ∧
    (∃ told, named long = .error told ∧ '\u017f' ∈ told.toList) ∧
    (named " Bash  -E\n").mapError unknownMessage = .error "unknown signal exit policy 'bash  -e'" ∧
    (RunnerSettings.ofEnvironment ⟨[("BENCH_RUNNER_SIGNAL_EXIT", Utf8.encode padded)]⟩).signalPolicy = .shell ∧
    (RunnerSettings.ofLookup fun _ => some long).signalPolicy = .zero ∧
    (RunnerSettings.ofLookup fun _ => none).signalPolicy = .zero := by
  intro padded long
  obtain ⟨names, errors, around, foreign, settings, environments⟩ := policy_named
  have hbefore : Run ['\u00a0'] := List.forall_mem_singleton.2 rfl
  have hafter : Run ['\t'] := List.forall_mem_singleton.2 rfl
  have hword : Recased "shell".toList "sHELl".toList := Letter.recased_iff.2 rfl
  have hpadded : padded.toList = ['\u00a0'] ++ "sHELl".toList ++ ['\t'] := by decide
  have hspells : Spells "shell" padded := ⟨_, _, _, hbefore, hafter, hword, hpadded⟩
  have hlong := foreign long '\u017f' (by decide) (by decide) (by decide)
  have hnone (name : String) (hname : folded name = name) (hne : folded " Bash  -E\n" ≠ name) :
      ¬Spells name " Bash  -E\n" := fun h => hne ((folded_eq_iff hname _).2 h)
  refine ⟨(names padded).2.2 hspells, around "shell" padded _ _ _ hbefore hafter hword hpadded, hlong, ?_, ?_, ?_, ?_⟩
  · obtain ⟨core, told, hcore, hlowered, htext⟩ :=
      errors " Bash  -E\n" (hnone "zero" (by decide) (by decide)) (hnone "shell" (by decide) (by decide))
    have htold : folded " Bash  -E\n" = told := (folded_spec _ _).2 ⟨core, hcore, hlowered⟩
    rw [htext, ← htold]
    decide
  · exact (environments _).2 ⟨padded, by decide, hspells⟩
  · refine (settings _).2 fun s p hs hp => ?_
    obtain ⟨told, htold, -⟩ := hlong
    rw [← Option.some.inj hs, htold] at hp
    contradiction
  · exact (settings _).2 fun s p hs => by contradiction

end RunMeter.SignalPolicy
