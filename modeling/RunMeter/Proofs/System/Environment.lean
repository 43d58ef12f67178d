import RunMeter.Proofs.Text.Utf8
import RunMeter.System.Environment

/-!
# RunMeter.Proofs.System.Environment — environments that differ in some variables

`AgreeExcept` says that two environments have the same values outside of some names.  Setting a variable and unsetting
it are changes of that kind.  A variable whose octets are no text can as well be unset (`text?_erase`).
-/

namespace RunMeter.Environment

/-- Every variable that is not among some names has the same value in both environments, or in neither. -/
def AgreeExcept (names : List String) (env env' : Environment) : Prop :=
  ∀ name, name ∉ names → env.get? name = env'.get? name

theorem AgreeExcept.text? {names : List String} {env env' : Environment} (h : AgreeExcept names env env')
    {name : String} (hname : name ∉ names) : env.text? name = env'.text? name := by
  rw [Environment.text?, Environment.text?, h name hname]

theorem AgreeExcept.symm {names : List String} {env env' : Environment} (h : AgreeExcept names env env') :
    AgreeExcept names env' env := fun name hname => (h name hname).symm

theorem AgreeExcept.mono {names names' : List String} {env env' : Environment} (h : AgreeExcept names env env')
    (hsub : names ⊆ names') : AgreeExcept names' env env' := fun name hname => h name fun hmem => hname (hsub hmem)

variable (env : Environment) (name : String)

theorem text?_eq_some_iff {text : String} : env.text? name = some text ↔ env.get? name = some (Utf8.encode text) := by
  rw [text?, Option.bind_eq_some_iff]
  simp only [Utf8.decode?_eq_some_iff]
  exact ⟨fun ⟨octets, hget, h⟩ => h ▸ hget, fun h => ⟨_, h, rfl⟩⟩

theorem text?_eq_none_iff : env.text? name = none ↔ ∀ text, env.get? name ≠ some (Utf8.encode text) := by
  simp only [Option.eq_none_iff_forall_ne_some, ne_eq, text?_eq_some_iff]

theorem get?_erase_self : (env.erase name).get? name = none := by
  have hnone : (env.entries.filter fun entry => entry.1 != name).find? (fun entry => entry.1 == name) = none := by
    simp
  rw [get?, erase, hnone]
  rfl

theorem agreeExcept_erase : AgreeExcept [name] (env.erase name) env := by
  intro other hother
  have hne : other ≠ name := fun h => hother (h ▸ List.mem_singleton_self _)
  have hfind : (fun entry : String × Octets => (entry.1 != name) && (entry.1 == other)) =
      fun entry => entry.1 == other := by
    funext entry
    by_cases h : entry.1 = other
    · simp [h, hne]
    · simp [h]
  rw [get?, get?, erase, List.find?_filter]
  simp only [Bool.decide_and, Bool.decide_eq_true]
  rw [hfind]

theorem get?_set_self (value : Octets) : (env.set name value).get? name = some value := by
  simp [get?, set]

theorem agreeExcept_set (value : Octets) : AgreeExcept [name] (env.set name value) env := by
  intro other hother
  rw [← agreeExcept_erase env name other hother]
  have hne : name ≠ other := fun h => hother (h ▸ List.mem_singleton_self _)
  simp [get?, set, hne]

variable {env name}

/-- A variable that is no text is, for every reader of texts, not set. -/
theorem text?_erase (h : env.text? name = none) : (env.erase name).text? = env.text? := by
  funext other
  by_cases hother : other = name
  · rw [hother, h, text?, get?_erase_self]
    rfl
  · exact (agreeExcept_erase env name).text? fun hmem => hother (List.mem_singleton.1 hmem)

/-! ### Environments of texts -/

/-- The environment in which some variables hold texts. -/
def ofTexts (texts : List (String × String)) : Environment :=
  ⟨texts.map fun entry => (entry.1, Utf8.encode entry.2)⟩

theorem text?_ofTexts (texts : List (String × String)) (name : String) :
    (ofTexts texts).text? name = (texts.find? fun entry => entry.1 == name).map Prod.snd := by
  rw [text?, get?, ofTexts, List.find?_map, Function.comp_def]
  cases texts.find? fun entry => entry.1 == name with
  | none => rfl
  | some entry => exact Utf8.decode?_encode entry.2

end RunMeter.Environment
