import RunMeter.Text.Utf8

/-!
# RunMeter.System.Environment — environment variables

Values are octet strings.  Settings are texts, so they see a variable only where its value is UTF-8.
-/

namespace RunMeter

/-- Environment variables and their values.  The first entry for a name counts. -/
structure Environment where
  entries : List (String × Octets)

namespace Environment

/-- No variable is set. -/
def empty : Environment := ⟨[]⟩

/-- The value of a variable. -/
def get? (env : Environment) (name : String) : Option Octets :=
  (env.entries.find? fun entry => entry.1 == name).map Prod.snd

/-- The value of a variable as a text, if it is one. -/
def text? (env : Environment) (name : String) : Option String :=
  (env.get? name).bind Utf8.decode?

/-- The same variables without the one named. -/
def erase (env : Environment) (name : String) : Environment :=
  ⟨env.entries.filter fun entry => entry.1 != name⟩

/-- The same variables with the one named set to a value. -/
def set (env : Environment) (name : String) (value : Octets) : Environment :=
  ⟨(name, value) :: (env.erase name).entries⟩

end Environment
end RunMeter
