import RunMeter.Checked
import RunMeter.System.Environment
import RunMeter.Text.Blank
import RunMeter.Text.Decimal

/-!
# RunMeter.Settings.Reading — how a variable becomes a setting

A setting that is missing or does not read is the default.  A log filter counts when it has a character that is
not blank, and then verbatim.  A number may have underscores anywhere, which do not count.
-/

namespace RunMeter

/-- The texts of the variables that are set. -/
abbrev Lookup := String → Option String

/-- The texts of the variables of an environment. -/
def Environment.lookup (env : Environment) : Lookup :=
  env.text?

namespace Reading

/-- A log filter: the text itself unless it is missing or blank. -/
def filterOr (fallback : String) : Option String → String
  | some s => if Blank.hasInk s then s else fallback
  | none => fallback

/-- The characters of a number's text that count. -/
def numeral (s : String) : List Char :=
  s.toList.filter fun c => c != '_'

/-- The signed word that a text denotes. -/
def int64? (s : String) : Option Int64 :=
  (Decimal.signed? (numeral s)).bind Checked.word?

/-- The unsigned word that a text denotes. -/
def uint64? (s : String) : Option UInt64 :=
  (Decimal.unsigned? (numeral s)).bind fun n => if n < UInt64.size then some (UInt64.ofNat n) else none

/-- A signed number, or the default. -/
def int64Or (fallback : Int64) (value : Option String) : Int64 :=
  (value.bind int64?).getD fallback

/-- An unsigned number, or the default. -/
def uint64Or (fallback : UInt64) (value : Option String) : UInt64 :=
  (value.bind uint64?).getD fallback

end Reading
end RunMeter
