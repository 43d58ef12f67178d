import RunMeter.Machine.Shell.State

/-!
# RunMeter.Machine.Shell.Arithmetic.Basic — the numbers of scripts

Numbers are signed 64-bit words that wrap round.  They are held in places: variables, and the items of lists.

Nothing that is proved depends on this module.
-/

namespace RunMeter.Machine.Shell.Arithmetic

/-- Goes past blanks. -/
def skipBlanks (cs : Raw) : Raw :=
  cs.dropWhile fun c => c == ' ' || c == '\t' || c == '\n'

/-- One for true and zero for false. -/
def truth (b : Bool) : Int64 := if b then 1 else 0

/-- The value of an operator; nothing for a division by zero. -/
def combined? (name : String) (a b : Int64) : Option Int64 :=
  match name with
  | "+" => some (a + b)
  | "-" => some (a - b)
  | "*" => some (a * b)
  | "/" => if b = 0 then none else some (a / b)
  | "%" => if b = 0 then none else some (a % b)
  | "<<" => some (a <<< b)
  | ">>" => some (a >>> b)
  | "<" => some (truth (a < b))
  | ">" => some (truth (b < a))
  | "<=" => some (truth (a ≤ b))
  | ">=" => some (truth (b ≤ a))
  | "==" => some (truth (a == b))
  | "!=" => some (truth (a != b))
  | "&" => some (a &&& b)
  | "^" => some (a ^^^ b)
  | "|" => some (a ||| b)
  | "&&" => some (truth (a != 0 && b != 0))
  | "||" => some (truth (a != 0 || b != 0))
  | _ => none

/-- The value of a digit in a base up to 64. -/
def digitValue? (base : Nat) (c : Char) : Option Nat :=
  let n := if c.isDigit then c.toNat - 48
    else if c.isLower then c.toNat - 87
    else if c.isUpper then (if base ≤ 36 then c.toNat - 55 else c.toNat - 29)
    else if c = '@' then 62
    else if c = '_' then 63
    else 99
  if n < base then some n else none

/-- The number of some digits. -/
def valueIn (base : Nat) (cs : Raw) : Nat :=
  cs.foldl (fun v c => v * base + (digitValue? base c).getD 0) 0

/-- The decimal text of a word. -/
def text (n : Int64) : Raw :=
  Raw.ofInt n.toInt

/-- A place that holds a number: a variable, or one of a list's. -/
structure Holder where
  name : Raw
  index : Option Raw

/-- The text in a place; `index` is the number of the item that is meant. -/
def heldText (h : Holder) (index : Int64) : Sh (Option Raw) := do
  match (← Sh.binding? h.name).bind Variable.value with
  | none => return none
  | some (.text r) => return if index = 0 then some r else none
  | some (.list items) =>
    let n := if index < 0 then ((items.getLast?.map Prod.fst).getD 0 : Int) + 1 + index.toInt else index.toInt
    return (items.find? fun i => (i.1 : Int) = n).map Prod.snd
  | some (.map items) => return (items.find? fun i => some i.1 = h.index).map Prod.snd

/-- Puts a number in a place. -/
def hold (h : Holder) (index value : Int64) : Sh Unit := do
  match h.index with
  | none => Sh.assign h.name (text value)
  | some key =>
    Sh.mustNotBeFixed h.name
    Sh.setVariable h.name fun old =>
      let v := old.getD Variable.unset
      { v with value := some (match v.value with
          | some (.map items) => Value.map ((items.filter fun i => i.1 != key) ++ [(key, text value)])
          | some (.list items) => .list (Sh.setItem index.toInt.toNat (text value) items)
          | some (.text r) => .list (Sh.setItem index.toInt.toNat (text value) [(0, r)])
          | none => .list [(index.toInt.toNat, text value)]) }

end RunMeter.Machine.Shell.Arithmetic
