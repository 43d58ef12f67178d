import RunMeter.Machine.Format
import RunMeter.Machine.Utility.Awk.Reading
import Std.Data.HashMap

/-!
# RunMeter.Machine.Utility.Awk.Value — what variables hold

A value is a number or a text, and each can be taken for the other.  A text that was read and looks like a number
counts as one in comparisons.

Nothing that is proved depends on this module.
-/

namespace RunMeter.Machine.Awk

/-- A value. -/
inductive Value where
  | unset
  | number (f : Float)
  | text (r : Raw)
  /-- A text that was read and looks like a number. -/
  | numeric (r : Raw) (f : Float)

/-- The number at the start of a text. -/
def leadingNumber (r : Raw) : Float × Raw :=
  let body := Raw.trimStart r
  let (negative, digits) : Bool × Raw := match body with
    | '-' :: rest => (true, rest)
    | '+' :: rest => (false, rest)
    | rest => (false, rest)
  let isNumber := match digits with
    | d :: e :: _ => d.isDigit || (d = '.' && e.isDigit)
    | [d] => d.isDigit
    | [] => false
  if !isNumber then (0, r)
  else
    match digits with
    | '0' :: x :: d :: rest =>
      if (x = 'x' || x = 'X') && Raw.isHex d then
        let ds := (d :: rest).takeWhile Raw.isHex
        let f := Float.ofNat (Raw.valueIn 16 ds)
        (if negative then -f else f, (d :: rest).drop ds.length)
      else
        let (f, after) := numberText digits
        (if negative then -f else f, after)
    | _ =>
      let (f, after) := numberText digits
      (if negative then -f else f, after)

/-- The whole number that a floating-point number is, if it is one that is not too large. -/
def whole? (f : Float) : Option Int :=
  match Quantity.ofFloat f with
  | ⟨negative, .finite q⟩ =>
    if q.den = 1 && q.num < 9223372036854775808 then some (if negative then -q.num else q.num) else none
  | _ => none

/-- A number cut to a whole one within the bounds of a word. -/
def truncated (f : Float) : Int :=
  match Quantity.ofFloat f with
  | ⟨negative, .finite q⟩ =>
    let n := min q.floor 9223372036854775807
    if negative then -n else n
  | ⟨negative, .infinite⟩ => if negative then -9223372036854775808 else 9223372036854775807
  | ⟨_, .undefined⟩ => -9223372036854775808

/-- A number in a format with one conversion. -/
def inNumberFormat (form : Raw) (f : Float) : Raw :=
  let head := form.takeWhile (· != '%')
  match form.drop head.length with
  | _ :: spec =>
    let (conversion, rest) := Conversion.ofText spec
    let shown := if "dioxXu".toList.contains conversion.letter then conversion.signed (truncated f)
      else conversion.real true (Quantity.ofFloat f)
    head ++ shown ++ rest
  | [] => head

/-- A number as a text: digits for a whole one, a format for others. -/
def numberAsText (form : Raw) (f : Float) : Raw :=
  match whole? f with
  | some n => Raw.ofInt n
  | none => inNumberFormat form f

namespace Value

/-- A text that was read. -/
def read (r : Raw) : Value :=
  let body := Raw.trim r
  if body.isEmpty then text r
  else
    let (f, rest) := leadingNumber body
    if rest.isEmpty then numeric r f else text r

/-- A value as a number. -/
def toNumber : Value → Float
  | unset => 0
  | number f => f
  | text r => (leadingNumber r).1
  | numeric _ f => f

/-- A value as a text. -/
def toText (form : Raw) : Value → Raw
  | unset => []
  | number f => numberAsText form f
  | text r => r
  | numeric r _ => r

/-- A truth value. -/
def ofBool (b : Bool) : Value := number (if b then 1 else 0)

/-- Whether a value counts as true. -/
def isTrue : Value → Bool
  | unset => false
  | number f => f != 0
  | text r => !r.isEmpty
  | numeric _ f => f != 0

/-- How a value stands to another. -/
def compare (form : Raw) (a b : Value) : Ordering :=
  let byNumber (x y : Float) : Ordering := if x < y then .lt else if x == y then .eq else .gt
  let byText : Ordering :=
    let x := a.toText form
    let y := b.toText form
    if x == y then .eq else if Raw.atMost x y then .lt else .gt
  match a, b with
  | text _, _ => byText
  | _, text _ => byText
  | _, _ => byNumber a.toNumber b.toNumber

end Value

/-- Values by key.  Each has a mark that says when it was last put there. -/
structure Table where
  cells : Std.HashMap Raw (Nat × Value)
  clock : Nat

namespace Table

/-- The table without values. -/
def empty : Table := ⟨∅, 0⟩

/-- The value of a key. -/
def get? (t : Table) (key : Raw) : Option Value := (t.cells.get? key).map Prod.snd

/-- Puts a value. -/
def put (t : Table) (key : Raw) (v : Value) : Table :=
  let place := ((t.cells.get? key).map Prod.fst).getD t.clock
  ⟨t.cells.insert key (place, v), t.clock + 1⟩

/-- Takes a value out. -/
def erase (t : Table) (key : Raw) : Table := ⟨t.cells.erase key, t.clock⟩

/-- How many values there are. -/
def size (t : Table) : Nat := t.cells.size

/-- A number for a key, by which keys are put in order. -/
def hash (key : Raw) : Nat :=
  (key.foldl (fun (h : UInt32) c => (h ^^^ UInt32.ofNat c.toNat) * 16777619) 2166136261).toNat

/-- How many places there are for the keys of a table: more of them where twelve keys share each. -/
def places : (fuel : Nat) → (places size : Nat) → Nat
  | 0, n, _ => n
  | fuel + 1, n, size => if size > 12 * n then places fuel (2 * n) size else n

/-- The keys in the order in which they are gone through. -/
def keys (t : Table) : List Raw :=
  let n := places 40 64 t.size
  let marked := t.cells.toList.map fun (key, place, _) => (hash key % n, place, key)
  let sorted := marked.mergeSort fun a b => a.1 < b.1 || (a.1 = b.1 && a.2.1 ≥ b.2.1)
  sorted.map fun m => m.2.2

end Table
end RunMeter.Machine.Awk
