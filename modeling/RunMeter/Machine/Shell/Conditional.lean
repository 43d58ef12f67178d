import RunMeter.Machine.Regex
import RunMeter.Machine.Shell.Bracketed
import RunMeter.Machine.Shell.Expansion

/-!
# RunMeter.Machine.Shell.Conditional — conditions in double brackets

Words inside double brackets are neither split nor replaced by paths.  The right side of an equality is a pattern,
and that of a tilde a regular expression, except for what is quoted in them.

Nothing that is proved depends on this module.
-/

namespace RunMeter.Machine.Shell.Conditional

open Bracketed (Part Goal joins)

/-- The text of a regular expression: what is quoted stands for itself. -/
def expressionText (gs : List Glyph) : Raw :=
  gs.flatMap fun
    | .char c quoted _ => if quoted && !c.isAlphanum then ['\\', c] else [c]
    | .gap => [' ']
    | .quotes => []

/-- A word as a text. -/
def text (sub : Substitution) (w : Raw) : Sh Raw := Expansion.single sub w

/-- Whether a text matches a regular expression; what its groups hold becomes the list of the match. -/
def matchesExpression (sub : Substitution) (left : Raw) (w : Raw) : Sh Bool := do
  let style : Regex.Style := { Regex.Style.wide with folds := ← Sh.isOn "nocasematch" }
  match Regex.ofText style (expressionText (← Expansion.ofWord sub w)) with
  | .error _ => throw (.fault 2)
  | .ok e =>
    match e.search? left with
    | none => return false
    | some m =>
      let all := (List.range (e.groups + 1)).map fun n => (n, (m.group? left.toArray n).getD [])
      Sh.setVariable "BASH_REMATCH".toList fun old => { old.getD Variable.unset with value := some (.list all) }
      return true

/-- A condition on the files and texts that both kinds of brackets know. -/
def plainCondition (words : List Raw) : Sh Bool := do
  let p ← Sh.shell
  let isSet (name : Raw) : Bool := p.bindings.any fun e => e.1 == name && e.2.value.isSome
  let isOn (name : Raw) : Bool := p.switches.contains (Raw.text name)
  match ← Sh.act (Act.ask fun pid k => Condition.ofWords ⟨.extended, k, pid, isSet, isOn⟩ false words) with
  | .ok v => return v
  | .error _ => return false

/-- A condition on two words. -/
def compare (sub : Substitution) (left op right : Raw) : Sh Bool := do
  let numbers (f : Int64 → Int64 → Bool) : Sh Bool := do
    return f (← Arithmetic.value (← text sub left)) (← Arithmetic.value (← text sub right))
  match Raw.text op with
  | "=" | "==" => return (← Expansion.asPattern sub right).withGroups.isMatch (← text sub left)
  | "!=" => return !((← Expansion.asPattern sub right).withGroups.isMatch (← text sub left))
  | "=~" => matchesExpression sub (← text sub left) right
  | "-eq" => numbers fun a b => a == b
  | "-ne" => numbers fun a b => a != b
  | "-lt" => numbers fun a b => a < b
  | "-le" => numbers fun a b => a ≤ b
  | "-gt" => numbers fun a b => b < a
  | "-ge" => numbers fun a b => b ≤ a
  | _ => plainCondition [← text sub left, op, ← text sub right]

/-- Decides what stands at the start of some parts if `live`, and gives the parts after it. -/
def decide (sub : Substitution) : (fuel : Nat) → (live : Bool) → Goal → List Part → Sh (Bool × List Part)
  | 0, _, _, ps => return (false, ps)
  | fuel + 1, live, .alternatives, ps => do
    let (a, rest) ← decide sub fuel live .conjunction ps
    match rest with
    | .either :: rest =>
      let (b, rest) ← decide sub fuel (live && !a) .alternatives rest
      return (a || b, rest)
    | rest => return (a, rest)
  | fuel + 1, live, .conjunction, ps => do
    let (a, rest) ← decide sub fuel live .term ps
    match rest with
    | .both :: rest =>
      let (b, rest) ← decide sub fuel (live && a) .conjunction rest
      return (a && b, rest)
    | rest => return (a, rest)
  | fuel + 1, live, .term, ps => do
    match ps with
    | .word ['!'] :: rest =>
      let (a, rest) ← decide sub fuel live .term rest
      return (!a, rest)
    | .opening :: rest =>
      let (a, rest) ← decide sub fuel live .alternatives rest
      return (a, match rest with
        | .closing :: rest => rest
        | rest => rest)
    | .word a :: .less :: .word b :: rest =>
      if !live then return (false, rest)
      return (!Raw.atMost (← text sub b) (← text sub a), rest)
    | .word a :: .greater :: .word b :: rest =>
      if !live then return (false, rest)
      return (!Raw.atMost (← text sub a) (← text sub b), rest)
    | .word a :: .word op :: .word b :: rest =>
      if joins op then
        if !live then return (false, rest)
        return (← compare sub a op b, rest)
      else if Condition.isUnary .extended a then
        if !live then return (false, .word b :: rest)
        return (← plainCondition [a, ← text sub op], .word b :: rest)
      else return (!(← text sub a).isEmpty, .word op :: .word b :: rest)
    | .word a :: .word b :: rest =>
      if Condition.isUnary .extended a then
        if !live then return (false, rest)
        return (← plainCondition [a, ← text sub b], rest)
      else return (!(← text sub a).isEmpty, .word b :: rest)
    | .word a :: rest =>
      if !live then return (false, rest)
      return (!(← text sub a).isEmpty, rest)
    | rest => return (false, rest.drop 1)

/-- Decides a condition. -/
def holds (sub : Substitution) (condition : Raw) : Sh Bool := do
  let ps := Bracketed.parts (condition.length + 1) .text condition
  return (← decide sub (4 * ps.length + 4) true .alternatives ps).1

end RunMeter.Machine.Shell.Conditional
