import RunMeter.Machine.Utility.Perl.Assigning

/-!
# RunMeter.Machine.Utility.Perl.Texts — texts matched, changed and written

* `matching`, `substitution`: what matches an expression, and what takes its place.
* `write`: values on their way out.

Nothing that is proved depends on this module.
-/

namespace RunMeter.Machine.Perl

/-- Matches from left to right from a place on. -/
def matchesFrom (e : Regex.Ordered) (text : Array Char) : (fuel : Nat) → (place : Nat) → List Regex.Match
  | 0, _ => []
  | fuel + 1, place =>
    match e.regex.searchFrom? text place with
    | none => []
    | some found =>
      if found.last = found.first then
        if found.first ≥ text.size then [found] else found :: matchesFrom e text fuel (found.first + 1)
      else found :: matchesFrom e text fuel found.last

namespace Running

/-- The text of an expression for texts. -/
def patternText (m : Means) (e : Expr) : Running Raw :=
  do textOf (← m.single e)

/-- The expression that is matched, and its flags. -/
def patternOf (m : Means) (e : Expr) (flags : Raw) : Running Regex.Ordered := do
  match ← m.single e with
  | .pattern r own => expression r (own ++ flags)
  | v => expression (← textOf v) flags

/-- Matches a text. -/
def matching (m : Means) (negated : Bool) (goal : Option Expr) (text : Expr) (flags : Raw) (wants : Bool) :
    Running (List Value) := do
  let goal := goal.getD (.name .scalar ['_'])
  let isRepeated := flags.contains 'g'
  let t : Target ← if isRepeated then m.target goal else pure .nothing
  let v ← if isRepeated then load t else m.single goal
  let chars := (← textOf v).toArray
  let e ← patternOf m text flags
  if !isRepeated then
    match ← matchAt? e chars 0 with
    | some found =>
      if negated then return [.ofBool false]
      else if wants then return if e.regex.groups = 0 then [.int 1] else groupsOf e chars found
      else return [.int 1]
    | none => if negated then return [.int 1] else return if wants then [] else [.ofBool false]
  else
    let start := (((← get).positions.get? t.key).getD 0)
    if wants && !negated then
      let all := matchesFrom e chars (chars.size + 2) (min start chars.size)
      match all.getLast? with
      | some found => note chars e found
      | none => pure ()
      modify fun s => { s with positions := s.positions.erase t.key }
      return all.flatMap fun found =>
        if e.regex.groups = 0 then [.text (Regex.between chars found.first found.last)] else groupsOf e chars found
    else
      -- an empty match does not count twice at one place; its mark is one more than twice the place
      let place := start / 2
      let isEmptyBefore := start % 2 = 1
      let found ← if place > chars.size then pure none
        else match e.regex.searchFrom? chars place with
          | some found =>
            if isEmptyBefore && found.last = place then
              pure (if place + 1 > chars.size then none else e.regex.searchFrom? chars (place + 1))
            else pure (some found)
          | none => pure none
      match found with
      | some found =>
        note chars e found
        let mark := 2 * found.last + (if found.last = found.first then 1 else 0)
        modify fun s => { s with positions := s.positions.insert t.key mark }
        return [.ofBool !negated]
      | none =>
        if !flags.contains 'c' then modify fun s => { s with positions := s.positions.erase t.key }
        return [.ofBool negated]

/-- A text with what has been found replaced. -/
def replacedText (m : Means) (e : Regex.Ordered) (text : Array Char) (new : Expr) : (place : Nat) → List Regex.Match → Running Raw
  | place, [] => return Regex.between text place text.size
  | place, found :: rest => do
    note text e found
    let v ← m.single new
    let r ← textOf v
    return Regex.between text place found.first ++ r ++ (← replacedText m e text new found.last rest)

/-- Replaces what matches. -/
def substitution (m : Means) (goal : Option Expr) (text new : Expr) (flags : Raw) : Running Value := do
  let t ← if flags.contains 'r' then do
      pure (Target.cell (← newCell (.scalar (← m.single (goal.getD (.name .scalar ['_']))))))
    else m.target (goal.getD (.name .scalar ['_']))
  let chars := (← textOf (← load t)).toArray
  let e ← patternOf m text flags
  let all := if flags.contains 'g' then matchesFrom e chars (chars.size + 2) 0 else (e.regex.searchFrom? chars 0).toList
  if all.isEmpty then
    if flags.contains 'r' then return .text chars.toList else return .ofBool false
  else
    let r ← replacedText m e chars new 0 all
    if flags.contains 'r' then return .text r
    else
      store t (.text r)
      return .int all.length

/-- Writes values. -/
def write (m : Means) (how : String) (outlet : Option Expr) (args : List Expr) : Running Value := do
  let n ← match outlet with
    | none => do pure (some (← get).selected)
    | some e => sourceCell m e
  let vs ← if args.isEmpty then do pure [← m.single (.name .scalar ['_'])] else manyOf m args
  match n with
  | none =>
    fault Errno.badDescriptor
    return .ofBool false
  | some n =>
    let r ← match how with
      | "printf" => do
        let vs ← vs.mapM plainValue
        pure (printedWith (vs.headD .undefined).toText (vs.drop 1))
      | how => do
        let parts ← vs.mapM textOf
        let between := (← plain ",").toText
        let ending := (← plain "\\").toText
        pure (Raw.joined between parts ++ (if how == "say" then ['\n'] else []) ++ ending)
    let isWide := (← streamOf n).wide
    if !isWide && r.any fun ch => ch.toNat > 255 then
      let place ← whereabouts
      tell ("Wide character in ".toList ++ how.toList ++ place)
    return if ← emit n r then .int 1 else .ofBool false

end Running
end RunMeter.Machine.Perl
