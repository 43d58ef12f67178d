import RunMeter.Machine.Utility.Perl.Library

/-!
# RunMeter.Machine.Utility.Perl.Matching — texts and expressions for them

* `Running.expression`: an expression with its flags, read.
* `Running.matchAt?`: a match from a place on, which is noted.
* `exchange`: characters in the place of others.

Nothing that is proved depends on this module.
-/

namespace RunMeter.Machine.Perl
namespace Running

/-- What is said about an expression that is none. -/
def faultText (f : Regex.Fault) (text : Raw) : Raw :=
  let here (words : String) (place : Nat) : Raw :=
    words.toList ++ " in regex; marked by <-- HERE in m/".toList ++ text.take place ++ " <-- HERE ".toList ++
        text.drop place ++ ['/']
  let first (c : Char) : Nat := (text.takeWhile (· != c)).length
  match f with
  | .group => here "Unmatched (" (first '(')
  | .closing => here "Unmatched )" (first ')' + 1)
  | .bracket => here "Unmatched [" (first '[')
  | .repetition => here "Quantifier follows nothing" ((text.takeWhile fun c => !("*+?".toList.contains c)).length + 1)
  | .range => "Invalid [] range in regex; marked by <-- HERE in m/".toList ++ text ++ " <-- HERE /".toList
  | .backslash => "Trailing \\ in regex m/".toList ++ text ++ ['/']
  | f => f.message.toList ++ " in regex m/".toList ++ text ++ ['/']

/-- An expression with its flags, read.  It is kept for the next time. -/
def expression (text flags : Raw) : Running Regex.Ordered := do
  let has (c : Char) : Bool := flags.contains c
  let key := (flags.filter "imsx".toList.contains) ++ '/' :: text
  match (← get).patterns.get? key with
  | some e => return e
  | none =>
    match Regex.Ordered.ofText ⟨has 'i', has 'm', has 's', has 'x'⟩ text with
    | .ok e =>
      modify fun s => { s with patterns := s.patterns.insert key e }
      return e
    | .error f => die (faultText f text)

/-- Notes a match. -/
def note (text : Array Char) (e : Regex.Ordered) (found : Regex.Match) : Running Unit :=
  modify fun s => { s with matched := some ⟨text, found, e.names⟩ }

/-- The match from a place on, which is noted. -/
def matchAt? (e : Regex.Ordered) (text : Array Char) (first : Nat) : Running (Option Regex.Match) := do
  match e.regex.searchFrom? text first with
  | some found =>
    note text e found
    return some found
  | none => return none

/-- What a group of the last match holds. -/
def group (n : Nat) : Running Value := do
  match (← get).matched with
  | some t =>
    match t.found.group? t.text n with
    | some r => return .text r
    | none => return .undefined
  | none => return .undefined

/-- What the groups of a match hold. -/
def groupsOf (e : Regex.Ordered) (text : Array Char) (found : Regex.Match) : List Value :=
  (List.range e.regex.groups).map fun i =>
    match found.group? text (i + 1) with
    | some r => .text r
    | none => .undefined

/-- The groups of the last match that have names. -/
def namedGroups : Running (List (Raw × Value)) := do
  match (← get).matched with
  | some t => return t.names.filterMap fun (name, n) => (t.found.group? t.text n).map fun r => (name, .text r)
  | none => return []

/-- What stands before the last match, and what stands after it. -/
def around (before : Bool) : Running Value := do
  match (← get).matched with
  | some t =>
    return .text (if before then Regex.between t.text 0 t.found.first else Regex.between t.text t.found.last t.text.size)
  | none => return .undefined

/-- The parts of a text between matches, with the groups of the matches, at most so many parts. -/
def cutText (e : Regex.Ordered) (text : Array Char) (limit : Nat) : (fuel : Nat) → (first place count : Nat) → List Value
  | 0, first, _, _ => [.text (Regex.between text first text.size)]
  | fuel + 1, first, place, count =>
    if limit > 0 && count + 1 ≥ limit then [.text (Regex.between text first text.size)]
    else
      match e.regex.searchFrom? text place with
      | none => [.text (Regex.between text first text.size)]
      | some found =>
        if found.first ≥ text.size && found.last = found.first then [.text (Regex.between text first text.size)]
        else if found.last = found.first then
          if found.first = first then
            -- an empty match where a part begins cuts after the next character
            if place + 1 ≥ text.size + 1 then [.text (Regex.between text first text.size)]
            else cutText e text limit fuel first (place + 1) count
          else
            .text (Regex.between text first found.first) :: groupsOf e text found ++
              cutText e text limit fuel found.first found.first (count + 1)
        else
          .text (Regex.between text first found.first) :: groupsOf e text found ++
            cutText e text limit fuel found.last found.last (count + 1)

/-- Values without the empty ones at their end. -/
def withoutEmptyEnd (vs : List Value) : List Value :=
  (vs.reverse.dropWhile fun v => v.toText.isEmpty).reverse

/-- The parts of a text: between matches, or the words if the expression is a blank. -/
def splitText (pattern : Value) (text : Raw) (limit : Int) : Running (List Value) := do
  let isWords : Bool := match pattern with
    | .text r => r = [' ']
    | _ => false
  let text := if isWords then Raw.trimStart text else text
  if text.isEmpty then return []
  else
    let (source, flags) : Raw × Raw := match pattern with
      | .pattern r flags => (r, flags)
      | v => (if isWords then "\\s+".toList else v.toText, [])
    let flags := if source = ['^'] then 'm' :: flags else flags
    let e ← expression source flags
    let chars := text.toArray
    let vs := cutText e chars limit.toNat (2 * chars.size + 2) 0 0 0
    return if limit = 0 then withoutEmptyEnd vs else vs

end Running

/-- A text with characters exchanged, and how many have been found; `complement` says that those not listed are
meant, `deletes` that those without another are left out, and `squeezes` that the same put twice is put once. -/
def exchange (source result : Raw) (complement deletes squeezes : Bool) (text : Raw) : Raw × Nat :=
  let padded : Raw :=
    if result.isEmpty && !deletes then source
    else if deletes then result
    else result ++ List.replicate (source.length - result.length) (result.getLast?.getD ' ')
  let meaning (c : Char) : Option (Option Char) :=
    if complement then
      if source.contains c then none
      else if deletes && result.isEmpty then some none
      else some (some (if result.isEmpty then c else result.getLast?.getD c))
    else
      match source.findIdx? (· == c) with
      | none => none
      | some i => some (padded[i]?)
  let (done, _, count) := text.foldl (fun (done, last, count) c =>
    match meaning c with
    | none => (c :: done, none, count)
    | some none => (done, last, count + 1)
    | some (some d) => if squeezes && last == some d then (done, last, count + 1) else (d :: done, some d, count + 1))
    (([] : Raw), (none : Option Char), 0)
  (done.reverse, count)

end RunMeter.Machine.Perl
