import RunMeter.Machine.Utility.Perl.System

/-!
# RunMeter.Machine.Utility.Perl.Variables — what can be given a value

* `Running.load`, `Running.store`: its value, and a new one.

Nothing that is proved depends on this module.
-/

namespace RunMeter.Machine.Perl

namespace Target

/-- What tells it from others. -/
def key : Target → Raw
  | cell n => 'c' :: Raw.ofNat n
  | element n i => 'e' :: Raw.ofNat n ++ '.' :: Raw.ofNat i
  | entry n k => 'h' :: Raw.ofNat n ++ '.' :: k
  | special name => 's' :: name
  | part whole _ _ => 'p' :: whole.key
  | lastIndex n => 'l' :: Raw.ofNat n
  | nothing => []

end Target

/-- The place in an array that an index means; negative ones count from the end. -/
def indexIn? (size : Nat) (i : Int) : Option Nat :=
  if i ≥ 0 then some i.toNat else if size + i ≥ 0 then some (size + i).toNat else none

namespace Running

/-- The value of a name with a meaning of its own. -/
def special? (name : Raw) : Running (Option Value) := do
  match name with
  | [] => return none
  | c :: _ =>
    if isWordStart c then return none
    else if c.isDigit then
      if name = ['0'] then return none else return some (← group (Raw.valueIn 10 name))
    else
      let s ← get
      match Raw.text name with
      | "&" => return some (← group 0)
      | "'" => return some (← around false)
      | "+" =>
        match s.matched with
        | some t =>
          let last :=
            ((List.range 100).reverse.filterMap fun n => if n = 0 then none else t.found.group? t.text n).head?
          return some ((last.map Value.text).getD .undefined)
        | none => return some .undefined
      | "!" => return some (.dual s.errno (errnoText s.errno))
      | "$" => return some (.int (← act Act.ownPid))
      | "?" => return some (.int s.status)
      | "|" => return some (.int (if (← streamOf s.selected).prompt then 1 else 0))
      | "." =>
        match s.lastRead with
        | some n => return some (.int (← streamOf n).lines)
        | none => return some .undefined
      | "<" | ">" => return some (.int 1000)
      | "(" | ")" => return some (.dual 1000 "1000 1000".toList)
      | "]" => return some (.dual 5 "5.036000".toList)
      | "^O" => return some (.text "linux".toList)
      | "^X" => return some (.text "/usr/bin/perl".toList)
      | "^V" => return some (.text "v5.36.0".toList)
      | "^T" => return some (.int ((← act Act.now) / 1000000 : Nat))
      | "^W" => return some (.int 0)
      | _ => if c.toNat = 96 then return some (← around true) else return none

/-- Gives a name with a meaning of its own a value; tells if it has one. -/
def setSpecial (name : Raw) (v : Value) : Running Bool := do
  match Raw.text name with
  | "!" =>
    modify fun s => { s with errno := v.toNat }
    return true
  | "?" =>
    modify fun s => { s with status := v.toInt % 65536 }
    return true
  | "|" =>
    let n := (← get).selected
    let on := v.toInt != 0
    onStream n fun s => { s with prompt := on }
    if on then let _ ← flush n
    return true
  | "." =>
    match (← get).lastRead with
    | some n => onStream n fun s => { s with lines := v.toNat }
    | none => pure ()
    return true
  | "$" | "^O" | "^X" | "^V" | "^T" | "^W" | "<" | ">" | "(" | ")" => return true
  | _ =>
    if (name.head?).any Char.isDigit && name != ['0'] then die "Modification of a read-only value attempted".toList
    else return false

/-- The value of a target. -/
def load (t : Target) : Running Value := do
  match t with
  | .cell n => valueOf n
  | .element n i => return (← arrayOf n).getD i .undefined
  | .entry n key => return ((← tableOf n).get? key).getD .undefined
  | .special name => return (← special? name).getD .undefined
  | .part whole first length => do
    let v ← load whole
    return .text ((v.toText.drop first).take length)
  | .lastIndex n => return .int ((← arrayOf n).size - 1 : Int)
  | .nothing => return .undefined

/-- Gives a target a value. -/
def store (t : Target) (v : Value) : Running Unit := do
  if !(← get).positions.isEmpty then modify fun s => { s with positions := s.positions.erase t.key }
  match t with
  | .cell n => setCell n (.scalar v)
  | .element n i =>
    onArray n fun vs => if i < vs.size then vs.setIfInBounds i v else (vs ++ Array.replicate (i - vs.size) Value.undefined).push v
  | .entry n key =>
    onTable n fun t => t.put key v
    if n = signalCell then installSignal key
  | .special name => let _ ← setSpecial name v
  | .part whole first length => do
    let r := (← load whole).toText
    store whole (.text (r.take first ++ v.toText ++ r.drop (first + length)))
  | .lastIndex n =>
    let size := (v.toInt + 1).toNat
    onArray n fun vs => if size ≤ vs.size then vs.extract 0 size else vs ++ Array.replicate (size - vs.size) Value.undefined
  | .nothing => return

/-- The target of a name with a dollar sign. -/
def targetOfName (name : Raw) : Running Target := do
  match name with
  | [] => return .nothing
  | c :: _ =>
    if isWordStart c then return .cell (← nameCell .scalar name)
    else if (← special? name).isSome then return .special name
    else return .cell (← nameCell .scalar name)

/-- A table of keys and values in turns. -/
def tableOfValues : Table → List Value → Table
  | t, k :: v :: rest => tableOfValues (t.put k.toText v) rest
  | t, [k] => t.put k.toText .undefined
  | t, [] => t

/-- The keys and values of a table in turns. -/
def valuesOfTable (t : Table) : List Value :=
  t.entries.flatMap fun (k, v) => [.text k, v]

/-- Gives an array or a table all its values. -/
def storeAll (sign : Sign) (n : Nat) (vs : List Value) : Running Unit := do
  match sign with
  | .array => setCell n (.array vs.toArray)
  | .table =>
    let before ← tableOf n
    setCell n (.table (tableOfValues Table.empty vs))
    if n = signalCell then
      for (name, _) in before.entries ++ (← tableOf n).entries do installSignal name
  | _ => setCell n (.scalar (vs.headD .undefined))

/-- The values of an array or a table. -/
def loadAll (sign : Sign) (n : Nat) : Running (List Value) := do
  match sign with
  | .array => return (← arrayOf n).toList
  | .table => return valuesOfTable (← tableOf n)
  | _ => return [← valueOf n]

/-- Lets a name of the package have a new value until the block is left. -/
def localName (sign : Sign) (name : Raw) : Running Nat := do
  let n ← globalCell sign name
  let before ← cell n
  modify fun s => { s with undo := .cell n before :: s.undo }
  setCell n (emptyOf sign)
  return n

/-- Lets a target have another value until the block is left. -/
def localTarget (t : Target) : Running Unit := do
  match t with
  | .entry n key =>
    let before := (← tableOf n).get? key
    modify fun s => { s with undo := .entry n key before :: s.undo }
  | .element n i =>
    let before := (← arrayOf n).getD i .undefined
    modify fun s => { s with undo := .element n i before :: s.undo }
  | .cell n =>
    let before ← cell n
    modify fun s => { s with undo := .cell n before :: s.undo }
    setCell n (.scalar .undefined)
  | _ => return

/-- The package that what a reference leads to belongs to. -/
def kindOf? (v : Value) : Running (Option Raw) := do
  match v with
  | .reference _ n => return (← get).kinds.get? n
  | _ => return none

/-- A value as a text: what belongs to a package tells so. -/
def textOf (v : Value) : Running Raw := do
  match v with
  | .reference sign n =>
    match (← get).kinds.get? n with
    | some k => return k ++ '=' :: Value.referenceText sign n
    | none =>
      if sign = .scalar then
        match ← cell n with
        | .scalar (.reference ..) => return "REF".toList ++ (Value.referenceText sign n).drop 6
        | _ => return v.toText
      else return v.toText
  | v => return v.toText

/-- A value, as a text if it is a reference. -/
def plainValue (v : Value) : Running Value := do
  match v with
  | .reference .. => return .text (← textOf v)
  | v => return v

/-- What a reference is said to lead to. -/
def referenceKind (v : Value) : Running Raw := do
  match v with
  | .reference sign n =>
    match (← get).kinds.get? n with
    | some k => return k
    | none =>
      match sign, ← cell n with
      | .scalar, .scalar (.reference ..) => return "REF".toList
      | sign, _ => return sign.word.toList
  | .pattern .. => return "Regexp".toList
  | _ => return []

/-- The cell of a function, if it is defined. -/
def codeCell? (name : Raw) : Running (Option Nat) := do
  match (← get).globals.get? (keyOf .code name) with
  | some n =>
    match ← cell n with
    | .code k => return if k.name.isEmpty then none else some n
    | _ => return none
  | none => return none

/-- The function of a package or of those that it takes functions from. -/
def methodCell? : (fuel : Nat) → (package name : Raw) → Running (Option Nat)
  | 0, _, _ => return none
  | fuel + 1, package, name => do
    let full := if package = "main".toList then name else package ++ "::".toList ++ name
    match ← codeCell? full with
    | some n => return some n
    | none =>
      let parents ← match (← get).globals.get? (keyOf .array (package ++ "::ISA".toList)) with
        | some n => arrayOf n
        | none => pure #[]
      for p in parents do
        match ← methodCell? fuel p.toText name with
        | some n => return some n
        | none => pure ()
      return none

/-- Whether a package is another one or takes functions from it. -/
def isKind : (fuel : Nat) → (package other : Raw) → Running Bool
  | 0, _, _ => return false
  | fuel + 1, package, other => do
    if package = other then return true
    else
      match (← get).globals.get? (keyOf .array (package ++ "::ISA".toList)) with
      | some n =>
        for p in (← arrayOf n) do
          if ← isKind fuel p.toText other then return true
        return false
      | none => return false

/-- Defines a function. -/
def define (name : Raw) (body : List Statement) (scope : Option Scope) : Running Unit := do
  let package := (Raw.joined "::".toList ((Raw.splitAt ':' name).filter (!·.isEmpty)).dropLast)
  let k : Code := ⟨name, if package.isEmpty then "main".toList else package, body, scope⟩
  match (← get).globals.get? (keyOf .code name) with
  | some n => setCell n (.code k)
  | none =>
    let n ← newCell (.code k)
    setGlobal .code name n

/-- Values in order by a test that may do something. -/
def mergeSorted (atMost : Value → Value → Running Bool) : (fuel : Nat) → List Value → Running (List Value)
  | 0, vs => return vs
  | _, [] => return []
  | _, [v] => return [v]
  | fuel + 1, vs => do
    let half := vs.length / 2
    let a ← mergeSorted atMost fuel (vs.take half)
    let b ← mergeSorted atMost fuel (vs.drop half)
    merged (vs.length + 1) a b []
where
  /-- Two lists in order made one. -/
  merged : (fuel : Nat) → List Value → List Value → List Value → Running (List Value)
    | 0, a, b, done => return done.reverse ++ a ++ b
    | _, [], b, done => return done.reverse ++ b
    | _, a, [], done => return done.reverse ++ a
    | fuel + 1, x :: a, y :: b, done => do
      if ← atMost x y then merged fuel a (y :: b) (x :: done) else merged fuel (x :: a) b (y :: done)

end Running
end RunMeter.Machine.Perl
