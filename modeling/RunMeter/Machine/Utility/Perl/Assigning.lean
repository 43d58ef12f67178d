import RunMeter.Machine.Utility.Perl.Variables

/-!
# RunMeter.Machine.Utility.Perl.Assigning — values given to what expressions name

* `assignment`: an expression that gives values.
* `referencesTo`: references to what an expression names.

Nothing that is proved depends on this module.
-/

namespace RunMeter.Machine.Perl

/-- Whether what is given values takes many. -/
def takesMany : Expr → Bool
  | .list _ | .declare _ _ true | .elements .. | .entries .. => true
  | .name .array _ | .name .table _ | .through .array _ | .through .table _ => true
  | .declare _ [some (.array, _)] _ | .declare _ [some (.table, _)] _ => true
  | .localized e => takesMany e
  | _ => false

/-- An expression for names that have been made known. -/
def knownNames : Expr → Expr
  | .declare _ [some (sign, name)] false => .name sign name
  | .declare _ names _ => .list (names.filterMap fun n => n.map fun (sign, name) => .name sign name)
  | .localized e => e
  | e => e

namespace Running

/-- How deep lists stand in one another. -/
def depth : Nat := 200

/-- Ends a function early with what an operator makes of two values, or dies of its fault. -/
def operate (op : Operator) (a b : Value) : Running Value := do
  match op.apply a b with
  | .ok v => return v
  | .error f => die f.message.toList

/-- The values of expressions, each single. -/
def singles (m : Means) : List Expr → Running (List Value)
  | [] => return []
  | e :: rest => do
    let v ← m.single e
    return v :: (← singles m rest)

/-- The values of expressions, all together. -/
def manyOf (m : Means) : List Expr → Running (List Value)
  | [] => return []
  | [e] => m.many e
  | e :: rest => do
    let vs ← m.many e
    return vs ++ (← manyOf m rest)

/-- The last of some expressions, the others carried out before. -/
def lastOf (m : Means) : List Expr → Running Value
  | [] => return .undefined
  | [e] => m.single e
  | e :: rest => do
    let _ ← m.single e
    lastOf m rest

/-- The text that a key is; several make one together. -/
def keyText (m : Means) (e : Expr) : Running Raw := do
  match e with
  | .list es =>
    if es.length > 1 then
      let vs ← manyOf m es
      return Raw.joined ['\x1c'] (vs.map Value.toText)
    else textOf (← m.single e)
  | e => textOf (← m.single e)

/-- The stream that an expression names. -/
def sourceCell (m : Means) (e : Expr) : Running (Option Nat) := do
  match e with
  | .bare w => streamCell? (.text w)
  | .text w => streamCell? (.text w)
  | e => streamCell? (← m.single e)

/-- Makes names known to the block at hand. -/
def declareAll (e : Expr) : Running Unit := do
  match e with
  | .declare how names _ =>
    for n in names do
      match n, how with
      | some (sign, name), .own =>
        let cell ← newCell (emptyOf sign)
        bindName sign name cell
      | some (sign, name), .shared =>
        let cell ← globalCell sign name
        bindName sign name cell
      | some (sign, name), .lasting =>
        let s ← get
        let key := keyOf sign name ++ ' ' :: Raw.ofNat s.line ++ s.package
        match s.lasting.get? key with
        | some cell => bindName sign name cell
        | none =>
          let cell ← newCell (emptyOf sign)
          modify fun s => { s with lasting := s.lasting.insert key cell }
          bindName sign name cell
      | none, _ => pure ()
  | _ => return

/-- Gives parts of an array or a table values; gives back those that are left. -/
def storeEach (targetOf : Value → Nat → Option Target) (n : Nat) (which vs : List Value) : Running (List Value) := do
  for (w, i) in which.zipIdx do
    match targetOf w (← arrayOf n).size with
    | some t => store t (vs.getD i .undefined)
    | none => pure ()
  return vs.drop which.length

mutual

/-- Gives what an expression names values; gives back those that are left. -/
def assignFrom (m : Means) : (fuel : Nat) → Expr → List Value → Running (List Value)
  | 0, _, vs => return vs
  | fuel + 1, e, vs => do
    match e with
    | .list es => assignEach m fuel es vs
    | .declare _ names _ =>
      declareAll e
      assignEach m fuel (names.map fun n => match n with
        | some (sign, name) => .name sign name
        | none => .builtin "undef" []) vs
    | .builtin "undef" [] => return vs.drop 1
    | .name .array _ | .through .array _ | .localized (.name .array _) | .localized (.through .array _) =>
      match ← m.container .array true e with
      | some n =>
        storeAll .array n vs
        return []
      | none => return []
    | .name .table _ | .through .table _ | .localized (.name .table _) | .localized (.through .table _) =>
      match ← m.container .table true e with
      | some n =>
        storeAll .table n vs
        return []
      | none => return []
    | .localized (.list es) => assignEach m fuel (es.map .localized) vs
    | .elements array indices =>
      match ← m.container .array true array with
      | some n =>
        let is ← m.many indices
        storeEach (fun v size => (indexIn? size v.toInt).map (Target.element n)) n is vs
      | none => return vs
    | .entries table keys =>
      match ← m.container .table true table with
      | some n =>
        let ks ← m.many keys
        storeEach (fun v _ => some (Target.entry n v.toText)) n ks vs
      | none => return vs
    | e =>
      let t ← m.target e
      store t (vs.headD .undefined)
      return vs.drop 1

/-- Gives what expressions name values one after another. -/
def assignEach (m : Means) : (fuel : Nat) → List Expr → List Value → Running (List Value)
  | 0, _, vs => return vs
  | _, [], vs => return vs
  | fuel + 1, e :: rest, vs => do
    let left ← assignFrom m fuel e vs
    assignEach m fuel rest left

end

/-- An expression that gives values; `wants` says that many are asked for. -/
def assignment (m : Means) (wants : Bool) (op : Option Update) (goal e : Expr) : Running (List Value) := do
  match op with
  | none =>
    match goal with
    | .declare .lasting [some (sign, name)] _ =>
      -- a lasting variable gets its value once
      let s ← get
      let key := keyOf sign name ++ ' ' :: Raw.ofNat s.line ++ s.package
      if (s.lasting.get? key).isSome then
        declareAll goal
        loadAll sign (← nameCell sign name)
      else
        let vs ← if sign = .scalar then do pure [← m.single e] else m.many e
        declareAll goal
        storeAll sign (← nameCell sign name) vs
        return vs
    | goal =>
      if takesMany goal then
        let vs ← m.many e
        let _ ← assignFrom m depth goal vs
        if wants then m.many (knownNames goal) else return [.int vs.length]
      else
        let v ← m.single e
        match goal, v with
        | .name .handle name, .reference sign n =>
          setGlobal sign name n
          return [v]
        | .localized (.name .handle name), .reference sign n =>
          setGlobal sign name n
          return [v]
        | goal, v =>
          let t ← m.target goal
          store t v
          return [v]
  | some u =>
    if takesMany goal then
      match u, goal with
      | .by .repeated, goal =>
        let vs ← m.many goal
        let count := (← m.single e).toNat
        let all := (List.replicate count vs).flatten
        let _ ← assignFrom m depth goal all
        return all
      | _, goal =>
        let before ← m.many goal
        let isSet := !before.isEmpty
        let changes := match u with
          | .both => isSet
          | _ => !isSet
        if changes then
          let vs ← m.many e
          let _ ← assignFrom m depth goal vs
          return vs
        else return before
    else
      let t ← m.target goal
      match u with
      | .by op =>
        let b ← plainValue (← m.single e)
        let a ← load t
        let v ← operate op a b
        store t v
        return [v]
      | u =>
        let a ← load t
        let changes := match u with
          | .both => a.isTrue
          | .either => !a.isTrue
          | _ => !a.isDefined
        if changes then
          let v ← m.single e
          store t v
          return [v]
        else return [a]

mutual

/-- References to what an expression names. -/
def referencesTo (m : Means) : (fuel : Nat) → Expr → Running (List Value)
  | 0, _ => return []
  | fuel + 1, e => do
    match e with
    | .name .array _ | .through .array _ =>
      match ← m.container .array true e with
      | some n => return [.reference .array n]
      | none => return []
    | .name .table _ | .through .table _ =>
      match ← m.container .table true e with
      | some n => return [.reference .table n]
      | none => return []
    | .name .handle name => return [.reference .handle (← globalCell .handle name)]
    | .declare _ [some (sign, name)] false =>
      declareAll e
      return [.reference sign (← nameCell sign name)]
    | .declare .. =>
      declareAll e
      referencesTo m fuel (knownNames e)
    | .call name none => return [.reference .code (← globalCell .code name)]
    | .invoke code none => return [← m.single code]
    | .list es =>
      let all ← es.mapM fun e => match e with
        | .name .array _ => m.many e
        | _ => return []
      if es.length = 1 && !all.flatten.isEmpty then
        all.flatten.mapM fun v => do return .reference .scalar (← newCell (.scalar v))
      else referencesToAll m fuel es
    | .newCode _ => return [.reference .scalar (← newCell (.scalar (← m.single e)))]
    | e =>
      match ← m.target e with
      | .cell n => return [.reference .scalar n]
      | t =>
        let v ← load t
        return [.reference .scalar (← newCell (.scalar v))]

/-- References to what several expressions name. -/
def referencesToAll (m : Means) : (fuel : Nat) → List Expr → Running (List Value)
  | 0, _ => return []
  | _, [] => return []
  | fuel + 1, e :: rest => do
    let vs ← referencesTo m fuel e
    return vs ++ (← referencesToAll m fuel rest)

end

/-- Takes the last character of a text, or an end of line; gives what has been taken. -/
def shorten (ending : Bool) (t : Target) : Running Nat := do
  let v ← load t
  if !v.isDefined then return 0
  else
    let r := v.toText
    if ending then
      let mark := match ← plain "/" with
        | .undefined => []
        | w => w.toText
      let mark := if mark.isEmpty then ['\n'] else mark
      if !r.isEmpty && mark.isSuffixOf r then
        store t (.text (r.take (r.length - mark.length)))
        return mark.length
      else return 0
    else
      store t (.text r.dropLast)
      return 1

/-- Does the same with all values of an array or a table. -/
def shortenAll (ending : Bool) (sign : Sign) (n : Nat) : Running Nat := do
  let targets : List Target ← match sign with
    | .array => pure ((List.range (← arrayOf n).size).map (Target.element n))
    | _ => pure ((← tableOf n).entries.map fun e => Target.entry n e.1)
  let counts ← targets.mapM (shorten ending)
  return counts.foldl (· + ·) 0

mutual

/-- Takes ends of lines from what an expression names. -/
def shortened (m : Means) : (fuel : Nat) → (ending : Bool) → Expr → Running Nat
  | 0, _, _ => return 0
  | fuel + 1, ending, e => do
    match e with
    | .list es =>
      let counts ← shortenedEach m fuel ending es
      return counts
    | .name .array _ | .through .array _ =>
      match ← m.container .array true e with
      | some n => shortenAll ending .array n
      | none => return 0
    | .name .table _ | .through .table _ =>
      match ← m.container .table true e with
      | some n => shortenAll ending .table n
      | none => return 0
    | e => do shorten ending (← m.target e)

/-- Does so with several. -/
def shortenedEach (m : Means) : (fuel : Nat) → (ending : Bool) → List Expr → Running Nat
  | 0, _, _ => return 0
  | _, _, [] => return 0
  | fuel + 1, ending, e :: rest => do
    let e' ← match e with
      | .assign _ goal _ => do
        let _ ← if takesMany goal then m.many e else do pure [← m.single e]
        pure (knownNames goal)
      | .declare .. => do
        declareAll e
        pure (knownNames e)
      | e => pure e
    let n ← shortened m fuel ending e'
    return n + (← shortenedEach m fuel ending rest)

end

end Running
end RunMeter.Machine.Perl
