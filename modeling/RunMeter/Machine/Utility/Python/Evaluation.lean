import RunMeter.Machine.Utility.Python.Parts

/-!
# RunMeter.Machine.Utility.Python.Evaluation — Python programs carried out

* `eval`: the value of an expression.
* `exec`: a statement carried out.
* `call`: what a value makes of others when it is called.

Nothing that is proved depends on this module.
-/

namespace RunMeter.Machine.Python

open Running

/-! ## Calls -/

/-- Names in a sentence. -/
def inSentence (names : List Text) : String :=
  let quoted := names.map fun n => "'" ++ Raw.text n ++ "'"
  match quoted with
  | [] => ""
  | [a] => a
  | [a, b] => a ++ " and " ++ b
  | quoted => ", ".intercalate quoted.dropLast ++ ", and " ++ quoted.getLast?.getD ""

/-- The variables that a function starts with. -/
def startingVariables (f : Function) (args : List Value) (named : List (Text × Value)) : Running (List (Text × Value)) := do
  let name := Raw.text f.name ++ "()"
  let plain := f.parameters.filter fun p => p.1 = .plain
  let onlyNamed := f.parameters.filter fun p => p.1 = .onlyNamed
  let rest? := f.parameters.find? fun p => p.1 = .rest
  let restNamed? := f.parameters.find? fun p => p.1 = .restNamed
  let given := (plain.map fun p => p.2.1).zip args
  let takesName (n : Text) : Bool := (plain ++ onlyNamed).any fun p => p.2.1 == n
  for (n, _) in named do
    if given.any fun e => e.1 == n then raiseKind (name ++ " got multiple values for argument '" ++ Raw.text n ++ "'")
    if !(takesName n) && restNamed?.isNone then
      raiseKind (name ++ " got an unexpected keyword argument '" ++ Raw.text n ++ "'")
  if args.length > plain.length && rest?.isNone then
    let usual := (plain.filter fun p => p.2.2.isSome).length
    let most := plain.length
    let range := if usual > 0 then s!"from {most - usual} to {most}" else toString most
    raiseKind (name ++ " takes " ++ range ++ " positional argument" ++ (if most = 1 && usual = 0 then "" else "s") ++
      s!" but {args.length} " ++ (if args.length = 1 then "was" else "were") ++ " given")
  let bound := given ++ named.filter fun e => takesName e.1
  let filled (ps : List (Taking × Text × Option Value)) : List (Text × Value) :=
    ps.filterMap fun p => if bound.any (fun e => e.1 == p.2.1) then none else p.2.2.map fun v => (p.2.1, v)
  let missing (ps : List (Taking × Text × Option Value)) : List Text :=
    ps.filterMap fun p => if bound.any (fun e => e.1 == p.2.1) || p.2.2.isSome then none else some p.2.1
  let complain (ns : List Text) (kind : String) : Running Unit := do
    if !ns.isEmpty then
      raiseKind (name ++ s!" missing {ns.length} required {kind} argument" ++ (if ns.length = 1 then "" else "s") ++ ": " ++
        inSentence ns)
  complain (missing plain) "positional"
  complain (missing onlyNamed) "keyword-only"
  let extra ← match rest? with
    | some p => pure [(p.2.1, Value.tuple (args.drop plain.length))]
    | none => pure []
  let extraNamed ← match restNamed? with
    | some p => do
      let d ← create (.dict ((named.filter fun e => !(takesName e.1)).map fun e => (.text e.1, e.2)))
      pure [(p.2.1, d)]
    | none => pure []
  return bound ++ filled plain ++ filled onlyNamed ++ extra ++ extraNamed

/-- Carries out a function's body with its variables. -/
def inFunction (f : Function) (vars : List (Text × Value)) (body : Running Value) : Running Value := do
  let s ← get
  if s.frames.length ≥ s.limit then raise "RecursionError" "maximum recursion depth exceeded"
  let before := s.frames
  set { s with frames := ⟨s.file, f.name, (before.headD ⟨[], [], 1, []⟩).line, []⟩ :: before }
  let v ← inScope ⟨vars, vars.map Prod.fst ++ f.locals, some f.scope, [], [], false⟩ body |> tryCatchThe Jump <| fun j => do
    modify fun s => { s with frames := before }
    match j with
    | .give v => return v
    | j => throw j
  modify fun s => { s with frames := before }
  return v

/-- How many values a function gives at most before it is left. -/
def mostGiven : Nat := 10000

/-- The value of a name. -/
def valueOfName (name : Text) : Running Value := do
  let s ← get
  let here := s.scopes[s.scope]?
  let own := (here.map fun c => c.vars.lookup name).getD none
  match own with
  | some v => return v
  | none =>
    let isLocal :=
      (here.map fun c => c.locals.contains name && !(c.globals.contains name) && !(c.shared.contains name)).getD false
    if isLocal then
      raise "UnboundLocalError" ("cannot access local variable '" ++ Raw.text name ++ "' where it is not associated with a value")
    else
      let isGlobal := (here.map fun c => c.globals.contains name).getD false
      match lookUp s.scopes name scopeDepth false (if isGlobal then 0 else s.scope) with
      | some v => return v
      | none =>
        match builtin? name with
        | some v => return v
        | none =>
          let names (n : Nat) : List Text := ((s.scopes[n]?).map fun c => c.vars.map Prod.fst).getD []
          let tries := [names s.scope, names 0, builtinNames.map String.toList]
          let hint : List (Text × Value) := match tries.findSome? (suggestion? name) with
            | some t => [("hint".toList, .text t)]
            | none => []
          raiseWith "NameError" [.text ("name '" ++ Raw.text name ++ "' is not defined").toList] hint

/-- Does something for the items of a cursor in turn until it says that this is enough; true if it never did. -/
def forEach (m : Means) (c : Cursor) (f : Value → Running Bool) : (fuel : Nat) → Running Bool
  | 0 => return true
  | fuel + 1 => do
    match c with
    | .items [] => return true
    | .items (v :: rest) => if ← f v then forEach m (.items rest) f fuel else return false
    | .numbers _ _ 0 => return true
    | .numbers next step (count + 1) =>
      if ← f (.int next) then forEach m (.numbers (next + step) step count) f fuel else return false
    | .endless next step => if ← f (.int next) then forEach m (.endless (next + step) step) f fuel else return false
    | .lines stream =>
      match ← nextItem 0 (.lines stream) with
      | some v => if ← f v then forEach m c f fuel else return false
      | none => return true

/-- Does something while a test holds and until it says that this is enough; true if it never did. -/
def whileTrue (test : Running Bool) (f : Running Bool) : (fuel : Nat) → Running Bool
  | 0 => return true
  | fuel + 1 => do
    if ← test then
      if ← f then whileTrue test f fuel else return false
    else return true

/-- The body of a loop: false if the loop is left. -/
def loopBody (body : Running Unit) : Running Bool := do
  (do
    body
    return true) |> tryCatchThe Jump <| fun j => match j with
      | .leave => return false
      | .again => return true
      | j => throw j

/-- How many times a loop is gone through. -/
def loopBound : Nat := 1000000000000

/-- Values put in the places of several targets, of which one may take what the others leave. -/
def spreadOver (vs : List Value) (isStarred : List Bool) : Running (List Value) := do
  let n := isStarred.length
  match isStarred.findIdx? id with
  | none =>
    if vs.length < n then raise "ValueError" s!"not enough values to unpack (expected {n}, got {vs.length})"
    else if vs.length > n then raise "ValueError" s!"too many values to unpack (expected {n})"
    else return vs
  | some i =>
    if vs.length + 1 < n then raise "ValueError" s!"not enough values to unpack (expected at least {n - 1}, got {vs.length})"
    else
      let after := n - i - 1
      let middle ← newList ((vs.drop i).take (vs.length - i - after))
      return vs.take i ++ middle :: vs.drop (vs.length - after)

/-- The text of a fault as it is told. -/
def faultTold (file : Text) (source : Text) (f : Fault) : Text :=
  let isNamed := file.head? != some '<'
  let line := (Raw.lines source).getD (f.line - 1) []
  let blanks := (line.takeWhile fun c => c = ' ' || c = '\t').length
  let head := "  File \"".toList ++ file ++ "\", line ".toList ++ Raw.ofNat f.line
  let shown := head ++ "\n    ".toList ++ line.drop blanks
  let pointed (column width : Nat) : Text :=
    shown ++ "\n    ".toList ++ List.replicate (column - blanks) ' ' ++ List.replicate (max width 1) '^'
  match f.spot with
  | .range column width => pointed column width
  | .line => shown
  | .ofFile column width => if isNamed then pointed column width else head

/-- Begins to leave because of a fault in a text. -/
def raiseFault {α : Type} (file source : Text) (f : Fault) : Running α := do
  raiseWith f.kind [.text f.message.toList] [("fault".toList, .text (faultTold file source f)),
    ("shown text".toList, .text f.message.toList)]

/-- Whether a value names an object, by itself or as an item. -/
def names (n : Nat) : Value → Bool
  | .object k | .under k => n = k
  | .method (.object k) _ => n = k
  | .tuple vs => vs.any fun v => match v with
    | .object k => n = k
    | _ => false
  | _ => false

/-- Closes the files that nothing names any more. -/
def releaseStreams : Running Unit := do
  let s ← get
  if !s.opened.isEmpty then
    let held (n : Nat) : Bool :=
      (s.scopes.any fun c => c.vars.any fun e => names n e.2) || s.attributes.any (fun e => names n e.2) ||
        s.store.any fun o => match o with
          | .list vs => vs.any (names n)
          | .dict es => es.any fun e => names n e.2
          | .instance _ fs => fs.any fun e => names n e.2
          | _ => false
    let (kept, gone) := s.opened.partition held
    set { s with opened := kept }
    for n in gone do closeStream n

/-- Whether an exception is one of some kinds. -/
def isMishapOf (n : Nat) (kinds : Value) : Running Bool := do
  let s ← store
  return isOfKind s (.object n) 50 kinds

/-- Does something with an exception noted as being dealt with. -/
def dealingWith (n : Nat) (body : Running Unit) : Running Unit := do
  modify fun s => { s with dealing := n :: s.dealing }
  body |> tryCatchThe Jump <| fun j => do
    modify fun s => { s with dealing := s.dealing.drop 1 }
    throw j
  modify fun s => { s with dealing := s.dealing.drop 1 }

mutual

/-- What carrying out lends to the functions that are always there. -/
def means (c : Call) : (fuel : Nat) → Means
  | 0 => ⟨c, fun _ _ _ => return .nothing⟩
  | fuel + 1 => ⟨c, call c fuel⟩

/-- The value of an expression. -/
def eval (c : Call) : (fuel : Nat) → Expr → Running Value
  | 0, _ => raise "RecursionError" "maximum recursion depth exceeded"
  | fuel + 1, e => do
    let m := means c fuel
    match e with
    | .constant k =>
      match k with
      | .nothing => return .nothing
      | .truth b => return .truth b
      | .int n => return .int n
      | .real f => return .real f
      | .text t => return .text t
      | .octets r => return .octets r
      | .ellipsis => return .ellipsis
    | .name n => valueOfName n
    | .list es => newList (← evalAll c fuel es)
    | .tuple es => return .tuple (← evalAll c fuel es)
    | .set es => make m "set" [.tuple (← evalAll c fuel es)] []
    | .dict entries =>
      let parts ← entries.mapM fun (.mk key value) => do
        match key with
        | some k => do
          let kv ← eval c fuel k
          return [(kv, ← eval c fuel value)]
        | none => entriesOf m (← eval c fuel value)
      let s ← store
      match parts.flatten.find? fun e => !(e.1.isKey s Value.depth) with
      | some (k, _) => raiseKind ("unhashable type: '" ++ k.kindName s ++ "'")
      | none => create (.dict (parts.flatten.foldl (fun es (k, v) => withEntry s k v es) []))
    | .starred e => eval c fuel e
    | .part e name => part (← eval c fuel e) name
    | .element e key =>
      let v ← eval c fuel e
      elementOf m v (← eval c fuel key)
    | .slice a b k =>
      let one (e : Option Expr) : Running Value := do
        match e with
        | some e => eval c fuel e
        | none => return .nothing
      return .slice (← one a) (← one b) (← one k)
    | .call (.name ['s', 'u', 'p', 'e', 'r']) [] =>
      let s ← get
      match lookUp s.scopes "self kind".toList scopeDepth false s.scope, lookUp s.scopes "self".toList scopeDepth false s.scope with
      | some k, some v => create (.instance (.kind "super") [("self".toList, v), ("kind".toList, k)])
      | _, _ => raise "RuntimeError" "super(): no arguments"
    | .call f args =>
      let v ← eval c fuel f
      let (values, named) ← argumentsOf c fuel args
      call c fuel v values named
    | .prefixed op e => prefixed m op (← eval c fuel e)
    | .arithmetic op a b =>
      let x ← eval c fuel a
      arithmetic m op op.sign x (← eval c fuel b)
    | .compare a links => linked c fuel (← eval c fuel a) links
    | .both a b =>
      let x ← eval c fuel a
      if ← truthOf m x then eval c fuel b else return x
    | .either a b =>
      let x ← eval c fuel a
      if ← truthOf m x then return x else eval c fuel b
    | .not e => return .truth (!(← truthOf m (← eval c fuel e)))
    | .choice test yes no =>
      if ← truthOf m (← eval c fuel test) then eval c fuel yes else eval c fuel no
    | .function ps locals body =>
      let parameters ← parametersOf c fuel ps
      create (.function ⟨"<lambda>".toList, parameters, locals, .expr body, false, (← get).scope⟩)
    | .collect kind e clauses =>
      let found ← newList []
      inScope ⟨[], [], some (← get).scope, [], [], false⟩ do
        comprehend c fuel clauses do
          let v ← eval c fuel e
          match found with
          | .object n => match ← objectAt n with
            | .list vs => put n (.list (vs.push v))
            | _ => pure ()
          | _ => pure ()
      match kind with
      | .list => return found
      | .set => make m "set" [found] []
      | .iterator => create (.iterator (.items (← itemsOf m found)))
    | .collectDict k v clauses =>
      let found ← create (.dict [])
      inScope ⟨[], [], some (← get).scope, [], [], false⟩ do
        comprehend c fuel clauses do
          let key ← eval c fuel k
          setElement m found key (← eval c fuel v)
      return found
    | .joined parts => return .text (← joinedText c fuel parts)
    | .named n e =>
      let v ← eval c fuel e
      bindName n v
      return v
    | .yielded all e =>
      let v ← match e with
        | some e => eval c fuel e
        | none => pure .nothing
      let vs ← if all then itemsOf m v else pure [v]
      let s ← get
      match lookUp s.scopes "given values".toList scopeDepth false s.scope with
      | some (.object n) =>
        match ← objectAt n with
        | .list given =>
          put n (.list (given ++ vs.toArray))
          if given.size + vs.length > mostGiven then throw (.give .nothing)
        | _ => pure ()
      | _ => pure ()
      return .nothing

/-- The values of expressions, of which some are spread out. -/
def evalAll (c : Call) : (fuel : Nat) → List Expr → Running (List Value)
  | 0, _ => return []
  | fuel + 1, es => do
    let parts ← es.mapM fun e => do
      match e with
      | .starred e => itemsOf (means c fuel) (← eval c fuel e)
      | e => return [← eval c fuel e]
    return parts.flatten

/-- The values of arguments: those without a name and those with one. -/
def argumentsOf (c : Call) : (fuel : Nat) → List Argument → Running (List Value × List (Text × Value))
  | 0, _ => return ([], [])
  | fuel + 1, args => do
    let parts ← args.mapM fun (.mk giving e) => do
      let v ← eval c fuel e
      match giving with
      | .plain => return ([v], [])
      | .named n => return ([], [(n, v)])
      | .spread => return (← itemsOf (means c fuel) v, [])
      | .spreadNamed =>
        let es ← entriesOf (means c fuel) v
        return (([] : List Value), ← es.mapM fun e => do return (← textOf e.1, e.2))
    return ((parts.map Prod.fst).flatten, (parts.map Prod.snd).flatten)

/-- The parameters of a function with their usual values. -/
def parametersOf (c : Call) : (fuel : Nat) → List Parameter → Running (List (Taking × Text × Option Value))
  | 0, _ => return []
  | fuel + 1, ps => ps.mapM fun (.mk taking name usual) => do
    let v ← match usual with
      | some e => do pure (some (← eval c fuel e))
      | none => pure none
    return (taking, name, v)

/-- The further parts of a comparison, after its first value. -/
def linked (c : Call) : (fuel : Nat) → Value → List Link → Running Value
  | 0, _, _ => return .nothing
  | _, _, [] => return .truth true
  | fuel + 1, a, .mk op e :: rest => do
    let b ← eval c fuel e
    let r ← compared (means c fuel) op a b
    if rest.isEmpty then return r
    else if ← truthOf (means c fuel) r then linked c fuel b rest else return r

/-- Does something for what the clauses of a comprehension go through. -/
def comprehend (c : Call) : (fuel : Nat) → List Clause → Running Unit → Running Unit
  | 0, _, _ => return
  | _, [], body => body
  | fuel + 1, .provided test :: rest, body => do
    if ← truthOf (means c fuel) (← eval c fuel test) then comprehend c fuel rest body
  | fuel + 1, .each target source :: rest, body => do
    let cursor ← cursorOf (means c fuel) (← eval c fuel source)
    let _ ← forEach (means c fuel) cursor (fun v => do
      assign c fuel target v
      comprehend c fuel rest body
      return true) loopBound

/-- A text with expressions in it. -/
def joinedText (c : Call) : (fuel : Nat) → List TextPart → Running Text
  | 0, _ => return []
  | fuel + 1, parts => do
    let texts ← parts.mapM fun p => do
      match p with
      | .plain t => return t
      | .value e conversion form =>
        let v ← converted (means c fuel) (← eval c fuel e) conversion
        formatted (means c fuel) v (← joinedText c fuel form)
    return texts.flatten

/-- Gives what an expression names a value. -/
def assign (c : Call) : (fuel : Nat) → Expr → Value → Running Unit
  | 0, _, _ => return
  | fuel + 1, target, v => do
    match target with
    | .name n => bindName n v
    | .starred e => assign c fuel e v
    | .tuple targets | .list targets =>
      let vs ← (do itemsOf (means c fuel) v) |> tryCatchThe Jump <| fun j => do
        match v with
        | .int _ | .nothing | .truth _ | .real _ =>
          raiseKind ("cannot unpack non-iterable " ++ (← kindName v) ++ " object")
        | _ => throw j
      let vs ← spreadOver vs (targets.map fun t => t matches .starred _)
      for (t, v) in targets.zip vs do assign c fuel t v
    | .part e name =>
      match ← eval c fuel e with
      | .object n => setField n name v
      | .module mod => setAttributeOf mod name v
      | w => raise "AttributeError" ("'" ++ (← kindName w) ++ "' object has no attribute '" ++ Raw.text name ++ "'")
    | .element e key =>
      let w ← eval c fuel e
      setElement (means c fuel) w (← eval c fuel key) v
    | _ => raise "SyntaxError" "cannot assign to expression"

/-- What a value makes of others when it is called. -/
def call (c : Call) : (fuel : Nat) → Value → List Value → List (Text × Value) → Running Value
  | 0, _, _, _ => raise "RecursionError" "maximum recursion depth exceeded"
  | fuel + 1, f, args, named => do
    let m := means c fuel
    match f with
    | .builtin name =>
      let v ← if name.contains '.' then moduleCall? m name args named
        else call? m partOf? (carryOutText c fuel) name args named
      match v with
      | some v => return v
      | none => raise "NotImplementedError" name
    | .kind name => make m name args named
    | .method self name =>
      match self with
      | .object n =>
        let kind? : Option Value := match ← objectAt n with
          | .instance k _ => some k
          | .mishap x => some x.kind
          | _ => none
        match kind? with
        | some k => own c fuel self k name args named
        | none => asked c fuel self name args named
      | self => asked c fuel self name args named
    | .object n =>
      match ← objectAt n with
      | .function fn => apply c fuel fn [] args named
      | .kind _ =>
        match mishapBase? (← store) f with
        | some _ =>
          let v ← newMishap f args
          initialized c fuel v f args named false
          return v
        | none =>
          let v ← create (.instance f [])
          initialized c fuel v f args named true
          return v
      | .instance (.kind "bound") _ =>
        let self ← field n "self"
        match ← field n "function" with
        | .object i => match ← objectAt i with
          | .function fn => apply c fuel fn [("self kind".toList, ← ownerOf i self)] (self :: args) named
          | _ => call c fuel (.object i) args named
        | g => call c fuel g args named
      | .instance k _ => own c fuel f k "__call__".toList args named
      | _ => raiseKind ("'" ++ (← kindName f) ++ "' object is not callable")
    | v => raiseKind ("'" ++ (← kindName v) ++ "' object is not callable")

/-- The kind among those of a value that a function was made for. -/
def ownerOf (function : Nat) (self : Value) : Running Value := do
  let s ← store
  let has (k : Value) : Bool := match k with
    | .object n => match s.at n with
      | .kind c => c.attributes.any fun e => match e.2 with
        | .object i => i = function
        | _ => false
      | _ => false
    | _ => false
  return ((lineage s 50 (kindOf s self)).find? has).getD .nothing

/-- Carries out a function of the program; `hidden` are variables that it does not name. -/
def apply (c : Call) : (fuel : Nat) → Function → List (Text × Value) → List Value → List (Text × Value) → Running Value
  | 0, _, _, _, _ => return .nothing
  | fuel + 1, f, hidden, args, named => do
    let vars ← startingVariables f args named
    let work : Running Value := do
      match f.body with
      | .expr e => eval c fuel e
      | .lines ls =>
        execAll c fuel ls
        return .nothing
    if f.yields then
      let given ← newList []
      let _ ← inFunction f (vars ++ hidden ++ [("given values".toList, given)]) work
      create (.iterator (.items (← itemsOf (means c fuel) given)))
    else inFunction f (vars ++ hidden) work

/-- A method that is always there. -/
def asked (c : Call) : (fuel : Nat) → Value → Text → List Value → List (Text × Value) → Running Value
  | 0, _, _, _, _ => return .nothing
  | fuel + 1, self, name, args, named => do
    match ← ask? (means c fuel) self name args named with
    | some v => return v
    | none =>
      let kind ← kindName self
      if (methodsOf kind).contains (Raw.text name) then
        raiseKind (kind ++ "." ++ Raw.text name ++ s!"() takes a different number of arguments ({args.length} given)")
      else raise "AttributeError" ("'" ++ kind ++ "' object has no attribute '" ++ Raw.text name ++ "'")

/-- A method of a kind of the program. -/
def own (c : Call) : (fuel : Nat) → Value → Value → Text → List Value → List (Text × Value) → Running Value
  | 0, _, _, _, _, _ => return .nothing
  | fuel + 1, self, k, name, args, named => do
    match ownMethod?.inherited (← store) name 50 k with
    | some (.object i) =>
      match ← objectAt i with
      | .function fn => apply c fuel fn [("self kind".toList, ← ownerOf i self)] (self :: args) named
      | _ => call c fuel (.object i) args named
    | some v => call c fuel v args named
    | none =>
      if name = "__call__".toList then raiseKind ("'" ++ (← kindName self) ++ "' object is not callable")
      else asked c fuel self name args named

/-- Lets a new object be made ready by its kind; `strict` says that there are no arguments otherwise. -/
def initialized (c : Call) : (fuel : Nat) → Value → Value → List Value → List (Text × Value) → (strict : Bool) → Running Unit
  | 0, _, _, _, _, _ => return
  | fuel + 1, v, k, args, named, strict => do
    match ownMethod?.inherited (← store) "__init__".toList 50 k with
    | some _ =>
      let _ ← own c fuel v k "__init__".toList args named
    | none =>
      if strict && !(args.isEmpty && named.isEmpty) then raiseKind ((← kindName v) ++ "() takes no arguments")

/-- Carries out a text, which may be an expression. -/
def carryOutText (c : Call) : (fuel : Nat) → Bool → Text → Running Value
  | 0, _, _ => return .nothing
  | fuel + 1, isExpr, t => do
    let name := "<string>".toList
    let inside {α : Type} (body : Running α) : Running α := do
      let before := (← get).frames
      modify fun s => { s with frames := ⟨name, "<module>".toList, 1, []⟩ :: s.frames }
      let x ← body |> tryCatchThe Jump <| fun j => do
        modify fun s => { s with frames := before }
        throw j
      modify fun s => { s with frames := before }
      return x
    if isExpr then
      match exprOf (Raw.trimStart t) with
      | .ok e => inside (eval c fuel e)
      | .error f => raiseFault name t f
    else
      match linesOf t with
      | .ok ls =>
        inside (execAll c fuel ls)
        return .nothing
      | .error f => raiseFault name t f

/-- Carries out lines. -/
def execAll (c : Call) : (fuel : Nat) → List Line → Running Unit
  | 0, _ => return
  | fuel + 1, ls => ls.forM (exec c fuel)

/-- Carries out a line. -/
def exec (c : Call) : (fuel : Nat) → Line → Running Unit
  | 0, _ => raise "RecursionError" "maximum recursion depth exceeded"
  | fuel + 1, .mk number statement => do
    let m := means c fuel
    onLine number
    match statement with
    | .value e =>
      let _ ← eval c fuel e
      releaseStreams
    | .assign targets e =>
      let v ← eval c fuel e
      targets.forM fun t => assign c fuel t v
    | .update op target e =>
      let before ← eval c fuel target
      let v ← eval c fuel e
      let inPlace : Option (Nat × Array Value) ← match before, op with
        | .object n, .add => do
          match ← objectAt n with
          | .list vs => pure (some (n, vs))
          | _ => pure none
        | _, _ => pure none
      match inPlace with
      | some (n, vs) => put n (.list (vs ++ (← itemsOf m v).toArray))
      | none => assign c fuel target (← arithmetic m op (op.sign ++ "=") before v)
    | .delete targets => targets.forM (delete c fuel)
    | .idle => return
    | .leave => throw .leave
    | .again => throw .again
    | .give e =>
      match e with
      | some e => throw (.give (← eval c fuel e))
      | none => throw (.give .nothing)
    | .raise e cause => raised c fuel e cause
    | .check test message =>
      if !(← truthOf m (← eval c fuel test)) then
        match message with
        | some e => raiseWith "AssertionError" [← eval c fuel e] []
        | none => raiseWith "AssertionError" [] []
    | .importModules modules =>
      for (name, newName) in modules do
        let s := Raw.text name
        let top := Raw.text (name.takeWhile (· != '.'))
        if isModule s then
          match newName with
          | some a => bindName a (.module s)
          | none => bindName top.toList (.module top)
        else if isModule top && name.contains '.' then
          if (moduleFunctions.any fun e => e.1 == top) then
            raise "ModuleNotFoundError" ("No module named '" ++ s ++ "'; '" ++ top ++ "' is not a package")
          else bindName top.toList (.module top)
        else raise "ModuleNotFoundError" ("No module named '" ++ top ++ "'")
    | .importNames mod names =>
      let s := Raw.text mod
      if !(isModule s) then raise "ModuleNotFoundError" ("No module named '" ++ Raw.text (mod.takeWhile (· != '.')) ++ "'")
      for (name, newName) in names do
        if name = ['*'] then
          for f in (moduleFunctions.lookup s).getD [] do
            if !(f.startsWith "_") then bindName f.toList (.builtin (s ++ "." ++ f))
          if s == "signal" then
            for i in List.range 31 do
              match SignalNumber.name? (i + 1) with
              | some n => bindName ("SIG" ++ n).toList (.member "Signals" ("SIG" ++ n) (i + 1 : Nat))
              | none => pure ()
        else
          match ← attributeOfModule s name with
          | some v => bindName (newName.getD name) v
          | none =>
            let place := if ["sys", "time", "signal", "math", "errno", "itertools"].contains s then "unknown location"
              else "/usr/lib/python3.11/" ++ s ++ ".py"
            raise "ImportError" ("cannot import name '" ++ Raw.text name ++ "' from '" ++ s ++ "' (" ++ place ++ ")")
    | .globals names =>
      modify fun s => { s with scopes := s.scopes.modify s.scope fun c => { c with globals := names ++ c.globals } }
    | .outer names =>
      modify fun s => { s with scopes := s.scopes.modify s.scope fun c => { c with shared := names ++ c.shared } }
    | .choice test yes no =>
      if ← truthOf m (← eval c fuel test) then execAll c fuel yes else execAll c fuel no
    | .loop test body other =>
      let done ← whileTrue (do
        onLine number
        truthOf m (← eval c fuel test)) (loopBody do
          execAll c fuel body
          checkSignals m) loopBound
      if done then execAll c fuel other
    | .each target source body other =>
      let cursor ← cursorOf m (← eval c fuel source)
      let done ← forEach m cursor (fun v => do
        onLine number
        assign c fuel target v
        loopBody (execAll c fuel body)) loopBound
      if done then execAll c fuel other
    | .attempt body handlers other finish =>
      let depth := (← get).frames.length
      let attempted : Running Unit := do
        let failed : Option Nat ← (do
          execAll c fuel body
          return none) |> tryCatchThe Jump <| fun j => match j with
            | .raise n => return some n
            | j => throw j
        match failed with
        | none => execAll c fuel other
        | some n =>
          match ← objectAt n with
          | .mishap x => put n (.mishap { x with trace := x.trace.drop (depth - 1) })
          | _ => pure ()
          handled c fuel n handlers
      let jump : Option Jump ← (do
        attempted
        return none) |> tryCatchThe Jump <| fun j => return some j
      match jump with
      | none => execAll c fuel finish
      | some j =>
        match j with
        | .raise n => if !finish.isEmpty then dealingWith n (execAll c fuel finish)
        | _ => execAll c fuel finish
        throw j
    | .within items body => inContexts c fuel items body
    | .function name ps locals yields body wrappers =>
      let ws ← wrappers.mapM (eval c fuel)
      let parameters ← parametersOf c fuel ps
      let f ← create (.function ⟨name, parameters, locals, .lines body, yields, (← get).scope⟩)
      let v ← ws.reverse.foldlM (fun v w => call c fuel w [v] []) f
      bindName name v
    | .kind name bases body =>
      let (bs, _) ← argumentsOf c fuel bases
      let attributes ← inScope ⟨[], [], some (← get).scope, [], [], true⟩ do
        execAll c fuel body
        let s ← get
        return ((s.scopes[s.scope]?).map Scope.vars).getD []
      bindName name (← create (.kind ⟨name, bs, attributes⟩))
    checkSignals m

/-- Takes away what an expression names. -/
def delete (c : Call) : (fuel : Nat) → Expr → Running Unit
  | 0, _ => return
  | fuel + 1, target => do
    match target with
    | .name n => if !(← unbindName n) then raise "NameError" ("name '" ++ Raw.text n ++ "' is not defined")
    | .element e key =>
      let v ← eval c fuel e
      deleteElement v (← eval c fuel key)
    | .tuple es | .list es => es.forM (delete c fuel)
    | .part e name =>
      match ← eval c fuel e with
      | .object n => match ← objectAt n with
        | .instance k fs => put n (.instance k (fs.filter fun f => f.1 != name))
        | _ => pure ()
      | _ => pure ()
    | _ => return

/-- Begins to leave because of an exception that the program names. -/
def raised (c : Call) : (fuel : Nat) → Option Expr → Option Expr → Running Unit
  | 0, _, _ => return
  | fuel + 1, e, cause => do
    match e with
    | none =>
      match (← get).dealing with
      | n :: _ => throw (.raise n)
      | [] => raise "RuntimeError" "No active exception to reraise"
    | some e =>
      let made (v : Value) : Running (Option Nat) := do
        let w ← match v with
          | .kind _ => do
            if (mishapBase? (← store) v).isSome then call c fuel v [] [] else pure v
          | .object n => do
            match ← objectAt n with
            | .kind _ => if (mishapBase? (← store) v).isSome then call c fuel v [] [] else pure v
            | _ => pure v
          | v => pure v
        match w with
        | .object n => match ← objectAt n with
          | .mishap _ => return some n
          | _ => return none
        | _ => return none
      match ← made (← eval c fuel e) with
      | none => raiseKind "exceptions must derive from BaseException"
      | some n =>
        let (reason, bare) ← match cause with
          | none => pure (none, false)
          | some k => do
            match ← eval c fuel k with
            | .nothing => pure (none, true)
            | v => pure (← made v, false)
        let s ← get
        match s.store.at n with
        | .mishap x =>
          put n (.mishap { x with
            trace := s.places ++ x.trace
            cause := if reason.isSome then reason else x.cause
            bare := bare || x.bare
            context := if x.context.isSome then x.context else s.dealing.find? (· != n) })
        | _ => pure ()
        throw (.raise n)

/-- Deals with an exception by the first handler that is meant for it. -/
def handled (c : Call) : (fuel : Nat) → Nat → List Handler → Running Unit
  | 0, n, _ => throw (.raise n)
  | _, n, [] => throw (.raise n)
  | fuel + 1, n, .mk number kinds name body :: rest => do
    onLine number
    let fits ← match kinds with
      | none => pure true
      | some e => do isMishapOf n (← eval c fuel e)
    if fits then
      dealingWith n do
        match name with
        | some t => bindName t (.object n)
        | none => pure ()
        execAll c fuel body
        match name with
        | some t =>
          let _ ← unbindName t
        | none => pure ()
    else handled c fuel n rest

/-- Carries out lines between the beginnings and the ends of contexts. -/
def inContexts (c : Call) : (fuel : Nat) → List (Expr × Option Expr) → List Line → Running Unit
  | 0, _, _ => return
  | fuel + 1, [], body => execAll c fuel body
  | fuel + 1, (e, target) :: rest, body => do
    let v ← eval c fuel e
    let inner ← call c fuel (← part v "__enter__".toList) [] []
    match target with
    | some t => assign c fuel t inner
    | none => pure ()
    let finish (args : List Value) : Running Value := do
      call c fuel (← part v "__exit__".toList) args []
    let jump : Option Jump ← (do
      inContexts c fuel rest body
      return none) |> tryCatchThe Jump <| fun j => return some j
    match jump with
    | some (.raise n) =>
      let r ← finish [kindOf (← store) (.object n), .object n, .nothing]
      if !(← truthOf (means c fuel) r) then throw (.raise n)
    | some j =>
      let _ ← finish [.nothing, .nothing, .nothing]
      throw j
    | none =>
      let _ ← finish [.nothing, .nothing, .nothing]

end

/-- How deep expressions and statements stand inside one another. -/
def evaluationBound : Nat := 1000000000

end RunMeter.Machine.Python
