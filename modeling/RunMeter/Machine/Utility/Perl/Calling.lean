import RunMeter.Machine.Utility.Perl.Texts

/-!
# RunMeter.Machine.Utility.Perl.Calling — functions and methods called

* `called`: the values of a call.
* `library`: the value of a function of values.

Nothing that is proved depends on this module.
-/

namespace RunMeter.Machine.Perl
namespace Running

/-- A step of a program, at which others may go on and signals are dealt with. -/
def pausing (m : Means) : Running Unit := do
  act (Act.ask fun _ _ => ())
  let s ← get
  if s.catches || s.alarm.isSome then let _ ← checkSignals m

/-- Tells a warning: to the function that wants to know, or as a message. -/
def warn (m : Means) (v : Value) : Running Unit := do
  match ((← tableOf signalCell).get? "__WARN__".toList) with
  | some f =>
    match ← handlerOf f with
    | some g => let _ ← m.call g [v] false
    | none => tell (← textOf v)
  | none => tell (← textOf v)

/-- The value of a mishap with some values. -/
def mishapOf (usual : String) (args : List Value) : Running Value := do
  match args with
  | [v@(.reference ..)] => return v
  | args =>
    let r := (← args.mapM textOf).flatten
    let r ← if r.isEmpty then do
        let before := (← plain "@").toText
        pure (if before.isEmpty then usual.toList else before ++ "\t...propagated".toList)
      else pure r
    if r.getLast? = some '\n' then return .text r else return .text (r ++ (← whereabouts))

/-- Begins to leave because of a mishap, which a function may want to know first. -/
def dying {α : Type} (m : Means) (v : Value) : Running α := do
  match ((← tableOf signalCell).get? "__DIE__".toList) with
  | some f =>
    match ← handlerOf f with
    | some g =>
      onTable signalCell fun t => t.erase "__DIE__".toList
      let _ ← m.call g [v] false
      onTable signalCell fun t => t.put "__DIE__".toList f
    | none => pure ()
  | none => pure ()
  throw (.die v)

/-- The value of a function of values. -/
def library (m : Means) (name : String) (vs : List Value) (wants : Bool) : Running (Option (List Value)) := do
  match pureCall? name vs wants with
  | some (.ok vs) => return some vs
  | some (.error message) => die message.toList
  | none =>
    match name with
    | "ref" => return some [.text (← referenceKind (vs.headD .undefined))]
    | "blessed" =>
      match ← kindOf? (vs.headD .undefined) with
      | some k => return some [.text k]
      | none => return some [.undefined]
    | "reftype" =>
      match vs.headD .undefined with
      | .reference sign _ => return some [.text sign.word.toList]
      | _ => return some [.undefined]
    | "bless" =>
      match vs with
      | v@(.reference _ n) :: rest =>
        let own := (← get).package
        let package := match rest with
          | k :: _ => k.toText
          | [] => own
        modify fun s => { s with kinds := s.kinds.insert n package }
        return some [v]
      | _ => die "Can't bless non-reference value".toList
    | "die" =>
      let v ← mishapOf "Died" vs
      dying m v
    | "warn" | "carp" | "cluck" =>
      let v ← mishapOf "Warning: something's wrong" vs
      warn m v
      return some [.int 1]
    | "croak" | "confess" =>
      match vs with
      | [v@(.reference ..)] => dying m v
      | vs =>
        let r := (← vs.mapM textOf).flatten
        let s ← get
        let line := match s.frames with
          | f :: _ => f.line
          | [] => s.line
        dying m (.text (r ++ " at ".toList ++ s.file ++ " line ".toList ++ Raw.ofNat line ++ ".\n".toList))
    | "exit" => throw (.exit (UInt8.ofNat ((vs.headD .undefined).toInt % 256).toNat))
    | name => systemCall? m name vs wants

/-- Carries out a piece of program; a mishap ends it and not the whole. -/
def attempted (m : Means) (wants : Bool) (body : List Statement) : Running (List Value) := do
  let before ← get
  let (frames, args, package, scope) := (before.frames, before.args, before.package, before.scope)
  let line := before.line
  let count := before.undo.length
  (do
    let vs ← inBlock (m.carryOut wants body)
    setPlain "@" (.text [])
    return vs) |> tryCatchThe Jump <| fun j => do
      match j with
      | .die v =>
        undoTo count 1000000
        modify fun s => { s with frames, args, package, scope, line }
        setPlain "@" v
        return if wants then [] else [.undefined]
      | .give vs =>
        setPlain "@" (.text [])
        return vs
      | j => throw j

/-- Leaves a function with values. -/
def giveBack (m : Means) (values : Option Expr) : Running Value := do
  match values with
  | none => throw (.give [])
  | some e =>
    let wants := ((← get).frames.head?.map Frame.wantsMany).getD false
    let vs ← if wants then m.many e else do pure [← m.single e]
    throw (.give vs)

/-- The name of what a cell for a function should have been. -/
def missingName (n : Nat) : Running Raw := do
  let name := ((← get).globals.toList.find? fun e => e.2 = n && e.1.head? = some '&').map fun e => e.1.drop 1
  let name := name.getD "__ANON__".toList
  return if name.contains ':' then name else "main::".toList ++ name

/-- Carries out a function with the arguments in a cell. -/
def invokeWith (carryOut : (many : Bool) → List Statement → Running (List Value)) (f : Value) (args : Nat) (wants : Bool) :
    Running (List Value) := do
  let n ← match f with
    | .reference .code n => pure n
    | .undefined => die "Can't use an undefined value as a subroutine reference".toList
    | .reference .. => die "Not a CODE reference".toList
    | v =>
      let name := shortName v.toText
      match ← codeCell? name with
      | some n => pure n
      | none => die ("Undefined subroutine &main::".toList ++ name ++ " called".toList)
  match ← cell n with
  | .code k =>
    if k.name.isEmpty then die ("Undefined subroutine &".toList ++ (← missingName n) ++ " called".toList)
    else
      act (Act.ask fun _ _ => ())
      let s ← get
      let frame : Frame := ⟨s.package, s.line, k.name, wants⟩
      let (before, oldArgs, frames, package, line) := (s.scope, s.args, s.frames, s.package, s.line)
      let count := s.undo.length
      set { s with scope := k.scope.getD s.scope, args := args, frames := frame :: s.frames, package := k.package }
      let afterwards : Running Unit := do
        if (← get).undo.length > count then undoTo count 1000000
        modify fun s => { s with scope := before, args := oldArgs, frames, package, line }
      let vs ← (carryOut wants k.body) |> tryCatchThe Jump <| fun j => do
        match j with
        | .give vs => return vs
        | j => do
          afterwards
          throw j
      afterwards
      return if wants then vs else [vs.getLastD .undefined]
  | _ => die "Not a CODE reference".toList

/-- Carries out a function. -/
def invoke (carryOut : (many : Bool) → List Statement → Running (List Value)) (f : Value) (args : List Value) (wants : Bool) :
    Running (List Value) := do
  let n ← newCell (.array args.toArray)
  invokeWith carryOut f n wants

/-- What is asked of a stream by a method. -/
def streamMethod? (m : Means) (n : Nat) (name : String) (args : List Value) (many : Bool) : Running (Option (List Value)) := do
  let one (v : Value) : Running (Option (List Value)) := return some [v]
  let separator := (← plain ",").toText
  match name with
  | "autoflush" =>
    let on := args.head?.elim true Value.isTrue
    onStream n fun s => { s with prompt := on }
    if on then let _ ← flush n
    one (.int 1)
  | "flush" => do one (.ofBool (← flush n))
  | "print" => do one (.ofBool (← emit n (Raw.joined separator (← args.mapM textOf))))
  | "say" => do one (.ofBool (← emit n (Raw.joined separator (← args.mapM textOf) ++ ['\n'])))
  | "printf" => do
    let vs ← args.mapM plainValue
    one (.ofBool (← emit n (printedWith (vs.headD .undefined).toText (vs.drop 1))))
  | "close" => do one (.ofBool (← closeStream m n))
  | "fileno" => match (← streamOf n).fd with
    | some fd => one (.int fd)
    | none => one .undefined
  | "opened" => do one (.ofBool (← streamOf n).fd.isSome)
  | "eof" => do one (.ofBool (← isAtEnd m n))
  | "getline" => do one (((← takeLine m n).map Value.text).getD .undefined)
  | "getlines" => do
    let ls ← takeLines m n Act.blockBound
    return some (ls.map Value.text)
  | "binmode" | "blocking" => if many then return some [.int 1] else one (.int 1)
  | _ => return none

/-- A method of a value. -/
def methodCall (m : Means) (self : Value) (name : Raw) (vs : List Value) (wants : Bool) : Running (List Value) := do
  let text := Raw.text name
  let package : Raw ← match self with
    | .reference .handle n =>
      match ← kindOf? self with
      | some k => pure k
      | none =>
        let _ := n
        pure "IO::File".toList
    | .reference .. =>
      match ← kindOf? self with
      | some k => pure k
      | none => die ("Can't call method \"".toList ++ name ++ "\" on unblessed reference".toList)
    | .undefined => die ("Can't call method \"".toList ++ name ++ "\" on an undefined value".toList)
    | v =>
      if v.toText.isEmpty then
        die ("Can't call method \"".toList ++ name ++ "\" without a package or object reference".toList)
      else pure v.toText
  let (start, name) : Raw × Raw ←
    if "SUPER::".toList.isPrefixOf name then do pure ((← get).package, name.drop 7) else pure (package, name)
  let found ← if start != package || "SUPER::".toList.isPrefixOf text.toList then do
      let parents ← match (← get).globals.get? (keyOf .array (start ++ "::ISA".toList)) with
        | some n => arrayOf n
        | none => pure #[]
      let all ← parents.toList.mapM fun p => methodCell? 50 p.toText name
      pure (all.filterMap id).head?
    else if name.contains ':' then codeCell? (shortName name)
    else methodCell? 50 package name
  match found with
  | some n => m.call (.reference .code n) (self :: vs) wants
  | none =>
    let viaStream : Option (List Value) ← match self with
      | .reference .handle n => streamMethod? m n text vs wants
      | _ => pure none
    match viaStream with
    | some vs => return vs
    | none =>
      match text with
      | "isa" => do return [.ofBool (← isKind 50 package (vs.headD .undefined).toText)]
      | "can" =>
        match ← methodCell? 50 package (vs.headD .undefined).toText with
        | some n => return [.reference .code n]
        | none => return [.ofBool false]
      | "import" | "unimport" | "DESTROY" => return []
      | "VERSION" => return [.undefined]
      | _ =>
        let known :=
          (← get).globals.toList.any fun e => (e.1.drop 1).take (package.length + 2) == package ++ "::".toList
        die ("Can't locate object method \"".toList ++ name ++ "\" via package \"".toList ++ package ++ "\"".toList ++
          (if known then [] else " (perhaps you forgot to load \"".toList ++ package ++ "\"?)".toList))

/-- The values of a call. -/
def called (m : Means) (wants : Bool) (e : Expr) : Running (List Value) := do
  match e with
  | .call name args =>
    match ← codeCell? name with
    | some n =>
      match args with
      | some es =>
        let vs ← manyOf m es
        m.call (.reference .code n) vs wants
      | none => do invokeWith m.carryOut (.reference .code n) (← get).args wants
    | none =>
      let vs ← match args with
        | some es => manyOf m es
        | none => pure []
      -- a function of a module may be called by its full name
      let bare := Raw.text ((name.reverse.takeWhile (· != ':')).reverse)
      let modules := ["POSIX::", "Time::HiRes::", "List::Util::", "Scalar::Util::", "Cwd::", "Data::Dumper::", "Carp::",
        "CORE::"]
      let known := name.contains ':' && modules.any fun start => (Raw.text name).startsWith start
      let inner :=
        if (Raw.text name).startsWith "Time::HiRes::" && ["sleep", "time", "alarm"].contains bare then
          "Time::HiRes::" ++ bare
        else bare
      match ← (if known then library m inner vs wants else return none) with
      | some vs => return vs
      | none =>
        die ("Undefined subroutine &".toList ++ (if name.contains ':' then name else "main::".toList ++ name) ++ " called".toList)
  | .invoke code args =>
    let f ← m.single code
    match args with
    | some es =>
      let vs ← manyOf m es
      m.call f vs wants
    | none => do invokeWith m.carryOut f (← get).args wants
  | .method goal name code args =>
    let self ← match goal with
      | .bare w => do
        match ← streamCell? (.text w) with
        | some n => if w.all Char.isUpper then pure (Value.reference .handle n) else pure (Value.text w)
        | none => pure (.text w)
      | goal => m.single goal
    let vs ← manyOf m args
    match code with
    | some f => do
      let f ← m.single f
      match f with
      | .reference .code _ => m.call f (self :: vs) wants
      | f => methodCall m self f.toText vs wants
    | none => methodCall m self name vs wants
  | _ => return []

/-- A function of a piece of program and values. -/
def blockFunction (m : Means) (name : String) (body : List Statement) (args : List Expr) : Running (List Value) := do
  let vs ← manyOf m args
  let key := keyOf .scalar ['_']
  let s ← get
  let before := s.globals.get? key
  let once (v : Value) (wants : Bool) : Running (List Value) := do
    let n ← newCell (.scalar v)
    modify fun s => { s with globals := s.globals.insert key n }
    inBlock (m.carryOut wants body)
  let test (v : Value) : Running Bool := do
    return ((← once v false).getLastD .undefined).isTrue
  let pair (a b : Value) : Running Value := do
    setPlain "a" a
    setPlain "b" b
    return (← inBlock (m.carryOut false body)).getLastD .undefined
  let afterwards : Running Unit := modify fun s => { s with globals := match before with
    | some n => s.globals.insert key n
    | none => s.globals.erase key }
  let result ← (match name with
    | "map" => do
      let parts ← vs.mapM fun v => once v true
      return parts.flatten
    | "grep" => vs.filterM test
    | "sort" => mergeSorted (fun a b => do return (← pair a b).toInt ≤ 0) 64 vs
    | "first" => do
      match ← vs.findM? test with
      | some v => return [v]
      | none => return [.undefined]
    | "any" => do return [.ofBool (← vs.anyM test)]
    | "all" => do return [.ofBool (← vs.allM test)]
    | "none" => do return [.ofBool !(← vs.anyM test)]
    | "notall" => do return [.ofBool !(← vs.allM test)]
    | "reduce" => do
      match vs with
      | [] => return [.undefined]
      | v :: rest => return [← rest.foldlM pair v]
    | _ => return [] : Running (List Value)) |> tryCatchThe Jump <| fun j => do
      afterwards
      throw j
  afterwards
  return result

end Running
end RunMeter.Machine.Perl
