import RunMeter.Machine.Utility.Python.Value
import RunMeter.Machine.Utility.Starting

/-!
# RunMeter.Machine.Utility.Python.State — a Python program at work

The objects, the scopes of names, the functions that are being carried out, and the streams.

* `raise`: begins to leave what is being carried out because of an exception.
* `emit`, `flush`: output on its way.
* `takeLine`, `takeAll`: input.

Nothing that is proved depends on this module.
-/

namespace RunMeter.Machine.Python

/-- Names and what they stand for. -/
structure Scope where
  vars : List (Text × Value)
  /-- The names that a function binds itself. -/
  locals : List Text
  /-- The scope around it. -/
  outer : Option Nat
  globals : List Text
  shared : List Text
  /-- Whether it is that of a kind of objects, which functions in it do not see. -/
  isKind : Bool

/-- The state of a program. -/
structure State where
  store : Store
  scopes : Array Scope
  scope : Nat
  /-- Where the functions that are being carried out are, the innermost first. -/
  frames : List Spot
  /-- What the program's text is called, and its lines if they are shown with exceptions. -/
  file : Text
  listing : List Text
  handlers : List (Nat × Value)
  /-- What names in modules stand for, where that is not fixed. -/
  attributes : List ((String × Text) × Value)
  atExit : List (Value × List Value)
  /-- The files that the program has opened. -/
  opened : List Nat
  /-- When the next alarm comes. -/
  alarm : Option Instant
  /-- The exceptions that are being dealt with, the innermost first. -/
  dealing : List Nat
  seed : Nat
  /-- How many functions can be carried out inside one another. -/
  limit : Nat

/-- Where the functions that are being carried out are, the outermost first, with what is shown of the lines. -/
def State.places (s : State) : List Spot :=
  s.frames.reverse.map fun f =>
    if f.source.isEmpty && f.file == s.file then
      { f with source := ((s.listing[f.line - 1]?).map fun l => Raw.trim l).toList }
    else f

/-- Why a program does not go on to the next statement. -/
inductive Jump where
  | leave
  | again
  | give (v : Value)
  | raise (n : Nat)

/-- A part of a program that is carried out. -/
abbrev Running := ExceptT Jump (StateT State Act)

namespace Running

/-- Does something in the machine. -/
def act {α : Type} (a : Act α) : Running α := ExceptT.lift (StateT.lift a)

/-- The objects. -/
def store : Running Store := return (← get).store

/-- The object with a number. -/
def objectAt (n : Nat) : Running Object := return (← get).store.at n

/-- A new object. -/
def create (o : Object) : Running Value := do
  let s ← get
  set { s with store := s.store.push o }
  return .object s.store.size

/-- Puts an object in the place of another. -/
def put (n : Nat) (o : Object) : Running Unit :=
  modify fun s => { s with store := s.store.setIfInBounds n o }

/-- A new list. -/
def newList (vs : List Value) : Running Value := create (.list vs.toArray)

/-! ## Exceptions -/

/-- Begins to leave because of an exception. -/
def raiseMishap {α : Type} (m : Mishap) : Running α := do
  let s ← get
  let m := { m with
    trace := s.places ++ m.trace
    context := if m.context.isSome then m.context else s.dealing.head? }
  set { s with store := s.store.push (.mishap m) }
  throw (.raise s.store.size)

/-- Begins to leave because of an exception with a kind and values. -/
def raiseWith {α : Type} (kind : String) (args : List Value) (attributes : List (Text × Value)) : Running α :=
  raiseMishap ⟨.kind kind, args, attributes, none, none, false, []⟩

/-- Begins to leave because of an exception with a message. -/
def raise {α : Type} (kind message : String) : Running α := raiseWith kind [.text message.toList] []

/-- The kind of exceptions for an error of the system. -/
def errnoKind (e : Errno) : String :=
  match e.number.toNatClampNeg with
  | 1 | 13 => "PermissionError"
  | 2 => "FileNotFoundError"
  | 3 => "ProcessLookupError"
  | 4 => "InterruptedError"
  | 10 => "ChildProcessError"
  | 11 => "BlockingIOError"
  | 17 => "FileExistsError"
  | 20 => "NotADirectoryError"
  | 21 => "IsADirectoryError"
  | 32 => "BrokenPipeError"
  | 110 => "TimeoutError"
  | _ => "OSError"

/-- Begins to leave because of an error of the system, about files if there are any. -/
def raiseErrno {α : Type} (e : Errno) (paths : List Value) : Running α := do
  let number := Value.int e.number.toNatClampNeg
  let message := Value.text e.message.toList
  let named := (["filename", "filename2"].zip paths).map fun (n, v) => (n.toList, v)
  raiseWith (errnoKind e) [number, message] ([("errno".toList, number), ("strerror".toList, message)] ++ named)

/-- The value of something that the system may refuse. -/
def granted {α : Type} (result : Except Errno α) (paths : List Value) : Running α := do
  match result with
  | .ok x => return x
  | .error e => raiseErrno e paths

/-- Begins to leave because of the kind of a value. -/
def raiseKind {α : Type} (message : String) : Running α := raise "TypeError" message

/-- The name of a value's kind. -/
def kindName (v : Value) : Running String := return v.kindName (← store)

/-- A value as it is printed. -/
def printed (v : Value) : Running Text := return v.printed (← store)

/-- Begins to leave because of an exception that arises in places of a library. -/
def raiseIn {α : Type} (places : List Spot) (raising : Running α) : Running α := do
  modify fun s => { s with frames := places.reverse ++ s.frames }
  let x ← raising |> tryCatchThe Jump <| fun j => do
    modify fun s => { s with frames := s.frames.drop places.length }
    throw j
  modify fun s => { s with frames := s.frames.drop places.length }
  return x

/-- The number of the object that holds the variables of the program. -/
def environmentObject : Nat := 4

/-! ## Streams -/

/-- The stream that a value names, with its number, and whether it is taken as one of octets. -/
def stream? (v : Value) : Running (Option (Nat × Stream × Bool)) := do
  match v with
  | .object n => match ← objectAt n with
    | .stream s => return some (n, s, s.octets)
    | _ => return none
  | .under n => match ← objectAt n with
    | .stream s => return some (n, s, true)
    | _ => return none
  | _ => return none

/-- How many octets are kept before they are written. -/
def keptMost : Nat := 8192

/-- Writes what is kept of a stream.  It stays kept if that fails. -/
def tryFlush (n : Nat) : Running (Option Errno) := do
  match ← objectAt n with
  | .stream s =>
    let kept := s.pending ++ s.kept
    if kept.isEmpty then return none
    else
      let s := { s with pending := [], pendingSize := 0, kept := kept, keptSize := s.keptSize + s.pendingSize }
      match ← act (Act.write s.fd kept.reverse.flatten) with
      | none =>
        put n (.stream { s with kept := [], keptSize := 0 })
        return none
      | some e =>
        put n (.stream s)
        return some e
  | _ => return none

/-- Writes what is kept of a stream. -/
def flush (n : Nat) : Running Unit := do
  match ← tryFlush n with
  | none => return
  | some e => raiseErrno e []

/-- Writes what is kept of a stream that holds too much.  It is lost if that fails. -/
def overflow (n : Nat) : Running Unit := do
  match ← tryFlush n with
  | none => return
  | some e =>
    match ← objectAt n with
    | .stream s => put n (.stream { s with kept := [], keptSize := 0 })
    | _ => pure ()
    raiseErrno e []

/-- Puts octets on their way; `beneath` says that they do not wait with the text. -/
def emit (n : Nat) (beneath : Bool) (octets : Raw) : Running Unit := do
  match ← objectAt n with
  | .stream s =>
    if beneath || s.octets then
      put n (.stream { s with kept := octets :: s.kept, keptSize := s.keptSize + octets.length })
      if s.prompt then flush n
      else if s.keptSize + octets.length > keptMost then overflow n
    else
      let size := s.pendingSize + octets.length
      put n (.stream { s with pending := octets :: s.pending, pendingSize := size })
      if s.prompt || (s.byLine && octets.contains '\n') then flush n
      else if size > keptMost then
        let s := { s with pending := [], pendingSize := 0, kept := octets :: s.pending ++ s.kept, keptSize := s.keptSize + size }
        put n (.stream s)
        if s.keptSize > keptMost then overflow n
  | _ => return

/-- Reads more of a stream; false at its end. -/
def readMore (n : Nat) (s : Stream) (paths : List Value) : Running (Stream × Bool) := do
  if s.atEnd then return (s, false)
  else
    match ← granted (← act (Act.readOrSignal s.fd keptMost)) paths with
    | [] =>
      put n (.stream s)
      return (s, false)
    | octets =>
      let s := { s with ahead := s.ahead ++ octets }
      put n (.stream s)
      return (s, true)

/-- Reads a line of a stream, its end included. -/
def takeLineWithin (n : Nat) : (fuel : Nat) → Running Raw
  | 0 => return []
  | fuel + 1 => do
    match ← objectAt n with
    | .stream s =>
      let line := s.ahead.takeWhile (· != '\n')
      match s.ahead.drop line.length with
      | e :: rest =>
        put n (.stream { s with ahead := rest })
        return line ++ [e]
      | [] =>
        let (s, more) ← readMore n s []
        if more then takeLineWithin n fuel
        else
          put n (.stream { s with ahead := [] })
          return line
    | _ => return []

/-- Reads a line of a stream, its end included; nothing at the end. -/
def takeLine (n : Nat) : Running Raw := takeLineWithin n Act.blockBound

/-- Reads so many octets of a stream, or all that is left. -/
def takeWithin (n : Nat) (count : Option Nat) : (fuel : Nat) → Running Raw
  | 0 => return []
  | fuel + 1 => do
    match ← objectAt n with
    | .stream s =>
      let enough : Bool := match count with
        | some c => decide (s.ahead.length ≥ c)
        | none => false
      if enough then
        put n (.stream { s with ahead := s.ahead.drop (count.getD 0) })
        return s.ahead.take (count.getD 0)
      else
        let (s, more) ← readMore n s []
        if more then takeWithin n count fuel
        else
          put n (.stream { s with ahead := [] })
          return s.ahead
    | _ => return []

/-- Reads so many octets of a stream, or all that is left. -/
def takeOctets (n : Nat) (count : Option Nat) : Running Raw := takeWithin n count Act.blockBound

/-- Reads all lines that are left. -/
def takeLines (n : Nat) : (fuel : Nat) → Running (List Raw)
  | 0 => return []
  | fuel + 1 => do
    match ← takeLine n with
    | [] => return []
    | line => return line :: (← takeLines n fuel)

/-! ## Names -/

/-- What a name stands for in a scope and those around it. -/
def lookUp (scopes : Array Scope) (name : Text) : (fuel : Nat) → (inner : Bool) → (n : Nat) → Option Value
  | 0, _, _ => none
  | fuel + 1, inner, n =>
    match scopes[n]? with
    | none => none
    | some s =>
      let found := if inner && s.isKind then none else s.vars.lookup name
      match found with
      | some v => some v
      | none => s.outer.bind (lookUp scopes name fuel true)

/-- How many scopes stand around one another at most. -/
def scopeDepth : Nat := 1000

/-- A list of names with one bound. -/
def bound (vars : List (Text × Value)) (name : Text) (v : Value) : List (Text × Value) :=
  match vars with
  | [] => [(name, v)]
  | (n, old) :: rest => if n == name then (name, v) :: rest else (n, old) :: bound rest name v

/-- The scope that a name is bound in when it is bound here. -/
def homeOf (s : State) (name : Text) : (fuel : Nat) → (n : Nat) → Nat
  | 0, n => n
  | fuel + 1, n =>
    match s.scopes[n]? with
    | none => 0
    | some c =>
      if c.globals.contains name then 0
      else if c.shared.contains name then
        match c.outer with
        | some o => owner o fuel
        | none => 0
      else n
where
  /-- The nearest scope outwards that has the name. -/
  owner (n : Nat) : (fuel : Nat) → Nat
    | 0 => n
    | fuel + 1 =>
      match s.scopes[n]? with
      | none => 0
      | some c =>
        if (c.vars.any fun e => e.1 == name) || c.locals.contains name then n
        else match c.outer with
          | some o => owner o fuel
          | none => n

/-- Binds a name. -/
def bindName (name : Text) (v : Value) : Running Unit :=
  modify fun s =>
    let n := homeOf s name scopeDepth s.scope
    { s with scopes := s.scopes.modify n fun c => { c with vars := bound c.vars name v } }

/-- Unbinds a name; false if it was not bound. -/
def unbindName (name : Text) : Running Bool := do
  let s ← get
  let n := homeOf s name scopeDepth s.scope
  let had := ((s.scopes[n]?).map fun c => c.vars.any fun e => e.1 == name).getD false
  set { s with scopes := s.scopes.modify n fun c => { c with vars := c.vars.filter fun e => e.1 != name } }
  return had

/-- Makes a scope and does something in it. -/
def inScope {α : Type} (scope : Scope) (body : Running α) : Running α := do
  let s ← get
  let before := s.scope
  set { s with scopes := s.scopes.push scope, scope := s.scopes.size }
  let x ← body |> tryCatchThe Jump <| fun j => do
    modify fun s => { s with scope := before }
    throw j
  modify fun s => { s with scope := before }
  return x

/-- Notes the line that is being carried out. -/
def onLine (n : Nat) : Running Unit :=
  modify fun s =>
    match s.frames with
    | f :: rest => { s with frames := { f with line := n } :: rest }
    | [] => s

end Running
end RunMeter.Machine.Python
