import RunMeter.Machine.Regex.Ordered
import RunMeter.Machine.Utility.Perl.Reading
import RunMeter.Machine.Utility.Perl.Value
import RunMeter.Machine.Utility.Starting

/-!
# RunMeter.Machine.Utility.Perl.State — a Perl program at work

Variables are numbered cells; names of blocks and names of packages lead to cells, and so do references.

* `Running.die`: begins to leave what is being carried out because of a mishap.
* `Running.emit`, `Running.flush`: output on its way.
* `Running.takeLine`: input.

Nothing that is proved depends on this module.
-/

namespace RunMeter.Machine.Perl

/-- Names with their signs, and the cells that they lead to. -/
abbrev Scope := List (Raw × Nat)

/-- A function of a program. -/
structure Code where
  name : Raw
  package : Raw
  body : List Statement
  /-- The names that it sees; none if those of its callers. -/
  scope : Option Scope

/-- A file or the like that is read or written. -/
structure Stream where
  /-- Its name, for messages. -/
  name : Raw
  fd : Option Nat
  reads : Bool
  writes : Bool
  ahead : Raw
  atEnd : Bool
  /-- What is still to be written, the last first. -/
  kept : List Raw
  keptSize : Nat
  /-- Whether all is written at once. -/
  prompt : Bool
  /-- Whether characters are written in several octets. -/
  wide : Bool
  /-- How many lines have been read. -/
  lines : Nat
  /-- The process at the other end. -/
  partner : Option Pid
  /-- The variable that stands for the file. -/
  memory : Option Nat
  /-- The names that are left of a directory. -/
  names : Option (List Raw)

namespace Stream

/-- A stream of a descriptor. -/
def ofFd (name : Raw) (fd : Nat) (reads writes prompt : Bool) : Stream :=
  ⟨name, some fd, reads, writes, [], false, [], 0, prompt, false, 0, none, none, none⟩

/-- A stream of nothing. -/
def closed (name : Raw) : Stream :=
  ⟨name, none, false, false, [], false, [], 0, false, false, 0, none, none, none⟩

end Stream

/-- What a cell holds. -/
inductive Cell where
  | scalar (v : Value)
  | array (vs : Array Value)
  | table (t : Table)
  | code (c : Code)
  | stream (s : Stream)

/-- What is put back when a block is left. -/
inductive Undo where
  | name (key : Raw) (cell : Option Nat)
  | cell (n : Nat) (c : Cell)
  | entry (n : Nat) (key : Raw) (v : Option Value)
  | element (n i : Nat) (v : Value)

/-- A function that is being carried out: where it was called, and its name. -/
structure Frame where
  package : Raw
  line : Nat
  name : Raw
  wantsMany : Bool

/-- The last match. -/
structure Matched where
  text : Array Char
  found : Regex.Match
  names : List (Raw × Nat)

/-- The state of a program. -/
structure State where
  cells : Array Cell
  globals : Std.HashMap Raw Nat
  scope : Scope
  /-- The cell of the arguments at hand. -/
  args : Nat
  frames : List Frame
  line : Nat
  file : Raw
  package : Raw
  undo : List Undo
  matched : Option Matched
  /-- The number of the last error of the system. -/
  errno : Nat
  /-- The status of the last process that was waited for. -/
  status : Int
  /-- The stream that was read last, and the one that is written to where none is named. -/
  lastRead : Option Nat
  selected : Nat
  alarm : Option Instant
  /-- Whether a signal may arrive that the program deals with. -/
  catches : Bool
  /-- The names that what is carried out at the end sees, by its number. -/
  ends : List (Nat × Scope)
  /-- The packages that what references lead to belongs to. -/
  kinds : Std.HashMap Nat Raw
  patterns : Std.HashMap Raw Regex.Ordered
  /-- Where the next match of a text begins. -/
  positions : Std.HashMap Raw Nat
  /-- Variables that last from round to round. -/
  lasting : Std.HashMap Raw Nat
  random : Nat
  /-- Whether a file has been read of those that the words name. -/
  began : Bool
  /-- What files that are changed in their places are kept as, and whether one is being changed. -/
  inPlace : Option Raw
  changing : Bool
  /-- What is known in texts that are read later, and whether texts may be taken for references. -/
  place : Place

/-- Why a program does not go on to the next statement. -/
inductive Jump where
  | leave (exit : Exit) (label : Option Raw)
  | give (vs : List Value)
  | die (v : Value)
  | exit (code : UInt8)
  /-- Ends at once, without what is left for the end. -/
  | halt (how : Ended)

/-- A part of a program that is carried out. -/
abbrev Running := ExceptT Jump (StateT State Act)

/-- The cells of what is always there. -/
def inputCell : Nat := 0

@[inherit_doc inputCell]
def outputCell : Nat := 1

@[inherit_doc inputCell]
def errorCell : Nat := 2

@[inherit_doc inputCell]
def wordsCell : Nat := 3

@[inherit_doc inputCell]
def environmentCell : Nat := 4

@[inherit_doc inputCell]
def signalCell : Nat := 5

namespace Running

/-- Does something in the machine. -/
def act {α : Type} (a : Act α) : Running α := ExceptT.lift (StateT.lift a)

/-! ## Cells -/

/-- What a cell holds. -/
def cell (n : Nat) : Running Cell := return (← get).cells.getD n (.scalar .undefined)

/-- Puts something in a cell. -/
def setCell (n : Nat) (c : Cell) : Running Unit :=
  modify fun s => { s with cells := s.cells.setIfInBounds n c }

/-- A new cell. -/
def newCell (c : Cell) : Running Nat :=
  modifyGet fun s => (s.cells.size, { s with cells := s.cells.push c })

/-- What a cell of a sort holds at first. -/
def emptyOf (sign : Sign) : Cell :=
  match sign with
  | .scalar => .scalar .undefined
  | .array => .array #[]
  | .table => .table Table.empty
  | .code => .code ⟨[], [], [], none⟩
  | .handle => .stream (Stream.closed [])

/-- The value in a cell. -/
def valueOf (n : Nat) : Running Value := do
  match ← cell n with
  | .scalar v => return v
  | _ => return .undefined

/-- The values in a cell for an array. -/
def arrayOf (n : Nat) : Running (Array Value) := do
  match ← cell n with
  | .array vs => return vs
  | _ => return #[]

/-- Changes the values in a cell for an array. -/
def onArray (n : Nat) (f : Array Value → Array Value) : Running Unit :=
  modify fun s => { s with cells := s.cells.modify n fun c => match c with
    | .array vs => .array (f vs)
    | c => c }

/-- The table in a cell. -/
def tableOf (n : Nat) : Running Table := do
  match ← cell n with
  | .table t => return t
  | _ => return Table.empty

/-- Changes the table in a cell. -/
def onTable (n : Nat) (f : Table → Table) : Running Unit :=
  modify fun s => { s with cells := s.cells.modify n fun c => match c with
    | .table t => .table (f t)
    | c => c }

/-- The stream in a cell. -/
def streamOf (n : Nat) : Running Stream := do
  match ← cell n with
  | .stream s => return s
  | _ => return Stream.closed []

/-- Changes the stream in a cell. -/
def onStream (n : Nat) (f : Stream → Stream) : Running Unit :=
  modify fun s => { s with cells := s.cells.modify n fun c => match c with
    | .stream t => .stream (f t)
    | c => c }

/-! ## Names -/

/-- A name with its sign. -/
def keyOf (sign : Sign) (name : Raw) : Raw := sign.char :: name

/-- The names that belong to no package but to all. -/
def isCommon (name : Raw) : Bool :=
  match name with
  | [] => true
  | c :: _ =>
    !isWordStart c || name = ['_'] || ["ENV", "ARGV", "INC", "STDIN", "STDOUT", "STDERR", "SIG", "a", "b"].contains (Raw.text name)

/-- The name that a name of a package is known by to all. -/
def fullName (package name : Raw) : Raw :=
  let name := shortName name
  if name.contains ':' || isCommon name || package = "main".toList then name
  else package ++ "::".toList ++ name

/-- The cell that a name of a package leads to, if there is one. -/
def globalCell? (sign : Sign) (name : Raw) : Running (Option Nat) := do
  let s ← get
  return s.globals.get? (keyOf sign (fullName s.package name))

/-- Lets a name of a package lead to a cell. -/
def setGlobal (sign : Sign) (name : Raw) (n : Nat) : Running Unit :=
  modify fun s => { s with globals := s.globals.insert (keyOf sign name) n }

/-- The cell that a name of a package leads to. -/
def globalCell (sign : Sign) (name : Raw) : Running Nat := do
  match ← globalCell? sign name with
  | some n => return n
  | none =>
    let n ← newCell (emptyOf sign)
    let s ← get
    setGlobal sign (fullName s.package name) n
    return n

/-- The cell that a name leads to. -/
def nameCell (sign : Sign) (name : Raw) : Running Nat := do
  let s ← get
  if sign = .array && name = ['_'] then return s.args
  else match s.scope.lookup (keyOf sign name) with
    | some n => return n
    | none => globalCell sign name

/-- Lets a name of the block at hand lead to a cell. -/
def bindName (sign : Sign) (name : Raw) (n : Nat) : Running Unit :=
  modify fun s => { s with scope := (keyOf sign name, n) :: s.scope }

/-- The value of a variable of the package that programs are in. -/
def plain (name : String) : Running Value := do
  match (← get).globals.get? (keyOf .scalar name.toList) with
  | some n => valueOf n
  | none => return .undefined

/-- Gives such a variable a value. -/
def setPlain (name : String) (v : Value) : Running Unit := do
  match (← get).globals.get? (keyOf .scalar name.toList) with
  | some n => setCell n (.scalar v)
  | none =>
    let n ← newCell (.scalar v)
    setGlobal .scalar name.toList n

/-! ## Mishaps -/

/-- Where the program is, as messages end: the file and the line, and the line of what is read. -/
def whereabouts : Running Raw := do
  let s ← get
  let input : Raw ← match s.lastRead with
    | some n => do
      let st ← streamOf n
      let unit := match ← plain "/" with
        | .text ['\n'] => " line "
        | _ => " chunk "
      pure (if st.lines > 0 then ", <".toList ++ st.name ++ '>' :: unit.toList ++ Raw.ofNat st.lines else [])
    | none => pure []
  return " at ".toList ++ s.file ++ " line ".toList ++ Raw.ofNat s.line ++ input ++ ".\n".toList

/-- Begins to leave because of a mishap with a message. -/
def die {α : Type} (message : Raw) : Running α := do
  throw (.die (.text (message ++ (← whereabouts))))

/-- Notes an error of the system. -/
def fault (e : Errno) : Running Unit :=
  modify fun s => { s with errno := e.number.toNatClampNeg }

/-- The message of an error of the system by its number. -/
def errnoText (n : Nat) : Raw := if n = 0 then [] else (Errno.message ⟨Int32.ofNat n⟩).toList

/-- The value of a truth about something that the system may refuse. -/
def granted {α : Type} (r : Except Errno α) : Running (Option α) := do
  match r with
  | .ok x => return some x
  | .error e =>
    fault e
    return none

/-- Does something with the kernel that the system may refuse; tells if it could be done. -/
def doing (change : Pid → Kernel → Except Errno Kernel) : Running Bool := do
  match ← act (Act.tryChange change) with
  | none => return true
  | some e =>
    fault e
    return false

/-! ## Output -/

/-- The octets of a text; characters beyond them are written in several. -/
def octetsOf (r : Raw) : Raw :=
  if r.any fun c => c.toNat > 255 then Raw.ofText (String.ofList r) else r

/-- How many octets are kept before they are written. -/
def keptMost : Nat := 8192

/-- Writes what is kept of a stream; tells if it could be done. -/
def flush (n : Nat) : Running Bool := do
  let s ← streamOf n
  match s.fd with
  | none => return true
  | some fd =>
    if s.kept.isEmpty then return true
    else
      onStream n fun s => { s with kept := [], keptSize := 0 }
      match ← act (Act.write fd s.kept.reverse.flatten) with
      | none => return true
      | some e =>
        fault e
        return false

/-- Writes what is kept of all streams. -/
def flushAll : Running Unit := do
  for (c, n) in (← get).cells.toList.zipIdx do
    match c with
    | .stream s => if !s.kept.isEmpty then let _ ← flush n
    | _ => pure ()

/-- Puts octets on their way; tells if that could be done. -/
def emit (n : Nat) (r : Raw) : Running Bool := do
  let s ← streamOf n
  let r := if s.wide then Raw.ofText (String.ofList r) else octetsOf r
  match s.memory, s.fd with
  | some v, _ =>
    let before ← valueOf v
    setCell v (.scalar (.text (before.toText ++ r)))
    return true
  | none, none =>
    fault Errno.badDescriptor
    return false
  | none, some _ =>
    if !s.writes then
      fault Errno.badDescriptor
      return false
    else if r.isEmpty then return true
    else
      let size := s.keptSize + r.length
      if s.prompt then
        onStream n fun s => { s with kept := r :: s.kept, keptSize := size }
        flush n
      else if size ≥ keptMost then
        -- whole buffers are written, and the rest is kept
        let all := (r :: s.kept).reverse.flatten
        let now := size / keptMost * keptMost
        onStream n fun s => { s with kept := [all.take now], keptSize := now }
        let done ← flush n
        let rest := all.drop now
        onStream n fun s => { s with kept := if rest.isEmpty then [] else [rest], keptSize := rest.length }
        return done
      else
        onStream n fun s => { s with kept := r :: s.kept, keptSize := size }
        return true

/-- Shows a message. -/
def tell (r : Raw) : Running Unit := do
  let _ ← emit errorCell r

end Running

/-- What can be given a value. -/
inductive Target where
  | cell (n : Nat)
  | element (n i : Nat)
  | entry (n : Nat) (key : Raw)
  | special (name : Raw)
  /-- A part of the text of another one. -/
  | part (whole : Target) (first length : Nat)
  /-- How many values an array has, less one. -/
  | lastIndex (n : Nat)
  | nothing

/-- How the parts of a program are carried out from elsewhere. -/
structure Means where
  program : Call
  call : (code : Value) → (args : List Value) → (many : Bool) → Running (List Value)
  /-- The value of an expression where one is asked for, and its values where many are. -/
  single : Expr → Running Value
  many : Expr → Running (List Value)
  /-- What an expression names, to be given a value. -/
  target : Expr → Running Target
  /-- The cell of an array or a table that an expression names, which may be made. -/
  container : Sign → (makes : Bool) → Expr → Running (Option Nat)
  carryOut : (many : Bool) → List Statement → Running (List Value)

/-- The means to carry out nothing. -/
def Means.none (c : Call) : Means :=
  { program := c
    call := fun _ _ _ => return []
    single := fun _ => return .undefined
    many := fun _ => return []
    target := fun _ => return .nothing
    container := fun _ _ _ => return Option.none
    carryOut := fun _ _ => return [] }

namespace Running

/-! ## Signals -/

/-- How many signals are dealt with at once. -/
def signalBound : Nat := 1000

/-- The function that a value names for a signal. -/
def handlerOf (v : Value) : Running (Option Value) := do
  match v with
  | .reference .code _ => return some v
  | .undefined => return none
  | v =>
    let r := v.toText
    if r.isEmpty || r = "DEFAULT".toList || r = "IGNORE".toList then return none
    else return (← globalCell? .code r).map (.reference .code)

/-- Deals with the signals that have arrived, at most `fuel`; tells if there were any. -/
def checkSignalsWithin (m : Means) : (fuel : Nat) → (any : Bool) → Running Bool
  | 0, any => return any
  | fuel + 1, any => do
    let s ← get
    match s.alarm with
    | some instant =>
      if (← act Act.now) ≥ instant then
        set { s with alarm := none }
        let pid ← act Act.ownPid
        let _ ← act (Act.send pid SignalNumber.alarm)
    | none => pure ()
    match ← act Act.takeSignal with
    | none => return any
    | some n =>
      let name := ((SignalNumber.name? n).getD "").toList
      match (← tableOf signalCell).get? name with
      | some v =>
        match ← handlerOf v with
        | some f => let _ ← m.call f [.text name] false
        | none => tell ("SIG".toList ++ name ++ " handler \"".toList ++ v.toText ++ "\" not defined.\n".toList)
      | none => pure ()
      checkSignalsWithin m fuel true

/-- Deals with the signals that have arrived; tells if there were any. -/
def checkSignals (m : Means) : Running Bool := checkSignalsWithin m signalBound false

/-- Does what the table of signals says about one. -/
def installSignal (name : Raw) : Running Unit := do
  match SignalNumber.named? (Raw.text name) with
  | none => return
  | some n =>
    let v := ((← tableOf signalCell).get? name).getD .undefined
    let r := v.toText
    let choice : Act.Choice :=
      if !v.isDefined || r.isEmpty || r = "DEFAULT".toList then .usual
      else if r = "IGNORE".toList then .ignore
      else .take
    if choice = .take then modify fun s => { s with catches := true }
    act (Act.choose n choice)

/-- The earlier of an instant and the next alarm. -/
def orAlarm (instant : Option Instant) : Running (Option Instant) := do
  match instant, (← get).alarm with
  | some a, some b => return some (min a b)
  | none, b => return b
  | a, none => return a

/-- Waits until an instant, or for ever; comes back early if a signal has been dealt with, and tells so. -/
def sleepUntil (m : Means) (instant : Option Instant) : (fuel : Nat) → Running Bool
  | 0 => return false
  | fuel + 1 => do
    match ← orAlarm instant with
    | some i => let _ ← act (Act.sleepUntil i)
    | none => act Act.pause
    if ← checkSignals m then return true
    else
      match instant with
      | some i => if (← act Act.now) < i then sleepUntil m instant fuel else return false
      | none => sleepUntil m instant fuel

/-- How many times waiting begins again. -/
def waitBound : Nat := 10000000

/-! ## Input -/

/-- Reads more of a stream; false at its end. -/
def readMore (m : Means) (n : Nat) : (fuel : Nat) → Running Bool
  | 0 => return false
  | fuel + 1 => do
    let s ← streamOf n
    match s.fd with
    | none => return false
    | some fd =>
      if s.atEnd then return false
      else
        match ← act (Act.readOrSignal fd keptMost) with
        | .error e =>
          if e = Errno.interrupted then
            let _ ← checkSignals m
            readMore m n fuel
          else
            fault e
            return false
        | .ok [] => return false
        | .ok octets =>
          onStream n fun s => { s with ahead := s.ahead ++ octets }
          return true

/-- A line of what is ahead, and the rest; nothing if it is not known yet where it ends. -/
def lineAhead? (mark : Value) (ahead : Raw) : Option (Raw × Raw) :=
  match mark with
  | .undefined => none
  | .reference .. => none
  | mark =>
    match mark.toText with
    | [c] =>
      let line := ahead.takeWhile (· != c)
      match ahead.drop line.length with
      | e :: rest => some (line ++ [e], rest)
      | [] => none
    | [] => paragraph [] (ahead.dropWhile (· == '\n'))
    | r => marked r [] ahead
where
  /-- Lines up to an empty one. -/
  paragraph : Raw → Raw → Option (Raw × Raw)
    | _, [] => none
    | taken, '\n' :: '\n' :: rest =>
      let after := rest.dropWhile (· == '\n')
      if after.isEmpty then none else some (('\n' :: '\n' :: taken).reverse, after)
    | taken, c :: rest => paragraph (c :: taken) rest
  /-- A text up to a mark. -/
  marked (mark : Raw) : Raw → Raw → Option (Raw × Raw)
    | _, [] => none
    | taken, r@(c :: rest) =>
      if mark.isPrefixOf r then some (taken.reverse ++ mark, r.drop mark.length) else marked mark (c :: taken) rest

/-- Reads a line of a stream, its end included; nothing at the end. -/
def takeLineWithin (m : Means) (n : Nat) (mark : Value) : (fuel : Nat) → Running (Option Raw)
  | 0 => return none
  | fuel + 1 => do
    let s ← streamOf n
    let counted (line rest : Raw) : Running (Option Raw) := do
      onStream n fun s => { s with ahead := rest, lines := s.lines + 1 }
      return some line
    match mark with
    | .reference .scalar c =>
      let size := (← valueOf c).toNat
      if s.ahead.length ≥ size && size > 0 then counted (s.ahead.take size) (s.ahead.drop size)
      else if ← readMore m n 1000 then takeLineWithin m n mark fuel
      else if s.ahead.isEmpty then return none
      else counted s.ahead []
    | mark =>
      match lineAhead? mark s.ahead with
      | some (line, rest) => counted line rest
      | none =>
        if ← readMore m n 1000 then takeLineWithin m n mark fuel
        else
          let r := if mark.isDefined && mark.toText.isEmpty then s.ahead.dropWhile (· == '\n') else s.ahead
          if r.isEmpty then
            onStream n fun s => { s with ahead := [] }
            return none
          else
            let r := if mark.isDefined && mark.toText.isEmpty && "\n\n".toList.isPrefixOf (r.reverse) then
                Raw.dropEndWhile (· == '\n') r ++ "\n\n".toList else r
            counted r []

/-- Reads a line of a stream, its end included; nothing at the end. -/
def takeLine (m : Means) (n : Nat) : Running (Option Raw) := do
  modify fun s => { s with lastRead := some n }
  let mark ← plain "/"
  takeLineWithin m n mark Act.blockBound

/-- Reads all lines that are left. -/
def takeLines (m : Means) (n : Nat) : (fuel : Nat) → Running (List Raw)
  | 0 => return []
  | fuel + 1 => do
    match ← takeLine m n with
    | none => return []
    | some line => return line :: (← takeLines m n fuel)

/-- Reads so many octets of a stream at most. -/
def takeOctets (m : Means) (n count : Nat) : (fuel : Nat) → Running Raw
  | 0 => return []
  | fuel + 1 => do
    let s ← streamOf n
    if s.ahead.length ≥ count then
      onStream n fun s => { s with ahead := s.ahead.drop count }
      return s.ahead.take count
    else if ← readMore m n 1000 then takeOctets m n count fuel
    else
      onStream n fun s => { s with ahead := [] }
      return s.ahead

/-! ## Blocks -/

/-- Puts back what a block has changed for itself. -/
def undoOne (u : Undo) : Running Unit := do
  match u with
  | .name key (some n) => modify fun s => { s with globals := s.globals.insert key n }
  | .name key none => modify fun s => { s with globals := s.globals.erase key }
  | .cell n c =>
    setCell n c
    if n = signalCell then
      for (name, _) in (← tableOf n).entries do installSignal name
  | .entry n key (some v) =>
    onTable n fun t => t.put key v
    if n = signalCell then installSignal key
  | .entry n key none =>
    onTable n fun t => t.erase key
    if n = signalCell then installSignal key
  | .element n i v => onArray n fun vs => vs.setIfInBounds i v

/-- Puts back all that has been changed since there were so many things to put back. -/
def undoTo (count : Nat) : (fuel : Nat) → Running Unit
  | 0 => return
  | fuel + 1 => do
    let s ← get
    if s.undo.length ≤ count then return
    else
      match s.undo with
      | [] => return
      | u :: rest =>
        set { s with undo := rest }
        undoOne u
        undoTo count fuel

/-- Carries out a block: its names and what it changes for itself end with it. -/
def inBlock {α : Type} (body : Running α) : Running α := do
  let s ← get
  let before := s.scope
  let count := s.undo.length
  let afterwards : Running Unit := do
    modify fun s => { s with scope := before }
    if (← get).undo.length > count then undoTo count 1000000
  let x ← body |> tryCatchThe Jump <| fun j => do
    afterwards
    throw j
  afterwards
  return x

end Running
end RunMeter.Machine.Perl
