import RunMeter.Machine.Regex
import RunMeter.Machine.Utility.Awk.Value
import RunMeter.Machine.Utility.Sources
import RunMeter.Machine.Utility.Starting

/-!
# RunMeter.Machine.Utility.Awk.State — what a awk program works on

The record and its fields, the variables, the input that is still to be read, and the output on its way.

Nothing that is proved depends on this module.
-/

namespace RunMeter.Machine.Awk

/-- What a name stands for. -/
inductive Binding where
  | value (v : Value)
  | table (number : Nat)
  /-- Nothing yet; the number is that of the table that it stands for once it is used as one. -/
  | free (number : Nat)

/-- Where records come from. -/
structure Source where
  fd : Nat
  rest : Raw
  atEnd : Bool
  /-- The process that writes them. -/
  writer : Option Pid

/-- Where output goes. -/
structure Sink where
  fd : Nat
  kept : Sources.Kept
  /-- The process that reads it. -/
  reader : Option Pid

/-- The state of a program. -/
structure State where
  functions : List Function
  record : Raw
  /-- The fields, once the record has been taken apart. -/
  fields : Option (List Raw)
  globals : List (Raw × Binding)
  /-- The variables of the functions that are being carried out, the innermost first. -/
  locals : List (List (Raw × Binding))
  tables : Array Table
  main : Option Source
  /-- How many of the arguments have been used as input, and whether any was a file. -/
  used : Nat
  anyFile : Bool
  finished : Bool
  sources : List (Raw × Source)
  output : Sources.Kept
  sinks : List (Raw × Sink)
  seed : Float
  random : Nat
  /-- Which ranges of records are open. -/
  ranges : List Nat
  code : UInt8

/-- Why a program does not go on to the next statement. -/
inductive Jump where
  | leave
  | again
  | next
  | nextFile
  | exit
  | give (v : Value)

/-- A part of a program that is carried out. -/
abbrev Running := ExceptT Jump (StateT State Act)

/-- Does something in the machine. -/
def act {α : Type} (a : Act α) : Running α := ExceptT.lift (StateT.lift a)

namespace Running

/-! ## Variables -/

/-- The variable that a name stands for, if there is one. -/
def binding? (name : Raw) : Running (Option Binding) := do
  let s ← get
  match (s.locals.head?).bind fun frame => frame.lookup name with
  | some b => return some b
  | none => return s.globals.lookup name

/-- A list of bindings with a name bound. -/
def bound (bindings : List (Raw × Binding)) (name : Raw) (b : Binding) : List (Raw × Binding) :=
  match bindings with
  | [] => [(name, b)]
  | (n, old) :: rest => if n == name then (name, b) :: rest else (n, old) :: bound rest name b

/-- Binds a name, to a variable of the function if it has one of that name. -/
def bindName (name : Raw) (b : Binding) : Running Unit :=
  modify fun s =>
    match s.locals with
    | frame :: rest =>
      if frame.any fun e => e.1 == name then { s with locals := bound frame name b :: rest }
      else { s with globals := bound s.globals name b }
    | [] => { s with globals := bound s.globals name b }

/-- The value of a variable by its name alone. -/
def plain (name : String) : Running Value := do
  match (← get).globals.lookup name.toList with
  | some (.value v) => return v
  | _ => return .unset

/-- How numbers become texts. -/
def form : Running Raw := return (← plain "CONVFMT").toText "%.6g".toList

/-- The text of a variable by its name alone. -/
def plainText (name : String) : Running Raw := do
  let v ← plain name
  return v.toText (← form)

/-- Gives a variable that belongs to no function a value. -/
def setPlain (name : String) (v : Value) : Running Unit :=
  modify fun s => { s with globals := bound s.globals name.toList (.value v) }

/-- A new table. -/
def newTable : Running Nat := do
  let s ← get
  set { s with tables := s.tables.push Table.empty }
  return s.tables.size

/-- The number of the table that a name stands for. -/
def tableOf (name : Raw) : Running Nat := do
  match ← binding? name with
  | some (.table n) => return n
  | some (.free n) =>
    bindName name (.table n)
    return n
  | _ =>
    let n ← newTable
    bindName name (.table n)
    return n

/-- The table with a number. -/
def table (n : Nat) : Running Table := return (← get).tables.getD n Table.empty

/-- Changes a table. -/
def onTable (n : Nat) (f : Table → Table) : Running Unit :=
  modify fun s => { s with tables := s.tables.modify n f }

/-! ## Output -/

/-- Writes what is kept of standard output. -/
def flushOutput (c : Call) : Running Unit := do
  let s ← get
  let kept ← act (s.output.flush c true)
  modify fun s => { s with output := kept }

/-- Writes what is kept of all output. -/
def flushAll (c : Call) : Running Unit := do
  flushOutput c
  let s ← get
  let sinks ← act (s.sinks.mapM fun (name, k) => do
    let _ ← Act.write k.fd k.kept.all
    return (name, { k with kept := Sources.Kept.nothing }))
  modify fun s => { s with sinks }

/-- Ends the program because of a fault while it runs. -/
def crash {α : Type} (c : Call) (message : Raw) : Running α := do
  flushAll c
  let file ← plainText "FILENAME"
  let fnr ← plainText "FNR"
  let nr ← plainText "NR"
  act do
    c.complain (Raw.ofText "run time error: " ++ message ++ Raw.ofText "\n\tFILENAME=\"" ++ file ++
      Raw.ofText "\" FNR=" ++ fnr ++ Raw.ofText " NR=" ++ nr)
    Act.exit 2

/-! ## Fields -/

/-- What separates fields. -/
inductive Separator where
  | blanks
  | character (c : Char)
  | pattern (e : Regex)
  | everywhere

/-- An expression as programs write it. -/
def regex (c : Call) (text : Raw) : Running Regex := do
  match Regex.ofText ⟨true, false, true, true, false⟩ (unescaped (text.length + 1) text) with
  | .ok e => return e
  | .error f =>
    flushAll c
    act do
      c.complain (Raw.ofText "line 1: regular expression compile failed (" ++ Raw.ofText f.message ++ Raw.ofText ")\n" ++ text)
      Act.exit 2

/-- The separator that a text means. -/
def separator (c : Call) (text : Raw) : Running Separator := do
  match text with
  | [' '] => return .blanks
  | [ch] => return .character ch
  | [] => return .everywhere
  | text => return .pattern (← regex c text)

/-- The parts of a text between separators. -/
def Separator.split (s : Separator) (text : Raw) : List Raw :=
  if text.isEmpty then []
  else match s with
    | .blanks => Raw.words text
    | .character ch => Raw.splitAt ch text
    | .everywhere => text.map fun ch => [ch]
    | .pattern e =>
      let chars := text.toArray
      let rec cut : (place : Nat) → List Regex.Match → List Raw
        | place, [] => [Regex.between chars place chars.size]
        | place, m :: rest =>
          if m.last = m.first then cut place rest else Regex.between chars place m.first :: cut m.last rest
      cut 0 (e.allMatches chars)

/-- The fields of the record. -/
def fields (c : Call) : Running (List Raw) := do
  let s ← get
  match s.fields with
  | some fs => return fs
  | none =>
    let sep ← separator c (← plainText "FS")
    let lines := (← plainText "RS").isEmpty
    let fs := match sep, lines with
      | .blanks, _ => sep.split s.record
      | sep, true => (Raw.splitAt '\n' s.record).flatMap sep.split
      | sep, false => sep.split s.record
    modify fun s => { s with fields := some fs }
    return fs

/-- Puts a record in the place of the one at hand. -/
def setRecord (r : Raw) : Running Unit := modify fun s => { s with record := r, fields := none }

/-- Puts fields in the place of those at hand, and makes the record of them. -/
def setFields (fs : List Raw) : Running Unit := do
  let between ← plainText "OFS"
  modify fun s => { s with fields := some fs, record := Raw.joined between fs }

/-- The field with a number. -/
def field (c : Call) (n : Nat) : Running Value := do
  if n = 0 then return Value.read (← get).record
  else
    match (← fields c)[n - 1]? with
    | some f => return Value.read f
    | none => return .unset

/-- Gives a field a text. -/
def setField (c : Call) (n : Nat) (r : Raw) : Running Unit := do
  if n = 0 then setRecord r
  else
    let fs ← fields c
    let fs := fs ++ List.replicate (n - fs.length) []
    setFields (fs.set (n - 1) r)

/-- The number of a field. -/
def fieldNumber (c : Call) (v : Value) : Running Nat := do
  let f := v.toNumber
  let n := truncated f
  if n < 0 then crash c (Raw.ofText "negative field index $" ++ Raw.ofInt n) else return n.toNat

/-- The value of a name. -/
def variableValue (c : Call) (name : Raw) : Running Value := do
  if name = "NF".toList then return .number (Float.ofNat (← fields c).length)
  else
    match ← binding? name with
    | some (.value v) => return v
    | _ => return .unset

/-- Gives a name a value. -/
def setVariable (c : Call) (name : Raw) (v : Value) : Running Unit := do
  if name = "NF".toList then
    let n := (truncated v.toNumber).toNat
    let fs ← fields c
    setFields (fs.take n ++ List.replicate (n - fs.length) [])
  else
    if name = "FS".toList || name = "RS".toList then
      let _ ← fields c
    bindName name (.value v)

/-! ## Input -/

/-- Takes a record from what has been read: the record and the rest, if it ends there; `final` says that nothing
more comes. -/
def takeRecord? (mark : Separator) (final : Bool) (text : Raw) : Option (Raw × Raw) :=
  let ending (record : Raw) : Option (Raw × Raw) := if final && !text.isEmpty then some (record, []) else none
  match mark with
  | .character ch =>
    let record := text.takeWhile (· != ch)
    match text.drop record.length with
    | _ :: rest => some (record, rest)
    | [] => ending record
  | .everywhere =>
    let body := text.dropWhile (· == '\n')
    let rec paragraph : Raw → Raw → Option (Raw × Raw)
      | _, [] => none
      | taken, '\n' :: '\n' :: rest => some (taken.reverse, rest.dropWhile (· == '\n'))
      | taken, ch :: rest => paragraph (ch :: taken) rest
    match paragraph [] body with
    | some found => some found
    | none => if final && !body.isEmpty then some (Raw.dropEndWhile (· == '\n') body, []) else none
  | .blanks =>
    let record := text.takeWhile (· != ' ')
    match text.drop record.length with
    | _ :: rest => some (record, rest)
    | [] => ending record
  | .pattern e =>
    let chars := text.toArray
    match e.searchFrom? chars 0 with
    | some m =>
      if m.last > m.first && (m.last < chars.size || final) then
        some (Regex.between chars 0 m.first, Regex.between chars m.last chars.size)
      else ending (if text.getLast? = some '\n' then text.dropLast else text)
    | none => ending (if text.getLast? = some '\n' then text.dropLast else text)

/-- Reads a record from a source. -/
def readRecord (mark : Separator) : (fuel : Nat) → Source → Act (Except Errno (Option Raw × Source))
  | 0, s => return .ok (none, s)
  | fuel + 1, s => do
    match takeRecord? mark s.atEnd s.rest with
    | some (record, rest) => return .ok (some record, { s with rest })
    | none =>
      if s.atEnd then return .ok (none, { s with rest := [] })
      else match ← Act.read s.fd 4096 with
        | .error e => return .error e
        | .ok [] => readRecord mark fuel { s with atEnd := true }
        | .ok block => readRecord mark fuel { s with rest := s.rest ++ block }

/-- Reads a record from a source, or ends the program if that can not be done. -/
def recordOf (c : Call) (s : Source) : Running (Option Raw × Source) := do
  let mark ← separator c (← plainText "RS")
  match ← act (readRecord mark Act.blockBound s) with
  | .ok found => return found
  | .error e =>
    flushAll c
    act (c.fail (Raw.ofText ("read error (" ++ e.message ++ ")")) 2)

/-- An argument of the program as it stands in its table. -/
def argument? (n : Nat) : Running (Option Raw) := do
  let t ← tableOf "ARGV".toList
  match (← table t).get? (Raw.ofNat n) with
  | some v => return some (v.toText (← form))
  | none => return none

/-- The name and the value in an argument that gives a variable one. -/
def assignment? (w : Raw) : Option (Raw × Raw) :=
  let name := w.takeWhile (· != '=')
  match w.drop name.length with
  | _ :: v => if Raw.isName name then some (name, unescaped (v.length + 1) v) else none
  | [] => none

/-- Opens the next input: false if there is none. -/
def openNext (c : Call) : (fuel : Nat) → Running Bool
  | 0 => return false
  | fuel + 1 => do
    let s ← get
    let count := truncated (← plain "ARGC").toNumber
    if (s.used : Int) + 1 ≥ count then
      if s.anyFile || s.finished then return false
      else
        set { s with anyFile := true, main := some ⟨0, [], false, none⟩ }
        return true
    else
      set { s with used := s.used + 1 }
      match ← argument? (s.used + 1) with
      | none | some [] => openNext c fuel
      | some w =>
        match assignment? w with
        | some (name, v) =>
          setVariable c name (Value.read v)
          openNext c fuel
        | none =>
          setPlain "FILENAME" (.text w)
          setPlain "FNR" (.number 0)
          if w = ['-'] || w = "/dev/stdin".toList then
            modify fun s => { s with anyFile := true, main := some ⟨0, [], false, none⟩ }
            return true
          else
            match ← act (Act.openFile w .reading) with
            | .ok fd =>
              modify fun s => { s with anyFile := true, main := some ⟨fd, [], false, none⟩ }
              return true
            | .error e =>
              flushAll c
              act (c.fail (Raw.ofText "cannot open \"" ++ w ++ Raw.ofText ("\" (" ++ e.message ++ ")")) 2)

/-- Leaves the file that is being read. -/
def closeMain : Running Unit := do
  match (← get).main with
  | some source => if source.fd != 0 then act (Act.close source.fd)
  | none => pure ()
  modify fun s => { s with main := none }

/-- Adds one to a variable that counts. -/
def countUp (name : String) : Running Unit := do
  let v ← plain name
  setPlain name (.number (v.toNumber + 1))

/-- Reads the next record of the input. -/
def nextRecord (c : Call) : (fuel : Nat) → Running (Option Raw)
  | 0 => return none
  | fuel + 1 => do
    let s ← get
    match s.main with
    | none => if ← openNext c 100000 then nextRecord c fuel else return none
    | some source =>
      let (found, source) ← recordOf c source
      match found with
      | some r =>
        modify fun s => { s with main := some source }
        countUp "NR"
        countUp "FNR"
        return some r
      | none =>
        closeMain
        nextRecord c fuel

/-! ## Files and commands -/

/-- Starts the shell with a command, one of its descriptors led to another. -/
def startCommand (c : Call) (command : Raw) (source target : Nat) (closing : List Nat) : Act Pid :=
  Act.fork do
    let _ ← Act.duplicate source target
    for fd in closing do Act.close fd
    let e ← c.replace c.env ["/bin/sh".toList, "-c".toList, command]
    return .code (Starting.unstarted e)

/-- The source of records with a name: a file, or what a command writes. -/
def sourceOf (c : Call) (isCommand : Bool) (name : Raw) : Running (Option Source) := do
  match (← get).sources.lookup name with
  | some s => return some s
  | none =>
    if isCommand then
      flushAll c
      let (r, w) ← act Act.pipe
      let pid ← act (startCommand c name w 1 [r, w])
      act (Act.close w)
      return some ⟨r, [], false, some pid⟩
    else if name = ['-'] || name = "/dev/stdin".toList then return some ⟨0, [], false, none⟩
    else
      match ← act (Act.openFile name .reading) with
      | .ok fd => return some ⟨fd, [], false, none⟩
      | .error _ => return none

/-- Reads a record of a file or of a command: whether there was one, and the record. -/
def readFrom (c : Call) (isCommand : Bool) (name : Raw) : Running (Float × Raw) := do
  match ← sourceOf c isCommand name with
  | none => return (-1, [])
  | some source =>
    let mark ← separator c (← plainText "RS")
    match ← act (readRecord mark Act.blockBound source) with
    | .error _ => return (-1, [])
    | .ok (found, source) =>
      modify fun s => { s with sources := (name, source) :: s.sources.filter fun e => e.1 != name }
      match found with
      | some r => return (1, r)
      | none => return (0, [])

/-- The kinds of places that output is led to. -/
inductive Lead where
  | file
  | append
  | command

/-- Writes octets to a place with a name. -/
def writeTo (c : Call) (lead : Lead) (name octets : Raw) : Running Unit := do
  let isFile := match lead with
    | .command => false
    | _ => true
  if isFile && (name = "/dev/stdout".toList || name = ['-']) then
    modify fun s => { s with output := s.output.put octets }
  else if isFile && name = "/dev/stderr".toList then
    let _ ← act (Act.write 2 octets)
  else
    let s ← get
    match s.sinks.lookup name with
    | some _ => pure ()
    | none =>
      let sink ← match lead with
        | .command => do
          flushAll c
          let (r, w) ← act Act.pipe
          let others := s.sinks.map fun k => k.2.fd
          let pid ← act (startCommand c name r 0 ([r, w] ++ others))
          act (Act.close r)
          pure (Sink.mk w Sources.Kept.nothing (some pid))
        | mode => do
          let how : OpenMode := match mode with
            | .append => .appending
            | _ => .writing
          match ← act (Act.openFile name how) with
          | .ok fd => pure (Sink.mk fd Sources.Kept.nothing none)
          | .error e =>
            flushAll c
            act (c.fail (Raw.ofText "cannot open \"" ++ name ++ Raw.ofText ("\" for output (" ++ e.message ++ ")")) 2)
      modify fun s => { s with sinks := s.sinks ++ [(name, sink)] }
    modify fun s => { s with
      sinks := s.sinks.map fun (n, k) => if n == name then (n, { k with kept := k.kept.put octets }) else (n, k) }

/-- The status of a process that has ended, as programs see it. -/
def statusOf (how : Ended) : Float :=
  match how with
  | .code n => Float.ofNat n.toNat
  | .signal n => Float.ofNat (256 + n)

/-- Closes a file or a command; gives its status. -/
def closeNamed (name : Raw) : Running Float := do
  let s ← get
  match s.sinks.lookup name, s.sources.lookup name with
  | some sink, _ =>
    let _ ← act (Act.write sink.fd sink.kept.all)
    act (Act.close sink.fd)
    set { s with sinks := s.sinks.filter fun e => e.1 != name }
    match sink.reader with
    | some pid => return statusOf (← act (Starting.endOf pid))
    | none => return 0
  | none, some source =>
    if source.fd != 0 then act (Act.close source.fd)
    set { s with sources := s.sources.filter fun e => e.1 != name }
    match source.writer with
    | some pid => return statusOf (← act (Starting.endOf pid))
    | none => return 0
  | none, none => return -1

/-- Closes all. -/
def closeAll (c : Call) : Running Unit := do
  flushOutput c
  for (name, _) in (← get).sinks do
    let _ ← closeNamed name
  for (name, _) in (← get).sources do
    let _ ← closeNamed name

end Running
end RunMeter.Machine.Awk
