import RunMeter.Machine.Utility.Editing.Script
import RunMeter.Machine.Utility.Paths
import RunMeter.Machine.Utility.Sources

/-!
# RunMeter.Machine.Utility.Editing — editing lines by a script

Each line is read into a space where the commands of a script work on it, and is shown when all have been carried
out.  A second space holds what is put aside.

Nothing that is proved depends on this module.
-/

namespace RunMeter.Machine.Editing

open Sources

/-! ## Input -/

/-- What is still to be read. -/
structure Input where
  /-- The file that is open: its descriptor, whether it is standard input, and the start of a line. -/
  current : Option (Nat × Bool × Raw)
  /-- Lines that have been read, and whether each has its end. -/
  lines : List (Raw × Bool)
  files : List Raw
  /-- Whether a file could not be read. -/
  failed : Bool

/-- Complains about a file that can not be opened. -/
def unreadable (c : Call) (path : Raw) (e : Errno) : Act Unit :=
  c.complain (Raw.ofText "can't read " ++ path ++ Raw.ofText (": " ++ e.message))

/-- Reads until there is a line, if one is left; output is shown before the program ends because of a file. -/
def refill (c : Call) (mark : Char) (kept : Kept) : (fuel : Nat) → (name : Raw) → Input → Act (Raw × Input)
  | 0, name, i => return (name, i)
  | fuel + 1, name, i => do
    if !i.lines.isEmpty then return (name, i)
    else match i.current with
      | some (fd, isStandard, start) =>
        match ← Act.read fd Act.blockSize with
        | .error e =>
          let _ ← kept.flush c true
          c.fail (Raw.ofText "read error on " ++ name ++ Raw.ofText (": " ++ e.message)) 4
        | .ok [] =>
          if !isStandard then Act.close fd
          let lines := if start.isEmpty then [] else [(start, false)]
          refill c mark kept fuel name { i with current := none, lines := lines }
        | .ok block =>
          let parts := Raw.splitAt mark (start ++ block)
          let start := (parts.getLast?).getD []
          refill c mark kept fuel name
            { i with current := some (fd, isStandard, start), lines := parts.dropLast.map fun l => (l, true) }
      | none =>
        match i.files with
        | [] => return (name, i)
        | path :: rest =>
          if path = ['-'] then refill c mark kept fuel path { i with current := some (0, true, []), files := rest }
          else match ← Act.openFile path .reading with
            | .ok fd => refill c mark kept fuel path { i with current := some (fd, false, []), files := rest }
            | .error e =>
              unreadable c path e
              refill c mark kept fuel name { i with files := rest, failed := true }

/-! ## The state -/

/-- How a script is carried out. -/
structure Manner where
  quiet : Bool
  mark : Char
  /-- Whether each file is edited by itself. -/
  separate : Bool
  /-- Whether all output is kept to the end. -/
  keeps : Bool
  width : Nat

/-- What waits to be shown at a line's end. -/
inductive Pending where
  | text (r : Raw)
  | file (path : Raw)

/-- The state of editing. -/
structure State where
  name : Raw
  input : Input
  space : Raw
  held : Raw
  /-- Whether the line had its end, and the line that was put aside last. -/
  ended : Bool
  heldEnded : Bool
  line : Nat
  pending : List Pending
  replaced : Bool
  /-- The commands whose range is open, with the line it ends at if that is known. -/
  ranges : List (Nat × Option Nat)
  /-- The commands whose range from the start of the file has ended. -/
  past : List Nat
  lastPattern : Option Regex
  /-- Files that are written: their descriptors by path. -/
  files : List (Raw × Nat)
  kept : Kept
  /-- Whether the last line was shown without its end. -/
  cutShort : Bool

/-- An action with the state. -/
abbrev Edit := StateT State Act

/-- Shows octets that end a line, or that do not. -/
def put (m : Manner) (octets : Raw) (ended : Bool) : Edit Unit :=
  modify fun s =>
    let before : Raw := if s.cutShort then [m.mark] else []
    { s with kept := s.kept.put (before ++ octets ++ if ended then [m.mark] else []), cutShort := !ended }

/-- Shows a text as it is. -/
def putText (m : Manner) (text : Raw) : Edit Unit :=
  modify fun s => { s with kept := s.kept.put ((if s.cutShort then [m.mark] else []) ++ text), cutShort := false }

/-- Shows the space. -/
def putSpace (m : Manner) : Edit Unit := do
  let s ← get
  put m s.space s.ended

/-- Writes to a file that the script names. -/
def putFile (c : Call) (m : Manner) (path text : Raw) : Edit Unit := do
  if path = "/dev/stdout".toList then put m text true
  else
    let s ← get
    if path = "/dev/stderr".toList then
      let _ ← (Act.write 2 (text ++ [m.mark]) : Act _)
    else
      match s.files.find? fun f => f.1 = path with
      | some (_, fd) =>
        let _ ← (Act.write fd (text ++ [m.mark]) : Act _)
      | none => (c.complain (Raw.ofText "couldn't open file " ++ path) : Act Unit)

/-- Whether the line at hand is the last. -/
def isLast (c : Call) (m : Manner) : Edit Bool := do
  let s ← get
  let (name, input) ← (refill c m.mark s.kept Act.blockBound s.name s.input : Act _)
  modify fun s => { s with name := if s.input.lines.isEmpty && !input.lines.isEmpty then name else s.name, input }
  return input.lines.isEmpty

/-- Takes the next line; false if there is none. -/
def nextLine (c : Call) (m : Manner) (join : Bool) : Edit Bool := do
  if ← isLast c m then return false
  else
    modify fun s =>
      match s.input.lines with
      | (l, ended) :: rest =>
        { s with input := { s.input with lines := rest }, line := s.line + 1, ended
                 space := if join then s.space ++ '\n' :: l else l }
      | [] => s
    return true

/-- Shows what waits for the line's end. -/
def putPending (m : Manner) : Edit Unit := do
  let s ← get
  set { s with pending := [] }
  for p in s.pending do
    match p with
    | .text r => putText m r
    | .file path =>
      match ← (Call.contents path : Act _) with
      | .ok text =>
        if !text.isEmpty then
          putText m text
      | .error _ => pure ()

/-! ## Lines -/

/-- The expression that is meant, which is the last one from then on. -/
def usedPattern (c : Call) (p : Pattern) : Edit Regex := do
  match p, (← get).lastPattern with
  | some e, _ =>
    modify fun s => { s with lastPattern := some e }
    return e
  | none, some e => return e
  | none, none => (c.fail (Raw.ofText "-e expression #1, char 0: no previous regular expression") 1 : Act _)

/-- Whether a line is the one at hand. -/
def isAt (c : Call) (m : Manner) (a : Address) : Edit Bool := do
  match a with
  | .line n => return (← get).line = n
  | .steps first step =>
    let l := (← get).line
    return l ≥ first && (l - first) % step = 0
  | .last => isLast c m
  | .matching p =>
    let e ← usedPattern c p
    return e.isIn (← get).space

/-- Whether a command is meant for the line at hand. -/
def isMeant (c : Call) (m : Manner) (index : Nat) (t : Target) : Edit Bool := do
  let close : Edit Unit := modify fun s => { s with ranges := s.ranges.filter fun r => r.1 != index }
  let start (ending : Option Nat) : Edit Unit := modify fun s => { s with ranges := (index, ending) :: s.ranges }
  match t with
  | .all => return true
  | .one a => isAt c m a
  | .range a e =>
    let s ← get
    let fromZero := isZero a && !s.past.contains index
    match (s.ranges.find? fun r => r.1 = index), fromZero with
    | none, false =>
      if ← isAt c m a then
        let l := (← get).line
        match e with
        | .at (.line n) => if n > l then start (some n)
        | .after n => if n > 0 then start (some (l + n))
        | .multiple n => if n > 0 && l % n != 0 then start (some ((l / n + 1) * n))
        | .at .last => if !(← isLast c m) then start none
        | .at _ => start none
        return true
      else return false
    | some (_, some n), _ =>
      if s.line ≥ n then close
      return s.line ≤ n
    | _, _ =>
      match e with
      | .at b =>
        if ← isAt c m b then
          close
          modify fun s => { s with past := index :: s.past }
      | _ => pure ()
      return true

/-! ## Changes -/

/-- How letters change. -/
structure Capitals where
  rest : Option Bool
  next : Option Bool

/-- A text with its letters changed. -/
def recased (k : Capitals) : Raw → Raw × Capitals
  | [] => ([], k)
  | c :: rest =>
    let change (up : Option Bool) : Char := match up with
      | some true => c.toUpper
      | some false => c.toLower
      | none => c
    let first := if k.next.isSome then change k.next else change k.rest
    let (more, k) := recased { k with next := none } rest
    (first :: more, k)

/-- What takes the place of a match. -/
def replacing (text : Array Char) (found : Regex.Match) : Capitals → List ReplacementPart → Raw
  | _, [] => []
  | k, .capitals change :: rest =>
    let k : Capitals := match change with
      | 'U' => ⟨some true, k.next⟩
      | 'L' => ⟨some false, k.next⟩
      | 'u' => ⟨k.rest, some true⟩
      | 'l' => ⟨k.rest, some false⟩
      | _ => ⟨none, none⟩
    replacing text found k rest
  | k, .text r :: rest =>
    let (out, k) := recased k r
    out ++ replacing text found k rest
  | k, .group n :: rest =>
    let (out, k) := recased k ((found.group? text n).getD [])
    out ++ replacing text found k rest

/-- A text with matches replaced: all from one on, or that one alone. -/
def withReplaced (r : Replacement) (text : Array Char) :
    (count place : Nat) → List Regex.Match → Raw × Bool
  | _, place, [] => (Regex.between text place text.size, false)
  | count, place, found :: rest =>
    if count + 1 < r.first || (count + 1 > r.first && !r.all) then
      let (out, any) := withReplaced r text (count + 1) found.last rest
      (Regex.between text place found.last ++ out, any)
    else
      let (out, _) := withReplaced r text (count + 1) found.last rest
      (Regex.between text place found.first ++ replacing text found ⟨none, none⟩ r.parts ++ out, true)

/-- A character spelled out. -/
def spelledChar (c : Char) : Raw :=
  if c = '\\' then ['\\', '\\'] else if Raw.isShown c then [c] else Raw.escaped c

/-- Characters in lines of a width, all but the last with a backslash at the end. -/
def folded (width : Nat) : (column : Nat) → List Raw → Raw
  | _, [] => ['$', '\n']
  | column, c :: rest =>
    if width > 1 && column + c.length > width - 1 then '\\' :: '\n' :: c ++ folded width c.length rest
    else c ++ folded width (column + c.length) rest

/-! ## The script -/

/-- What comes after a command. -/
inductive After where
  | go (index : Nat)
  /-- The line is done, and is shown if that is so. -/
  | endCycle (shows : Bool)
  /-- The script starts again without a new line. -/
  | restart
  | quit (code : Nat) (shows : Bool)

/-- The place after the brace that closes the one at the head of commands. -/
def afterBlock : (depth index : Nat) → Script → Nat
  | _, index, [] => index
  | depth, index, cmd :: rest =>
    match cmd.action with
    | .begin => afterBlock (depth + 1) (index + 1) rest
    | .finish => if depth ≤ 1 then index + 1 else afterBlock (depth - 1) (index + 1) rest
    | _ => afterBlock depth (index + 1) rest

/-- The place of a label; the end if there is none. -/
def labelPlace (script : Array Command) (name : Raw) : Nat :=
  if name.isEmpty then script.size
  else (script.findIdx? fun cmd => match cmd.action with
    | .label n => n = name
    | _ => false).getD script.size

/-- The part of a text up to its first end of line. -/
def firstPart (r : Raw) : Raw := r.takeWhile (· != '\n')

/-- Carries out a command that is meant for the line at hand. -/
def act (c : Call) (m : Manner) (script : Array Command) (index : Nat) (cmd : Command) : Edit After := do
  let s ← get
  let on : After := .go (index + 1)
  match cmd.action with
  | .begin | .finish | .label _ | .nothing => return on
  | .number =>
    putText m (Raw.ofNat s.line ++ ['\n'])
    return on
  | .append text =>
    set { s with pending := s.pending ++ [Pending.text text] }
    return on
  | .insert text =>
    putText m text
    return on
  | .change text =>
    let isOpen := s.ranges.any fun r => r.1 = index
    if cmd.negated || !isOpen then putText m text
    return .endCycle false
  | .jump l => return .go (labelPlace script l)
  | .jumpIfReplaced l =>
    set { s with replaced := false }
    return if s.replaced then .go (labelPlace script l) else on
  | .jumpUnlessReplaced l =>
    set { s with replaced := false }
    return if s.replaced then on else .go (labelPlace script l)
  | .delete => return .endCycle false
  | .deleteLine =>
    if s.space.contains '\n' then
      set { s with space := s.space.drop ((firstPart s.space).length + 1) }
      return .restart
    else return .endCycle false
  | .fileName =>
    putText m (s.name ++ ['\n'])
    return on
  | .get =>
    set { s with space := s.held, ended := s.heldEnded }
    return on
  | .getMore =>
    set { s with space := s.space ++ '\n' :: s.held, ended := s.heldEnded }
    return on
  | .hold =>
    set { s with held := s.space, heldEnded := s.ended }
    return on
  | .holdMore =>
    set { s with held := s.held ++ '\n' :: s.space, heldEnded := s.ended }
    return on
  | .exchange =>
    set { s with held := s.space, space := s.held, ended := s.heldEnded, heldEnded := s.ended }
    return on
  | .spell width =>
    putText m (folded (width.getD m.width) 0 (s.space.map spelledChar))
    return on
  | .next =>
    if ← isLast c m then return .quit 0 true
    else
      if !m.quiet then putSpace m
      putPending m
      let _ ← nextLine c m false
      return on
  | .nextMore =>
    if ← isLast c m then return .quit 0 true
    else
      putPending m
      let _ ← nextLine c m true
      return on
  | .print =>
    putSpace m
    return on
  | .printLine =>
    put m (firstPart s.space) true
    return on
  | .quit code => return .quit code true
  | .quitSilently code => return .quit code false
  | .read path =>
    set { s with pending := s.pending ++ [Pending.file path] }
    return on
  | .write path =>
    putFile c m path s.space
    return on
  | .writeLine path =>
    putFile c m path (firstPart s.space)
    return on
  | .translate pairs =>
    set { s with space := s.space.map fun ch => ((pairs.find? fun (p : Char × Char) => p.1 = ch).map Prod.snd).getD ch }
    return on
  | .empty =>
    set { s with space := [] }
    return on
  | .replace r =>
    let e ← usedPattern c r.pattern
    let text := s.space.toArray
    let found := if r.all || r.first > 1 then e.allMatches text else (e.searchFrom? text 0).toList
    let (space, any) := withReplaced r text 0 0 found
    if any then
      modify fun s => { s with space, replaced := true }
      if r.shows then putSpace m
      match r.file with
      | some path => putFile c m path space
      | none => pure ()
    return on

/-- Carries out the script from a place on. -/
def run (c : Call) (m : Manner) (script : Array Command) : (fuel : Nat) → (index : Nat) → Edit After
  | 0, _ => return .endCycle true
  | fuel + 1, index => do
    match script[index]? with
    | none => return .endCycle true
    | some cmd =>
      let meant ← isMeant c m index cmd.target
      if meant != cmd.negated then
        match ← act c m script index cmd with
        | .go next => run c m script fuel next
        | done => return done
      else
        let skipped := match cmd.action with
          | .begin => afterBlock 0 index (script.toList.drop index)
          | _ => index + 1
        run c m script fuel skipped

/-- Edits line after line; gives the exit code that the script asks for, if it ends there. -/
def cycle (c : Call) (m : Manner) (script : Array Command) : (fuel : Nat) → (fresh : Bool) → Edit (Option Nat)
  | 0, _ => return none
  | fuel + 1, fresh => do
    let isThere ← if fresh then nextLine c m false else pure true
    if !isThere then return none
    else
      let outcome ← run c m script 100000000 0
      let finish (shows : Bool) : Edit Unit := do
        if shows && !m.quiet then putSpace m
        putPending m
        let s ← get
        if !m.keeps then
          let kept ← (s.kept.flush c false : Act Kept)
          modify fun s => { s with kept }
      match outcome with
      | .quit code shows =>
        if shows then finish true
        return some code
      | .endCycle shows =>
        finish shows
        modify fun s => { s with replaced := false }
        cycle c m script fuel true
      | .restart =>
        finish false
        cycle c m script fuel false
      | .go _ => return none

/-! ## The program -/

/-- The switches. -/
def switches : Switches :=
  ⟨"bsnrzuEe:f:l:i::V:", [⟨"quiet", "n", .none⟩, ⟨"silent", "n", .none⟩, ⟨"expression", "e", .required⟩,
    ⟨"file", "f", .required⟩, ⟨"regexp-extended", "E", .none⟩, ⟨"in-place", "i", .optional⟩,
    ⟨"line-length", "l", .required⟩, ⟨"null-data", "z", .none⟩, ⟨"zero-terminated", "z", .none⟩,
    ⟨"separate", "s", .none⟩, ⟨"unbuffered", "u", .none⟩, ⟨"posix", "posix", .none⟩, ⟨"debug", "debug", .none⟩,
    ⟨"sandbox", "sandbox", .none⟩, ⟨"binary", "b", .none⟩, ⟨"follow-symlinks", "links", .none⟩], false⟩

/-- Shows how the program is called and ends it. -/
def usage {α : Type} (c : Call) : Act α := do
  let _ ← Act.write 2 (Raw.ofText "Usage: " ++ c.name ++
    Raw.ofText " [OPTION]... \x7bscript-only-if-no-other-script\x7d [input-file]...\n\n")
  Act.exit 1

/-- A part of the script: its text, and the file that it comes from. -/
abbrev Source := Raw × Option Raw

/-- The parts of the script that switches give. -/
def sources (c : Call) : List (String × Raw) → Act (List Source)
  | [] => return []
  | (key, value) :: rest => do
    let here ← match key with
      | "e" => pure [(value, none)]
      | "f" => do
        match ← Call.contents value with
        | .ok text => pure [(if text.getLast? = some '\n' then text.dropLast else text, some value)]
        | .error e => c.fail (Raw.ofText "couldn't open file " ++ value ++ Raw.ofText (": " ++ e.message)) 1
      | _ => pure []
    return here ++ (← sources c rest)

/-- Where a place in the joined parts is: in which of them, and how many characters from its start. -/
def located : (number : Nat) → List Source → (place : Nat) → Nat × Nat × Option Source
  | number, [], place => (number, place, none)
  | number, [s], place => (number, place, some s)
  | number, s :: rest, place =>
    if place ≤ s.1.length + 1 then (number, min place s.1.length, some s)
    else located (number + 1) rest (place - (s.1.length + 1))

/-- Where the fault is and what it is. -/
def explained (parts : List Source) (whole : Raw) (f : Fault) : Raw :=
  let (number, place, source) := located 1 parts (whole.length - f.left)
  match source with
  | some (text, some path) =>
    Raw.ofText "file " ++ path ++ Raw.ofText " line " ++
        Raw.ofNat (((text.take place).filter (· == '\n')).length + 1) ++
      Raw.ofText ": " ++ f.message
  | _ =>
    let shown := if f.message = Raw.ofText "unmatched `\x7b'" then 0 else place
    Raw.ofText s!"-e expression #{number}, char {shown}: " ++ f.message

/-- The files that a script writes. -/
def written (script : Script) : List Raw :=
  (script.filterMap fun cmd => match cmd.action with
    | .write path | .writeLine path => some path
    | .replace r => r.file
    | _ => none).eraseDups.filter fun p => p != "/dev/stdout".toList && p != "/dev/stderr".toList

/-- The state before the first line. -/
def State.start (paths : List Raw) (files : List (Raw × Nat)) (held : Raw) : State :=
  ⟨['-'], ⟨none, [], paths, false⟩, [], held, true, true, 0, [], false, [], [], none, files, Kept.nothing, false⟩

/-- Edits files together; gives the exit code. -/
def together (c : Call) (m : Manner) (script : Script) (paths : List Raw) (files : List (Raw × Nat)) : Act UInt8 := do
  let (code, s) ← (cycle c m script.toArray 1000000000 true).run (State.start (orInput paths) files [])
  let _ ← s.kept.flush c true
  return match code with
    | some n => UInt8.ofNat n
    | none => if s.input.failed then 2 else 0

/-- Edits each file by itself, and puts what comes of it in its place if that is asked for, perhaps keeping the old
one under a name with an ending. -/
def apart (c : Call) (m : Manner) (script : Script) (inPlace : Option Raw) (files : List (Raw × Nat)) :
    List Raw → (code : UInt8) → Act UInt8
  | [], code => return code
  | path :: rest, code => do
    match inPlace with
    | none =>
      let (stop, s) ← (cycle c m script.toArray 1000000000 true).run (State.start [path] files [])
      let _ ← s.kept.flush c true
      match stop with
      | some n => return UInt8.ofNat n
      | none => apart c m script inPlace files rest (if s.input.failed then 2 else code)
    | some ending =>
      match ← Act.node? path true with
      | .error e =>
        unreadable c path e
        apart c m script inPlace files rest 2
      | .ok (_, node) =>
        if !node.isRegular then
          c.complain (Raw.ofText "couldn't edit " ++ path ++ Raw.ofText ": not a regular file")
          apart c m script inPlace files rest 4
        else
          let (stop, s) ← (cycle c m script.toArray 1000000000 true).run (State.start [path] files [])
          let new := path ++ Raw.ofText ".new"
          match ← Act.attempt fun pid k => k.openPath pid new .writing node.mode 3 false with
          | .error e =>
            c.complain (Raw.ofText "couldn't open temporary file " ++ new ++ Raw.ofText (": " ++ e.message))
            return 4
          | .ok fd =>
            let _ ← Act.write fd s.kept.all
            Act.close fd
            if !ending.isEmpty then
              let _ ← Act.tryChange fun pid k => k.move pid path (path ++ ending)
            let _ ← Act.tryChange fun pid k => k.move pid new path
            match stop with
            | some n => return UInt8.ofNat n
            | none => apart c m script inPlace files rest code

/-- Edits lines by a script. -/
def sed : Utility := fun c => do
  match switches.ofWords c.args with
  | .error message =>
    c.complain message
    usage c
  | .ok g =>
    let given := g.switches.filter fun s => s.1 == "e" || s.1 == "f"
    if given.isEmpty && g.operands.isEmpty then usage c
    else
      let parts ← if given.isEmpty then pure [(g.operands.headD [], none)] else sources c given
      let paths := if given.isEmpty then g.operands.drop 1 else g.operands
      let whole := Raw.joined ['\n'] (parts.map Prod.fst)
      match Script.ofText ⟨g.has "E" || g.has "r"⟩ whole with
      | .error f => c.fail (explained parts whole f) 1
      | .ok script =>
        match script.missingLabels with
        | l :: _ => c.fail (Raw.ofText "can't find label for jump to `" ++ l ++ ['\'']) 4
        | [] =>
          let files ← (written script).mapM fun path => do
            match ← Act.openFile path .writing with
            | .ok fd => return (path, fd)
            | .error e => c.fail (Raw.ofText "couldn't open file " ++ path ++ Raw.ofText (": " ++ e.message)) 4
          let inPlace := g.value? "i"
          let m : Manner :=
            { quiet := g.has "n" || Raw.startsWith "#n\n".toList whole || whole = "#n".toList
              mark := if g.has "z" then '\x00' else '\n'
              separate := g.has "s" || inPlace.isSome
              keeps := inPlace.isSome
              width := ((g.value? "l").bind Raw.natural?).getD 70 }
          if m.separate then apart c m script inPlace files (orInput paths) 0
          else together c m script paths files

/-- The programs by name. -/
def programs : List (String × Utility) := [("sed", sed)]

end RunMeter.Machine.Editing
