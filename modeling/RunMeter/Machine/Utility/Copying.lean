import RunMeter.Machine.Utility.Sources

/-!
# RunMeter.Machine.Utility.Copying — programs that copy what they read

Programs that write what they read, or a part of it: all of it, its start, its end, or in another order.  They read
no more than they need, so that what is left is there for others.

Nothing that is proved depends on this module.
-/

namespace RunMeter.Machine.Copying

open Sources

/-! ## All of it -/

/-- How octets are shown. -/
structure Display where
  /-- Whether ends of lines are marked. -/
  ends : Bool
  tabs : Bool
  /-- Whether octets that do not show are spelled out. -/
  hidden : Bool
  /-- Whether lines have numbers. -/
  numbered : Bool
  /-- Whether empty lines have none. -/
  sparing : Bool
  /-- Whether only one of some empty lines is shown. -/
  squeezed : Bool

/-- An octet spelled out. -/
def visible (c : Char) : Raw :=
  let low (n : Nat) : Raw :=
    if n < 32 then ['^', Char.ofNat (n + 64)] else if n = 127 then ['^', '?'] else [Char.ofNat n]
  let n := c.toNat
  if n < 128 then low n else 'M' :: '-' :: low (n - 128)

/-- Where showing a text is: the output, the last octet first, how many ends of lines came last, and the number of
the last line. -/
structure Shown where
  output : Raw
  newlines : Nat
  line : Nat

namespace Shown

/-- Nothing shown. -/
def start : Shown := ⟨[], 1, 0⟩

/-- Puts octets behind. -/
def put (s : Shown) (octets : Raw) : Shown := { s with output := octets.reverse ++ s.output }

/-- Puts the next line's number behind. -/
def number (s : Shown) : Shown :=
  { s with line := s.line + 1 }.put (Raw.padStart 6 (Raw.ofNat (s.line + 1)) ++ ['\t'])

/-- Shows octets. -/
def feed (d : Display) (s : Shown) : Raw → Shown
  | [] => s
  | c :: rest =>
    if c = '\n' then
      let blank := s.newlines > 0
      if d.squeezed && s.newlines ≥ 2 then feed d s rest
      else
        let s := if blank && d.numbered && !d.sparing then s.number else s
        feed d { s.put (if d.ends then ['$', '\n'] else ['\n']) with newlines := s.newlines + 1 } rest
    else
      let s := if s.newlines > 0 && d.numbered then s.number else s
      let shown :=
        if c = '\t' then (if d.tabs then ['^', 'I'] else [c])
        else if d.hidden then visible c
        else if c = '\r' && d.ends && rest.head? = some '\n' then ['^', 'M']
        else [c]
      feed d { s.put shown with newlines := 0 } rest

end Shown

/-- Whether a descriptor leads to what standard output writes to, which would then be read for ever. -/
def feedsItself (fd : Nat) : Act Bool :=
  Act.ask fun pid k =>
    match (k.channelOf? pid fd).map k.channel, (k.channelOf? pid 1).map k.channel with
    | some (.file n offset _ _ _), some (.file m _ _ _ _) => n = m && offset < (k.files.node n).size
    | _, _ => false

/-- Copies a source block by block. -/
def copyBlocks (c : Call) (fd : Nat) (f : Shown → Raw → Raw × Shown) :
    (fuel : Nat) → Shown → Act (Except Errno Shown)
  | 0, s => return .ok s
  | fuel + 1, s => do
    match ← Act.read fd Act.blockSize with
    | .error e => return .error e
    | .ok [] => return .ok s
    | .ok block =>
      let (out, s) := f s block
      c.emit out 1
      copyBlocks c fd f fuel s

/-- Copies files to standard output. -/
def cat : Utility := fun c => do
  let g ← c.options ⟨"benstuvAET", [⟨"number-nonblank", "b", .none⟩, ⟨"number", "n", .none⟩,
    ⟨"squeeze-blank", "s", .none⟩, ⟨"show-nonprinting", "v", .none⟩, ⟨"show-ends", "E", .none⟩,
    ⟨"show-tabs", "T", .none⟩, ⟨"show-all", "A", .none⟩],
    false⟩ 1
  let d : Display := ⟨g.has "e" || g.has "E" || g.has "A", g.has "t" || g.has "T" || g.has "A",
    g.has "v" || g.has "e" || g.has "t" || g.has "A", g.has "n" || g.has "b", g.has "b", g.has "s"⟩
  let isPlain := g.switches.all fun s => s.1 == "u"
  let display (s : Shown) (block : Raw) : Raw × Shown :=
    if isPlain then (block, s)
    else
      let s := s.feed d block
      (s.output.reverse, { s with output := [] })
  let mut s := Shown.start
  let mut code : UInt8 := 0
  for path in orInput g.operands do
    let before := s
    let result ← Call.withFile path fun fd => do
      if ← feedsItself fd then return .ok none
      else return (← copyBlocks c fd display Act.blockBound before).map some
    match result with
    | .ok (some after) => s := after
    | .ok none =>
      c.complain (Raw.displayed path ++ Raw.ofText ": input file is output file")
      code := 1
    | .error e =>
      c.complain (Call.about path e)
      code := 1
  return code

/-- Copies standard input to standard output and to files. -/
def tee : Utility := fun c => do
  let g ← c.options ⟨"aip", [⟨"append", "a", .none⟩, ⟨"ignore-interrupts", "i", .none⟩], false⟩ 1
  if g.has "i" then Act.choose SignalNumber.interrupt .ignore
  let mut code : UInt8 := 0
  let mut targets : List (Raw × Nat) := [(Raw.ofText "standard output", 1)]
  for path in g.operands do
    match ← Act.openFile path (if g.has "a" then .appending else .writing) with
    | .ok fd => targets := targets ++ [(path, fd)]
    | .error e =>
      c.complain (Call.about path e)
      code := 1
  let rec go : (fuel : Nat) → List (Raw × Nat) → UInt8 → Act UInt8
    | 0, _, code => return code
    | fuel + 1, targets, code => do
      match ← Act.read 0 Act.blockSize with
      | .error _ | .ok [] => return code
      | .ok block =>
        let results ← targets.mapM fun t => do return (t, ← Act.write t.2 block)
        let failed := results.filter fun r => r.2.isSome
        for (t, e) in failed do
          c.complain ((if t.2 = 1 then (Raw.quoted t.1) else Raw.displayed t.1) ++ Raw.ofText (": " ++ (e.map Errno.message).getD ""))
        let left := (results.filter fun r => r.2.isNone).map Prod.fst
        if left.isEmpty then return 1 else go fuel left (if failed.isEmpty then code else 1)
  go Act.blockBound targets code

/-! ## A part of it -/

/-- How much of a source is meant. -/
structure Extent where
  count : Nat
  /-- Whether the count is of what is left out. -/
  without : Bool
  octets : Bool
  /-- What ends a line. -/
  mark : Char

/-- A file's name over what is shown of it. -/
def heading (first : Bool) (path : Raw) : Raw :=
  (if first then [] else ['\n']) ++ Raw.ofText "==> " ++ (if path = ['-'] then Raw.ofText "standard input" else path) ++
    Raw.ofText " <==\n"

/-- The first word of a program as a switch with a count, if it is a dash with digits. -/
def modern (ws : List Raw) : List Raw :=
  match ws with
  | ('-' :: d :: ds) :: rest =>
    if d.isDigit then
      let digits := (d :: ds).takeWhile Char.isDigit
      let letters := (d :: ds).drop digits.length
      let unit := letters.filter fun c => c == 'b' || c == 'k' || c == 'm'
      let switch : Raw := if letters.contains 'c' || !unit.isEmpty then ['-', 'c'] else ['-', 'n']
      let others := letters.filter fun c => c == 'q' || c == 'v' || c == 'z' || c == 'f'
      [switch, digits ++ unit] ++ (if others.isEmpty then [] else ['-' :: others]) ++ rest
    else ws
  | _ => ws

/-- How much a program is asked for; `sign` marks what is left out. -/
def extent (c : Call) (g : Given) (sign : Char) : Act Extent := do
  let octets := g.last? ["c", "n"] == some "c"
  let mark := if g.has "z" then '\x00' else '\n'
  match g.value? (if octets then "c" else "n") with
  | none => return ⟨10, false, octets, mark⟩
  | some w =>
    let without := w.head? = some sign
    let digits := match w with
      | d :: ds => if d = '-' || d = sign then ds else w
      | [] => w
    match amount? digits with
    | some n => return ⟨n, without, octets, mark⟩
    | none =>
      c.fail (Raw.ofText ("invalid number of " ++ if octets then "bytes: " else "lines: ") ++ Raw.quoted digits) 1

/-- A text up to and with so many ends of lines, and the number of those that are missing. -/
def cutLines (mark : Char) : (count : Nat) → Raw → Raw × Nat
  | 0, _ => ([], 0)
  | count, [] => ([], count)
  | count + 1, c :: rest =>
    let (line, missing) := cutLines mark (if c = mark then count else count + 1) rest
    (c :: line, missing)

/-- How much is read at once of a source whose start is wanted. -/
def smallBlock : Nat := 8192

/-- Reads the first lines of a source. -/
def firstLines (fd : Nat) (mark : Char) : (fuel : Nat) → (count : Nat) → Act (Except Errno Raw)
  | 0, _ => return .ok []
  | _, 0 => return .ok []
  | fuel + 1, count => do
    match ← Act.read fd smallBlock with
    | .error e => return .error e
    | .ok [] => return .ok []
    | .ok block =>
      let (part, missing) := cutLines mark count block
      if missing = 0 then
        let _ ← Act.seek fd fun offset _ => (offset : Int) - ((block.length : Int) - part.length)
        return .ok part
      else return (← firstLines fd mark fuel missing).map (part ++ ·)

/-- Reads the first octets of a source. -/
def firstOctets (fd : Nat) : (fuel : Nat) → (count : Nat) → Act (Except Errno Raw)
  | 0, _ => return .ok []
  | _, 0 => return .ok []
  | fuel + 1, count => do
    match ← Act.read fd (min count smallBlock) with
    | .error e => return .error e
    | .ok [] => return .ok []
    | .ok block => return (← firstOctets fd fuel (count - block.length)).map (block ++ ·)

/-- Reads the start of a source. -/
def startOf (e : Extent) (fd : Nat) : Act (Except Errno Raw) :=
  if e.without then do
    return (← Act.readAll fd).map fun text =>
      if e.octets then text.take (text.length - e.count)
      else
        let lines := pieces e.mark text
        (lines.take (lines.length - e.count)).flatten
  else if e.octets then firstOctets fd Act.blockBound e.count
  else firstLines fd e.mark Act.blockBound e.count

/-- Reads the end of a source. -/
def endOf (e : Extent) (fd : Nat) : Act (Except Errno Raw) := do
  return (← Act.readAll fd).map fun text =>
    if e.octets then text.drop (if e.without then e.count - 1 else text.length - e.count)
    else
      let lines := pieces e.mark text
      (lines.drop (if e.without then e.count - 1 else lines.length - e.count)).flatten

/-- Writes a part of each file, under headings if there are several. -/
def parts (c : Call) (g : Given) (part : Nat → Act (Except Errno Raw)) : Act UInt8 := do
  let paths := orInput g.operands
  let headed := match g.last? ["q", "v"] with
    | some "v" => true
    | some _ => false
    | none => paths.length > 1
  let mut pieces : List Piece := []
  let mut first := true
  let mut code : UInt8 := 0
  for path in paths do
    let opened ← if path = ['-'] then pure (.ok 0) else Act.openFile path .reading
    match opened with
    | .error e =>
      pieces := .complaint (unopened path e) :: pieces
      code := 1
    | .ok fd =>
      if headed then pieces := .output (heading first path) :: pieces
      first := false
      match ← part fd with
      | .ok text => pieces := .output text :: pieces
      | .error e =>
        let name := if path = ['-'] then Raw.ofText "standard input" else path
        pieces := .complaint (Raw.ofText "error reading " ++ Raw.quoted name ++ Raw.ofText (": " ++ e.message)) :: pieces
        code := 1
      if path != ['-'] then Act.close fd
  c.display pieces.reverse 1
  return code

/-- The switches of the programs that show a start or an end. -/
def partSwitches (letters : String) : Switches :=
  ⟨"c:n:qvz" ++ letters, [⟨"bytes", "c", .required⟩, ⟨"lines", "n", .required⟩, ⟨"quiet", "q", .none⟩,
    ⟨"silent", "q", .none⟩, ⟨"verbose", "v", .none⟩, ⟨"zero-terminated", "z", .none⟩, ⟨"follow", "f", .optional⟩],
    false⟩

/-- Shows the start of files. -/
def head : Utility := fun c => do
  let g ← ({ c with words := c.name :: modern c.args }).options (partSwitches "") 1
  let e ← extent c g '-'
  parts c g (startOf e)

/-- Shows the end of files. -/
def tail : Utility := fun c => do
  let g ← ({ c with words := c.name :: modern c.args }).options (partSwitches "fFs:") 1
  let e ← extent c g '+'
  let code ← parts c g (endOf e)
  if (g.has "f" || g.has "F") && g.operands.any (· != ['-']) then Act.pause
  return code

/-! ## In another order -/

/-- The parts of a text in the opposite order.  A mark ends each part, or stands before it. -/
def turned (mark : Raw) (before : Bool) (text : Raw) : Raw :=
  let rec cut : (fuel : Nat) → (part : Raw) → Raw → List Raw
    | 0, part, _ => [part.reverse]
    | _, part, [] => if part.isEmpty then [] else [part.reverse]
    | fuel + 1, part, c :: rest =>
      if mark.isPrefixOf (c :: rest) then
        let after := (c :: rest).drop mark.length
        if before then part.reverse :: cut fuel mark.reverse after
        else (part.reverse ++ mark) :: cut fuel [] after
      else cut fuel (c :: part) rest
  (cut (text.length + 1) [] text).reverse.flatten

/-- Shows the last lines first. -/
def tac : Utility := fun c => do
  let g ← c.options ⟨"brs:", [⟨"before", "b", .none⟩, ⟨"regex", "r", .none⟩, ⟨"separator", "s", .required⟩], false⟩ 1
  let mark := (g.value? "s").getD ['\n']
  let message (path : Raw) (e : Errno) : Raw :=
    if e = .isDirectory then Raw.displayed path ++ Raw.ofText (": read error: " ++ e.message)
    else Raw.ofText "failed to open " ++ Raw.quoted path ++ Raw.ofText (" for reading: " ++ e.message)
  let mut pieces : List Piece := []
  let mut code : UInt8 := 0
  for path in orInput g.operands do
    match ← Call.contents path with
    | .ok text => pieces := .output (turned (if mark.isEmpty then ['\x00'] else mark) (g.has "b") text) :: pieces
    | .error e =>
      pieces := .complaint (message path e) :: pieces
      code := 1
  c.display pieces.reverse 1
  return code

/-- Turns lines round. -/
def rev : Utility := fun c => do
  let g ← c.options ⟨"", [], false⟩ 1
  let message (path : Raw) (e : Errno) : Raw :=
    if e = .isDirectory then Call.about path e
    else Raw.ofText "cannot open " ++ path ++ Raw.ofText (": " ++ e.message)
  let (_, good) ← filter c (LineFilter.plain '\n' List.reverse) '\n' message g.operands ()
  return if good then 0 else 1

/-- Shows files one after the other, each with its name over it. -/
def more : Utility := fun c => do
  let g ← c.options ⟨"cdfln:psu", [⟨"lines", "n", .required⟩, ⟨"squeeze", "s", .none⟩, ⟨"plain", "u", .none⟩], false⟩ 1
  if g.operands.isEmpty then
    c.put (← Call.input)
  else
    for path in g.operands do
      match ← Call.contents path with
      | .ok text =>
        let bar := List.replicate 14 ':' ++ ['\n']
        c.emit (bar ++ path ++ '\n' :: bar ++ text) 1
      | .error .isDirectory => c.emit (Raw.ofText "\n*** " ++ path ++ Raw.ofText ": directory ***\n\n") 1
      | .error e => c.complain (Raw.ofText "cannot open " ++ path ++ Raw.ofText (": " ++ e.message))
    return 0

/-- The programs by name. -/
def programs : List (String × Utility) :=
  [("cat", cat), ("tee", tee), ("head", head), ("tail", tail), ("tac", tac), ("rev", rev), ("more", more)]

end RunMeter.Machine.Copying
