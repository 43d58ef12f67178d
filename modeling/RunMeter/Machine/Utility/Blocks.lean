import RunMeter.Machine.Format
import RunMeter.Machine.Utility.Sources

/-!
# RunMeter.Machine.Utility.Blocks — a program that copies blocks

Operands of the form `name=value` say how large the blocks are, how many are copied, where that begins in the input and
in the output, and what is done to the octets on the way.

* `Plan.ofOperands`: what operands ask for.
* `Copy.feed`: octets on their way to the output.
* `dd`: the program.

Nothing that is proved depends on this module.
-/

namespace RunMeter.Machine.Blocks

/-! ## Operands -/

/-- A number of blocks, or of octets. -/
structure Extent where
  amount : Nat
  inOctets : Bool

/-- What is asked for. -/
structure Plan where
  source : Option Raw := none
  target : Option Raw := none
  inSize : Nat := 512
  outSize : Nat := 512
  /-- The size of blocks in both directions. -/
  bothSize : Option Nat := none
  lineSize : Nat := 0
  skip : Extent := ⟨0, false⟩
  seek : Extent := ⟨0, false⟩
  count : Option Extent := none
  conversions : List String := []
  inFlags : List String := []
  outFlags : List String := []
  status : String := "usual"

/-- What is wrong with operands, and whether help is pointed to. -/
structure Fault where
  message : Raw
  helped : Bool

/-- The names of conversions. -/
def conversionNames : List String :=
  ["ascii", "ebcdic", "ibm", "block", "unblock", "lcase", "ucase", "sparse", "swab", "noerror", "nocreat", "excl",
   "notrunc", "sync", "fdatasync", "fsync"]

/-- The names of what files are opened and counted with. -/
def flagNames : List String :=
  ["append", "binary", "direct", "directory", "dsync", "noatime", "nocache", "noctty", "nofollow", "nonblock", "sync",
   "text", "fullblock", "count_bytes", "skip_bytes", "seek_bytes"]

/-- The symbols in a word. -/
def symbols (names : List String) (what : String) (w : Raw) : Except Fault (List String) :=
  (Raw.splitAt ',' w).mapM fun s =>
    if names.any fun n => n.toList == s then .ok (Raw.text s)
    else .error ⟨Raw.ofText (what ++ ": ") ++ Raw.quoted s, true⟩

/-- The factor of a unit's letters. -/
def unit? (w : Raw) : Option Nat :=
  match w with
  | ['w'] => some 2
  | ['B'] => some 1
  | w => Sources.unit? w

/-- A product of numbers with units. -/
def amount? (w : Raw) : Option Nat :=
  (Raw.splitAt 'x' w).foldl (fun product part => do
    let digits := part.takeWhile Char.isDigit
    let unit := part.drop digits.length
    if digits.isEmpty then none
    else
      let factor ← (unit? unit).or (if unit.getLast? = some 'B' then unit? unit.dropLast else none)
      return (← product) * (Raw.valueIn 10 digits * factor)) (some 1)

/-- A number that is not below another one. -/
def number (least : Nat) (w : Raw) : Except Fault Nat :=
  match amount? w with
  | some n => if n < least then .error ⟨Raw.ofText "invalid number: " ++ Raw.quoted w, false⟩ else .ok n
  | none => .error ⟨Raw.ofText "invalid number: " ++ Raw.quoted w, false⟩

/-- A number of blocks, or of octets if its unit says so. -/
def extent (w : Raw) : Except Fault Extent :=
  (number 0 w).map fun n => ⟨n, w.contains 'B'⟩

namespace Plan

/-- A plan with one operand more. -/
def taking (p : Plan) (w : Raw) : Except Fault Plan := do
  let name := w.takeWhile (· != '=')
  let value := w.drop (name.length + 1)
  let unknown : Fault := ⟨Raw.ofText "unrecognized operand " ++ Raw.quoted w, true⟩
  if !w.contains '=' then .error unknown
  else match Raw.text name with
  | "if" => return { p with source := some value }
  | "of" => return { p with target := some value }
  | "conv" => return { p with conversions := p.conversions ++ (← symbols conversionNames "invalid conversion" value) }
  | "iflag" => return { p with inFlags := p.inFlags ++ (← symbols flagNames "invalid input flag" value) }
  | "oflag" => return { p with outFlags := p.outFlags ++ (← symbols flagNames "invalid output flag" value) }
  | "status" =>
    match ["none", "noxfer", "progress"].find? fun n => n.toList == value with
    | some s => return { p with status := s }
    | none => .error ⟨Raw.ofText "invalid status level: " ++ Raw.quoted value, true⟩
  | "bs" => return { p with bothSize := some (← number 1 value) }
  | "ibs" => return { p with inSize := ← number 1 value }
  | "obs" => return { p with outSize := ← number 1 value }
  | "cbs" => return { p with lineSize := ← number 1 value }
  | "skip" | "iseek" => return { p with skip := ← extent value }
  | "seek" | "oseek" => return { p with seek := ← extent value }
  | "count" => return { p with count := some (← extent value) }
  | _ => .error unknown

/-- Whether a conversion is asked for. -/
def has (p : Plan) (conversion : String) : Bool := p.conversions.contains conversion

/-- The pairs of conversions that do not go together. -/
def conflicts (p : Plan) : Option String :=
  let both (a b : String) : Bool := p.has a && p.has b
  if both "ascii" "ebcdic" || both "ascii" "ibm" || both "ebcdic" "ibm" then
    some "cannot combine any two of \x7bascii,ebcdic,ibm\x7d"
  else if both "block" "unblock" then some "cannot combine block and unblock"
  else if both "lcase" "ucase" then some "cannot combine lcase and ucase"
  else if both "excl" "nocreat" then some "cannot combine excl and nocreat"
  else none

/-- What operands ask for. -/
def ofOperands (ws : List Raw) : Except Fault Plan := do
  let p ← ws.foldlM Plan.taking ({} : Plan)
  if p.outFlags.contains "fullblock" then .error ⟨Raw.ofText "invalid output flag: 'fullblock'", true⟩
  else match p.conflicts with
  | some message => .error ⟨Raw.ofText message, false⟩
  | none =>
    let p := match p.bothSize with
      | some n => { p with inSize := n, outSize := n }
      | none => p
    return if p.lineSize = 0 then { p with conversions := p.conversions.filter fun n => n != "block" && n != "unblock" } else p

/-- Whether what is read goes through a block of the output's size. -/
def gathers (p : Plan) : Bool :=
  p.bothSize.isNone || p.conversions.any ["block", "unblock", "lcase", "ucase", "swab", "ascii", "ebcdic", "ibm"].contains

/-- How many octets an extent is. -/
def octets (e : Extent) (size : Nat) (flagged : Bool) : Nat :=
  if e.inOctets || flagged then e.amount else e.amount * size

/-- How many octets of the input are left out. -/
def skipped (p : Plan) : Nat := octets p.skip p.inSize (p.inFlags.contains "skip_bytes")

/-- How many octets of the output are left out. -/
def sought (p : Plan) : Nat := octets p.seek p.outSize (p.outFlags.contains "seek_bytes")

/-- How many blocks are copied, and how many octets after them; all if there is no bound. -/
def bound (p : Plan) : Option (Nat × Nat) :=
  p.count.map fun e =>
    if e.inOctets || p.inFlags.contains "count_bytes" then (e.amount / p.inSize, e.amount % p.inSize) else (e.amount, 0)

/-- Whether blocks that are not full make the count of octets doubtful. -/
def doubtful (p : Plan) : Bool :=
  !p.gathers && !p.inFlags.contains "fullblock" &&
    (p.skip.amount > 0 || (match p.bound with
      | some (blocks, _) => 0 < blocks
      | none => false))

/-- The name of the input in messages. -/
def sourceName (p : Plan) : Raw := p.source.getD (Raw.ofText "standard input")

/-- The name of the output in messages. -/
def targetName (p : Plan) : Raw := p.target.getD (Raw.ofText "standard output")

end Plan

/-! ## Octets on their way -/

/-- A copy at work: how many blocks have been read and written in full and in part, and what waits to be written. -/
structure Copy where
  fullIn : Nat := 0
  partIn : Nat := 0
  fullOut : Nat := 0
  partOut : Nat := 0
  cut : Nat := 0
  written : Nat := 0
  /-- Octets that do not fill a block yet. -/
  held : Raw := []
  /-- An octet whose partner has not come yet. -/
  odd : Option Char := none
  column : Nat := 0
  spaces : Nat := 0
  /-- How much the last block held that was read. -/
  last : Nat := 0
  warned : Bool := false

/-- Octets with each pair turned around, and the last one if it has no partner. -/
def turned : Raw → Raw × Option Char
  | [] => ([], none)
  | [a] => ([], some a)
  | a :: b :: rest =>
    let (pairs, odd) := turned rest
    (b :: a :: pairs, odd)

/-- Lines filled up with blanks to a size, or cut off there. -/
def Copy.fillLines (size : Nat) (s : Copy) : Raw → Raw × Copy
  | [] => ([], s)
  | '\n' :: rest =>
    let (out, t) := Copy.fillLines size { s with column := 0 } rest
    (List.replicate (size - s.column) ' ' ++ out, t)
  | ch :: rest =>
    let s := if s.column = size then { s with cut := s.cut + 1 } else s
    let (out, t) := Copy.fillLines size { s with column := s.column + 1 } rest
    (if s.column < size then ch :: out else out, t)

/-- Blocks of a size as lines without blanks at their ends. -/
def Copy.cutLines (size : Nat) (s : Copy) : Raw → Raw × Copy
  | [] => ([], s)
  | ch :: rest =>
    let (ended, s) := if s.column ≥ size then (['\n'], { s with column := 0, spaces := 0 }) else ([], s)
    let s := { s with column := s.column + 1 }
    if ch = ' ' then
      let (out, t) := Copy.cutLines size { s with spaces := s.spaces + 1 } rest
      (ended ++ out, t)
    else
      let (out, t) := Copy.cutLines size { s with spaces := 0 } rest
      (ended ++ List.replicate s.spaces ' ' ++ ch :: out, t)

/-- What comes of octets that have been read. -/
def Copy.feed (p : Plan) (s : Copy) (octets : Raw) : Raw × Copy :=
  let octets := if p.has "ucase" then Raw.toUpper octets else if p.has "lcase" then Raw.toLower octets else octets
  let (octets, s) := if p.has "swab" then
      let (pairs, odd) := turned (s.odd.toList ++ octets)
      (pairs, { s with odd := odd })
    else (octets, s)
  if p.has "block" then Copy.fillLines p.lineSize s octets
  else if p.has "unblock" then Copy.cutLines p.lineSize s octets
  else (octets, s)

/-- What comes of the end of the input. -/
def Copy.finish (p : Plan) (s : Copy) : Raw :=
  let (last, s) := match s.odd with
    | none => ([], s)
    | some ch =>
      if p.has "block" then Copy.fillLines p.lineSize s [ch]
      else if p.has "unblock" then Copy.cutLines p.lineSize s [ch]
      else ([ch], s)
  last ++
    (if p.has "block" && s.column > 0 then List.replicate (p.lineSize - s.column) ' '
    else if p.has "unblock" && s.column > 0 then ['\n'] else [])

/-! ## The copy -/

/-- A size with a unit of powers of 1000 or 1024. -/
def withUnit (base : Nat) (units : List String) (n : Nat) : String :=
  let rec go : List String → (scale : Nat) → String
    | [], _ => toString n
    | u :: rest, scale =>
      let tenths := (n * 10 + scale / 2) / scale
      let whole := (n + scale / 2) / scale
      if whole ≥ base && !rest.isEmpty then go rest (scale * base)
      else if tenths < 100 then toString (tenths / 10) ++ "." ++ toString (tenths % 10) ++ " " ++ u
      else toString whole ++ " " ++ u
  if n < base then toString n ++ " B" else go units base

/-- A size in units of powers of 1000. -/
def inThousands (n : Nat) : String := withUnit 1000 ["kB", "MB", "GB", "TB", "PB", "EB"] n

/-- What is told in the end. -/
def Copy.summary (p : Plan) (s : Copy) (micros : Nat) : Raw :=
  if p.status = "none" then []
  else
    let records := toString s.fullIn ++ "+" ++ toString s.partIn ++ " records in\n" ++ toString s.fullOut ++ "+" ++
      toString s.partOut ++ " records out\n"
    let cut := if s.cut = 0 then "" else toString s.cut ++ " truncated record" ++ (if s.cut = 1 then "\n" else "s\n")
    if p.status = "noxfer" then Raw.ofText (records ++ cut)
    else
      let n := s.written
      let sizes := (if n ≥ 1000 then [inThousands n] else []) ++
        (if n ≥ 1024 then [withUnit 1024 ["KiB", "MiB", "GiB", "TiB", "PiB", "EiB"] n] else [])
      let shown := if sizes.isEmpty then "" else " (" ++ ", ".intercalate sizes ++ ")"
      let seconds := Conversion.real (Conversion.plain 'g') false (Quantity.ofRat ((micros : Nat) / (1000000 : Nat)))
      let speed := n * 1000000 / (max micros 1)
      let speed := if speed < 1000 then toString (speed / 1000) ++ "." ++ toString (speed / 100 % 10) ++ " kB" else inThousands speed
      Raw.ofText (records ++ cut ++ toString n ++ (if n = 1 then " byte" else " bytes") ++ shown ++ " copied, ") ++
          seconds ++
        Raw.ofText (" s, " ++ speed ++ "/s\n")

/-- A copy with its files. -/
structure Job where
  call : Call
  plan : Plan
  source : Nat
  target : Nat
  begun : Instant

namespace Job

/-- Tells what has been done and ends the program. -/
def close {α : Type} (j : Job) (s : Copy) (code : UInt8) : Act α := do
  let time ← Act.now
  let _ ← Act.write 2 (s.summary j.plan (time - j.begun))
  Act.exit code

/-- Complains, tells what has been done and ends the program. -/
def failed {α : Type} (j : Job) (s : Copy) (message : Raw) : Act α := do
  j.call.complain message
  j.close s 1

/-- Writes one block. -/
def writeBlock (j : Job) (s : Copy) (block : Raw) : Act Copy := do
  match ← Act.write j.target block with
  | some e => j.failed s (Raw.ofText "error writing " ++ Raw.quoted j.plan.targetName ++ Raw.ofText (": " ++ e.message))
  | none =>
    let s := { s with written := s.written + block.length }
    return if block.length = j.plan.outSize then { s with fullOut := s.fullOut + 1 } else { s with partOut := s.partOut + 1 }

/-- Writes the blocks that octets fill, and keeps the rest. -/
def gather (j : Job) : (fuel : Nat) → Copy → Raw → Act Copy
  | 0, s, octets => return { s with held := octets }
  | fuel + 1, s, octets =>
    if octets.length < j.plan.outSize then return { s with held := octets }
    else do
      let s ← j.writeBlock s (octets.take j.plan.outSize)
      j.gather fuel s (octets.drop j.plan.outSize)

/-- Reads a block, in several goes if it has to be full. -/
def readBlock (j : Job) : (fuel : Nat) → (size : Nat) → Act (Except Errno Raw)
  | 0, _ => return .ok []
  | fuel + 1, size => do
    match ← Act.read j.source size with
    | .error e => return .error e
    | .ok [] => return .ok []
    | .ok block =>
      if block.length < size && j.plan.inFlags.contains "fullblock" then
        match ← j.readBlock fuel (size - block.length) with
        | .ok more => return .ok (block ++ more)
        | .error _ => return .ok block
      else return .ok block

/-- Warns once if a block is read after one that was not full. -/
def noteSize (j : Job) (s : Copy) (got size : Nat) : Act Copy := do
  let warns := j.plan.doubtful && !s.warned && 0 < s.last && s.last < size
  if warns && j.plan.status != "none" then
    j.call.complain (Raw.ofText ("warning: partial read (" ++ toString s.last ++ (if s.last = 1 then " byte" else " bytes") ++
      "); suggest iflag=fullblock"))
  return { s with last := got, warned := s.warned || warns }

/-- Copies block after block. -/
def copyBlocks (j : Job) : (fuel : Nat) → Copy → Act Copy
  | 0, s => return s
  | fuel + 1, s => do
    let p := j.plan
    let done := s.fullIn + s.partIn
    let size := match p.bound with
      | some (blocks, octets) => if done < blocks then p.inSize else if done = blocks then octets else 0
      | none => p.inSize
    if size = 0 then return s
    match ← j.readBlock (size + 1) size with
    | .error e => j.failed s (Raw.ofText "error reading " ++ Raw.quoted p.sourceName ++ Raw.ofText (": " ++ e.message))
    | .ok [] => return s
    | .ok block =>
      let s ← j.noteSize s block.length size
      let full := block.length = p.inSize
      let s := if full then { s with fullIn := s.fullIn + 1 } else { s with partIn := s.partIn + 1 }
      let block := if full || !p.has "sync" then block
        else block ++ List.replicate (p.inSize - block.length) (if p.has "block" || p.has "unblock" then ' ' else '\x00')
      if p.gathers then
        let (out, s) := s.feed p block
        let octets := s.held ++ out
        j.copyBlocks fuel (← j.gather (octets.length + 1) { s with held := [] } octets)
      else j.copyBlocks fuel (← j.writeBlock s block)

/-- Passes over octets of an input that has no places. -/
def readOver (j : Job) : (fuel : Nat) → (left : Nat) → (passed : Nat) → Act Nat
  | 0, _, passed => return passed
  | fuel + 1, left, passed =>
    if left = 0 then return passed
    else do
      match ← Act.read j.source (min left j.plan.inSize) with
      | .error e =>
        j.failed {} (Raw.ofText "error reading " ++ Raw.quoted j.plan.sourceName ++ Raw.ofText (": " ++ e.message))
      | .ok [] => return passed
      | .ok block => j.readOver fuel (left - min left j.plan.inSize) (passed + block.length)

/-- Passes over the start of the input. -/
def skip (j : Job) : Act Unit := do
  let n := j.plan.skipped
  if n > 0 then
    let left ← match ← Act.seek j.source (fun offset _ => offset) with
      | .ok place => do
        let moved ←
          Act.seek j.source fun offset size => if (offset + n : Nat) ≤ size then offset + n else max offset size
        pure (match moved with
          | .ok after => after - place
          | .error _ => 0)
      | .error _ => j.readOver (n + 1) n 0
    let endless ← match ← Act.channel? j.source with
      | some (.device ..) => pure true
      | _ => pure false
    if left < n && !endless && j.plan.status != "none" then
      j.call.complain (Raw.displayed j.plan.sourceName ++ Raw.ofText ": cannot skip to specified offset")

/-- Passes over the start of the output. -/
def seek (j : Job) : Act Unit := do
  let n := j.plan.sought
  if n > 0 then
    match ← Act.seek j.target (fun offset _ => offset + n) with
    | .ok _ => pure ()
    | .error e => j.failed {} (Raw.displayed j.plan.targetName ++ Raw.ofText (": cannot seek: " ++ e.message))

/-- Copies, and tells what has been done. -/
def run (j : Job) : Act UInt8 := do
  j.skip
  j.seek
  let s ← j.copyBlocks Act.blockBound {}
  let s ← if j.plan.gathers then do
      let octets := s.held ++ s.finish j.plan
      let s ← j.gather (octets.length + 1) { s with held := [] } octets
      if s.held.isEmpty then pure s else j.writeBlock s s.held
    else pure s
  j.close s 0

end Job

/-- A file opened for the program, which ends if that fails. -/
def opened (c : Call) (path : Raw) (m : OpenMode) : Act Nat := do
  match ← Act.openFile path m with
  | .ok fd => return fd
  | .error e => c.fail (Raw.ofText "failed to open " ++ Raw.quoted path ++ Raw.ofText (": " ++ e.message)) 1

/-- Whether a word asks for a number that hexadecimal digits are not taken for. -/
def zeroFactor (w : Raw) : Bool :=
  let value := (w.dropWhile (· != '=')).drop 1
  Raw.startsWith ['0', 'x'] value && (amount? value).isSome

/-- Copies blocks. -/
def dd : Utility := fun c => do
  let g ← c.options ⟨"", [], true⟩ 1
  for w in g.operands do
    if zeroFactor w then
      c.complain (Raw.ofText "warning: '0x' is a zero multiplier; use '00x' if that is intended")
  match Plan.ofOperands g.operands with
  | .error f => if f.helped then c.misused f.message 1 else c.fail f.message 1
  | .ok p =>
    let source ← match p.source with
      | some path => opened c path .reading
      | none => pure 0
    let whole := p.sought = 0 && !p.has "notrunc"
    let target ← match p.target with
      | some path =>
        opened c path ⟨false, true, !p.has "nocreat", p.has "excl", whole, p.outFlags.contains "append"⟩
      | none => pure 1
    if p.sought > 0 && !p.has "notrunc" then
      match p.target with
      | some path =>
        let _ ← Act.tryChange fun pid k => k.setSize pid path p.sought
      | none => pure ()
    (Job.mk c p source target (← Act.now)).run

/-- The programs by name. -/
def programs : List (String × Utility) := [("dd", dd)]

end RunMeter.Machine.Blocks
