import RunMeter.Machine.Utility.Sources

/-!
# RunMeter.Machine.Utility.Measuring — programs that count and compare octets

Nothing that is proved depends on this module.
-/

namespace RunMeter.Machine.Measuring

open Sources

/-! ## Counts -/

/-- What is counted in a text. -/
structure Counts where
  lines : Nat
  words : Nat
  octets : Nat
  /-- The width of the widest line. -/
  width : Nat

namespace Counts

/-- Nothing counted. -/
def zero : Counts := ⟨0, 0, 0, 0⟩

/-- Two counts together. -/
def add (a b : Counts) : Counts := ⟨a.lines + b.lines, a.words + b.words, a.octets + b.octets, max a.width b.width⟩

/-- Goes on counting; `column` is the place in the line, `inside` says that a word has begun. -/
def count : (n : Counts) → (column : Nat) → (inside : Bool) → Raw → Counts
  | n, column, inside, [] => { n with words := n.words + (if inside then 1 else 0), width := max n.width column }
  | n, column, inside, c :: rest =>
    let n := { n with octets := n.octets + 1 }
    if c = '\n' then
      count { n with lines := n.lines + 1, words := n.words + (if inside then 1 else 0), width := max n.width column } 0 false rest
    else if Raw.isSpace c then
      let n := { n with words := n.words + (if inside then 1 else 0) }
      if c = '\t' then count n (column + (8 - column % 8)) false rest
      else if c = ' ' then count n (column + 1) false rest
      else if c = '\x0b' then count n column false rest
      else count { n with width := max n.width column } 0 false rest
    else if Raw.isShown c then count n (column + 1) true rest
    else count n column inside rest

/-- The counts of a text. -/
def ofText (r : Raw) : Counts := count zero 0 false r

end Counts

/-- The size of what a path leads to, for one that is a file with contents; none if it is of another kind. -/
def sizeOf (path : Raw) : Act (Option (Option Nat)) :=
  Act.ask fun pid k =>
    let found : Option Node :=
      if path = ['-'] then
        match (k.channelOf? pid 0).map k.channel with
        | some (.file n ..) => some (k.files.node n)
        | some _ => some (FileTree.bare.node FileTree.root)
        | none => none
      else ((k.find pid path true).toOption).map k.files.node
    found.map fun n => if n.isRegular then some n.size else none

/-- How wide the counts of files are written. -/
def widthFor (paths : List Raw) (kinds : Nat) : Act Nat := do
  if paths.length ≤ 1 && kinds = 1 then return 1
  else
    let sizes ← (orInput paths).mapM sizeOf
    let total := (sizes.filterMap fun s => s.bind id).foldl (· + ·) 0
    let least := if sizes.any fun s => s == some none then 7 else 1
    return max least (Raw.ofNat total).length

/-- Counts lines, words and octets. -/
def wc : Utility := fun c => do
  let g ← c.options ⟨"clLmw", [⟨"bytes", "c", .none⟩, ⟨"chars", "m", .none⟩, ⟨"lines", "l", .none⟩,
    ⟨"words", "w", .none⟩, ⟨"max-line-length", "L", .none⟩, ⟨"files0-from", "files", .required⟩], false⟩ 1
  let usual := g.switches.isEmpty
  let chosen (n : Counts) : List Nat :=
    (if usual || g.has "l" then [n.lines] else []) ++ (if usual || g.has "w" then [n.words] else []) ++
      (if g.has "m" then [n.octets] else []) ++ (if usual || g.has "c" then [n.octets] else []) ++
      (if g.has "L" then [n.width] else [])
  let width ← widthFor g.operands (chosen .zero).length
  let shown (n : Counts) (name : Raw) : Raw :=
    Raw.joined [' '] ((chosen n).map fun k => Raw.padStart width (Raw.ofNat k)) ++
      (if name.isEmpty then [] else ' ' :: name) ++ ['\n']
  let mut pieces : List Piece := []
  let mut total := Counts.zero
  let mut code : UInt8 := 0
  for path in orInput g.operands do
    let name := if g.operands.isEmpty then [] else path
    match ← Call.contents path with
    | .ok text =>
      let n := Counts.ofText text
      total := total.add n
      pieces := .output (shown n name) :: pieces
    | .error e =>
      pieces := .complaint (Call.about path e) :: pieces
      if e = .isDirectory then pieces := .output (shown .zero name) :: pieces
      code := 1
  if g.operands.length > 1 then pieces := .output (shown total "total".toList) :: pieces
  c.display pieces.reverse 1
  return code

/-! ## Octets as numbers -/

/-- How units of a text are shown. -/
structure Shape where
  /-- The letter of the kind: `a` and `c` for characters, `d`, `o`, `u` and `x` for numbers. -/
  kind : Char
  /-- How many octets make a unit. -/
  size : Nat
  /-- Whether the characters of a line are shown at its end. -/
  trailer : Bool

namespace Shape

/-- How many characters a unit takes. -/
def width (s : Shape) : Nat :=
  match s.kind with
  | 'o' => (s.size * 8 + 2) / 3
  | 'x' => s.size * 2
  | 'u' => (Nat.pow 256 s.size - 1 |> Raw.ofNat).length
  | 'd' => (Nat.pow 256 s.size / 2 |> Raw.ofNat).length + 1
  | _ => 3

/-- The names of the characters that do not show. -/
def names : List String :=
  ["nul", "soh", "stx", "etx", "eot", "enq", "ack", "bel", "bs", "ht", "nl", "vt", "ff", "cr", "so", "si", "dle", "dc1",
   "dc2", "dc3", "dc4", "nak", "syn", "etb", "can", "em", "sub", "esc", "fs", "gs", "rs", "us", "sp"]

/-- A unit as text. -/
def unit (s : Shape) (octets : Raw) : Raw :=
  let value := (octets ++ List.replicate (s.size - octets.length) '\x00').reverse.foldl (fun n c => n * 256 + c.toNat) 0
  match s.kind with
  | 'o' => Raw.padZeros s.width (Raw.digits 8 value)
  | 'x' => Raw.padZeros s.width (Raw.digits 16 value)
  | 'u' => Raw.ofNat value
  | 'd' => Raw.ofInt (if value * 2 ≥ Nat.pow 256 s.size then (value : Int) - Nat.pow 256 s.size else value)
  | 'a' =>
    let n := (octets.headD ' ').toNat % 128
    if n = 127 then "del".toList else ((names[n]?).map String.toList).getD [Char.ofNat n]
  | _ =>
    let c := octets.headD ' '
    if Raw.isShown c then [c]
    else if c = '\x00' then ['\\', '0']
    else match "\x07\x08\t\n\x0b\x0c\r".toList.findIdx? (· == c) with
      | some i => ['\\', "abtnvfr".toList.getD i 'n']
      | none => Raw.padZeros 3 (Raw.digits 8 c.toNat)

end Shape

/-- Groups of so many octets; the last may be smaller. -/
def groupsOf (size : Nat) : (fuel : Nat) → Raw → List Raw
  | 0, _ => []
  | _, [] => []
  | fuel + 1, r => r.take size :: groupsOf size fuel (r.drop size)

/-- The units of a line in one shape, `block` octets to a full line; `span` is how wide a full line is. -/
def shownUnits (s : Shape) (block span : Nat) (octets : Raw) : Raw :=
  let fields := block / s.size
  let pad := span - s.width * fields
  let units := groupsOf s.size (octets.length + 1) octets
  let line := units.zipIdx.flatMap fun (u, i) =>
    let left := pad * (fields - i) / fields
    let next := pad * (fields - i - 1) / fields
    Raw.padStart (left - next + s.width) (s.unit u)
  let blank := fields - units.length
  let gap := List.replicate (blank * s.width + pad * blank / fields) ' '
  if s.trailer then
    line ++ gap ++ Raw.ofText "  >" ++ octets.map (fun c => if Raw.isShown c then c else '.') ++ ['<']
  else line

/-- The shapes that a word names. -/
def shapes? : (fuel : Nat) → Raw → Option (List Shape)
  | 0, _ => none
  | _, [] => some []
  | fuel + 1, kind :: rest =>
    let digits := rest.takeWhile Char.isDigit
    let after := rest.drop digits.length
    let (letter, after) : Option Nat × Raw := match digits, after with
      | [], 'C' :: r => (some 1, r)
      | [], 'S' :: r => (some 2, r)
      | [], 'I' :: r => (some 4, r)
      | [], 'L' :: r => (some 8, r)
      | ds, r => (if ds.isEmpty then none else Raw.natural? ds, r)
    let (trailer, after) := match after with
      | 'z' :: r => (true, r)
      | r => (false, r)
    let size : Option Nat :=
      if kind = 'a' || kind = 'c' then some 1
      else if "doux".toList.contains kind then (if [1, 2, 4, 8].contains (letter.getD 4) then some (letter.getD 4) else none)
      else none
    match size with
    | some n => (shapes? fuel after).map (⟨kind, n, trailer⟩ :: ·)
    | none => none

/-- The shapes that switches ask for. -/
def shapesOf (switches : List (String × Raw)) : Option (List Shape) :=
  (switches.filterMap fun s =>
    match s.1 with
    | "t" => some (shapes? (s.2.length + 1) s.2)
    | "a" => some (some [⟨'a', 1, false⟩])
    | "b" => some (some [⟨'o', 1, false⟩])
    | "c" => some (some [⟨'c', 1, false⟩])
    | "d" => some (some [⟨'u', 2, false⟩])
    | "i" => some (some [⟨'d', 4, false⟩])
    | "l" => some (some [⟨'d', 8, false⟩])
    | "o" | "B" => some (some [⟨'o', 2, false⟩])
    | "s" => some (some [⟨'d', 2, false⟩])
    | "x" | "h" => some (some [⟨'x', 2, false⟩])
    | _ => none).foldr (fun found rest => found.bind fun ss => rest.map (ss ++ ·)) (some [])

/-- An address in the base of a letter. -/
def address (base : Char) (n : Nat) : Raw :=
  match base with
  | 'd' => Raw.padZeros 7 (Raw.ofNat n)
  | 'x' => Raw.padZeros 6 (Raw.digits 16 n)
  | 'n' => []
  | _ => Raw.padZeros 7 (Raw.digits 8 n)

/-- The lines for blocks of octets from an address on.  A block that equals the one before is left out, with one
mark for all of them. -/
def dumped (shapes : List Shape) (block span : Nat) (base : Char) (all : Bool) :
    (start : Nat) → (before : Option Raw) → (marked : Bool) → List Raw → List Raw
  | start, _, _, [] => if base = 'n' then [] else [address base start ++ ['\n']]
  | start, before, marked, b :: rest =>
    let next := start + b.length
    if !all && before = some b && b.length = block then
      (if marked then [] else [['*', '\n']]) ++ dumped shapes block span base all next before true rest
    else
      let blanks := List.replicate (address base start).length ' '
      (shapes.zipIdx.map fun (s, i) => (if i = 0 then address base start else blanks) ++ shownUnits s block span b ++ ['\n']) ++
        dumped shapes block span base all next (some b) false rest

/-- Shows octets as numbers or characters. -/
def od : Utility := fun c => do
  let g ← c.options ⟨"A:aBbcDdeFfHhIij:LlN:OoS:st:vw::Xx", [⟨"address-radix", "A", .required⟩,
    ⟨"skip-bytes", "j", .required⟩, ⟨"read-bytes", "N", .required⟩, ⟨"format", "t", .required⟩,
    ⟨"output-duplicates", "v", .none⟩, ⟨"width", "w", .optional⟩], false⟩ 1
  match shapesOf g.switches with
  | none =>
    let word := (g.value? "t").getD []
    let bad := (word.find? fun ch => !"acdfoux0123456789CSIL".toList.contains ch).getD (word.headD ' ')
    c.fail (Raw.ofText "invalid character '" ++ bad :: Raw.ofText "' in type string " ++ Raw.quoted word) 1
  | some shapes =>
    let shapes := if shapes.isEmpty then [⟨'o', 2, false⟩] else shapes
    let base := ((g.value? "A").getD ['o']).headD 'o'
    if !"doxn".toList.contains base then
      c.fail (Raw.ofText "invalid output address radix '" ++ [base] ++ Raw.ofText "'; it must be one character from [doxn]") 1
    else
      let found ← texts c g.operands Call.about
      if found.all fun t => t.2.isNone then return 1
      let all := found.flatMap fun t => t.2.getD []
      let skip := ((g.value? "j").bind amount?).getD 0
      if skip > all.length then c.fail (Raw.ofText "cannot skip past end of combined input") 1
      else
        let text := all.drop skip
        let text := match (g.value? "N").bind amount? with
          | some n => text.take n
          | none => text
        let block := match g.value? "w" with
          | some [] => 32
          | some w => max 1 ((Raw.natural? w).getD 16)
          | none => 16
        let span := ((shapes.map fun s => (s.width + 1) * (block / s.size)).max?).getD 0
        c.emit (dumped shapes block span base (g.has "v") skip none false (groupsOf block (text.length + 1) text)).flatten 1
        return code found

/-! ## Comparing -/

/-- The octets that differ, with their places from 1 on and the lines they are on. -/
def differences : (place line : Nat) → Raw → Raw → List (Nat × Nat × Char × Char)
  | place, line, a :: r, b :: s =>
    let line' := if a = '\n' then line + 1 else line
    if a = b then differences (place + 1) line' r s else (place, line, a, b) :: differences (place + 1) line' r s
  | _, _, _, _ => []

/-- Compares two files octet by octet. -/
def cmp : Utility := fun c => do
  let hint : Act UInt8 := do
    let _ ← Act.write 2 (c.name ++ Raw.ofText ": Try '" ++ c.name ++ Raw.ofText " --help' for more information.\n")
    return 2
  let switches : Switches := ⟨"bci:ln:s", [⟨"print-bytes", "b", .none⟩, ⟨"ignore-initial", "i", .required⟩,
    ⟨"verbose", "l", .none⟩, ⟨"bytes", "n", .required⟩, ⟨"quiet", "s", .none⟩, ⟨"silent", "s", .none⟩], false⟩
  match switches.ofWords c.args with
  | .error message =>
    c.complain message
    hint
  | .ok g =>
    match g.operands with
    | [] =>
      c.complain (Raw.ofText "missing operand after " ++ Raw.quoted c.name)
      hint
    | _ :: _ :: _ :: _ :: extra :: _ =>
      c.complain (Raw.ofText "extra operand " ++ Raw.quoted extra)
      hint
    | a :: rest =>
      let b := rest.headD ['-']
      let skips := (rest.drop 1).map fun w => (amount? w).getD 0
      let both := ((g.value? "i").map fun w => (Raw.splitAt ':' w).map fun w => (amount? w).getD 0).getD []
      let skipA := skips.headD (both.headD 0)
      let skipB := match skips, both with
        | _ :: n :: _, _ => n
        | [_], _ => 0
        | [], _ :: n :: _ => n
        | [], [n] => n
        | [], [] => 0
      let read (path : Raw) : Act (Option Raw) := do
        match ← Call.contents path with
        | .ok text => return some text
        | .error e =>
          c.complain (path ++ Raw.ofText (": " ++ e.message))
          return none
      match ← read a with
      | none => return 2
      | some x =>
        match ← read b with
        | none => return 2
        | some y =>
          let limit (r : Raw) : Raw := match (g.value? "n").bind amount? with
            | some n => r.take n
            | none => r
          let (x, y) := (limit (x.drop skipA), limit (y.drop skipB))
          let found := differences 1 1 x y
          let octal (ch : Char) : Raw := Raw.padStart 3 (Raw.digits 8 ch.toNat)
          let shorter := min x.length y.length
          let place : Nat := if g.has "l" then (Raw.ofNat (max x.length y.length)).length else 0
          if g.has "s" then return if x == y then 0 else 1
          else
            if g.has "l" then
              c.emit (found.flatMap fun (n, _, p, q) =>
                Raw.padStart place (Raw.ofNat n) ++ ' ' :: octal p ++ ' ' :: octal q ++ ['\n']) 2
            else match found with
              | (n, line, p, q) :: _ =>
                c.emit (a ++ ' ' :: b ++ Raw.ofText " differ: " ++
                  (if g.has "b" then Raw.ofText "byte " ++ Raw.ofNat n ++ Raw.ofText ", line " ++ Raw.ofNat line ++
                      Raw.ofText " is " ++ octal p ++ ' ' :: [p] ++ ' ' :: octal q ++ ' ' :: [q]
                    else Raw.ofText "char " ++ Raw.ofNat n ++ Raw.ofText ", line " ++ Raw.ofNat line) ++ ['\n']) 2
              | [] => pure ()
            if x.length != y.length && (found.isEmpty || g.has "l") then
              let short := if x.length < y.length then a else b
              let common := (if x.length < y.length then x else y)
              let line := common.count '\n' + (if common.getLast? = some '\n' then 0 else 1)
              c.complain (Raw.ofText "EOF on " ++ short ++ (if shorter = 0 then Raw.ofText " which is empty"
                else Raw.ofText " after byte " ++ Raw.ofNat shorter ++ (if g.has "l" then []
                  else (if common.getLast? = some '\n' then Raw.ofText ", line " else Raw.ofText ", in line ") ++ Raw.ofNat line)))
            return if x == y then 0 else 1

/-! ## Differences of lines -/

/-- A line of two files: in both, or in one of them. -/
inductive Change where
  | keep (line : Raw)
  | remove (line : Raw)
  | add (line : Raw)

/-- How long the longest common part of two lists of lines is, for each end of the second, from one line of the first
on. -/
def commonRow (a : Raw) (below : List Nat) (bs : List Raw) : List Nat :=
  (bs.zip (below.zip below.tail)).foldr (fun (b, (here, under)) row =>
    (if a == b then under + 1 else max (row.headD 0) here) :: row) [0]

/-- The rows for all lines of the first list, the first line's first. -/
def commonRows (as bs : List Raw) : List (List Nat) :=
  as.foldr (fun a rows => commonRow a (rows.headD (List.replicate (bs.length + 1) 0)) bs :: rows)
    [List.replicate (bs.length + 1) 0]

/-- The changes that turn a list of lines into another. -/
def changes : (fuel : Nat) → List (List Nat) → List Raw → List Raw → List Change
  | 0, _, _, _ => []
  | _, _, [], bs => bs.map .add
  | _, _, as, [] => as.map .remove
  | fuel + 1, rows, a :: as, b :: bs =>
    let below := rows.drop 1
    if a == b then .keep a :: changes fuel (below.map List.tail) as bs
    else
      let down := (below.headD []).headD 0
      let right := ((rows.headD []).drop 1).headD 0
      if down ≥ right then .remove a :: changes fuel below as (b :: bs)
      else .add b :: changes fuel (rows.map List.tail) (a :: as) bs

/-- A run of changes: where it starts in both files, counted from 0, and its lines. -/
structure Hunk where
  left : Nat
  right : Nat
  removed : List Raw
  added : List Raw

/-- The runs of changes. -/
def hunks : (left right : Nat) → (now : Option Hunk) → List Change → List Hunk
  | _, _, now, [] => now.toList
  | left, right, now, .keep _ :: rest => now.toList ++ hunks (left + 1) (right + 1) none rest
  | left, right, now, .remove l :: rest =>
    let h := now.getD ⟨left, right, [], []⟩
    hunks (left + 1) right (some { h with removed := h.removed ++ [l] }) rest
  | left, right, now, .add l :: rest =>
    let h := now.getD ⟨left, right, [], []⟩
    hunks left (right + 1) (some { h with added := h.added ++ [l] }) rest

/-- The numbers of lines from one on. -/
def lineRange (start count : Nat) : Raw :=
  if count ≤ 1 then Raw.ofNat (start + count) else Raw.ofNat (start + 1) ++ ',' :: Raw.ofNat (start + count)

/-- A line after a mark.  What is said of a last line without an end follows it. -/
def markedLine (mark : Raw) (line : Raw) : Raw :=
  mark ++ (if line.getLast? = some '\n' then line else line ++ Raw.ofText "\n\\ No newline at end of file\n")

/-- A run of changes as it is usually shown. -/
def Hunk.plain (h : Hunk) : Raw :=
  let kind := if h.removed.isEmpty then 'a' else if h.added.isEmpty then 'd' else 'c'
  lineRange h.left h.removed.length ++ kind :: lineRange h.right h.added.length ++ ['\n'] ++
    h.removed.flatMap (markedLine ['<', ' ']) ++ (if kind = 'c' then "---\n".toList else []) ++
    h.added.flatMap (markedLine ['>', ' '])

/-- Runs that are close to one another, together. -/
def gathered (context : Nat) : List Hunk → List (List Hunk)
  | [] => []
  | h :: rest =>
    match gathered context rest with
    | (next :: more) :: others =>
      if next.left ≤ h.left + h.removed.length + 2 * context then (h :: next :: more) :: others
      else [h] :: (next :: more) :: others
    | others => [h] :: others

/-- Runs of changes with lines around them. -/
def unified (context : Nat) (as : List Raw) (hs : List Hunk) : Raw :=
  match hs.head?, hs.getLast? with
  | some first, some last =>
    let before := min context first.left
    let after := min context (as.length - (last.left + last.removed.length))
    let start := first.left - before
    let finish := last.left + last.removed.length + after
    let countLeft := finish - start
    let countRight := countLeft + (hs.map fun h => h.added.length).foldl (· + ·) 0 -
      (hs.map fun h => h.removed.length).foldl (· + ·) 0
    let range (start count : Nat) : Raw :=
      if count = 1 then Raw.ofNat (start + 1)
      else Raw.ofNat (if count = 0 then start else start + 1) ++ ',' :: Raw.ofNat count
    let (body, place) := hs.foldl (fun (out, place) h =>
      (out ++ ((as.take h.left).drop place).flatMap (markedLine [' ']) ++ h.removed.flatMap (markedLine ['-']) ++
        h.added.flatMap (markedLine ['+']), h.left + h.removed.length)) (([] : Raw), start)
    Raw.ofText "@@ -" ++ range start countLeft ++ Raw.ofText " +" ++ range (first.right - before) countRight ++
      Raw.ofText " @@\n" ++ body ++ ((as.take finish).drop place).flatMap (markedLine [' '])
  | _, _ => []

/-- Compares two files line by line. -/
def diff : Utility := fun c => do
  let hint : Act UInt8 := do
    let _ ← Act.write 2 (c.name ++ Raw.ofText ": Try '" ++ c.name ++ Raw.ofText " --help' for more information.\n")
    return 2
  let switches : Switches := ⟨"abBiNqrsuU:wL:", [⟨"brief", "q", .none⟩, ⟨"report-identical-files", "s", .none⟩,
    ⟨"unified", "u", .optional⟩, ⟨"ignore-case", "i", .none⟩, ⟨"label", "L", .required⟩, ⟨"text", "a", .none⟩,
    ⟨"new-file", "N", .none⟩, ⟨"recursive", "r", .none⟩], false⟩
  match switches.ofWords c.args with
  | .error message =>
    c.complain message
    hint
  | .ok g =>
    match g.operands with
    | [] | [_] =>
      c.complain (Raw.ofText "missing operand after " ++ Raw.quoted (g.operands.headD c.name))
      hint
    | _ :: _ :: extra :: _ =>
      c.complain (Raw.ofText "extra operand " ++ Raw.quoted extra)
      hint
    | [a, b] =>
      let read (path : Raw) : Act (Option Raw) := do
        match ← Call.contents path with
        | .ok text => return some text
        | .error e =>
          if g.has "N" && e = .noEntry then return some []
          else
            c.complain (path ++ Raw.ofText (": " ++ e.message))
            return none
      let one ← read a
      let two ← read b
      match one, two with
      | some x, some y =>
        if x == y then
          if g.has "s" then c.emit (Raw.ofText "Files " ++ a ++ Raw.ofText " and " ++ b ++ Raw.ofText " are identical\n") 2
          return 0
        else if g.has "q" then
          c.emit (Raw.ofText "Files " ++ a ++ Raw.ofText " and " ++ b ++ Raw.ofText " differ\n") 2
          return 1
        else
          let (as, bs) := (pieces '\n' x, pieces '\n' y)
          let found := changes (as.length + bs.length + 1) (commonRows as bs) as bs
          let hs := hunks 0 0 none found
          if g.has "u" || g.has "U" then
            let context := ((g.value? "U").bind Raw.natural?).getD 3
            let labels := (g.switches.filter fun s => s.1 == "L").map Prod.snd
            c.emit (Raw.ofText "--- " ++ labels.headD a ++ Raw.ofText "\n+++ " ++ (labels.drop 1).headD b ++ ['\n'] ++
              (gathered context hs).flatMap (unified context as)) 2
          else c.emit (hs.flatMap Hunk.plain) 2
          return 1
      | _, _ => return 2

/-- The programs by name. -/
def programs : List (String × Utility) := [("wc", wc), ("od", od), ("cmp", cmp), ("diff", diff)]

end RunMeter.Machine.Measuring
