import RunMeter.Machine.Calendar
import RunMeter.Machine.Shell.Pattern
import RunMeter.Machine.Utility.Paths
import RunMeter.Machine.Utility.Sorting

/-!
# RunMeter.Machine.Utility.Listing — programs that tell about files

Names, kinds, sizes, permissions and times of files, and where paths lead.

Nothing that is proved depends on this module.
-/

namespace RunMeter.Machine.Listing

open Paths

/-! ## Facts about a file -/

/-- A file as it is told about. -/
structure Entry where
  /-- The name that is shown. -/
  name : Raw
  number : Nat
  node : Node
  links : Nat

/-- The entry of a path. -/
def entry? (path name : Raw) (follow : Bool) : Act (Except Errno Entry) :=
  Act.ask fun pid k => (k.find pid path follow).map fun n => ⟨name, n, k.files.node n, k.files.linkCount n⟩

/-- The number of the user of the machine. -/
def userNumber : Nat := 1000

/-- The number of the user that a file belongs to. -/
def ownerNumber (n : Node) : Nat := if n.ours then userNumber else 0

/-- The name of the user that a file belongs to; the user of the machine has none. -/
def ownerName (n : Node) : Raw := if n.ours then Raw.ofNat userNumber else "root".toList

/-- How many units of 512 octets a file takes. -/
def blocks (n : Node) : Nat :=
  match n.body with
  | .directory .. => 8
  | .file contents => (contents.length + 4095) / 4096 * 8
  | .program _ => 8
  | _ => 0

/-- A time in seconds from the start of 1970. -/
def secondsOf (i : Instant) : Int := (i / 1000000 : Nat)

/-- The zone of a program. -/
def zoneOf (c : Call) : Calendar.Zone :=
  match c.binding? "TZ" with
  | some w => .ofText w
  | none => .universal

/-! ## Names in directories -/

/-- What names are put in order by. -/
inductive Rank where
  | name
  | time
  | size
  | extension
  | version
  | width
  | nothing

/-- How names are put in order. -/
structure Manner where
  rank : Rank
  reversed : Bool
  directoriesFirst : Bool

/-- The part of a name from its last dot on. -/
def extension (name : Raw) : Raw :=
  let last := (name.reverse.takeWhile (· != '.')).reverse
  if last.length = name.length then [] else last

/-- Entries in order. -/
def Manner.sorted (m : Manner) (es : List Entry) : List Entry :=
  let byName (a b : Entry) : Bool := Raw.atMost a.name b.name
  let least (first : Ordering) (a b : Entry) : Bool := first = .lt || (first = .eq && byName a b)
  let ordered := match m.rank with
    | .nothing => es
    | .time => es.mergeSort fun a b => least (compare b.node.changed a.node.changed) a b
    | .size => es.mergeSort fun a b => least (compare b.node.size a.node.size) a b
    | .extension => es.mergeSort fun a b => least (Sorting.octetOrder (extension a.name) (extension b.name)) a b
    | .version => es.mergeSort fun a b => least (Sorting.versionOrder (a.name.length + b.name.length + 2) a.name b.name) a b
    | .width => es.mergeSort fun a b => least (compare a.name.length b.name.length) a b
    | .name => es.mergeSort byName
  let ordered := match m.rank, m.reversed with
    | .nothing, _ => ordered
    | _, true => ordered.reverse
    | _, false => ordered
  if m.directoriesFirst then (ordered.filter fun e => e.node.isDirectory) ++ ordered.filter fun e => !e.node.isDirectory
  else ordered

/-- How a name is written: as it is, as a text in quotes, with escapes, with marks for what can not be seen, or in
quotes for a shell, where it needs them or always; what can not be seen may be escaped then. -/
inductive Writing where
  | plain
  | quoted
  | escaped
  | masked
  | shell (always : Bool)
  | shellEscape (always : Bool)

/-- How a listing is written. -/
structure Style where
  hidden : Bool
  dots : Bool
  long : Bool
  /-- Whether owners, and whether groups are left out of long lines. -/
  noOwner : Bool
  noGroup : Bool
  numeric : Bool
  human : Bool
  /-- What is marked: all kinds, or directories alone. -/
  marks : Bool
  programs : Bool
  slashes : Bool
  numbers : Bool
  sizes : Bool
  writing : Writing
  commas : Bool
  /-- Whether names stand in columns, and whether they follow one another in rows then. -/
  columns : Bool
  rows : Bool
  width : Nat
  /-- How far tabs reach; nothing if there are none. -/
  tab : Nat
  /-- Whether links are told about by what they lead to. -/
  follows : Bool
  /-- The format of times, if it is not the usual one. -/
  times : Option Raw
  zone : Calendar.Zone
  now : Instant
  order : Manner
  /-- The patterns of names that are left out. -/
  left : List Raw

/-- The mark behind a name. -/
def Style.mark (s : Style) (e : Entry) : Raw :=
  match e.node.body with
  | .directory .. => if s.marks || s.slashes then ['/'] else []
  | .link _ | .descriptor _ => if s.marks && !s.long then ['@'] else []
  | .fifo _ => if s.marks then ['|'] else []
  | _ => if s.programs && e.node.mode &&& 0o111 != 0 then ['*'] else []

/-- A character that can not be seen, as it is written in a text. -/
def escapedText (c : Char) : Raw :=
  if Raw.isShown c then [c] else Raw.escaped c

/-- A name as it is written. -/
def Style.name (s : Style) (r : Raw) : Raw :=
  match s.writing with
  | .plain => r
  | .quoted => '"' :: (r.flatMap fun c => if c = '"' || c = '\\' then ['\\', c] else escapedText c) ++ ['"']
  | .escaped => r.flatMap fun c => if c = ' ' || c = '\\' then ['\\', c] else escapedText c
  | .masked => r.map fun c => if Raw.isShown c then c else '?'
  | .shellEscape always => if always then Raw.quoted r else Raw.displayed r
  | .shell always =>
    if !always && Raw.displayed r == r then r
    else '\'' :: (r.flatMap fun c => if c = '\'' then "'\\''".toList else [c]) ++ ['\'']

/-- A size for readers. -/
def humanSize (n : Nat) : Raw :=
  let rec go : (fuel : Nat) → (scaled unit : Nat) → Raw
    | 0, _, _ => Raw.ofNat n
    | fuel + 1, scale, unit =>
      let tenths := (n * 10 + scale - 1) / scale
      if tenths < 100 then Raw.ofNat (tenths / 10) ++ '.' :: Raw.ofNat (tenths % 10) ++ ["KMGTPE".toList.getD unit 'E']
      else
        let whole := (n + scale - 1) / scale
        if whole < 1024 then Raw.ofNat whole ++ ["KMGTPE".toList.getD unit 'E'] else go fuel (scale * 1024) (unit + 1)
  if n < 1024 then Raw.ofNat n else go 6 1024 0

/-- The time of a file in a long line: the time of day for the last half year, the year for others. -/
def shownTime (s : Style) (changed : Instant) : Raw :=
  let recent := changed ≤ s.now && s.now - changed < 15778476000000
  let format := s.times.getD (if recent then "%b %e %H:%M" else "%b %e  %Y").toList
  let lines := Raw.splitAt '\n' format
  let format := if lines.length > 1 && recent then lines.getD 1 [] else lines.headD []
  Calendar.formatted (.at s.zone (secondsOf changed) (changed % 1000000 * 1000)) format

/-- The columns of a long line before the time, apart from the first. -/
def longColumns (s : Style) (e : Entry) : List (Bool × Raw) :=
  let owner := if s.numeric then Raw.ofNat (ownerNumber e.node) else ownerName e.node
  let size : Raw := match e.node.body with
    | .device d => (match d with
      | .null => "1, 3"
      | .zero => "1, 5"
      | .full => "1, 7"
      | .random => "1, 9"
      | .terminal => "5, 0").toList
    | _ => if s.human then humanSize e.node.size else Raw.ofNat e.node.size
  [(true, Raw.ofNat e.links)] ++ (if s.noOwner then [] else [(s.numeric, owner)]) ++
    (if s.noGroup then [] else [(s.numeric, owner)]) ++ [(true, size)]

/-- Entries one to a line. -/
def Style.lines (s : Style) (es : List Entry) : List Raw :=
  let columns := es.map (longColumns s)
  let widths := (List.range 5).map fun i => ((columns.map fun cs => ((cs.getD i (true, [])).2).length).max?).getD 0
  let numberWidth := ((es.map fun e => (Raw.ofNat e.number).length).max?).getD 0
  let blocksOf (e : Entry) : Raw := Raw.ofNat ((blocks e.node + 1) / 2)
  let sizeWidth := ((es.map fun e => (blocksOf e).length).max?).getD 0
  (es.zip columns).map fun (e, cs) =>
    (if s.numbers then Raw.padStart numberWidth (Raw.ofNat e.number) ++ [' '] else []) ++
    (if s.sizes then Raw.padStart sizeWidth (blocksOf e) ++ [' '] else []) ++
    (if s.long then
      Permissions.letters e.node ++ (cs.zip widths).flatMap (fun ((right, r), w) =>
        ' ' :: (if right then Raw.padStart w r else Raw.padEnd w r)) ++ ' ' :: shownTime s e.node.changed ++ [' ']
    else []) ++
    s.name e.name ++ s.mark e ++
    (match s.long, e.node.body with
      | true, .link target => Raw.ofText " -> " ++ target
      | _, _ => [])

/-- The widths of so many columns that names stand in, with two blanks behind each but the last. -/
def columnWidths (names : List Raw) (byRows : Bool) (count : Nat) : List Nat :=
  let height := (names.length + count - 1) / count
  let place (i : Nat) : Nat := if byRows then i % count else i / height
  names.zipIdx.foldl (fun widths (name, i) =>
    let column := place i
    widths.modify column (max (name.length + (if column + 1 = count then 0 else 2)))) (List.replicate count 0)

/-- Blanks from a column to another one, with tabs where they reach. -/
def blanks (tab : Nat) : (fuel : Nat) → (column target : Nat) → Raw
  | 0, _, _ => []
  | fuel + 1, column, target =>
    if column ≥ target then []
    else if tab > 0 && target / tab > (column + 1) / tab then '\t' :: blanks tab fuel ((column / tab + 1) * tab) target
    else ' ' :: blanks tab fuel (column + 1) target

/-- A row of names with the widths of their columns. -/
def row (tab : Nat) : (column : Nat) → List (Raw × Nat) → Raw
  | _, [] => ['\n']
  | _, [(name, _)] => name ++ ['\n']
  | column, (name, width) :: rest =>
    name ++ blanks tab (width + 1) (column + name.length) (column + width) ++ row tab (column + width) rest

/-- Names in as many columns as a line holds. -/
def columned (names : List Raw) (byRows : Bool) (width tab : Nat) : Raw :=
  let most := max 1 (min names.length ((width + 2) / 3))
  let fits (count : Nat) : Bool := (columnWidths names byRows count).foldl (· + ·) 0 < width
  let count := ((List.range most).reverse.map (· + 1)).find? fits |>.getD 1
  let widths := columnWidths names byRows count
  let height := (names.length + count - 1) / count
  (List.range height).flatMap fun i =>
    let shown := (List.range count).filterMap fun j =>
      (names[if byRows then i * count + j else j * height + i]?).map fun n => (n, widths.getD j 0)
    row tab 0 shown

/-- Names with commas between them, in lines of a width. -/
def listed (width : Nat) : (column : Nat) → (first : Bool) → List Raw → Raw
  | _, first, [] => if first then [] else ['\n']
  | column, first, name :: rest =>
    if first then name ++ listed width name.length false rest
    else if width = 0 || column + name.length + 2 < width then
      [',', ' '] ++ name ++ listed width (column + name.length + 2) false rest
    else [',', '\n'] ++ name ++ listed width name.length false rest

/-- Entries as a style writes them. -/
def Style.written (s : Style) (es : List Entry) : Raw :=
  let ls := s.lines (s.order.sorted es)
  if s.commas && !s.long then listed s.width 0 true ls
  else if s.columns && !s.long && !ls.isEmpty then columned ls s.rows (if s.width = 0 then 100000 else s.width) s.tab
  else ls.flatMap (· ++ ['\n'])

/-- The entries of a directory. -/
def entriesIn (s : Style) (path : Raw) : Act (Except Errno (List Entry)) := do
  match ← namesIn path with
  | .error e => return .error e
  | .ok names =>
    let shown := names.filter fun n => (s.hidden || n.head? != some '.') &&
      !(s.left.any fun p => (Shell.Pattern.ofRaw p).isMatch n)
    let all := (if s.dots then [['.'], ['.', '.']] else []) ++ shown
    let found ← all.mapM fun name => do
      match ← entry? (inside path name) name s.follows with
      | .error _ => entry? (inside path name) name false
      | found => return found
    return .ok (found.filterMap Except.toOption)

/-- The number of blocks over a listing. -/
def total (s : Style) (es : List Entry) : Raw :=
  if s.long || s.sizes then
    Raw.ofText "total " ++ Raw.ofNat (((es.map fun e => blocks e.node).foldl (· + ·) 0 + 1) / 2) ++ ['\n']
  else []

/-- The listing of a directory, and of those in it if they are wanted. -/
def directory (c : Call) (s : Style) (deep : Bool) : (fuel : Nat) → (titled outer : Bool) → (path : Raw) →
    Act (Raw × UInt8)
  | 0, _, _, _ => return ([], 0)
  | fuel + 1, titled, outer, path => do
    match ← entriesIn s path with
    | .error e =>
      c.complain (Raw.ofText "cannot open directory " ++ Raw.quoted path ++ Raw.ofText (": " ++ e.message))
      return ([], if outer then 2 else 1)
    | .ok es =>
      let title := if titled then path ++ [':', '\n'] else []
      let own := title ++ total s es ++ s.written es
      if !deep then return (own, 0)
      else
        let below := (s.order.sorted es).filter fun e => e.node.isDirectory && e.name != ['.'] && e.name != ['.', '.']
        let results ← below.mapM fun e => directory c s deep fuel true false (inside path e.name)
        return (own ++ (results.flatMap fun r => '\n' :: r.1), (results.map Prod.snd).foldl max 0)

/-- What names are put in order by, by the words for it. -/
def ranks : List (String × Rank) :=
  [("none", .nothing), ("time", .time), ("size", .size), ("extension", .extension), ("version", .version),
   ("width", .width)]

/-- How names are written, by the words for it. -/
def writings : List (String × Writing) :=
  [("literal", .plain), ("shell", .shell false), ("shell-always", .shell true), ("shell-escape", .shellEscape false),
   ("shell-escape-always", .shellEscape true), ("c", .quoted), ("c-maybe", .plain), ("escape", .escaped),
   ("locale", .quoted), ("clocale", .quoted)]

/-- The forms of a listing by the words for them, each with the letter that means the same. -/
def forms : List (String × String) :=
  [("verbose", "l"), ("long", "l"), ("commas", "m"), ("horizontal", "x"), ("across", "x"), ("vertical", "C"),
   ("single-column", "1")]

/-- What is marked, by the words for it. -/
def indicators : List (String × String) :=
  [("none", "none"), ("slash", "slash"), ("file-type", "file-type"), ("classify", "classify")]

/-- The format of times that a word names. -/
def timesOf (w : Raw) : Option Raw :=
  match w with
  | '+' :: format => some format
  | w =>
    match Raw.text w with
    | "full-iso" => some "%Y-%m-%d %H:%M:%S.%N %z".toList
    | "long-iso" => some "%Y-%m-%d %H:%M".toList
    | "iso" => some "%Y-%m-%d \n%m-%d %H:%M".toList
    | _ => none

/-- The switches of the program that lists names. -/
def listSwitches : Switches :=
  ⟨"abcdfghiklmnopqrstuvw:xABCDFGHI:LNQRST:UXZ1", [⟨"all", "a", .none⟩, ⟨"almost-all", "A", .none⟩,
    ⟨"author", "author", .none⟩, ⟨"classify", "F", .optional⟩, ⟨"color", "color", .optional⟩, ⟨"directory", "d", .none⟩,
    ⟨"recursive", "R", .none⟩, ⟨"reverse", "r", .none⟩, ⟨"size", "s", .none⟩, ⟨"human-readable", "h", .none⟩,
    ⟨"si", "h", .none⟩, ⟨"inode", "i", .none⟩, ⟨"numeric-uid-gid", "n", .none⟩, ⟨"quote-name", "Q", .none⟩,
    ⟨"literal", "N", .none⟩, ⟨"escape", "b", .none⟩, ⟨"hide-control-chars", "q", .none⟩,
    ⟨"show-control-chars", "control", .none⟩, ⟨"quoting-style", "quoting", .required⟩, ⟨"no-group", "G", .none⟩,
    ⟨"dereference", "L", .none⟩, ⟨"file-type", "type", .none⟩, ⟨"ignore-backups", "B", .none⟩,
    ⟨"sort", "sort", .required⟩, ⟨"time", "time", .required⟩, ⟨"time-style", "style", .required⟩,
    ⟨"group-directories-first", "first", .none⟩, ⟨"full-time", "full", .none⟩, ⟨"format", "format", .required⟩,
    ⟨"indicator-style", "indicator", .required⟩, ⟨"width", "w", .required⟩, ⟨"kibibytes", "k", .none⟩,
    ⟨"tabsize", "T", .required⟩, ⟨"hide", "hide", .required⟩, ⟨"ignore", "I", .required⟩], false⟩

/-- The letter that a switch about the form of a listing stands for. -/
def formOf (s : String × Raw) : Option String :=
  match s.1, Raw.text s.2 with
  | "full", _ => some "l"
  | "format", name => (forms.find? fun f => name.toList.isPrefixOf f.1.toList).map Prod.snd
  | key, _ => if ["l", "n", "g", "o", "1", "m", "C", "x"].contains key then some key else none

/-- Lists names. -/
def ls : Utility := fun c => do
  let g ← c.options listSwitches 2
  let form := (g.switches.filterMap formOf).getLast?
  let long := form.any ["l", "n", "g", "o"].contains ||
      (form = some "1" && (g.switches.filterMap formOf).any ["l", "n", "g", "o"].contains)
  let now ← Act.now
  let found ← g.switches.mapM fun s => match s.1 with
    | "t" => return some Rank.time
    | "S" => return some .size
    | "U" | "f" => return some .nothing
    | "X" => return some .extension
    | "v" => return some .version
    | "sort" => return some (← c.chosen "--sort" ranks s.2 2)
    | _ => return none
  let rank := ((found.filterMap id).getLast?).getD .name
  let found ← g.switches.mapM fun s => match s.1 with
    | "Q" => return some Writing.quoted
    | "b" => return some .escaped
    | "q" => return some .masked
    | "N" => return some .plain
    | "quoting" => return some (← c.chosen "--quoting-style" writings s.2 2)
    | _ => return none
  let writing := ((found.filterMap id).getLast?).getD .plain
  let indicator ← match g.value? "indicator" with
    | none => pure none
    | some w => do pure (some (← c.chosen "--indicator-style" indicators w 2))
  match g.value? "format" with
    | none => pure ()
    | some w => let _ ← c.chosen "--format" forms w 2
  let width ← match g.value? "w", (c.binding? "COLUMNS").bind Raw.natural? with
    | some w, _ =>
      match Raw.natural? w with
      | some n => pure n
      | none => c.fail (Raw.ofText "invalid line width: " ++ Raw.quoted w) 2
    | none, some n => pure (if n = 0 then 80 else n)
    | none, none => pure 80
  let s : Style := {
    hidden := g.has "a" || g.has "A" || g.has "f"
    dots := (g.last? ["a", "A", "f"]) == some "a" || g.last? ["a", "A", "f"] == some "f"
    long := long
    noOwner := g.has "g"
    noGroup := g.has "o" || g.has "G"
    numeric := g.has "n"
    human := g.has "h"
    marks := g.has "F" || indicator == some "classify" || indicator == some "file-type" || g.has "type"
    programs := g.has "F" || indicator == some "classify"
    slashes := g.has "p" || indicator == some "slash"
    numbers := g.has "i"
    sizes := g.has "s"
    writing := writing
    commas := form == some "m"
    columns := form == some "C" || form == some "x"
    rows := form == some "x"
    width := width
    tab := if width = 0 then 0 else ((g.value? "T").bind Raw.natural?).getD 8
    follows := g.has "L"
    times := if g.has "full" then timesOf "full-iso".toList else (g.value? "style").bind timesOf
    zone := zoneOf c
    now := now
    order := ⟨rank, g.has "r", g.has "first"⟩
    left := (g.switches.filter fun s => s.1 == "I" || (s.1 == "hide" && !(g.has "a" || g.has "A"))).map Prod.snd ++
      (if g.has "B" then ["*~".toList] else []) }
  let paths := if g.operands.isEmpty then [['.']] else g.operands
  let mut files : List Entry := []
  let mut places : List Entry := []
  let mut code : UInt8 := 0
  for path in paths do
    let follow := g.has "L" || (!s.long && !g.has "d" && !g.has "F")
    let near ← entry? path path follow
    let near ← match near with
      | .error e => if e = .noEntry then entry? path path false else pure (.error e)
      | found => pure found
    match near with
    | .error e =>
      c.complain (cannot "access" path e)
      code := 2
    | .ok e => if e.node.isDirectory && !g.has "d" then places := places ++ [e] else files := files ++ [e]
  let mut output := s.written files
  let titled := g.has "R" || g.operands.length > 1
  for e in s.order.sorted places do
    let (listing, bad) ← directory c s (g.has "R") FileTree.maxPath titled true e.name
    if !(listing.isEmpty && bad != 0) then
      output := output ++ (if output.isEmpty || !titled then [] else ['\n']) ++ listing
    code := max code bad
  c.emit output 2
  return code

/-- Lists names in columns. -/
def dir : Utility := fun c => ls { c with words := c.name :: "-C".toList :: "-b".toList :: c.args }

/-- Lists names with what there is to tell of each. -/
def vdir : Utility := fun c => ls { c with words := c.name :: "-l".toList :: "-b".toList :: c.args }

/-! ## Facts in a format -/

/-- A fact about a file by its letter. -/
def fact (c : Call) (path : Raw) (e : Entry) (letter : Char) : Option Raw :=
  let n := e.node
  let time (form : String) : Raw :=
    Calendar.formatted (.at (zoneOf c) (secondsOf n.changed) (n.changed % 1000000 * 1000)) form.toList
  match letter with
  | 'a' => some (Raw.digits 8 n.mode)
  | 'A' => some (Permissions.letters n)
  | 'b' => some (Raw.ofNat (blocks n))
  | 'B' => some "512".toList
  | 'd' => some "2049".toList
  | 'D' => some "801".toList
  | 'f' =>
    let kind := match n.body with
      | .directory .. => 0o040000
      | .link _ | .descriptor _ => 0o120000
      | .device _ => 0o020000
      | .fifo _ => 0o010000
      | _ => 0o100000
    some (Raw.digits 16 (kind + n.mode))
  | 'F' => some (kindOf n).toList
  | 'g' | 'u' => some (Raw.ofNat (ownerNumber n))
  | 'G' | 'U' => some (if n.ours then "UNKNOWN".toList else "root".toList)
  | 'h' => some (Raw.ofNat e.links)
  | 'i' => some (Raw.ofNat (e.number + 2))
  | 'm' => some ['/']
  | 'n' => some path
  | 'N' => some (match n.body with
    | .link target => Raw.quoted path ++ Raw.ofText " -> " ++ Raw.quoted target
    | _ => Raw.quoted path)
  | 'o' => some "4096".toList
  | 's' => some (Raw.ofNat n.size)
  | 't' => some (match n.body with
    | .device .terminal => ['5']
    | .device _ => ['1']
    | _ => ['0'])
  | 'T' => some (match n.body with
    | .device .null => ['3']
    | .device .zero => ['5']
    | .device .full => ['7']
    | .device .random => ['9']
    | _ => ['0'])
  | 'w' => some ['-']
  | 'W' => some ['0']
  | 'x' | 'y' | 'z' => some (time "%Y-%m-%d %H:%M:%S.%N %z")
  | 'X' | 'Y' | 'Z' => some (Raw.ofInt (secondsOf n.changed))
  | '%' => some ['%']
  | _ => none

/-- Facts about a file in a format, with at most `fuel` marks. -/
def inFormat (c : Call) (escapes : Bool) (path : Raw) (e : Entry) : (fuel : Nat) → Raw → Raw
  | 0, _ => []
  | _, [] => []
  | fuel + 1, '%' :: rest =>
    let flags := rest.takeWhile "-0 +#'".toList.contains
    let after := rest.drop flags.length
    let width := after.takeWhile Char.isDigit
    let after := after.drop width.length
    let places := if after.head? = some '.' then '.' :: (after.drop 1).takeWhile Char.isDigit else []
    let after := after.drop places.length
    match after with
    | [] => ['%']
    | letter :: after =>
      let shown := (fact c path e letter).getD ['?']
      let shown :=
        if places.isEmpty || letter = 'Y' || letter = 'X' || letter = 'Z' then shown
        else shown.take (Raw.valueIn 10 (places.drop 1))
      let gap := Raw.valueIn 10 width - shown.length
      let field := if flags.contains '-' then shown ++ List.replicate gap ' '
        else if flags.contains '0' then List.replicate gap '0' ++ shown else List.replicate gap ' ' ++ shown
      field ++ inFormat c escapes path e fuel after
  | fuel + 1, '\\' :: ch :: rest =>
    if escapes then
      (match ch with
        | 'n' => ['\n']
        | 't' => ['\t']
        | '\\' => ['\\']
        | '0' => ['\x00']
        | ch => ['\\', ch]) ++ inFormat c escapes path e fuel rest
    else '\\' :: inFormat c escapes path e fuel (ch :: rest)
  | fuel + 1, ch :: rest => ch :: inFormat c escapes path e fuel rest

/-- The usual form of the facts about a file. -/
def usualFacts : String :=
  "  File: %N\n  Size: %-10s\tBlocks: %-10b IO Block: %-6o %F\nDevice: 8,1\tInode: %-10i  Links: %h\n" ++
  "Access: (%04a/%10A)  Uid: (%5u/%8U)   Gid: (%5g/%8G)\nAccess: %x\nModify: %y\nChange: %z\n Birth: -\n"

/-- Tells facts about files. -/
def stat : Utility := fun c => do
  let g ← c.options ⟨"c:fLt", [⟨"dereference", "L", .none⟩, ⟨"file-system", "f", .none⟩, ⟨"format", "c", .required⟩,
    ⟨"printf", "printf", .required⟩, ⟨"terse", "t", .none⟩], false⟩ 1
  if g.operands.isEmpty then c.misused (Raw.ofText "missing operand") 1
  else
    let mut pieces : List Piece := []
    let mut code : UInt8 := 0
    for path in g.operands do
      match ← entry? path path (g.has "L") with
      | .error e =>
        let what := if g.has "f" then "cannot read file system information for " else "cannot statx "
        pieces := .complaint (Raw.ofText what ++ Raw.quoted path ++ Raw.ofText (": " ++ e.message)) :: pieces
        code := 1
      | .ok e =>
        let (form, escapes, ending) : Raw × Bool × Raw := match g.value? "c", g.value? "printf" with
          | some f, _ => (f, false, ['\n'])
          | none, some f => (f, true, [])
          | none, none => (usualFacts.toList, false, [])
        pieces := .output (inFormat c escapes path e (form.length + 1) form ++ ending) :: pieces
    c.display pieces.reverse 1
    return code

/-! ## Where paths lead -/

/-- What has to be there on the way of a path. -/
inductive Need where
  | all
  | directories
  | nothing

/-- A path without dots, by its names alone, from the last part back. -/
def lexical (names : List Raw) : List Raw :=
  names.foldl (fun taken name =>
    if name.isEmpty || name = ['.'] then taken
    else if name = ['.', '.'] then taken.dropLast
    else taken ++ [name]) []

/-- A path of names. -/
def ofNames (names : List Raw) : Raw := if names.isEmpty then ['/'] else names.flatMap ('/' :: ·)

/-- The path without links and dots that a path leads to. -/
def resolved (need : Need) (path : Raw) : Act (Except Errno Raw) :=
  Act.ask fun pid k =>
    let start := if path.head? = some '/' then [] else Raw.splitAt '/' (k.files.pathOf (k.task pid).cwd)
    let whole (spot : Spot) : Raw :=
      let above := k.files.pathOf spot.directory
      if spot.name.isEmpty then above else inside above spot.name
    match need, k.locate pid path true with
    | .all, .ok spot => if spot.node.isSome then .ok (whole spot) else .error .noEntry
    | .directories, .ok spot => .ok (whole spot)
    | .nothing, .ok spot => .ok (whole spot)
    | .nothing, .error _ =>
      if path.isEmpty then .error .noEntry else .ok (ofNames (lexical (start ++ Raw.splitAt '/' path)))
    | _, .error e => .error e

/-- The need that switches ask for. -/
def needOf (g : Given) (usual : Need) : Need :=
  match g.last? ["e", "f", "m"] with
  | some "e" => .all
  | some "f" => .directories
  | some "m" => .nothing
  | _ => usual

/-- Tells what links lead to. -/
def readlink : Utility := fun c => do
  let g ← c.options ⟨"efmnqsvz", [⟨"canonicalize", "f", .none⟩, ⟨"canonicalize-existing", "e", .none⟩,
    ⟨"canonicalize-missing", "m", .none⟩, ⟨"no-newline", "n", .none⟩, ⟨"quiet", "q", .none⟩, ⟨"silent", "q", .none⟩,
    ⟨"verbose", "v", .none⟩, ⟨"zero", "z", .none⟩], false⟩ 1
  if g.operands.isEmpty then c.misused (Raw.ofText "missing operand") 1
  else
    let ending : Raw := if g.has "z" then ['\x00'] else if g.has "n" && g.operands.length = 1 then [] else ['\n']
    let mut output : Raw := []
    let mut code : UInt8 := 0
    for path in g.operands do
      let found ← if g.has "e" || g.has "f" || g.has "m" then resolved (needOf g .directories) path
        else Act.ask fun pid k => k.readLink pid path
      match found with
      | .ok r => output := output ++ r ++ ending
      | .error e =>
        if g.last? ["v", "q", "s"] == some "v" then c.complain (Call.about path e)
        code := 1
    c.emit output 1
    return code

/-- A path as it is seen from a directory. -/
def relative (base path : Raw) : Raw :=
  let parts (r : Raw) : List Raw := (Raw.splitAt '/' r).filter (!·.isEmpty)
  let (bs, ps) := (parts base, parts path)
  let common := ((bs.zip ps).takeWhile fun p => p.1 == p.2).length
  let steps := List.replicate (bs.length - common) ['.', '.'] ++ ps.drop common
  if steps.isEmpty then ['.'] else Raw.joined ['/'] steps

/-- Tells where paths lead. -/
def realpath : Utility := fun c => do
  let g ← c.options ⟨"eLmPqsz", [⟨"canonicalize-existing", "e", .none⟩, ⟨"canonicalize-missing", "m", .none⟩,
    ⟨"quiet", "q", .none⟩, ⟨"strip", "s", .none⟩, ⟨"no-symlinks", "s", .none⟩, ⟨"relative-to", "to", .required⟩,
    ⟨"zero", "z", .none⟩], false⟩ 1
  if g.operands.isEmpty then c.misused (Raw.ofText "missing operand") 1
  else
    let here ← Act.workingDirectory
    let base ← match g.value? "to" with
      | some b => do
        match ← resolved .directories b with
        | .ok r => pure (some r)
        | .error e => c.fail (Call.about b e) 1
      | none => pure none
    let mut output : Raw := []
    let mut code : UInt8 := 0
    for path in g.operands do
      let found ← if g.has "s" then do
          let start := if path.head? = some '/' then [] else Raw.splitAt '/' here
          pure (.ok (ofNames (lexical (start ++ Raw.splitAt '/' path))))
        else resolved (needOf g .directories) path
      match found with
      | .ok r =>
        let shown := match base with
          | some b => relative b r
          | none => r
        output := output ++ shown ++ [if g.has "z" then '\x00' else '\n']
      | .error e =>
        if !g.has "q" then c.complain (Call.about path e)
        code := 1
    c.emit output 1
    return code

/-! ## Times -/

/-- The moment of a stamp of digits: month, day, hour and minute, perhaps a year before and seconds behind. -/
def stamp? (zone : Calendar.Zone) (year : Int) (w : Raw) : Option Int :=
  let digits := w.takeWhile Char.isDigit
  let seconds : Option Nat := match w.drop digits.length with
    | [] => some 0
    | ['.', a, b] => if a.isDigit && b.isDigit then some (Raw.valueIn 10 [a, b]) else none
    | _ => none
  let (year, rest) : Int × Raw := match digits.length with
    | 12 => ((Raw.valueIn 10 (digits.take 4) : Nat), digits.drop 4)
    | 10 =>
      let y := Raw.valueIn 10 (digits.take 2)
      ((if y < 69 then y + 2000 else y + 1900 : Nat), digits.drop 2)
    | _ => (year, digits)
  let part (i : Nat) : Nat := Raw.valueIn 10 ((rest.drop (2 * i)).take 2)
  match seconds, Calendar.day? year (part 0) (part 1) with
  | some s, some _ =>
    if rest.length = 8 && part 2 < 24 && part 3 < 60 && s < 61 then
      some ((⟨year, part 0, part 1, part 2, part 3, s⟩ : Date).seconds - zone.ahead)
    else none
  | _, _ => none

/-- Makes files that are not there, and sets the times of others. -/
def touch : Utility := fun c => do
  let g ← c.options ⟨"acd:fhmr:t:", [⟨"no-create", "c", .none⟩, ⟨"date", "d", .required⟩, ⟨"reference", "r", .required⟩,
    ⟨"no-dereference", "h", .none⟩, ⟨"time", "time", .required⟩], false⟩ 1
  let now ← Act.now
  let zone := zoneOf c
  let reference ← match g.value? "r" with
    | none => pure none
    | some path => do
      match ← Act.node? path true with
      | .ok (_, n) => pure (some n.changed)
      | .error e =>
        c.fail (Raw.ofText "failed to get attributes of " ++ Raw.quoted path ++ Raw.ofText (": " ++ e.message)) 1
  let micros (m : Int × Nat) : Instant := (m.1 * 1000000 + m.2 / 1000).toNat
  let time ← match g.value? "d", g.value? "t", reference with
    | some w, _, _ =>
      match Calendar.ofText? zone (secondsOf now) (now % 1000000 * 1000) w with
      | some m => pure (micros m)
      | none => c.fail (Raw.ofText "invalid date format " ++ Raw.quoted w) 1
    | none, some w, _ =>
      match stamp? zone (Date.ofSeconds (secondsOf now + zone.ahead)).year w with
      | some n => pure (micros (n, 0))
      | none => c.fail (Raw.ofText "invalid date format " ++ Raw.quoted w) 1
    | none, none, some t => pure t
    | none, none, none => pure now
  if g.operands.isEmpty then c.misused (Raw.ofText "missing file operand") 1
  else each g.operands fun path => do
    let mode : OpenMode := ⟨false, true, true, false, false, false⟩
    let failed ← if g.has "c" || (← Act.isThere path) then pure none
      else do
        match ← Act.openFile path mode with
        | .ok fd =>
          Act.close fd
          pure none
        | .error e => pure (some e)
    match failed with
    | some e =>
      if e = .isDirectory then
        c.complain (Raw.ofText "setting times of " ++ Raw.quoted path ++ Raw.ofText (": " ++ Errno.noEntry.message))
      else c.complain (cannot "touch" path e)
      return false
    | none =>
      if g.has "c" && !(← Act.isThere path) then return true
      else doing c (fun pid k => k.setTime pid path time) fun e =>
        Raw.ofText "setting times of " ++ Raw.quoted path ++ Raw.ofText (": " ++ e.message)

/-- Shows a moment. -/
def date : Utility := fun c => do
  let g ← c.options ⟨"d:f:I::r:Rs:u", [⟨"date", "d", .required⟩, ⟨"iso-8601", "I", .optional⟩,
    ⟨"reference", "r", .required⟩, ⟨"rfc-email", "R", .none⟩, ⟨"rfc-2822", "R", .none⟩, ⟨"rfc-3339", "rfc", .required⟩,
    ⟨"set", "s", .required⟩, ⟨"utc", "u", .none⟩, ⟨"universal", "u", .none⟩, ⟨"uct", "u", .none⟩,
    ⟨"file", "f", .required⟩, ⟨"debug", "debug", .none⟩],
    true⟩ 1
  let zone := if g.has "u" then .universal else zoneOf c
  let now ← Act.now
  let (seconds, nanos) ← match g.value? "d", g.value? "r" with
    | some w, _ =>
      match Calendar.ofText? zone (secondsOf now) (now % 1000000 * 1000) w with
      | some m => pure m
      | none => c.fail (Raw.ofText "invalid date " ++ Raw.quoted w) 1
    | none, some path => do
      match ← Act.node? path true with
      | .ok (_, n) => pure (secondsOf n.changed, n.changed % 1000000 * 1000)
      | .error e => c.fail (Call.about path e) 1
    | none, none => pure (secondsOf now, now % 1000000 * 1000)
  let shown := Calendar.Shown.at zone seconds nanos
  let iso (w : Raw) : Option String :=
    match Raw.text w with
    | "" | "date" => some "%Y-%m-%d"
    | "hours" => some "%Y-%m-%dT%H%:z"
    | "minutes" => some "%Y-%m-%dT%H:%M%:z"
    | "seconds" => some "%Y-%m-%dT%H:%M:%S%:z"
    | "ns" => some "%Y-%m-%dT%H:%M:%S,%N%:z"
    | _ => none
  let rfc (w : Raw) : Option String :=
    match Raw.text w with
    | "date" => some "%Y-%m-%d"
    | "seconds" => some "%Y-%m-%d %H:%M:%S%:z"
    | "ns" => some "%Y-%m-%d %H:%M:%S.%N%:z"
    | _ => none
  match g.operands with
  | _ :: extra :: _ => c.misused (Raw.ofText "extra operand " ++ Raw.quoted extra) 1
  | [form@('+' :: rest)] =>
    if g.has "I" || g.has "R" || g.has "rfc" then c.fail (Raw.ofText "multiple output formats specified") 1
    else c.put (Calendar.formatted shown (if form = ['+'] then [] else rest) ++ ['\n'])
  | [w] =>
    if g.has "d" || g.has "r" then
      c.complain (Raw.ofText "the argument " ++ Raw.quoted w ++ Raw.ofText " lacks a leading '+';\n" ++
        Raw.ofText "when using an option to specify date(s), any non-option\nargument must be a format string beginning with '+'")
      c.hint 1
    else match stamp? zone 2000 w with
      | some _ =>
        c.complain (Raw.ofText "cannot set date: Operation not permitted")
        c.emit (Calendar.formatted shown "%a %b %e %H:%M:%S %Z %Y".toList ++ ['\n']) 1
        return 1
      | none => c.fail (Raw.ofText "invalid date " ++ Raw.quoted w) 1
  | [] =>
    let form : Option String := match g.value? "I", g.value? "rfc" with
      | some w, _ => iso w
      | none, some w => rfc w
      | none, none => some (if g.has "R" then "%a, %d %b %Y %H:%M:%S %z" else "%a %b %e %H:%M:%S %Z %Y")
    match form with
    | some f => c.put (Calendar.formatted shown f.toList ++ ['\n'])
    | none =>
      let (w, name, choices) : Raw × String × String := match g.value? "I" with
        | some w => (w, "--iso-8601", "'hours', 'minutes', 'date', 'seconds', 'ns'")
        | none => ((g.value? "rfc").getD [], "--rfc-3339", "'date', 'seconds', 'ns'")
      let _ := choices
      c.complain (Raw.ofText "invalid argument " ++ Raw.quoted w ++ Raw.ofText (" for '" ++ name ++ "'"))
      c.hint 1

/-- The programs by name. -/
def programs : List (String × Utility) :=
  [("ls", ls), ("dir", dir), ("vdir", vdir), ("stat", stat), ("readlink", readlink), ("realpath", realpath),
   ("touch", touch), ("date", date)]

end RunMeter.Machine.Listing
