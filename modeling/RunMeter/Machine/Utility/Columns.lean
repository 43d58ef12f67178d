import RunMeter.Machine.Utility.Sources

/-!
# RunMeter.Machine.Utility.Columns — programs that cut and join lines

A list of ranges names columns of a line: octets, or fields between delimiters.

Nothing that is proved depends on this module.
-/

namespace RunMeter.Machine.Columns

open Sources

/-! ## Ranges -/

/-- A range of columns, the first of which is 1; it may have no end. -/
structure Range where
  first : Nat
  last : Option Nat

namespace Range

/-- Whether a column is in a range. -/
def has (r : Range) (n : Nat) : Bool :=
  r.first ≤ n && r.last.all (n ≤ ·)

end Range

/-- What is wrong with a list of ranges. -/
inductive Fault where
  | value (w : Raw)
  | zero
  | endless
  | decreasing
  | range

/-- What is said about a fault. -/
def Fault.message (fields : Bool) : Fault → Raw
  | value w =>
    Raw.ofText (if fields then "invalid field value " else "invalid byte/character position ") ++ Raw.quoted w
  | zero => Raw.ofText (if fields then "fields are numbered from 1" else "byte/character positions are numbered from 1")
  | endless => Raw.ofText "invalid range with no endpoint: -"
  | decreasing => Raw.ofText "invalid decreasing range"
  | range => Raw.ofText (if fields then "invalid field range" else "invalid byte or character range")

/-- The range that a word means. -/
def rangeOf (w : Raw) : Except Fault Range :=
  let number (r : Raw) : Except Fault Nat :=
    match Raw.natural? r with
    | some n => .ok n
    | none => .error (.value w)
  let first := w.takeWhile (· != '-')
  match w.drop first.length with
  | [] => do
    let n ← number first
    if n = 0 then throw .zero
    return ⟨n, some n⟩
  | _ :: last => do
    if last.contains '-' then throw .range
    if first.isEmpty && last.isEmpty then throw .endless
    let a ← if first.isEmpty then pure 1 else number first
    if a = 0 then throw .zero
    if last.isEmpty then return ⟨a, none⟩
    let b ← number last
    if b < a then throw .decreasing
    return ⟨a, some b⟩

/-- The ranges of a list, sorted, with those joined that share columns. -/
def rangesOf (w : Raw) : Except Fault (List Range) := do
  let ranges ← ((Raw.splitBy (fun c => c == ',' || c == ' ' || c == '\t') w)).mapM fun part =>
    if part.isEmpty then .error .zero else rangeOf part
  let sorted := ranges.mergeSort fun a b => a.first ≤ b.first
  return sorted.foldr (fun r rest =>
    match rest with
    | next :: more =>
      match r.last with
      | none => [r]
      | some last =>
        if next.first ≤ last then ⟨r.first, next.last.map (max last)⟩ :: more else r :: rest
    | [] => [r]) []

/-- The columns that ranges leave out, as ranges. -/
def complement (ranges : List Range) : List Range :=
  let rec gaps (least : Nat) : List Range → List Range
    | [] => [⟨least, none⟩]
    | r :: rest =>
      let before := if r.first > least then [⟨least, some (r.first - 1)⟩] else []
      match r.last with
      | some last => before ++ gaps (last + 1) rest
      | none => before
  gaps 1 ranges

/-! ## Cutting -/

/-- The octets of a line in ranges. -/
def cutOctets (ranges : List Range) (between : Raw) (line : Raw) : Raw :=
  let parts := ranges.filterMap fun r =>
    let part := match r.last with
      | some last => (line.take last).drop (r.first - 1)
      | none => line.drop (r.first - 1)
    if part.isEmpty then none else some part
  Raw.joined between parts

/-- The fields of a line in ranges; nothing if the line has no delimiter and such lines are left out. -/
def cutFields (ranges : List Range) (delimiter : Char) (between : Raw) (only : Bool) (line : Raw) : Option Raw :=
  let fields := Raw.splitAt delimiter line
  if fields.length ≤ 1 then (if only then none else some line)
  else some (Raw.joined between ((fields.zipIdx.filter fun f => ranges.any (Range.has · (f.2 + 1))).map Prod.fst))

/-- Cuts columns out of lines. -/
def cut : Utility := fun c => do
  let g ← c.options ⟨"b:c:d:f:nsz", [⟨"bytes", "b", .required⟩, ⟨"characters", "c", .required⟩,
    ⟨"fields", "f", .required⟩, ⟨"delimiter", "d", .required⟩, ⟨"only-delimited", "s", .none⟩,
    ⟨"output-delimiter", "output", .required⟩, ⟨"complement", "complement", .none⟩, ⟨"zero-terminated", "z", .none⟩],
    false⟩ 1
  let mark := if g.has "z" then '\x00' else '\n'
  let lists := g.switches.filter fun s => s.1 == "b" || s.1 == "c" || s.1 == "f"
  match lists with
  | [] => c.misused (Raw.ofText "you must specify a list of bytes, characters, or fields") 1
  | _ :: _ :: _ => c.misused (Raw.ofText "only one list may be specified") 1
  | [(kind, list)] =>
    let fields := kind == "f"
    let delimiter := (g.value? "d").getD ['\t']
    if delimiter.length > 1 then c.misused (Raw.ofText "the delimiter must be a single character") 1
    else if g.has "d" && !fields then
      c.misused (Raw.ofText "an input delimiter may be specified only when operating on fields") 1
    else if g.has "s" && !fields then
      c.misused (Raw.ofText "suppressing non-delimited lines makes sense\n\tonly when operating on fields") 1
    else match rangesOf list with
      | .error fault => c.misused (fault.message fields) 1
      | .ok ranges =>
        let ranges := if g.has "complement" then complement ranges else ranges
        let d := delimiter.headD '\x00'
        let f : LineFilter Unit := ⟨fun _ _ => (), fun _ line _ =>
          (if fields then ((cutFields ranges d ((g.value? "output").getD [d]) (g.has "s") line).map (· ++ [mark])).getD []
            else cutOctets ranges ((g.value? "output").getD []) line ++ [mark], ()), fun _ => ([], ()), fun _ => false⟩
        let (_, good) ← filter c f mark Call.about g.operands ()
        return if good then 0 else 1

/-! ## Joining -/

/-- The delimiters that a word lists; an empty one joins without any. -/
def delimiters : Raw → List Raw
  | '\\' :: c :: rest =>
    (match c with
      | 'n' => ['\n']
      | 't' => ['\t']
      | '0' => []
      | 'b' => ['\x08']
      | 'f' => ['\x0c']
      | 'r' => ['\r']
      | 'v' => ['\x0b']
      | c => [c]) :: delimiters rest
  | c :: rest => [c] :: delimiters rest
  | [] => []

/-- Parts with delimiters between them, which are used in turn. -/
def interleaved (between : List Raw) (parts : List Raw) : Raw :=
  parts.zipIdx.flatMap fun (part, i) =>
    if i = 0 then part else between.getD ((i - 1) % between.length) [] ++ part

/-- Joins lines of files. -/
def paste : Utility := fun c => do
  let g ← c.options ⟨"d:sz", [⟨"delimiters", "d", .required⟩, ⟨"serial", "s", .none⟩, ⟨"zero-terminated", "z", .none⟩],
    false⟩ 1
  let mark := if g.has "z" then '\x00' else '\n'
  let between := match delimiters ((g.value? "d").getD ['\t']) with
    | [] => [[]]
    | ds => ds
  let paths := orInput g.operands
  let input ← if paths.contains ['-'] then Call.input else pure []
  let columns := paths.countP (· == ['-'])
  let mut found : List (List Raw) := []
  let mut code : UInt8 := 0
  let mut seen := 0
  for path in paths do
    if path = ['-'] then
      let lines := records mark input
      let share := if g.has "s" then (if seen = 0 then lines else [])
        else (lines.zipIdx.filter fun l => l.2 % columns = seen).map Prod.fst
      seen := seen + 1
      found := found ++ [share]
    else match ← Call.contents path with
      | .ok text => found := found ++ [records mark text]
      | .error e =>
        c.complain (Call.about path e)
        if !g.has "s" then return 1
        code := 1
  if g.has "s" then
    c.emit (found.flatMap fun lines => interleaved between lines ++ [mark]) 1
  else
    let height := ((found.map List.length).max?).getD 0
    c.emit ((List.range height).flatMap fun i => interleaved between (found.map fun lines => lines.getD i []) ++ [mark]) 1
  return code

/-! ## Widths -/

/-- The column after a character. -/
def after (column : Nat) (ch : Char) : Nat :=
  match ch with
  | '\x08' => column - 1
  | '\r' => 0
  | '\t' => (column / 8 + 1) * 8
  | _ => column + 1

/-- A line cut where it gets too wide, or after the last blank before that place. -/
def foldLine (width : Nat) (octets blanks : Bool) : (fuel : Nat) → (column : Nat) → (taken : Raw) → Raw → Raw
  | 0, _, taken, rest => taken.reverse ++ rest
  | _, _, taken, [] => taken.reverse
  | fuel + 1, column, taken, ch :: rest =>
    let next := if octets then column + 1 else after column ch
    if next ≤ width || taken.isEmpty then foldLine width octets blanks fuel next (ch :: taken) rest
    else
      let tail := taken.takeWhile fun t => t != ' ' && t != '\t'
      let head := taken.drop tail.length
      if blanks && !head.isEmpty then
        let again := tail.reverse
        let column := again.foldl (fun n t => if octets then n + 1 else after n t) 0
        head.reverse ++ '\n' :: foldLine width octets blanks fuel column tail (ch :: rest)
      else taken.reverse ++ '\n' :: foldLine width octets blanks fuel 0 [] (ch :: rest)

/-- Cuts lines that are too wide. -/
def fold : Utility := fun c => do
  let words := c.args.map fun w =>
    match w with
    | '-' :: d :: _ => if d.isDigit then '-' :: 'w' :: w.drop 1 else w
    | _ => w
  let g ← ({ c with words := c.name :: words }).options ⟨"bsw:", [⟨"bytes", "b", .none⟩, ⟨"spaces", "s", .none⟩,
    ⟨"width", "w", .required⟩], false⟩ 1
  match Raw.natural? ((g.value? "w").getD "80".toList) with
  | some (width + 1) =>
    eachLine c g.operands fun line => foldLine (width + 1) (g.has "b") (g.has "s") (2 * line.length + 2) 0 [] line
  | _ => c.fail (Raw.ofText "invalid number of columns: " ++ Raw.quoted ((g.value? "w").getD [])) 1

/-! ## Tabs -/

/-- Where tabs lead: to some columns, and behind them to the multiples of a size or in equal steps, if there is one. -/
structure TabStops where
  columns : List Nat
  multiple : Option Nat
  step : Option Nat

namespace TabStops

/-- The column after another one where a tab leads; nothing behind the last. -/
def next? (t : TabStops) (column : Nat) : Option Nat :=
  match t.columns.find? (· > column) with
  | some stop => some stop
  | none =>
    match t.multiple, t.step with
    | some size, _ => some ((column / size + 1) * size)
    | none, some size =>
      let last := (t.columns.getLast?).getD 0
      some (last + ((column - last) / size + 1) * size)
    | none, none => none

/-- What is wrong with a list of columns. -/
def faultIn (w : Raw) (found : List (Option Char × Nat)) : Option Raw :=
  let plain := (found.filter fun f => f.1.isNone).map Prod.snd
  if found.any fun f => f.2 = 0 then some (Raw.ofText "tab size cannot be 0")
  else if (plain.zip plain.tail).any fun p => p.2 ≤ p.1 then some (Raw.ofText "tab sizes must be ascending")
  else if (found.dropLast.any fun f => f.1.isSome) then
    some (match found.find? fun f => f.1.isSome with
      | some (some sign, _) =>
        Raw.ofText ("'" ++ String.singleton sign ++ "' specifier only allowed with the last value")
      | _ => w)
  else none

/-- The columns that words name. -/
def ofWords (ws : List Raw) : Except Raw TabStops := do
  let parts := (ws.flatMap (Raw.splitBy fun ch => ch == ',' || ch == ' ' || ch == '\t')).filter (!·.isEmpty)
  let found ← parts.mapM fun part => do
    let (sign, digits) : Option Char × Raw := match part with
      | '/' :: rest => (some '/', rest)
      | '+' :: rest => (some '+', rest)
      | rest => (none, rest)
    match digits.dropWhile Char.isDigit with
    | [] => return (sign, Raw.valueIn 10 digits)
    | bad => .error (Raw.ofText "tab size contains invalid character(s): " ++ Raw.quoted bad)
  match faultIn [] found with
  | some message => .error message
  | none =>
    let size (sign : Char) : Option Nat := (found.find? fun f => f.1 == some sign).map Prod.snd
    match (found.filter fun f => f.1.isNone).map Prod.snd, size '/', size '+' with
    | [], none, none => return ⟨[], some 8, none⟩
    | [n], none, none => return ⟨[], some n, none⟩
    | [], none, some n => return ⟨[], some n, none⟩
    | columns, multiple, step => return ⟨columns, multiple, step⟩

end TabStops

/-- Words in which numbers behind a dash are columns of tabs. -/
def tabWords (c : Call) : Call :=
  let words := c.args.map fun w =>
    match w with
    | '-' :: d :: rest => if d.isDigit then "--columns=".toList ++ d :: rest else w
    | w => w
  { c with words := c.name :: words }

/-- The columns that switches ask for. -/
def tabStops (c : Call) (g : Given) : Act TabStops := do
  match TabStops.ofWords ((g.switches.filter fun s => s.1 == "t" || s.1 == "columns").map Prod.snd) with
  | .ok t => return t
  | .error message => c.fail message 1

/-- Puts blanks in place of tabs. -/
def expand : Utility := fun c => do
  let g ← (tabWords c).options ⟨"it:", [⟨"initial", "i", .none⟩, ⟨"tabs", "t", .required⟩,
    ⟨"columns", "columns", .required⟩], false⟩ 1
  let stops ← tabStops c g
  eachLine c g.operands fun line =>
    (line.foldl (fun (out, column, start) ch =>
      if ch = '\t' && (start || !g.has "i") then
        let stop := (stops.next? column).getD (column + 1)
        (List.replicate (stop - column) ' ' ++ out, stop, start)
      else (ch :: out, if ch = '\x08' then column - 1 else column + 1, start && (ch == ' ' || ch == '\t')))
      (([] : Raw), 0, true)).1.reverse

/-- A line in which tabs are put in place of blanks: what there is, the last first, blanks that wait, the column, and
whether blanks still count. -/
structure Unexpanded where
  out : Raw := []
  waiting : Raw := []
  column : Nat := 0
  counts : Bool := true
  blankBefore : Bool := true
  /-- Whether a single blank stands just before the last stop. -/
  single : Bool := false

namespace Unexpanded

/-- The line with the blanks that wait. -/
def settled (s : Unexpanded) : Unexpanded :=
  let waiting := if s.waiting.length > 1 && s.single then s.waiting.dropLast ++ ['\t'] else s.waiting
  { s with out := waiting ++ s.out, waiting := [], single := false }

/-- One character more. -/
def feed (t : TabStops) (all : Bool) (s : Unexpanded) (ch : Char) : Unexpanded :=
  if !s.counts then { s with out := ch :: s.out }
  else
    let blank := ch == ' ' || ch == '\t'
    let (s, wait, ch) : Unexpanded × Bool × Char :=
      if blank then
        match t.next? s.column with
        | none => ({ s with counts := false }, false, ch)
        | some stop =>
          let kept (s : Unexpanded) (w : Raw) : Unexpanded :=
            { s with waiting := if s.single then w.drop (w.length - 1) else [] }
          if ch = '\t' then
            let w := if s.waiting.isEmpty then [] else s.waiting.dropLast ++ ['\t']
            (kept { s with column := stop } w, false, ch)
          else
            let column := s.column + 1
            if !(s.blankBefore && column = stop) then
              ({ s with column := column, single := s.single || column = stop, waiting := ch :: s.waiting, blankBefore := true },
                true, ch)
            else (kept { s with column := column } (s.waiting.dropLast ++ ['\t']), false, '\t')
      else if ch = '\x08' then ({ s with column := s.column - 1 }, false, ch)
      else ({ s with column := s.column + 1 }, false, ch)
    if wait then s
    else
      let s := if s.waiting.isEmpty then s else s.settled
      { s with out := ch :: s.out, blankBefore := blank, counts := s.counts && (all || blank) }

end Unexpanded

/-- Puts tabs in place of blanks. -/
def unexpand : Utility := fun c => do
  let g ← (tabWords c).options ⟨"at:", [⟨"all", "a", .none⟩, ⟨"first-only", "first", .none⟩, ⟨"tabs", "t", .required⟩,
    ⟨"columns", "columns", .required⟩], false⟩ 1
  let stops ← tabStops c g
  let all := (g.has "a" || g.has "t") && !g.has "first"
  eachLine c g.operands fun line => (line.foldl (Unexpanded.feed stops all) {}).settled.out.reverse

/-! ## Numbers -/

/-- Numbers lines. -/
def nl : Utility := fun c => do
  let g ← c.options ⟨"b:d:f:h:i:l:n:ps:v:w:", [⟨"body-numbering", "b", .required⟩, ⟨"line-increment", "i", .required⟩,
    ⟨"number-format", "n", .required⟩, ⟨"number-separator", "s", .required⟩, ⟨"starting-line-number", "v", .required⟩,
    ⟨"number-width", "w", .required⟩], false⟩ 1
  let style := (g.value? "b").getD ['t']
  let width := ((g.value? "w").bind Raw.natural?).getD 6
  let separator := (g.value? "s").getD ['\t']
  let step := ((g.value? "i").bind Raw.integer?).getD 1
  let first := ((g.value? "v").bind Raw.integer?).getD 1
  let format := (g.value? "n").getD "rn".toList
  if !(style = ['a'] || style = ['t'] || style = ['n']) then
    c.misused (Raw.ofText "invalid body numbering style: " ++ Raw.quoted style) 1
  else if !(["ln", "rn", "rz"].map String.toList).contains format then
    c.misused (Raw.ofText "invalid line numbering format: " ++ Raw.quoted format) 1
  else
    let shown (n : Int) : Raw :=
      if format = "ln".toList then Raw.padEnd width (Raw.ofInt n)
      else if format = "rz".toList then
        (if n < 0 then '-' :: Raw.padZeros (width - 1) (Raw.ofNat n.natAbs) else Raw.padZeros width (Raw.ofNat n.toNat))
      else Raw.padStart width (Raw.ofInt n)
    let f : LineFilter Int := ⟨fun n _ => n, fun n line _ =>
      if style = ['a'] || (style = ['t'] && !line.isEmpty) then (shown n ++ separator ++ line ++ ['\n'], n + step)
      else (List.replicate (width + separator.length) ' ' ++ line ++ ['\n'], n), fun n => ([], n), fun _ => false⟩
    let (_, good) ← filter c f '\n' Call.about g.operands first
    return if good then 0 else 1

/-- The programs by name. -/
def programs : List (String × Utility) :=
  [("cut", cut), ("paste", paste), ("fold", fold), ("expand", expand), ("unexpand", unexpand), ("nl", nl)]

end RunMeter.Machine.Columns
