import RunMeter.Machine.Format
import RunMeter.Machine.Utility.Sources

/-!
# RunMeter.Machine.Utility.Sorting — the order of lines

A key is a part of a line with an order of its own.  Lines are compared by their keys in turn, and then as they
are.

Nothing that is proved depends on this module.
-/

namespace RunMeter.Machine.Sorting

open Sources

/-! ## Orders -/

/-- How parts of lines are compared. -/
structure Manner where
  /-- The letter of the order; the order of octets has none. -/
  order : Option Char
  reversed : Bool
  /-- Whether only blanks, letters and digits count. -/
  dictionary : Bool
  folded : Bool
  printing : Bool
  /-- Whether blanks at the start and at the end place do not count. -/
  skipsStart : Bool
  skipsEnd : Bool

namespace Manner

/-- The order of octets. -/
def usual : Manner := ⟨none, false, false, false, false, false, false⟩

/-- Whether nothing is said about the order. -/
def isUsual (m : Manner) : Bool :=
  m.order.isNone && !m.reversed && !m.dictionary && !m.folded && !m.printing && !m.skipsStart && !m.skipsEnd

/-- A manner after a letter; nothing if there is no such letter. -/
def letter? (m : Manner) (atStart atEnd : Bool) (c : Char) : Option Manner :=
  match c with
  | 'b' => some { m with skipsStart := m.skipsStart || atStart, skipsEnd := m.skipsEnd || atEnd }
  | 'd' => some { m with dictionary := true }
  | 'f' => some { m with folded := true }
  | 'i' => some { m with printing := true }
  | 'r' => some { m with reversed := true }
  | 'g' | 'h' | 'M' | 'n' | 'R' | 'V' => some { m with order := some c }
  | _ => none

end Manner

/-- The order of two octet strings. -/
def octetOrder : Raw → Raw → Ordering
  | [], [] => .eq
  | [], _ => .lt
  | _, [] => .gt
  | a :: r, b :: s => if a.toNat < b.toNat then .lt else if b.toNat < a.toNat then .gt else octetOrder r s

/-- The order of two numbers. -/
def numberOrder (x y : Rat) : Ordering :=
  if x < y then .lt else if y < x then .gt else .eq

/-- The number at the start of a string, zero if there is none. -/
def numberAtStart (r : Raw) : Rat :=
  let r := r.dropWhile fun c => c == ' ' || c == '\t'
  let (negative, r) := match r with
    | '-' :: rest => (true, rest)
    | rest => (false, rest)
  let (q, count, _) := Quantity.mantissa 10 Char.isDigit r
  if count = 0 then 0 else if negative then -q else q

/-- The power of the unit after the number at the start of a string. -/
def unitAfter (r : Raw) : Nat :=
  let r := r.dropWhile fun c => c == ' ' || c == '\t' || c == '-'
  match r.dropWhile fun c => c.isDigit || c == '.' with
  | c :: _ => (power? c).getD 0
  | [] => 0

/-- The order of numbers with units: first the sign, then the unit. -/
def unitOrder (a b : Raw) : Ordering :=
  let (x, y) := (numberAtStart a, numberAtStart b)
  let key (q : Rat) (r : Raw) : Int := if q < 0 then -(unitAfter r + 1 : Int) else if q = 0 then 0 else unitAfter r + 1
  match compare (key x a) (key y b) with
  | .eq => numberOrder x y
  | o => o

/-- The number of a month by the first letters of its name, zero if there is none. -/
def month (r : Raw) : Nat :=
  let start := Raw.text (Raw.toUpper ((r.dropWhile fun c => c == ' ' || c == '\t').take 3))
  match ["JAN", "FEB", "MAR", "APR", "MAY", "JUN", "JUL", "AUG", "SEP", "OCT", "NOV", "DEC"].findIdx? (· == start) with
  | some i => i + 1
  | none => 0

/-- How far on a character stands in the order of versions. -/
def versionRank (c : Char) : Int :=
  if c = '~' then -1 else if c.isDigit then 0 else if c.isAlpha then c.toNat else c.toNat + 256

/-- The order of names with numbers in them: texts and numbers are compared in turn. -/
def versionOrder : (fuel : Nat) → Raw → Raw → Ordering
  | 0, _, _ => .eq
  | fuel + 1, a, b =>
    if a.isEmpty && b.isEmpty then .eq
    else
      let text (r : Raw) : Raw := r.takeWhile fun c => !c.isDigit
      let (ta, tb) := (text a, text b)
      let ranks (r : Raw) : List Int := r.map versionRank
      let rec ordered : List Int → List Int → Ordering
        | [], [] => .eq
        | [], y :: _ => compare 0 y
        | x :: _, [] => compare x 0
        | x :: xs, y :: ys => if x = y then ordered xs ys else compare x y
      match ordered (ranks ta) (ranks tb) with
      | .eq =>
        let digits (r : Raw) (t : Raw) : Raw := (r.drop t.length).takeWhile Char.isDigit
        let (da, db) := (digits a ta, digits b tb)
        match compare (Raw.valueIn 10 da) (Raw.valueIn 10 db) with
        | .eq => versionOrder fuel (a.drop (ta.length + da.length)) (b.drop (tb.length + db.length))
        | o => o
      | o => o

/-- How a quantity compares: no number at all comes first, then what is undefined. -/
def quantityOrder (a b : Raw) : Ordering :=
  let rank (r : Raw) : Nat × Rat :=
    match Quantity.ofText? 64 r with
    | none => (0, 0)
    | some (⟨_, .undefined⟩, _) => (1, 0)
    | some (⟨true, .infinite⟩, _) => (2, 0)
    | some (⟨negative, .finite q⟩, _) => (3, if negative then -q else q)
    | some (⟨false, .infinite⟩, _) => (4, 0)
  let ((i, x), (j, y)) := (rank a, rank b)
  match compare i j with
  | .eq => numberOrder x y
  | o => o

/-- The order of two parts of lines, before it is reversed. -/
def Manner.compareParts (m : Manner) (a b : Raw) : Ordering :=
  match m.order with
  | some 'n' => numberOrder (numberAtStart a) (numberAtStart b)
  | some 'g' => quantityOrder a b
  | some 'h' => unitOrder a b
  | some 'M' => compare (month a) (month b)
  | some 'V' =>
    match versionOrder (a.length + b.length + 1) a b with
    | .eq => octetOrder a b
    | o => o
  | _ =>
    let counted (r : Raw) : Raw :=
      let r := if m.dictionary then r.filter fun c => c.isAlphanum || c == ' ' || c == '\t' else r
      let r := if m.printing then r.filter Raw.isShown else r
      if m.folded then Raw.toUpper r else r
    octetOrder (counted a) (counted b)

/-! ## Keys -/

/-- A place in a line: a field, counted from 0, and octets after its start. -/
structure Place where
  field : Nat
  octets : Nat

/-- A part of a line. -/
structure Key where
  start : Place
  /-- The end: with no octets, the field's own. -/
  finish : Option Place
  manner : Manner

/-- A line without its first fields. -/
def withoutFields (separator : Option Char) : (count : Nat) → Raw → Raw
  | 0, r => r
  | count + 1, r =>
    match separator with
    | some s => withoutFields separator count ((r.dropWhile (· != s)).drop 1)
    | none =>
      let isBlank (c : Char) : Bool := c == ' ' || c == '\t'
      withoutFields separator count ((r.dropWhile isBlank).dropWhile fun c => !isBlank c)

/-- What blanks at the start of a string leave. -/
def afterBlanks (skips : Bool) (r : Raw) : Raw :=
  if skips then r.dropWhile fun c => c == ' ' || c == '\t' else r

/-- What is left of a line from the place where a key ends. -/
def afterKey (separator : Option Char) (k : Key) (line : Raw) : Raw :=
  match k.finish with
  | none => []
  | some p =>
    if p.octets = 0 then
      match separator with
      | some s => (withoutFields separator p.field line).dropWhile (· != s)
      | none => withoutFields separator (p.field + 1) line
    else (afterBlanks k.manner.skipsEnd (withoutFields separator p.field line)).drop p.octets

/-- The part of a line that a key means. -/
def Key.part (separator : Option Char) (k : Key) (line : Raw) : Raw :=
  let start := (afterBlanks k.manner.skipsStart (withoutFields separator k.start.field line)).drop k.start.octets
  start.take (start.length - (afterKey separator k line).length)

/-- A place as a word says it, and the rest of the word; the field and the octet are counted from 1. -/
def place? (w : Raw) : Option (Nat × Option Nat × Raw) :=
  let field := w.takeWhile Char.isDigit
  if field.isEmpty then none
  else match w.drop field.length with
    | '.' :: rest =>
      let octets := rest.takeWhile Char.isDigit
      if octets.isEmpty then none
      else some (Raw.valueIn 10 field, some (Raw.valueIn 10 octets), rest.drop octets.length)
    | rest => some (Raw.valueIn 10 field, none, rest)

/-- Letters of a manner. -/
def letters? (m : Manner) (atStart atEnd : Bool) (w : Raw) : Option Manner :=
  w.foldlM (fun m c => m.letter? atStart atEnd c) m

/-- The key that a word means, or what is wrong with it. -/
def keyOf (usual : Manner) (w : Raw) : Except Raw Key := do
  let wrong (what : String) : Except Raw Key :=
    .error (Raw.ofText (what ++ ": invalid field specification ") ++ Raw.quoted w)
  match place? w with
  | none => .error (Raw.ofText "invalid number at field start: invalid count at start of " ++ Raw.quoted w)
  | some (0, _, _) => wrong "field number is zero"
  | some (_, some 0, _) => wrong "character offset is zero"
  | some (field, octets, rest) =>
    let before := rest.takeWhile (· != ',')
    match letters? .usual true false before with
    | none => wrong "stray character in field spec"
    | some manner =>
      let start : Place := ⟨field - 1, octets.getD 1 - 1⟩
      match rest.drop before.length with
      | [] => return ⟨start, none, if manner.isUsual then usual else manner⟩
      | _ :: after =>
        match place? after with
        | none => .error (Raw.ofText "invalid number after ',': invalid count at start of " ++ Raw.quoted after)
        | some (0, _, _) => wrong "field number is zero"
        | some (field, octets, rest) =>
          match letters? manner false true rest with
          | none => wrong "stray character in field spec"
          | some manner =>
            return ⟨start, some ⟨field - 1, octets.getD 0⟩, if manner.isUsual then usual else manner⟩

/-- How lines are put in order. -/
structure Rule where
  separator : Option Char
  keys : List Key
  usual : Manner
  /-- Whether lines with the same keys stay as they are. -/
  stable : Bool

/-- The order of two lines by their keys alone. -/
def Rule.byKeys (r : Rule) (a b : Raw) : Ordering :=
  let ordered (m : Manner) (x y : Raw) : Ordering :=
    if m.reversed then (m.compareParts x y).swap else m.compareParts x y
  if r.keys.isEmpty then
    let m := r.usual
    ordered m (afterBlanks m.skipsStart a) (afterBlanks m.skipsStart b)
  else r.keys.foldl (fun o k =>
    if o = .eq then ordered k.manner (k.part r.separator a) (k.part r.separator b) else o) .eq

/-- The order of two lines. -/
def Rule.order (r : Rule) (a b : Raw) : Ordering :=
  match r.byKeys a b with
  | .eq => if r.stable then .eq else if r.usual.reversed then (octetOrder a b).swap else octetOrder a b
  | o => o

/-- Lines without those that have the keys of the one before. -/
def unequal (r : Rule) : List Raw → List Raw
  | a :: b :: rest => if r.byKeys a b = .eq then unequal r (a :: rest) else a :: unequal r (b :: rest)
  | ls => ls
  termination_by ls => ls.length

/-! ## Programs -/

/-- Puts lines in order. -/
def sort : Utility := fun c => do
  let orders := ["b", "d", "f", "i", "r", "g", "h", "M", "n", "R", "V"]
  let g ← c.options ⟨"bcCdfghik:mMno:rRsS:t:T:uVz", [⟨"ignore-leading-blanks", "b", .none⟩,
    ⟨"dictionary-order", "d", .none⟩, ⟨"ignore-case", "f", .none⟩, ⟨"general-numeric-sort", "g", .none⟩,
    ⟨"ignore-nonprinting", "i", .none⟩, ⟨"month-sort", "M", .none⟩, ⟨"human-numeric-sort", "h", .none⟩,
    ⟨"numeric-sort", "n", .none⟩, ⟨"random-sort", "R", .none⟩, ⟨"reverse", "r", .none⟩, ⟨"version-sort", "V", .none⟩,
    ⟨"check", "c", .optional⟩, ⟨"key", "k", .required⟩, ⟨"merge", "m", .none⟩, ⟨"output", "o", .required⟩,
    ⟨"stable", "s", .none⟩, ⟨"buffer-size", "S", .required⟩, ⟨"field-separator", "t", .required⟩,
    ⟨"unique", "u", .none⟩, ⟨"zero-terminated", "z", .none⟩], false⟩ 2
  let chosen := g.switches.filter fun s => orders.contains s.1
  let usual := chosen.foldl (fun m s => (m.letter? true true (s.1.toList.headD ' ')).getD m) Manner.usual
  let separator := match g.value? "t" with
    | some ['\\', '0'] => some '\x00'
    | some [t] => some t
    | _ => none
  match g.value? "t" with
  | some [] => c.fail (Raw.ofText "empty tab") 2
  | some (a :: b :: more) =>
    if a :: b :: more != ['\\', '0'] then c.fail (Raw.ofText "multi-character tab " ++ Raw.quoted (a :: b :: more)) 2
  | _ => pure ()
  match (g.switches.filter fun s => s.1 == "k").mapM fun s => keyOf usual s.2 with
  | .error message => c.fail message 2
  | .ok keys =>
    let mark := if g.has "z" then '\x00' else '\n'
    let rule : Rule := ⟨separator, keys, usual, g.has "s" || g.has "u"⟩
    if g.has "c" || g.has "C" then
      let path := g.operands.headD ['-']
      match ← Call.contents path with
      | .error e => c.fail (Raw.ofText "cannot read: " ++ Call.about path e) 2
      | .ok text =>
        let lines := records mark text
        let wrong (o : Ordering) : Bool := o == .gt || (o == .eq && g.has "u")
        let order := if g.has "u" then rule.byKeys else rule.order
        match ((lines.zip lines.tail).zipIdx.find? fun p => wrong (order p.1.1 p.1.2)) with
        | none => return 0
        | some ((_, line), i) =>
          if !g.has "C" && g.value? "c" != some "quiet".toList && g.value? "c" != some "silent".toList then
            c.complain (path ++ ':' :: Raw.ofNat (i + 2) ++ Raw.ofText ": disorder: " ++ line)
          return 1
    else
      let found ← (orInput g.operands).mapM fun path => do
        match ← Call.contents path with
        | .ok text => return records mark text
        | .error e =>
          if e = .isDirectory then c.fail (Raw.ofText "read failed: " ++ Call.about path e) 2
          else c.fail (Raw.ofText "cannot read: " ++ Call.about path e) 2
      let sorted := found.flatten.mergeSort fun a b => rule.order a b != .gt
      let lines := if g.has "u" then unequal rule sorted else sorted
      let output := lines.flatMap (· ++ [mark])
      match g.value? "o" with
      | none =>
        c.emit output 2
        return 0
      | some path =>
        match ← Act.openFile path .writing with
        | .error e => c.fail (Raw.ofText "open failed: " ++ Call.about path e) 2
        | .ok fd =>
          let _ ← Act.write fd output
          return 0

/-- The lines of a run of equal ones that are shown, with the number of them if that is asked for. -/
def shownRun (g : Given) (mark : Char) (run : List Raw) : Raw :=
  let repeated := run.length > 1
  let count := if g.has "c" then Raw.padStart 7 (Raw.ofNat run.length) ++ [' '] else []
  if g.has "D" then (if repeated then run.flatMap (· ++ [mark]) else [])
  else if (g.has "d" && !repeated) || (g.has "u" && repeated) then []
  else count ++ run.headD [] ++ [mark]

/-- Leaves one of equal lines in a row. -/
def uniq : Utility := fun c => do
  let g ← c.options ⟨"cdDf:is:uw:z", [⟨"count", "c", .none⟩, ⟨"repeated", "d", .none⟩, ⟨"all-repeated", "D", .optional⟩,
    ⟨"skip-fields", "f", .required⟩, ⟨"ignore-case", "i", .none⟩, ⟨"skip-chars", "s", .required⟩,
    ⟨"unique", "u", .none⟩, ⟨"check-chars", "w", .required⟩, ⟨"zero-terminated", "z", .none⟩], false⟩ 1
  let mark := if g.has "z" then '\x00' else '\n'
  let number (key : String) : Option Nat := (g.value? key).bind Raw.natural?
  let key (line : Raw) : Raw :=
    let r := (withoutFields none ((number "f").getD 0) line).drop ((number "s").getD 0)
    let r := match number "w" with
      | some n => r.take n
      | none => r
    if g.has "i" then Raw.toUpper r else r
  match g.operands with
  | _ :: _ :: extra :: _ => c.misused (Raw.ofText "extra operand " ++ Raw.quoted extra) 1
  | paths =>
    let keeps := g.has "D"
    let f : LineFilter (List Raw) := ⟨fun s _ => s, fun run line _ =>
      match run with
      | [] => ([], [line])
      | last :: _ => if key last == key line then ([], if keeps then run ++ [line] else run ++ [[]])
        else (shownRun g mark run, [line]), fun run => (if run.isEmpty then [] else shownRun g mark run, []), fun _ => false⟩
    match paths with
    | [_, out] =>
      match ← Act.openFile out .writing with
      | .error e => c.fail (Call.about out e) 1
      | .ok fd => let _ ← Act.duplicate fd 1
    | _ => pure ()
    let (_, good) ← filter c f mark Call.about (paths.take 1) []
    return if good then 0 else 1

/-- Lines of two files in order, with the column of each. -/
def merged : (fuel : Nat) → List Raw → List Raw → List (Nat × Raw)
  | 0, _, _ => []
  | _, [], bs => bs.map fun b => (2, b)
  | _, as, [] => as.map fun a => (1, a)
  | fuel + 1, a :: as, b :: bs =>
    match octetOrder a b with
    | .lt => (1, a) :: merged fuel as (b :: bs)
    | .gt => (2, b) :: merged fuel (a :: as) bs
    | .eq => (3, a) :: merged fuel as bs

/-- Compares files with lines in order. -/
def comm : Utility := fun c => do
  let g ← c.options ⟨"123z", [⟨"check-order", "check", .none⟩, ⟨"nocheck-order", "nocheck", .none⟩,
    ⟨"output-delimiter", "output", .required⟩, ⟨"total", "total", .none⟩, ⟨"zero-terminated", "z", .none⟩], false⟩ 1
  match g.operands with
  | [] => c.misused (Raw.ofText "missing operand") 1
  | [a] => c.misused (Raw.ofText "missing operand after " ++ Raw.quoted a) 1
  | _ :: _ :: extra :: _ => c.misused (Raw.ofText "extra operand " ++ Raw.quoted extra) 1
  | [a, b] =>
    match ← Call.contents a with
    | .error e => c.fail (Call.about a e) 1
    | .ok one =>
      match ← Call.contents b with
      | .error e => c.fail (Call.about b e) 1
      | .ok two =>
        let mark := if g.has "z" then '\x00' else '\n'
        let between := (g.value? "output").getD ['\t']
        let (as, bs) := (records mark one, records mark two)
        let lines := merged (as.length + bs.length + 1) as bs
        let shows (column : Nat) : Bool := !g.has (toString column)
        let indent (column : Nat) : Raw :=
          match column with
          | 2 => if shows 1 then between else []
          | 3 => (if shows 1 then between else []) ++ (if shows 2 then between else [])
          | _ => []
        let isOrdered (ls : List Raw) : Bool := (ls.zip ls.tail).all fun p => octetOrder p.1 p.2 != .gt
        let unpaired := lines.any fun l => l.1 != 3
        let disorder := unpaired && !g.has "nocheck" && !(isOrdered as && isOrdered bs)
        c.emit (lines.flatMap fun (column, line) => if shows column then indent column ++ line ++ [mark] else []) 1
        if disorder then
          if !isOrdered as then c.complain (Raw.ofText "file 1 is not in sorted order")
          if !isOrdered bs then c.complain (Raw.ofText "file 2 is not in sorted order")
          c.fail (Raw.ofText "input is not in sorted order") 1
        else return 0

/-! ## Chance -/

/-- The next number of a disorderly row. -/
def nextSeed (seed : Nat) : Nat := (seed * 6364136223846793005 + 1442695040888963407) % 18446744073709551616

/-- Lines in an order that a seed decides. -/
def disordered : (fuel : Nat) → (seed : Nat) → List Raw → List Raw
  | 0, _, _ => []
  | _, _, [] => []
  | fuel + 1, seed, ls =>
    let i := seed / 4294967296 % ls.length
    (ls.drop i).take 1 ++ disordered fuel (nextSeed seed) (ls.eraseIdx i)

/-- So many lines, each one of some. -/
def drawn (ls : Array Raw) : (count : Nat) → (seed : Nat) → List Raw
  | 0, _ => []
  | count + 1, seed => ls.getD (seed / 4294967296 % ls.size) [] :: drawn ls count (nextSeed seed)

/-- Puts lines into disorder. -/
def shuf : Utility := fun c => do
  let g ← c.options ⟨"ei:n:o:rz", [⟨"echo", "e", .none⟩, ⟨"input-range", "i", .required⟩,
    ⟨"head-count", "n", .required⟩, ⟨"output", "o", .required⟩, ⟨"repeat", "r", .none⟩, ⟨"zero-terminated", "z", .none⟩,
    ⟨"random-source", "source", .required⟩],
    false⟩ 1
  let range ← match g.value? "i" with
    | none => pure none
    | some w =>
      let low := w.takeWhile (· != '-')
      match Raw.natural? low, Raw.natural? (w.drop (low.length + 1)) with
      | some a, some b =>
        if a ≤ b + 1 then pure (some (a, b)) else c.fail (Raw.ofText "invalid input range: " ++ Raw.quoted w) 1
      | _, _ => c.fail (Raw.ofText "invalid input range: " ++ Raw.quoted w) 1
  let counts ← (g.switches.filter fun s => s.1 == "n").mapM fun s => do
    match Raw.natural? s.2 with
    | some n => pure n
    | none => c.fail (Raw.ofText "invalid line count: " ++ Raw.quoted s.2) 1
  if g.has "e" && range.isSome then c.misused (Raw.ofText "cannot combine -e and -i options") 1
  match (if g.has "e" then [] else g.operands.drop (if range.isSome then 0 else 1)) with
  | extra :: _ => c.misused (Raw.ofText "extra operand " ++ Raw.quoted extra) 1
  | [] => pure ()
  let mark := if g.has "z" then '\x00' else '\n'
  let lines ← match range with
    | some (a, b) => pure ((List.range (b + 1 - a)).map fun i => Raw.ofNat (a + i))
    | none =>
      if g.has "e" then pure g.operands
      else do
        let path := g.operands.headD ['-']
        match ← Call.contents path with
        | .ok text => pure (records mark text)
        | .error e =>
          c.fail (if e = .isDirectory then Raw.ofText ("read error: " ++ e.message) else Call.about path e) 1
  let seed := nextSeed (nextSeed ((← Act.ownPid) * 2654435761 + (← Act.now)))
  let count := counts.min?
  if g.has "r" && lines.isEmpty && count != some 0 then c.fail (Raw.ofText "no lines to repeat") 1
  let shown := if g.has "r" then drawn lines.toArray (count.getD 1000000) seed
    else (disordered (lines.length + 1) seed lines).take (count.getD lines.length)
  let octets := shown.flatMap (· ++ [mark])
  match g.value? "o" with
  | none => c.put octets
  | some path =>
    match ← Act.openFile path .writing with
    | .error e => c.fail (Call.about path e) 1
    | .ok fd =>
      let _ ← Act.write fd octets
      return 0

/-- The programs by name. -/
def programs : List (String × Utility) := [("sort", sort), ("uniq", uniq), ("comm", comm), ("shuf", shuf)]

end RunMeter.Machine.Sorting
