import RunMeter.Machine.Format
import RunMeter.Machine.Utility.Columns

/-!
# RunMeter.Machine.Utility.Amounts — a program that rewrites numbers with units

A unit is a letter for a power of 1000 or of 1024.  Numbers are rational; only showing one rounds it.

* `read`: a number with a unit.
* `Style.shown`: a number as it is shown.
* `numfmt`: the program.

Nothing that is proved depends on this module.
-/

namespace RunMeter.Machine.Amounts

/-! ## Numbers -/

/-- What letters stand for. -/
inductive Scale where
  | none
  | auto
  | thousands
  | binary
  /-- Powers of 1024 whose letters an `i` follows. -/
  | marked
  deriving DecidableEq

/-- The number whose powers letters stand for. -/
def Scale.base : Scale → Nat
  | binary | marked => 1024
  | _ => 1000

/-- The letters for the powers from the first on. -/
def unitLetters : Raw := "KMGTPEZY".toList

/-- What is wrong with a number. -/
inductive Fault where
  | number (w : Raw)
  | refused (w : Raw)
  | suffix (w : Raw)
  | remains (w rest : Raw)
  | mark (w : Raw)
  | tooLarge (shown : Raw)

/-- What is said about a fault. -/
def Fault.message : Fault → Raw
  | number w => Raw.ofText "invalid number: " ++ Raw.quoted w
  | refused w => Raw.ofText "rejecting suffix in input: " ++ Raw.quoted w ++ Raw.ofText " (consider using --from)"
  | suffix w => Raw.ofText "invalid suffix in input: " ++ Raw.quoted w
  | remains w rest => Raw.ofText "invalid suffix in input " ++ Raw.quoted w ++ Raw.ofText ": " ++ Raw.quoted rest
  | mark w => Raw.ofText "missing 'i' suffix in input: " ++ Raw.quoted w ++ Raw.ofText " (e.g Ki/Mi/Gi)"
  | tooLarge shown => Raw.ofText "value too large to be printed: '" ++ shown ++ Raw.ofText "' (consider using --to)"

/-- The number in digits at the start of a text with the number of its places after the point, and the rest. -/
def decimal? (w : Raw) : Option (Rat × Nat × Raw) :=
  let (negative, r) := match w with
    | '-' :: rest => (true, rest)
    | rest => (false, rest)
  let whole := r.takeWhile Char.isDigit
  let rest := r.drop whole.length
  let signed (q : Rat) : Rat := if negative then -q else q
  match rest with
  | '.' :: more =>
    let places := more.takeWhile Char.isDigit
    if places.isEmpty then none
    else some (signed (Raw.valueIn 10 (whole ++ places) / (Nat.pow 10 places.length : Nat)), places.length, more.drop places.length)
  | rest => if whole.isEmpty then none else some (signed (Raw.valueIn 10 whole : Nat), 0, rest)

/-- A number with a unit, and its places after the point. -/
def read (scale : Scale) (w : Raw) : Except Fault (Rat × Nat) :=
  match decimal? w with
  | none => .error (.number w)
  | some (q, places, []) => .ok (q, places)
  | some (q, _, rest) =>
    match rest.dropWhile fun c => c == ' ' || c == '\t' with
    | [] => .error (.suffix w)
    | letter :: after =>
      if !unitLetters.contains letter then .error (.suffix w)
      else if scale = .none then .error (.refused w)
      else
        let power := unitLetters.findIdx (· == letter) + 1
        let result (base : Nat) (rest : Raw) : Except Fault (Rat × Nat) :=
          if rest.isEmpty then .ok (q * (Nat.pow base power : Nat), 0) else .error (.remains w rest)
        match scale, after with
        | .auto, 'i' :: rest => result 1024 rest
        | .marked, 'i' :: rest => result 1024 rest
        | .marked, _ => .error (.mark w)
        | scale, rest => result scale.base rest

/-- Which whole number a number is rounded to. -/
inductive Rounding where
  | up
  | down
  | outward
  | inward
  | nearest

/-- A whole number near to a number. -/
def Rounding.whole (r : Rounding) (q : Rat) : Int :=
  match r with
  | up => q.ceil
  | down => q.floor
  | outward => if q < 0 then q.floor else q.ceil
  | inward => if q < 0 then q.ceil else q.floor
  | nearest => if q < 0 then (q - 1 / 2).ceil else (q + 1 / 2).floor

/-- A number rounded to so many places after the point. -/
def Rounding.places (r : Rounding) (places : Nat) (q : Rat) : Rat :=
  let scale : Rat := (Nat.pow 10 places : Nat)
  (r.whole (q * scale) : Rat) / scale

/-- A number in digits. -/
def digits (q : Rat) (places : Nat) : Raw :=
  if q < 0 then '-' :: Quantity.fixed (-q) places false else Quantity.fixed q places false

/-- How numbers are shown. -/
structure Style where
  scale : Scale
  rounding : Rounding
  places : Option Nat
  /-- How wide a number is with zeros. -/
  zeros : Nat
  suffix : Raw

/-- How many times a number can be divided before it is below the divisor, and what is left. -/
def divided (base : Rat) : (fuel : Nat) → Rat → Rat × Nat
  | 0, q => (q, 0)
  | fuel + 1, q =>
    if (if q < 0 then -q else q) ≥ base then
      let (rest, n) := divided base fuel (q / base)
      (rest, n + 1)
    else (q, 0)

/-- Digits with zeros before them, behind the sign. -/
def zeroed (width : Nat) (r : Raw) : Raw :=
  match r with
  | '-' :: rest => '-' :: Raw.padZeros (width - 1) rest
  | r => Raw.padZeros width r

/-- A number as it is shown, which was read with so many places after the point. -/
def Style.shown (s : Style) (q : Rat) (read : Nat) : Except Fault Raw :=
  if s.scale = .none then
    let places := s.places.getD read
    if (divided 10 400 q).2 + places > 18 then
      .error (.tooLarge (Conversion.real (Conversion.plain 'g') true (Quantity.ofRat q)))
    else .ok (zeroed s.zeros (digits (s.rounding.places places q) places) ++ s.suffix)
  else
    let base : Rat := (s.scale.base : Nat)
    let size (q : Rat) : Rat := if q < 0 then -q else q
    let (q, power) := divided base 400 q
    let kept := match s.places with
      | some n => min (power * 3) n
      | none => if size q < 10 then 1 else 0
    let q := s.rounding.places kept q
    let (q, power) := if size q ≥ base then (q / base, power + 1) else (q, power)
    let places := s.places.getD (if q != 0 && size q < 10 && power > 0 then 1 else 0)
    let letter : Raw := if power = 0 then [] else [unitLetters.getD (power - 1) 'Y']
    let mark : Raw := if s.scale = .marked && power > 0 then ['i'] else []
    .ok (zeroed s.zeros (digits q places) ++ letter ++ mark ++ s.suffix)

/-! ## The program -/

/-- A text with one conversion: what is before and after it, and the conversion's flags, width and places. -/
structure Shape where
  before : Raw
  after : Raw
  zeros : Bool
  left : Bool
  width : Nat
  places : Option Nat

/-- A text up to its conversion, in which a doubled sign stands for one, and the rest. -/
def upToSign : Raw → Raw × Raw
  | [] => ([], [])
  | '%' :: '%' :: rest =>
    let (text, rest) := upToSign rest
    ('%' :: text, rest)
  | '%' :: rest => ([], '%' :: rest)
  | c :: rest =>
    let (text, rest) := upToSign rest
    (c :: text, rest)

/-- The text with one conversion that a word means. -/
def Shape.read (w : Raw) : Except Raw Shape :=
  let quoted := Raw.quoted w
  let wrong : Raw := Raw.ofText "invalid format " ++ quoted ++ Raw.ofText ", directive must be %[0]['][-][N][.][N]f"
  match upToSign w with
  | (_, []) => .error (Raw.ofText "format " ++ quoted ++ Raw.ofText " has no % directive")
  | (_, ['%']) => .error (Raw.ofText "format " ++ quoted ++ Raw.ofText " ends in %")
  | (before, rest) =>
    let r := rest.drop 1
    let flags := r.takeWhile fun c => c == '0' || c == '\'' || c == ' '
    let r := r.drop flags.length
    let (left, r) := match r with
      | '-' :: more => (true, more)
      | more => (false, more)
    let width := r.takeWhile Char.isDigit
    let r := r.drop width.length
    let (places, r) : Option Nat × Raw := match r with
      | '.' :: more =>
        let ds := more.takeWhile Char.isDigit
        (some (Raw.valueIn 10 ds), more.drop ds.length)
      | more => (none, more)
    match r with
    | 'f' :: rest =>
      match upToSign rest with
      | (_, []) =>
        .ok ⟨before, rest, flags.contains '0', left, Raw.valueIn 10 width, places⟩
      | _ => .error (Raw.ofText "format " ++ quoted ++ Raw.ofText " has too many % directives")
    | _ => .error wrong

/-- The scales that numbers are shown in. -/
def outScales : List (String × Scale) := [("none", .none), ("si", .thousands), ("iec", .binary), ("iec-i", .marked)]

/-- The scales that numbers are read in. -/
def inScales : List (String × Scale) :=
  [("none", .none), ("auto", .auto), ("si", .thousands), ("iec", .binary), ("iec-i", .marked)]

/-- The ways of rounding. -/
def roundings : List (String × Rounding) :=
  [("up", .up), ("down", .down), ("from-zero", .outward), ("towards-zero", .inward), ("nearest", .nearest)]

/-- What is done about a number that can not be read. -/
inductive Strictness where
  | abort
  | fail
  | warn
  | ignore
  deriving DecidableEq

/-- How fields are rewritten. -/
structure Work where
  call : Call
  input : Scale
  fromUnit : Nat
  toUnit : Nat
  style : Style
  ranges : List Columns.Range
  delimiter : Option Char
  /-- The width of a number, and whether it stands at the left. -/
  padding : Nat
  left : Bool
  before : Raw
  after : Raw
  strictness : Strictness

namespace Work

/-- A field rewritten, and whether that could be done. -/
def field (k : Work) (number : Nat) (text : Raw) : Act (Raw × Bool) := do
  if !k.ranges.any (Columns.Range.has · number) then return (text, true)
  let bare := if !k.style.suffix.isEmpty && text.length > k.style.suffix.length && k.style.suffix.isSuffixOf text then
      text.take (text.length - k.style.suffix.length)
    else text
  let inner := bare.dropWhile fun c => c == ' ' || c == '\t'
  let width :=
    if k.padding = 0 && k.delimiter.isNone && (inner.length < bare.length || number > 1) then bare.length else k.padding
  let result := do
    let (q, places) ← read k.input inner
    k.style.shown (q * (k.fromUnit : Nat) / (k.toUnit : Nat)) places
  match result with
  | .ok shown =>
    return (k.before ++ (if k.left then Raw.padEnd width shown else Raw.padStart width shown) ++ k.after, true)
  | .error f =>
    if k.strictness = .abort then k.call.fail f.message 2
    if k.strictness != .ignore then k.call.complain f.message
    return (bare, false)

/-- The fields of a line that blanks divide; blanks stay with the field behind them, but one. -/
def blankFields : (fuel : Nat) → Raw → List Raw
  | 0, r => [r]
  | fuel + 1, r =>
    let blank (c : Char) : Bool := c == ' ' || c == '\t'
    let lead := r.takeWhile blank
    let word := (r.drop lead.length).takeWhile fun c => !blank c
    match r.drop (lead.length + word.length) with
    | [] => [lead ++ word]
    | _ :: rest => (lead ++ word) :: blankFields fuel rest

/-- A line rewritten, and whether that could be done. -/
def line (k : Work) (text : Raw) : Act (Raw × Bool) := do
  let fields := match k.delimiter with
    | some d => Raw.splitAt d text
    | none => blankFields (text.length + 1) text
  let mut found : List Raw := []
  let mut good := true
  for (f, i) in (if fields.isEmpty then [[]] else fields).zipIdx do
    let (shown, fine) ← k.field (i + 1) f
    found := shown :: found
    good := good && fine
  return (Raw.joined [k.delimiter.getD ' '] found.reverse, good)

end Work

/-- A number that a switch gives. -/
def numberOf (c : Call) (what : String) (w : Raw) : Act Nat := do
  match Raw.natural? w with
  | some (n + 1) => return n + 1
  | _ => c.fail (Raw.ofText ("invalid " ++ what ++ " value ") ++ Raw.quoted w) 1

/-- The size of a unit that a switch gives. -/
def unitOf (c : Call) (w : Raw) : Act Nat := do
  let letters := w.dropWhile Char.isDigit
  let count := if letters.length = w.length then 1 else Raw.valueIn 10 (w.takeWhile Char.isDigit)
  let factor := match letters with
    | [] => if w.isEmpty then none else some 1
    | [l] => if unitLetters.contains l then some (Nat.pow 1000 (unitLetters.findIdx (· == l) + 1)) else none
    | [l, 'i'] => if unitLetters.contains l then some (Nat.pow 1024 (unitLetters.findIdx (· == l) + 1)) else none
    | _ => none
  match factor with
  | some f => if count * f = 0 then c.fail (Raw.ofText "invalid unit size: " ++ Raw.quoted w) 1 else return count * f
  | none => c.fail (Raw.ofText "invalid unit size: " ++ Raw.quoted w) 1

/-- Rewrites numbers. -/
def numfmt : Utility := fun c => do
  let g ← c.options ⟨"d:z", [⟨"from", "from", .required⟩, ⟨"from-unit", "fromUnit", .required⟩, ⟨"to", "to", .required⟩,
    ⟨"to-unit", "toUnit", .required⟩, ⟨"round", "round", .required⟩, ⟨"padding", "padding", .required⟩,
    ⟨"suffix", "suffix", .required⟩, ⟨"grouping", "grouping", .none⟩, ⟨"delimiter", "d", .required⟩,
    ⟨"field", "field", .required⟩, ⟨"debug", "debug", .none⟩, ⟨"header", "header", .optional⟩,
    ⟨"format", "format", .required⟩, ⟨"invalid", "invalid", .required⟩, ⟨"zero-terminated", "z", .none⟩], false⟩ 1
  let choice {α : Type} (key switch : String) (choices : List (String × α)) (usual : α) : Act α := do
    match g.value? key with
    | some w => c.chosen ("--" ++ switch) choices w 1
    | none => return usual
  let input ← choice "from" "from" inScales .none
  let output ← choice "to" "to" outScales .none
  let rounding ← choice "round" "round" roundings .outward
  let strictness ← choice "invalid" "invalid"
    [("abort", Strictness.abort), ("fail", .fail), ("warn", .warn), ("ignore", .ignore)] .abort
  let fromUnit ← match g.value? "fromUnit" with
    | some w => unitOf c w
    | none => pure 1
  let toUnit ← match g.value? "toUnit" with
    | some w => unitOf c w
    | none => pure 1
  let (left, padding) ← match g.value? "padding" with
    | none => pure (false, 0)
    | some w =>
      match Raw.integer? w with
      | some n =>
        if n = 0 then c.fail (Raw.ofText "invalid padding value " ++ Raw.quoted w) 1
        else pure (decide (n < 0), n.natAbs)
      | none => c.fail (Raw.ofText "invalid padding value " ++ Raw.quoted w) 1
  let delimiter ← match g.value? "d" with
    | none => pure none
    | some [ch] => pure (some ch)
    | some [] => pure (some '\x00')
    | some _ => c.fail (Raw.ofText "the delimiter must be a single character") 1
  let ranges ← match g.value? "field" with
    | none => pure [Columns.Range.mk 1 (some 1)]
    | some ['-'] => pure [Columns.Range.mk 1 none]
    | some w =>
      match Columns.rangesOf w with
      | .ok rs => pure rs
      | .error f => c.misused (f.message true) 1
  let header ← match g.value? "header" with
    | none => pure 0
    | some [] => pure 1
    | some w => numberOf c "header" w
  let shape ← match g.value? "format" with
    | none => pure (Shape.mk [] [] false false 0 none)
    | some w =>
      match Shape.read w with
      | .ok s => pure s
      | .error message => c.fail message 1
  if g.has "grouping" && g.has "format" then c.fail (Raw.ofText "--grouping cannot be combined with --format") 1
  if g.has "grouping" && output != .none then c.fail (Raw.ofText "grouping cannot be combined with --to") 1
  if g.has "debug" && !(g.switches.any fun s => ["from", "to", "padding", "grouping", "format"].contains s.1) then
    c.complain (Raw.ofText "no conversion option specified")
  let padding := if shape.width > 0 && !shape.zeros then shape.width else padding
  let style : Style :=
    ⟨output, rounding, shape.places, if shape.zeros then shape.width else 0, (g.value? "suffix").getD []⟩
  let work : Work := ⟨c, input, fromUnit, toUnit, style, ranges, delimiter, padding, left || shape.left, shape.before,
    shape.after, strictness⟩
  let mark := if g.has "z" then '\x00' else '\n'
  let mut good := true
  if g.operands.isEmpty then
    for (text, i) in (Sources.records mark (← Call.input)).zipIdx do
      if i < header then c.emit (text ++ [mark]) 1
      else
        let (shown, fine) ← work.line text
        c.emit (shown ++ [mark]) 1
        good := good && fine
  else
    for text in g.operands do
      let (shown, fine) ← work.line text
      c.emit (shown ++ [mark]) 1
      good := good && fine
  return if good || strictness = .warn || strictness = .ignore then 0 else 2

/-- The programs by name. -/
def programs : List (String × Utility) := [("numfmt", numfmt)]

end RunMeter.Machine.Amounts
