import RunMeter.Machine.Utility.Sources

/-!
# RunMeter.Machine.Utility.Paragraphs — a program that fills lines

The words of a paragraph are divided into lines so that the lines together cost least: a line costs more the further
it is from the width that is aimed at and the more it differs from the next one, and a break costs more or less by what
stands before and after it.

* `Fill.breaks`: where the lines of a paragraph end.
* `fmt`: the program.

Nothing that is proved depends on this module.
-/

namespace RunMeter.Machine.Paragraphs

/-! ## Words -/

/-- A word with the blanks behind it and what it means for breaks. -/
structure Word where
  text : Raw
  space : Nat
  opens : Bool
  /-- Whether it ends with a mark of punctuation. -/
  punct : Bool
  /-- Whether it ends like a sentence, and whether it does end one. -/
  period : Bool
  final : Bool

/-- A line of the input: its indentation and its words; `tabs` says that blanks hold tabs. -/
structure Source where
  indent : Nat
  words : List Word
  tabs : Bool

/-- The column after blanks that begin at one. -/
def columnAfter (column : Nat) (blanks : Raw) : Nat :=
  blanks.foldl (fun n c => if c = '\t' then (n / 8 + 1) * 8 else n + 1) column

/-- Whether a character is a blank within a line. -/
def isBlank (c : Char) : Bool := Raw.isSpace c

/-- A word with blanks behind it; `last` says that its line ends behind it. -/
def wordOf (uniform last : Bool) (space : Nat) (text : Raw) : Word :=
  let core := Raw.dropEndWhile (fun c => ")]'\"".toList.contains c) (text.drop 1)
  let core := (text.head?.toList) ++ core
  let period := core.getLast?.any fun c => ".?!".toList.contains c
  let final := period && (last || space > 1)
  ⟨text, if last || uniform then (if final then 2 else 1) else space, text.head?.any fun c => "(['`\"".toList.contains c,
    text.getLast?.any Raw.isPunctuation, period, final⟩

/-- The words of a line from a column on. -/
def wordsFrom (uniform : Bool) : (fuel : Nat) → (column : Nat) → Raw → List Word
  | 0, _, _ => []
  | _, _, [] => []
  | fuel + 1, column, r =>
    let text := r.takeWhile fun c => !isBlank c
    let rest := r.drop text.length
    let blanks := rest.takeWhile isBlank
    let place := column + text.length
    let next := columnAfter place blanks
    let after := rest.drop blanks.length
    wordOf uniform after.isEmpty (next - place) text :: wordsFrom uniform fuel next after

/-- A line of the input. -/
def Source.ofLine (uniform : Bool) (line : Raw) : Source :=
  let blanks := line.takeWhile isBlank
  let indent := columnAfter 0 blanks
  ⟨indent, wordsFrom uniform (line.length + 1) indent (line.drop blanks.length), line.contains '\t'⟩

/-! ## Lines -/

/-- How lines are filled: the greatest width, the width that is aimed at, and the indentation of the first line and of
the others. -/
structure Fill where
  most : Nat
  goal : Nat
  first : Nat
  others : Nat

/-- What comes of the words from one on: the cost, the word that begins the next line, and the length of the line. -/
structure Best where
  cost : Int
  next : Nat
  length : Nat

namespace Fill

/-- The square of a number. -/
def square (n : Int) : Int := n * n

/-- What a line that is so much too short costs. -/
def shortness (n : Int) : Int := square (n * 10)

/-- What a break before a word costs. -/
def breakCost (words : Array Word) (i : Nat) : Int :=
  let word (n : Nat) : Word := words.getD n ⟨[], 0, false, false, false, false⟩
  let this := word i
  let before := word (i - 1)
  let cost := square 70
  let cost := if i = 0 then cost
    else if before.period then (if before.final then cost - square 50 else cost + square 600)
    else if before.punct then cost - square 40
    else if i > 1 && (word (i - 2)).final then cost + square 200 / max 1 before.text.length
    else cost
  if this.opens then cost - square 40
  else if this.final then cost + square 150 / max 1 this.text.length
  else cost

/-- What a line costs that has a length and ends before a word.  `bests` tells of that word and those after it. -/
def lineCost (f : Fill) (count : Nat) (bests : List Best) (length : Nat) : Int :=
  match bests with
  | [] => 0
  | b :: _ =>
    shortness ((f.goal : Int) - length) + (if b.next = count then 0 else shortness ((length : Int) - b.length) / 2)

/-- The best line from a word on: the lines that end before each of the words behind it are tried in turn. -/
def tried (f : Fill) (words : Array Word) : (next : Nat) → (bests : List Best) → (length : Nat) → (best : Option Best) → Option Best
  | next, [], length, best =>
    let cost := f.lineCost words.size [] length
    if best.all fun b => cost < b.cost then some ⟨cost, next, length⟩ else best
  | next, b :: bests, length, best =>
    let cost := f.lineCost words.size (b :: bests) length + b.cost
    let best := if best.all fun b => cost < b.cost then some ⟨cost, next, length⟩ else best
    let space := ((words[next - 1]?).map Word.space).getD 0
    let longer := length + space + ((words[next]?).map fun w => w.text.length).getD 0
    if longer < f.most then tried f words (next + 1) bests longer best else best

/-- What comes of the words from each on. -/
def bests (f : Fill) (words : Array Word) : List Best :=
  (List.range words.size).foldr (fun i rest =>
    let length := (if i = 0 then f.first else f.others) + ((words[i]?).map fun w => w.text.length).getD 0
    match f.tried words (i + 1) rest length none with
    | some b => { b with cost := b.cost + breakCost words i } :: rest
    | none => ⟨0, i + 1, length⟩ :: rest) []

/-- The words that begin lines. -/
def breaks (f : Fill) (words : Array Word) : List Nat :=
  let found := (f.bests words).toArray
  let rec go : (fuel : Nat) → Nat → List Nat
    | 0, _ => []
    | fuel + 1, i => if i < words.size then i :: go fuel ((found[i]?.map Best.next).getD words.size) else []
  go (words.size + 1) 0

end Fill

/-- Blanks from a column to another one, with tabs if there may be any. -/
def blanksTo (tabs : Bool) (column target : Nat) : Raw :=
  let stop := target / 8 * 8
  if tabs && column + 1 < stop then
    List.replicate ((stop - column / 8 * 8) / 8) '\t' ++ List.replicate (target - stop) ' '
  else List.replicate (target - column) ' '

/-- A line of output. -/
def lineOf (tabs : Bool) (indent : Nat) (words : List Word) : Raw :=
  let rec go (column : Nat) : List Word → Raw
    | [] => []
    | [w] => w.text
    | w :: rest =>
      let column := column + w.text.length
      w.text ++ blanksTo tabs column (column + w.space) ++ go (column + w.space) rest
  blanksTo tabs 0 indent ++ go indent words ++ ['\n']

/-- How paragraphs are told apart. -/
inductive Shape where
  | plain
  /-- Each line is a paragraph. -/
  | split
  /-- The second line has an indentation of its own. -/
  | crown
  | tagged

/-- A paragraph filled. -/
def filled (tabs : Bool) (f : Fill) (words : List Word) : Raw :=
  let words := match words.reverse with
    | last :: rest => (({ last with period := true, final := true } : Word) :: rest).reverse
    | [] => []
  let all := words.toArray
  let starts := f.breaks all
  (starts.zip (starts.drop 1 ++ [all.size])).flatMap fun (first, last) =>
    lineOf tabs (if first = 0 then f.first else f.others) (all.extract first last).toList

/-- The lines of a text filled.  `others` is the indentation that the last tagged paragraph had. -/
def fillAll (s : Shape) (most goal : Nat) (tabs : Bool) : (fuel : Nat) → (others : Nat) → List Source → Raw
  | 0, _, _ => []
  | _, _, [] => []
  | fuel + 1, others, line :: rest =>
    if line.words.isEmpty then '\n' :: fillAll s most goal tabs fuel others rest
    else
      let next := rest.head?.filter fun l => !l.words.isEmpty
      let same (indent : Nat) (lines : List Source) : List Source :=
        lines.takeWhile fun l => !l.words.isEmpty && l.indent = indent
      let (others, more) : Nat × List Source := match s with
        | .split => (line.indent, [])
        | .plain => (line.indent, same line.indent rest)
        | .crown => ((next.map Source.indent).getD line.indent, match next with
          | some l => same l.indent rest
          | none => [])
        | .tagged => match next with
          | some l =>
            if l.indent ≠ line.indent then (l.indent, same l.indent rest)
            else (if others = line.indent then (if line.indent = 0 then 3 else 0) else others, [])
          | none => (if others = line.indent then (if line.indent = 0 then 3 else 0) else others, [])
      filled tabs ⟨most, goal, line.indent, others⟩ ((line :: more).flatMap Source.words) ++
        fillAll s most goal tabs fuel others (rest.drop more.length)

/-- Fills lines. -/
def fmt : Utility := fun c => do
  let words := match c.args with
    | ('-' :: d :: ds) :: rest => if d.isDigit then ("-w".toList ++ d :: ds) :: rest else c.args
    | args => args
  let g ← ({ c with words := c.name :: words }).options ⟨"cg:p:stuw:", [⟨"crown-margin", "c", .none⟩,
    ⟨"goal", "g", .required⟩, ⟨"prefix", "p", .required⟩, ⟨"split-only", "s", .none⟩, ⟨"tagged-paragraph", "t", .none⟩,
    ⟨"uniform-spacing", "u", .none⟩, ⟨"width", "w", .required⟩], false⟩ 1
  let width (key : String) (most : Nat) : Act (Option Nat) := do
    match g.value? key with
    | none => return none
    | some w =>
      match Raw.natural? w with
      | some n => if n ≤ most then return some n else
          c.fail (Raw.ofText "invalid width: " ++ Raw.quoted w ++ Raw.ofText ": Numerical result out of range") 1
      | none => c.fail (Raw.ofText "invalid width: " ++ Raw.quoted w) 1
  let asked ← width "w" 2500
  let goal ← width "g" (asked.getD 75)
  let most := match asked, goal with
    | some n, _ => n
    | none, some n => n + 10
    | none, none => 75
  let goal := goal.getD (most * (2 * (100 - 7) + 1) / 200)
  let shape : Shape := if g.has "t" then .tagged else if g.has "c" then .crown else if g.has "s" then .split else .plain
  let found ← Sources.texts c g.operands fun path e =>
    Raw.ofText "cannot open " ++ Raw.quoted path ++ Raw.ofText (" for reading: " ++ e.message)
  for (_, text) in found do
    let lines := (Raw.lines (text.getD [])).map (Source.ofLine (g.has "u"))
    c.emit (fillAll shape most goal (lines.any Source.tabs) (lines.length + 1) 0 lines) 1
  return Sources.code found

/-- The programs by name. -/
def programs : List (String × Utility) := [("fmt", fmt)]

end RunMeter.Machine.Paragraphs
