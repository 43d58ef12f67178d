import RunMeter.Machine.Raw

/-!
# RunMeter.Machine.Regex — regular expressions

An expression is a choice of sequences of parts.  It is written in one of two ways: in the basic one parentheses,
braces and bars stand for themselves unless a backslash comes before them, in the extended one it is the other way
round.

* `Regex.ofText`: reads an expression.
* `Regex.search?`: the first place where an expression matches, as far as it reaches.

Nothing that is proved depends on this module.
-/

namespace RunMeter.Machine

/-- A member of a set of characters. -/
inductive SetItem where
  | range (first last : Char)
  | named (name : String)

namespace SetItem

/-- Whether a character is a member. -/
def has (c : Char) : SetItem → Bool
  | range first last => first ≤ c && c ≤ last
  | named name => Raw.inClass name c

end SetItem

/-- A part of an expression. -/
inductive RegexPart where
  | any
  /-- A character of a set, or one outside it; perhaps small and capital letters are the same. -/
  | set (negated folds : Bool) (items : List SetItem)
  /-- The start of a text. -/
  | start
  /-- The end of a text. -/
  | finish
  /-- The start of a line, and its end. -/
  | lineStart
  | lineFinish
  /-- A place between a character of a word and one that is none, at the word's start or end or either, or no such
  place. -/
  | edge (atStart atEnd : Bool)
  | noEdge
  /-- A place with no character of a word before it, or after it. -/
  | apart (before : Bool)
  /-- One of some sequences, noted as the group with a number. -/
  | group (number : Nat) (choices : List (List RegexPart))
  | repeated (least : Nat) (most : Option Nat) (part : RegexPart)
  /-- The same, but as few times as will do. -/
  | spared (least : Nat) (most : Option Nat) (part : RegexPart)
  /-- The first of some sequences that will do, noted as a group if it has a number. -/
  | ordered (number : Option Nat) (choices : List (List RegexPart))
  /-- A place from which, or up to which, some sequence matches, or no such place. -/
  | looking (behind negated : Bool) (choices : List (List RegexPart))
  /-- The end of a text, or the place before an end of line there. -/
  | nearFinish
  /-- A place. -/
  | place (n : Nat)
  /-- What a group has matched. -/
  | again (number : Nat)
  /-- The end of a group that started at a place. -/
  | ending (number first : Nat)
  /-- A place after another one. -/
  | beyond (place : Nat)

/-- An expression: its choices, and how many groups it has. -/
structure Regex where
  choices : List (List RegexPart)
  groups : Nat

namespace Regex

/-- How an expression is written. -/
structure Style where
  extended : Bool
  /-- Whether capital and small letters are the same. -/
  folds : Bool
  /-- Whether what only looks like a repetition stands for itself or for nothing, and is no mistake. -/
  lenient : Bool
  /-- Whether a closing parenthesis without an opening one stands for itself. -/
  loose : Bool
  /-- Whether an anchor stands for the start or the end of any line. -/
  lines : Bool

namespace Style

/-- The basic style. -/
def basic : Style := ⟨false, false, false, false, false⟩

/-- The extended style. -/
def wide : Style := ⟨true, false, false, true, false⟩

end Style

/-- What is wrong with an expression. -/
inductive Fault where
  | pattern
  | bracket
  | group
  | closing
  | brace
  | bounds
  | range
  | reference
  | backslash
  | className
  | collation
  | size
  | repetition
  | classSyntax
  deriving DecidableEq

/-- A fault in words. -/
def Fault.message : Fault → String
  | pattern => "Invalid regular expression"
  | bracket => "Unmatched [, [^, [:, [., or [="
  | group => "Unmatched ( or \\("
  | closing => "Unmatched ) or \\)"
  | brace => "Unmatched \\\x7b"
  | bounds => "Invalid content of \\\x7b\\\x7d"
  | range => "Invalid range end"
  | reference => "Invalid back reference"
  | backslash => "Trailing backslash"
  | className => "Invalid character class name"
  | collation => "Invalid collation character"
  | size => "Regular expression too big"
  | repetition => "Invalid preceding regular expression"
  | classSyntax => "character class syntax is [[:space:]], not [:space:]"

/-! ## Reading -/

/-- The names of the classes of characters. -/
def classNames : List String :=
  ["alpha", "digit", "alnum", "upper", "lower", "space", "blank", "punct", "xdigit", "graph", "print", "cntrl"]

/-- A member of a set that is one character: one that stands for itself, or one between dots or equals signs. -/
def setChar (c : Char) (rest : Raw) : Except Fault (Char × Raw) :=
  match c, rest with
  | '[', '.' :: d :: '.' :: ']' :: after => .ok (d, after)
  | '[', '=' :: d :: '=' :: ']' :: after => .ok (d, after)
  | '[', '.' :: _ => .error .collation
  | '[', '=' :: _ => .error .collation
  | c, rest => .ok (c, rest)

/-- The members of a set from after its bracket, with the rest after the closing one. -/
def setItems : (fuel : Nat) → (first : Bool) → Raw → Except Fault (List SetItem × Raw)
  | 0, _, _ => .error .bracket
  | _, _, [] => .error .bracket
  | fuel + 1, first, c :: rest => do
    if c = ']' && !first then return ([], rest)
    else if c = '[' && rest.head? = some ':' then
      let name := (rest.drop 1).takeWhile (· != ':')
      match rest.drop (name.length + 1) with
      | ':' :: ']' :: after =>
        if !classNames.contains (Raw.text name) then .error .className
        else
          let (items, r) ← setItems fuel false after
          return (.named (Raw.text name) :: items, r)
      | _ => .error .bracket
    else
      let (low, rest) ← setChar c rest
      match rest with
      | '-' :: d :: after =>
        if d = ']' then
          let (items, r) ← setItems fuel false rest
          return (.range low low :: items, r)
        else if d = '[' && after.head? = some ':' then .error .range
        else
          let (high, after) ← setChar d after
          if high < low then .error .range
          else
            let (items, r) ← setItems fuel false after
            return (.range low high :: items, r)
      | _ =>
        let (items, r) ← setItems fuel false rest
        return (.range low low :: items, r)

/-- A set from after its opening bracket. -/
def setOf (s : Style) (cs : Raw) : Except Fault (RegexPart × Raw) := do
  let (negated, body) := match cs with
    | '^' :: rest => (true, rest)
    | rest => (false, rest)
  if body.isEmpty then .error .pattern
  else
    let (items, r) ← setItems (body.length + 1) true body
    let written := body.take (body.length - r.length)
    if s.lenient && !negated && written.length > 3 && written.head? = some ':' &&
        written.dropLast.getLast? = some ':' then
      .error .classSyntax
    else return (.set negated s.folds items, r)

/-- The character of a text itself, in either case where cases are the same. -/
def literal (s : Style) (c : Char) : RegexPart := .set false (s.folds && c.isAlpha) [.range c c]

/-- The most repetitions that can be asked for. -/
def mostRepetitions : Nat := 32767

/-- The bounds of a repetition from after the opening brace: digits, perhaps a comma and digits. -/
def boundsOf (s : Style) (cs : Raw) : Except Fault (Nat × Option Nat × Raw) := do
  let low := cs.takeWhile Char.isDigit
  let rest := cs.drop low.length
  let (high, rest) : Option Raw × Raw := match rest with
    | ',' :: rest =>
      let ds := rest.takeWhile Char.isDigit
      (some ds, rest.drop ds.length)
    | rest => (none, rest)
  let least := Raw.valueIn 10 low
  let most : Option Nat := match high with
    | none => some least
    | some [] => none
    | some ds => some (Raw.valueIn 10 ds)
  if low.isEmpty && high.isNone then .error (if rest.isEmpty then .brace else .bounds)
  else
    let after ← match s.extended, rest with
      | true, '\x7d' :: after => pure after
      | false, '\\' :: '\x7d' :: after => pure after
      | _, [] => .error .brace
      | _, _ => .error .bounds
    if most.any (· < least) then .error .bounds
    else if max least (most.getD 0) > mostRepetitions then .error .size
    else return (least, most, after)

/-- A part with the repetitions that follow it, and the rest. -/
def repetitions (s : Style) : (fuel : Nat) → RegexPart → Raw → Except Fault (RegexPart × Raw)
  | 0, p, rest => .ok (p, rest)
  | fuel + 1, p, rest =>
    match s.extended, rest with
    | _, '*' :: rest => repetitions s fuel (.repeated 0 none p) rest
    | true, '+' :: rest => repetitions s fuel (.repeated 1 none p) rest
    | true, '?' :: rest => repetitions s fuel (.repeated 0 (some 1) p) rest
    | false, '\\' :: '+' :: rest => repetitions s fuel (.repeated 1 none p) rest
    | false, '\\' :: '?' :: rest => repetitions s fuel (.repeated 0 (some 1) p) rest
    | true, '\x7b' :: after =>
      match boundsOf s after with
      | .ok (low, high, after) => repetitions s fuel (.repeated low high p) after
      | .error .size => .error .size
      | .error f => if s.lenient then .ok (p, rest) else .error f
    | false, '\\' :: '\x7b' :: after =>
      match boundsOf s after with
      | .ok (low, high, after) => repetitions s fuel (.repeated low high p) after
      | .error f => .error f
    | _, rest => .ok (p, rest)

/-- What a backslash and a letter mean in both styles. -/
def escaped? (c : Char) : Option RegexPart :=
  match c with
  | 'w' => some (.set false false [.named "alnum", .range '_' '_'])
  | 'W' => some (.set true false [.named "alnum", .range '_' '_'])
  | 's' => some (.set false false [.named "space"])
  | 'S' => some (.set true false [.named "space"])
  | '<' => some (.edge true false)
  | '>' => some (.edge false true)
  | 'b' => some (.edge true true)
  | 'B' => some .noEdge
  | '`' => some .start
  | '\'' => some .finish
  | _ => none

/-- Whether a part is only a place. -/
def isPlace : RegexPart → Bool
  | .start | .finish | .lineStart | .lineFinish | .edge .. | .noEdge | .apart _ => true
  | _ => false

/-- Whether a sequence, its last part first, has nothing that can be repeated at its end. -/
def isBare (parts : List RegexPart) : Bool :=
  match parts with
  | [] => true
  | p :: _ => isPlace p

/-- Reads choices up to the end or to the parenthesis that closes them.  `parts` are those of the choice at hand, the
last first, and `closed` the groups that are complete.  Gives the choices, how many groups there are by then, which
of them are complete, and the rest from that parenthesis on. -/
def sequences (s : Style) : (fuel : Nat) → (inner : Bool) → (groups : Nat) → (closed : List Nat) →
    (parts : List RegexPart) → Raw → Except Fault (List (List RegexPart) × Nat × List Nat × Raw)
  | 0, _, _, _, _, _ => .error .size
  | _, inner, groups, closed, parts, [] => if inner then .error .group else .ok ([parts.reverse], groups, closed, [])
  | fuel + 1, inner, groups, closed, parts, c :: rest =>
    let on (p : RegexPart) (after : Raw) : Except Fault (List (List RegexPart) × Nat × List Nat × Raw) := do
      let (p, after) ← repetitions s fuel p after
      sequences s fuel inner groups closed (p :: parts) after
    let fixed (p : RegexPart) (after : Raw) : Except Fault (List (List RegexPart) × Nat × List Nat × Raw) :=
      sequences s fuel inner groups closed (p :: parts) after
    let bar (after : Raw) : Except Fault (List (List RegexPart) × Nat × List Nat × Raw) := do
      let (cs, n, done, r) ← sequences s fuel inner groups closed [] after
      return (parts.reverse :: cs, n, done, r)
    let opened (after : Raw) : Except Fault (List (List RegexPart) × Nat × List Nat × Raw) := do
      let (cs, n, done, r) ← sequences s fuel true (groups + 1) closed [] after
      let (p, after) ← repetitions s fuel (.group (groups + 1) cs) (r.drop (if s.extended then 1 else 2))
      sequences s fuel inner n ((groups + 1) :: done) (p :: parts) after
    let finished : Except Fault (List (List RegexPart) × Nat × List Nat × Raw) :=
      .ok ([parts.reverse], groups, closed, c :: rest)
    /- A sign of repetition with nothing before it. -/
    let stray (after : Raw) : Except Fault (List (List RegexPart) × Nat × List Nat × Raw) :=
      if s.lenient then sequences s fuel inner groups closed parts after else .error .repetition
    match c, rest with
    | '\\', d :: after =>
      if d = '(' && !s.extended then opened after
      else if d = ')' && !s.extended then (if inner then finished else .error .closing)
      else if d = '|' && !s.extended then bar after
      else if d = '\x7b' && !s.extended && isBare parts then
        if s.lenient then on (literal s d) after else .error .repetition
      else if d.isDigit && d != '0' then
        let n := d.toNat - 48
        if closed.contains n then on (.again n) after else .error .reference
      else match escaped? d with
        | some p => if isPlace p then fixed p after else on p after
        | none => on (literal s (if d = 'n' then '\n' else if d = 't' then '\t' else d)) after
    | '\\', [] => .error .backslash
    | '[', rest => do
      let (p, after) ← setOf s rest
      on p after
    | '.', rest => on .any rest
    | '^', rest =>
      if s.extended || parts.isEmpty then fixed (if s.lines then .lineStart else .start) rest
      else on (literal s '^') rest
    | '$', rest =>
      let last := match s.extended, rest with
        | true, _ => true
        | false, [] => true
        | false, '\\' :: d :: _ => d = ')' || d = '|'
        | false, _ => false
      if last then fixed (if s.lines then .lineFinish else .finish) rest else on (literal s '$') rest
    | '(', rest => if s.extended then opened rest else on (literal s '(') rest
    | ')', rest =>
      if !s.extended then on (literal s ')') rest
      else if inner then finished
      else if s.loose then on (literal s ')') rest
      else .error .closing
    | '|', rest => if s.extended then bar rest else on (literal s '|') rest
    | '*', rest => if s.extended then stray rest else on (literal s '*') rest
    | '+', rest => if s.extended && isBare parts then stray rest else on (literal s '+') rest
    | '?', rest => if s.extended && isBare parts then stray rest else on (literal s '?') rest
    | '\x7b', rest =>
      if s.extended && isBare parts && !s.lenient then .error .repetition
      else match s.extended && isBare parts, boundsOf s rest with
        | true, .ok (_, _, after) => stray after
        | _, _ => on (literal s '\x7b') rest
    | c, rest => on (literal s c) rest

/-- Reads an expression. -/
def ofText (s : Style) (text : Raw) : Except Fault Regex := do
  let (cs, n, _, _) ← sequences s (2 * text.length + 2) false 0 [] [] text
  return ⟨cs, n⟩

/-- The expression for a text that stands for itself. -/
def verbatim (folds : Bool) (text : Raw) : Regex :=
  ⟨[text.map (literal { Style.basic with folds := folds })], 0⟩

/-- An expression between two parts. -/
def within (first : RegexPart) (e : Regex) (last : RegexPart) : Regex :=
  ⟨[[first, .group (e.groups + 1) e.choices, last]], e.groups + 1⟩

/-! ## Matching -/

/-- What groups have matched: the places of their first character and of the one after their last. -/
abbrev Groups := List (Nat × Nat × Nat)

/-- Whether a character belongs to a word. -/
def isWordChar (c : Char) : Bool := c.isAlphanum || c == '_'

/-- Whether the character at a place belongs to a word. -/
def wordAt (text : Array Char) (i : Nat) : Bool := (text[i]?).any isWordChar

/-- The better of two matches: the one that reaches further, the first of two that reach as far. -/
def further : Option (Nat × Groups) → Option (Nat × Groups) → Option (Nat × Groups)
  | none, b => b
  | a, none => a
  | some a, some b => if b.1 > a.1 then some b else some a

/-- Matches parts from a place on: where the match ends, and what the groups have matched. -/
def run (text : Array Char) : (fuel : Nat) → List RegexPart → (i : Nat) → Groups → Option (Nat × Groups)
  | 0, _, _, _ => none
  | _, [], i, g => some (i, g)
  | fuel + 1, p :: rest, i, g =>
    let onward (ok : Bool) : Option (Nat × Groups) := if ok then run text fuel rest i g else none
    match p with
    | .any => if i < text.size then run text fuel rest (i + 1) g else none
    | .set negated folds items =>
      match text[i]? with
      | some c =>
        let isMember := items.any (SetItem.has c) ||
          (folds && (items.any (SetItem.has c.toLower) || items.any (SetItem.has c.toUpper)))
        if isMember != negated then run text fuel rest (i + 1) g else none
      | none => none
    | .start => onward (i == 0)
    | .finish => onward (i == text.size)
    | .lineStart => onward (i == 0 || text[i - 1]? == some '\n')
    | .lineFinish => onward (i == text.size || text[i]? == some '\n')
    | .edge atStart atEnd =>
      let before := i > 0 && wordAt text (i - 1)
      let after := wordAt text i
      onward ((atStart && !before && after) || (atEnd && before && !after))
    | .noEdge => onward ((i > 0 && wordAt text (i - 1)) == wordAt text i)
    | .apart before => onward (!(if before then i > 0 && wordAt text (i - 1) else wordAt text i))
    | .group n cs =>
      cs.foldl (fun best parts => further best (run text fuel (parts ++ .ending n i :: rest) i g)) none
    | .ending n first => run text fuel rest i ((n, first, i) :: g.filter fun e => e.1 != n)
    | .beyond place => onward (i > place)
    | .place n => onward (i == n)
    | .nearFinish => onward (i == text.size || (i + 1 == text.size && text[i]? == some '\n'))
    | .ordered number cs =>
      let mark : List RegexPart := match number with
        | some n => [.ending n i]
        | none => []
      cs.findSome? fun parts => run text fuel (parts ++ mark ++ rest) i g
    | .looking behind negated cs =>
      let seen := if behind then
          (List.range (i + 1)).any fun k => cs.any fun parts => (run text fuel (parts ++ [.place i]) (i - k) g).isSome
        else cs.any fun parts => (run text fuel parts i g).isSome
      onward (seen != negated)
    | .spared least most part =>
      let now := if least = 0 then run text fuel rest i g else none
      match now with
      | some found => some found
      | none =>
        if most = some 0 then none
        else run text fuel (part :: (if least = 0 then [.beyond i] else []) ++
          .spared (least - 1) (most.map (· - 1)) part :: rest) i g
    | .repeated least most part =>
      let more := most != some 0
      let once := if more then
          run text fuel (part :: (if least = 0 then [.beyond i] else []) ++
            .repeated (least - 1) (most.map (· - 1)) part :: rest) i g
        else none
      match once with
      | some found => some found
      | none => onward (least == 0)
    | .again n =>
      match g.find? fun e => e.1 = n with
      | some (_, first, last) =>
        let piece := text.extract first last
        if text.extract i (i + piece.size) == piece then run text fuel rest (i + piece.size) g else none
      | none => none

/-- A match: where it starts and ends, and what its groups have matched. -/
structure Match where
  first : Nat
  last : Nat
  groups : Groups

/-- How long a match can go on. -/
def fuelFor (text : Array Char) (e : Regex) : Nat :=
  20 * text.size + 200 * (e.groups + 1) + 4000

/-- The match that starts at a place. -/
def matchAt? (e : Regex) (text : Array Char) (i : Nat) : Option Match :=
  let best := e.choices.foldl (fun best parts => further best (run text (fuelFor text e) parts i [])) none
  best.map fun (last, g) => ⟨i, last, g⟩

/-- The first match from a place on. -/
def searchFrom? (e : Regex) (text : Array Char) (least : Nat) : Option Match :=
  (List.range (text.size + 1 - least)).findSome? fun k => e.matchAt? text (least + k)

/-- The first match in a text. -/
def search? (e : Regex) (text : Raw) : Option Match :=
  e.searchFrom? text.toArray 0

/-- Whether an expression matches somewhere in a text. -/
def isIn (e : Regex) (text : Raw) : Bool := (e.search? text).isSome

/-- The part of a text between two places. -/
def between (text : Array Char) (first last : Nat) : Raw :=
  (text.extract first last).toList

/-- What a group of a match holds, the whole match being group 0. -/
def Match.group? (m : Match) (text : Array Char) (n : Nat) : Option Raw :=
  if n = 0 then some (between text m.first m.last)
  else (m.groups.find? fun e => e.1 = n).map fun (_, first, last) => between text first last

/-- Matches from left to right that do not overlap, from a place on, at most `fuel`.  An empty match right after
another one does not count. -/
def matchesFrom (e : Regex) (text : Array Char) : (fuel : Nat) → (i : Nat) → (ended : Option Nat) → List Match
  | 0, _, _ => []
  | fuel + 1, i, ended =>
    if i > text.size then []
    else match e.searchFrom? text i with
      | none => []
      | some m =>
        if m.last = m.first then
          if ended = some m.first then matchesFrom e text fuel (i + 1) none
          else m :: matchesFrom e text fuel (m.first + 1) none
        else m :: matchesFrom e text fuel m.last (some m.last)

/-- All matches in a text from left to right. -/
def allMatches (e : Regex) (text : Array Char) : List Match :=
  matchesFrom e text (2 * text.size + 2) 0 none

end Regex
end RunMeter.Machine
