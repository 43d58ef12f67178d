import RunMeter.Machine.Utility.Perl.Program

/-!
# RunMeter.Machine.Utility.Perl.Place — reading a program's text

The text is read character by character: what a character means depends on whether a value or an operator is to come.

* `Reader.blanks`: what does not count is passed over.
* `Reader.delimited`: a text between its marks.
* `Reader.hereText`: a text in the lines that follow.

Nothing that is proved depends on this module.
-/

namespace RunMeter.Machine.Perl

/-- What is wrong with a program, and on which line. -/
structure Fault where
  message : Raw
  line : Nat
  /-- Whether only this is told, and not that the program is not carried out. -/
  alone : Bool

/-- Where reading is. -/
structure Place where
  left : Raw
  /-- What was left where the last piece began, and where the one before it began. -/
  mark : Raw
  before : Raw
  line : Nat
  /-- The lines of texts that have been taken from after the line at hand. -/
  skipped : Nat
  file : Raw
  package : Raw
  /-- The functions that the program defines, and those without arguments. -/
  defined : List Raw
  constants : List Raw
  /-- The functions of modules that may be called by their bare names. -/
  imported : List Raw
  /-- Whether lines may be said. -/
  speaks : Bool
  /-- Whether names have to be made known, and those that are. -/
  strict : Bool
  known : List Raw
  /-- Whether texts may not be taken for references. -/
  firm : Bool
  /-- What has been found wrong so far, the last first. -/
  complaints : List Raw

/-- A part of reading. -/
abbrev Reader := StateT Place (Except Fault)

/-- Whether a character belongs to a word. -/
def isWordChar (c : Char) : Bool := c.isAlphanum || c == '_'

/-- Whether a character begins a word. -/
def isWordStart (c : Char) : Bool := c.isAlpha || c == '_'

/-- The name at the start of a text, with the packages that it is in. -/
def nameOf : (fuel : Nat) → Raw → Raw
  | 0, _ => []
  | fuel + 1, r =>
    let part := r.takeWhile isWordChar
    match r.drop part.length with
    | ':' :: ':' :: d :: rest =>
      if isWordStart d then part ++ ':' :: ':' :: nameOf fuel (d :: rest) else part
    | _ => part

/-- A name without the package that programs are in. -/
def shortName (r : Raw) : Raw :=
  if "main::".toList.isPrefixOf r then r.drop 6 else if "::".toList.isPrefixOf r then r.drop 2 else r

/-- The mark that closes what a mark opens. -/
def closing (c : Char) : Char :=
  match c with
  | '(' => ')'
  | '[' => ']'
  | '\x7b' => '\x7d'
  | '<' => '>'
  | c => c

/-- A text up to its closing mark, marks within it being paired, and what follows. -/
def enclosed (opening close : Char) : (depth : Nat) → (taken : Raw) → Raw → Option (Raw × Raw)
  | _, _, [] => none
  | depth, taken, '\\' :: c :: rest => enclosed opening close depth (c :: '\\' :: taken) rest
  | depth, taken, c :: rest =>
    if c = close then
      match depth with
      | 0 => some (taken.reverse, rest)
      | d + 1 => enclosed opening close d (c :: taken) rest
    else if c = opening then enclosed opening close (depth + 1) (c :: taken) rest
    else enclosed opening close depth (c :: taken) rest

/-- A text from after the blanks and remarks at its start, and how many lines they have. -/
def afterBlanks : (fuel : Nat) → (lines : Nat) → (atStart : Bool) → Raw → Raw × Nat
  | 0, n, _, r => (r, n)
  | _, n, _, [] => ([], n)
  | fuel + 1, n, atStart, c :: rest =>
    if c = '\n' then afterBlanks fuel (n + 1) true rest
    else if Raw.isSpace c then afterBlanks fuel n false rest
    else if c = '#' then afterBlanks fuel n false (rest.dropWhile (· != '\n'))
    else if c = '=' && atStart && (rest.head?).any Char.isAlpha then
      let (left, k) := afterRemark fuel 0 (c :: rest)
      afterBlanks fuel (n + k) true left
    else (c :: rest, n)
where
  /-- A text from after the lines of a remark, and how many they are. -/
  afterRemark : (fuel : Nat) → (lines : Nat) → Raw → Raw × Nat
    | 0, n, r => (r, n)
    | fuel + 1, n, r =>
      let line := r.takeWhile (· != '\n')
      match r.drop line.length with
      | [] => ([], n)
      | _ :: rest => if "=cut".toList.isPrefixOf line then (rest, n + 1) else afterRemark fuel (n + 1) rest

/-- The first word of something that is said near a place: a word, a number, a name with its sign, or a character. -/
def pieceOf (r : Raw) : Raw :=
  match r with
  | [] => []
  | c :: rest =>
    if isWordStart c then nameOf (r.length + 1) r
    else if c.isDigit then r.takeWhile fun d => d.isDigit || d = '.'
    else if (c = '$' || c = '@' || c = '%') && (rest.head?).any isWordStart then c :: nameOf (rest.length + 1) rest
    else if c = '"' || c = '\'' then
      match enclosed c c 0 [] rest with
      | some (body, _) => c :: body ++ [c]
      | none => r
    else [c]

namespace Reader

/-- The name of the program's text and the line at hand, as messages end. -/
def whereabouts (p : Place) : Raw :=
  " at ".toList ++ p.file ++ " line ".toList ++ Raw.ofNat p.line

/-- Ends reading where a text is not closed. -/
def unclosed {α : Type} (what : String) (mark : Raw) : Reader α := do
  let p ← get
  let quote := if mark.contains '"' then '\'' else '"'
  throw ⟨"Can't find ".toList ++ what.toList ++ ' ' :: quote :: mark ++ quote :: " anywhere before EOF".toList ++
    whereabouts p ++ ".\n".toList, p.line, true⟩

/-- Passes over what does not count. -/
def blanks : Reader Unit := do
  let p ← get
  match p.left with
  | [] => return
  | c :: _ =>
    if Raw.isSpace c || c = '#' || c = '=' then
      let atStart := p.line = 1 && p.mark.isEmpty
      let (left, n) := afterBlanks (p.left.length + 1) 0 (atStart && c = '=') p.left
      set { p with left, line := p.line + n + (if n > 0 then p.skipped else 0), skipped := if n > 0 then 0 else p.skipped }

/-- What is left. -/
def left : Reader Raw := return (← get).left

/-- What is left after blanks. -/
def ahead : Reader Raw := do
  blanks
  return (← get).left

/-- Takes so many characters. -/
def take (n : Nat) : Reader Unit :=
  modify fun p =>
    let taken := p.left.take n
    let lines := (taken.filter (· == '\n')).length
    { p with
      left := p.left.drop n
      mark := p.left
      before := p.mark
      line := p.line + lines + (if lines > 0 then p.skipped else 0)
      skipped := if lines > 0 then 0 else p.skipped }

/-- Takes a sign if it comes next. -/
def takes (s : String) : Reader Bool := do
  if s.toList.isPrefixOf (← ahead) then
    take s.length
    return true
  else return false

/-- Whether a word comes next. -/
def atWord (w : String) : Reader Bool := do
  let r ← ahead
  if !w.toList.isPrefixOf r then return false
  else return !((r.drop w.length).head?).any isWordChar

/-- Takes a word if it comes next. -/
def takesWord (w : String) : Reader Bool := do
  if ← atWord w then
    take w.length
    return true
  else return false

/-- The name that comes next; empty if there is none. -/
def peekName : Reader Raw := do
  let r ← ahead
  if (r.head?).any isWordStart then return nameOf (r.length + 1) r else return []

/-- Ends reading where something does not fit. -/
def unexpected {α : Type} : Reader α := do
  let r ← ahead
  let p ← get
  if r.isEmpty then
    throw ⟨"syntax error".toList ++ whereabouts p ++ ", at EOF\n".toList, p.line, false⟩
  else
    let start := if p.mark.length > r.length && p.mark.length < r.length + 200 then p.mark else r
    let piece := pieceOf r
    let blanks := if piece = ['\x7b'] then ((r.drop 1).takeWhile Raw.isSpace).length else 0
    let near := start.take (start.length - r.length + piece.length + blanks)
    throw ⟨"syntax error".toList ++ whereabouts p ++ ", near \"".toList ++ near ++ "\"\n".toList, p.line, false⟩

/-- Takes a sign. -/
def expect (s : String) : Reader Unit := do
  if !(← takes s) then
    let r ← ahead
    if r.isEmpty && (s == "\x7d" || s == "]") then
      let p ← get
      throw ⟨"Missing right curly or square bracket".toList ++ whereabouts p ++ ", at end of line\nsyntax error".toList ++
        whereabouts p ++ ", at EOF\n".toList, p.line, false⟩
    else unexpected

/-- A text between marks, the first of which comes next; tells the opening mark. -/
def delimited (what : String) : Reader (Char × Raw) := do
  match ← left with
  | [] => unclosed what []
  | c :: rest =>
    match enclosed c (closing c) 0 [] rest with
    | some (body, after) =>
      let p ← get
      take (p.left.length - after.length)
      return (c, body)
    | none => unclosed what [closing c]

/-- The letters at the place. -/
def letters : Reader Raw := do
  let r := (← left).takeWhile Char.isAlpha
  take r.length
  return r

/-- The lines of a text that ends with a line of its own, taken from after the line at hand. -/
def hereText (ending : Raw) (indented : Bool) : Reader Raw := do
  let p ← get
  let line := p.left.takeWhile (· != '\n')
  let rest := (p.left.drop line.length).drop 1
  let rec body : (fuel : Nat) → List Raw → Raw → Option (List Raw × Raw)
    | 0, _, _ => none
    | fuel + 1, taken, r =>
      if r.isEmpty then none
      else
        let l := r.takeWhile (· != '\n')
        let after := r.drop (l.length + 1)
        if (if indented then Raw.trimStart l else l) == ending then some (taken.reverse, after)
        else body fuel (l :: taken) after
  match body (rest.length + 1) [] rest with
  | none => unclosed "string terminator" ending
  | some (ls, after) =>
    set { p with left := line ++ '\n' :: after, skipped := p.skipped + ls.length + 1 }
    let depth (l : Raw) : Nat := (l.takeWhile Raw.isSpace).length
    let full := ls.filter fun l => !(Raw.trim l).isEmpty
    let cut := if indented then (full.map depth).foldl min 1000 else 0
    return ls.flatMap fun l => l.drop (min cut (depth l)) ++ ['\n']

/-- Makes a name known. -/
def makeKnown (sign : Sign) (name : Raw) : Reader Unit :=
  modify fun p => { p with known := (sign.char :: name) :: p.known }

/-- Notes that a name is used; it has to be known where that is asked for. -/
def noteUse (sign : Sign) (name : Raw) : Reader Unit := do
  let p ← get
  let isOwn := (name.head?).any isWordStart && !name.contains ':'
  let isCommon := name = ['_'] || name = ['a'] || name = ['b'] ||
    ["ENV", "ARGV", "INC", "STDIN", "STDOUT", "STDERR", "SIG", "ARGVOUT"].contains (Raw.text name)
  let signed := sign.char :: name
  if p.strict && isOwn && !isCommon && !p.known.contains signed then
    let message := "Global symbol \"".toList ++ signed ++
        "\" requires explicit package name (did you forget to declare \"my ".toList ++
      signed ++ "\"?)".toList ++ whereabouts p ++ ".\n".toList
    set { p with complaints := message :: p.complaints }

/-- Reads a part of a program whose names end with it. -/
def inScope {α : Type} (r : Reader α) : Reader α := do
  let known := (← get).known
  let (strict, firm) := ((← get).strict, (← get).firm)
  let x ← r
  modify fun p => { p with known, strict, firm }
  return x

/-- As many as there are characters, and a few. -/
def bound : Reader Nat := return 4 * (← get).left.length + 200

end Reader
end RunMeter.Machine.Perl
