import RunMeter.Machine.Regex
import RunMeter.Machine.Shell.Pattern
import RunMeter.Machine.Utility.Copying
import RunMeter.Machine.Utility.Paths

/-!
# RunMeter.Machine.Utility.Searching — lines that match expressions

A line is selected if an expression matches somewhere in it.  What is shown is the line itself, with the lines
around it, or only the places that match, or how many lines there are, or in which files they are.

Nothing that is proved depends on this module.
-/

namespace RunMeter.Machine.Searching

open Sources

/-- What is shown of a file. -/
inductive Report where
  | lines
  | places
  | count
  /-- The names of the files with selected lines, or of those without. -/
  | names (selected : Bool)
  | nothing
  deriving DecidableEq

/-- What is searched for, and how it is shown. -/
structure Search where
  expressions : List Regex
  inverted : Bool
  report : Report
  numbered : Bool
  /-- Whether the place in the file is shown. -/
  placed : Bool
  /-- Whether the file's name is shown. -/
  named : Bool
  /-- How many lines around a selected one are shown, if that is asked for. -/
  before : Option Nat
  after : Option Nat
  /-- After how many lines a file is left. -/
  most : Option Nat
  mark : Char
  /-- What ends a file's name. -/
  nameEnd : Option Char
  /-- Whether a file with null characters counts as one that holds text: yes, no, or not at all. -/
  binaryAsText : Bool
  binaryIgnored : Bool
  silent : Bool
  label : Raw

namespace Search

/-- The first match from a place on: of those that start first the longest. -/
def next? (s : Search) (text : Array Char) (least : Nat) : Option Regex.Match :=
  s.expressions.foldl (fun best e =>
    match best, e.searchFrom? text least with
    | none, found => found
    | best, none => best
    | some a, some b =>
      if b.first < a.first || (b.first = a.first && b.last > a.last) then some b else some a) none

/-- Whether a line is selected. -/
def selects (s : Search) (line : Raw) : Bool :=
  s.expressions.any (fun e => e.isIn line) != s.inverted

/-- The places in a line that match, without those that are empty. -/
def places (s : Search) (text : Array Char) : (fuel : Nat) → (least : Nat) → List (Nat × Nat)
  | 0, _ => []
  | fuel + 1, least =>
    match s.next? text least with
    | none => []
    | some m =>
      if m.last = m.first then (if m.last < text.size then places s text fuel (m.last + 1) else [])
      else (m.first, m.last) :: places s text fuel m.last

end Search

/-- A line of a file: its number, its place, and what it holds. -/
structure Line where
  number : Nat
  place : Nat
  text : Raw

/-- How far a file has been searched. -/
structure Progress where
  name : Raw
  lines : Nat
  place : Nat
  selected : Nat
  /-- The lines before, the last first, that would be shown with a selected one. -/
  held : List Line
  /-- How many lines are still shown after a selected one. -/
  trailing : Nat
  /-- The number of the last line that was shown. -/
  shown : Option Nat
  binary : Bool
  stopped : Bool

namespace Progress

/-- The start of a file. -/
def start (name : Raw) : Progress := ⟨name, 0, 0, 0, [], 0, none, false, false⟩

end Progress

/-- What stands before a line. -/
def heading (s : Search) (name : Raw) (l : Line) (place : Nat) (sign : Char) : Raw :=
  (if s.named then name ++ [s.nameEnd.getD sign] else []) ++
    (if s.numbered then Raw.ofNat l.number ++ [sign] else []) ++
    (if s.placed then Raw.ofNat place ++ [sign] else [])

/-- A line as it is shown. -/
def shownLine (s : Search) (name : Raw) (sign : Char) (l : Line) : Raw :=
  heading s name l l.place sign ++ l.text ++ [s.mark]

/-- The mark between lines that do not follow each other. -/
def gap (s : Search) (p : Progress) (everShown : Bool) (number : Nat) : Raw :=
  let wanted := s.before.isSome || s.after.isSome
  let follows := p.shown.any fun n => n + 1 = number
  if wanted && everShown && !follows then "--\n".toList else []

/-- A selected line as it is shown, with the lines before it. -/
def shownSelected (s : Search) (p : Progress) (everShown : Bool) (l : Line) : Raw :=
  match s.report with
  | .lines =>
    let held := p.held.reverse
    gap s p everShown ((held.head?.map Line.number).getD l.number) ++ held.flatMap (shownLine s p.name '-') ++
      shownLine s p.name ':' l
  | .places =>
    let text := l.text.toArray
    let found := if s.inverted then [] else s.places text (text.size + 1) 0
    gap s p everShown l.number ++ found.flatMap fun (first, last) =>
      heading s p.name l (l.place + first) ':' ++ Regex.between text first last ++ [s.mark]
  | _ => []

/-- Searches lines.  `ever` says that something has been shown before. -/
def searchLines (s : Search) : (ever : Bool) → Progress → (output : List Raw) → List Raw → Progress × List Raw × Bool
  | ever, p, output, [] => (p, output, ever)
  | ever, p, output, text :: rest =>
    if p.stopped then (p, output, ever)
    else
      let l : Line := ⟨p.lines + 1, p.place, text⟩
      let p := { p with lines := p.lines + 1, place := p.place + text.length + 1 }
      let isFull := s.most.any (· ≤ p.selected)
      if isFull && p.trailing = 0 then ({ p with stopped := true }, output, ever)
      else if !isFull && s.selects text then
        let selected := p.selected + 1
        let shows := s.report = .lines || s.report = .places
        if p.binary && shows then ({ p with selected := selected, stopped := true }, output, ever)
        else
          let isEnough := match s.report with
            | .names _ | .nothing => true
            | _ => s.most.any (· ≤ selected) && s.after.getD 0 = 0
          let output := if shows then shownSelected s p ever l :: output else output
          let p := { p with selected := selected, held := [], trailing := s.after.getD 0, stopped := isEnough,
                            shown := if shows then some l.number else p.shown }
          searchLines s (ever || shows) p output rest
      else if p.trailing > 0 && s.report = .lines then
        searchLines s ever { p with trailing := p.trailing - 1, shown := some l.number }
          (shownLine s p.name '-' l :: output) rest
      else
        searchLines s ever { p with held := (l :: p.held).take (s.before.getD 0), trailing := p.trailing - 1 } output rest

/-- What is shown so far, and whether lines are among it. -/
structure Shown where
  pieces : List Piece
  ever : Bool

/-- How much is read at once. -/
def blockSize : Nat := 98304

/-- Searches what a descriptor gives.  In a file that holds no text null characters end lines too. -/
def searchSource (c : Call) (s : Search) (fd : Nat) :
    (fuel : Nat) → (start : Raw) → Progress → Kept → (ever : Bool) → Act (Except Errno (Progress × Kept × Bool))
  | 0, _, p, kept, ever => return .ok (p, kept, ever)
  | fuel + 1, start, p, kept, ever => do
    if p.stopped then return .ok (p, kept, ever)
    else match ← Act.read fd blockSize with
      | .error e => return .error e
      | .ok [] =>
        if start.isEmpty then return .ok (p, kept, ever)
        else
          let (p, output, ever) := searchLines s ever p [] [start]
          return .ok (p, output.reverse.foldl Kept.put kept, ever)
      | .ok block =>
        let isBinary := p.binary || (block.contains '\x00' && s.mark = '\n' && !s.binaryAsText)
        if isBinary && s.binaryIgnored then return .ok ({ p with stopped := true }, kept, ever)
        else
          let parts := Raw.splitBy (fun ch => ch = s.mark || (isBinary && ch = '\x00')) (start ++ block)
          let p := { p with binary := isBinary }
          let (p, output, ever) := searchLines s ever p [] parts.dropLast
          searchSource c s fd fuel ((parts.getLast?).getD []) p (← (output.reverse.foldl Kept.put kept).flush c false) ever

/-- What is shown at a file's end. -/
def summary (s : Search) (p : Progress) : Raw :=
  match s.report with
  | .count => (if s.named then p.name ++ [s.nameEnd.getD ':'] else []) ++ Raw.ofNat p.selected ++ ['\n']
  | .names selected => if (p.selected > 0) = selected then p.name ++ [s.nameEnd.getD '\n'] else []
  | _ => []

/-- What a search has come to. -/
structure Tally where
  found : Bool
  failed : Bool
  kept : Kept
  ever : Bool

/-- Searches one file. -/
def searchFile (c : Call) (s : Search) (path : Raw) (t : Tally) : Act Tally := do
  let name := if path = ['-'] then s.label else path
  let failed (message : Raw) : Act Tally := do
    let kept ← t.kept.flush c true
    if !s.silent then c.complain message
    return { t with failed := true, kept }
  let result ← Call.withFile path fun fd => do
    if (s.report = .lines || s.report = .places) && (← Copying.feedsItself fd) then return .ok none
    else return (← searchSource c s fd Act.blockBound [] (.start name) t.kept t.ever).map some
  match result with
  | .error e => failed (name ++ Raw.ofText (": " ++ e.message))
  | .ok none => failed (name ++ Raw.ofText ": input file is also the output")
  | .ok (some (p, kept, ever)) =>
    let mut kept := kept.put (summary s p)
    if p.binary && p.selected > 0 && (s.report = .lines || s.report = .places) then
      kept ← kept.flush c true
      c.complain (name ++ Raw.ofText ": binary file matches")
    return ⟨t.found || p.selected > 0, t.failed, kept, ever⟩

/-- Which files in directories are searched. -/
structure Filter where
  included : List Shell.Pattern
  excluded : List Shell.Pattern
  excludedDirectories : List Shell.Pattern

/-- Whether a file is searched. -/
def Filter.admits (f : Filter) (name : Raw) : Bool :=
  !f.excluded.any (fun p => p.isMatch name) && (f.included.isEmpty || f.included.any fun p => p.isMatch name)

/-- The files under a path, as they are shown. -/
def filesUnder (f : Filter) (follow : Bool) : (fuel : Nat) → (top : Bool) → Raw → Act (List Raw)
  | 0, _, _ => return []
  | fuel + 1, top, path => do
    let name := Paths.lastName path
    match ← Paths.found? path (top || follow) with
    | none => return if top then [path] else []
    | some node =>
      if node.isDirectory then
        if !top && f.excludedDirectories.any (fun p => p.isMatch name) then return []
        else match ← Paths.namesIn path with
          | .error _ => return [path]
          | .ok names => return (← names.mapM fun n => filesUnder f follow fuel false (Paths.inside path n)).flatten
      else if !top && !node.isRegular then return []
      else return if f.admits name then [path] else []

/-- The switches. -/
def switches : Switches :=
  ⟨"0123456789A:B:C:D:EFGHILPTUVX:abcd:e:f:hiLlm:noqRrsuvwxyZz",
    [⟨"extended-regexp", "E", .none⟩, ⟨"fixed-strings", "F", .none⟩, ⟨"basic-regexp", "G", .none⟩,
     ⟨"perl-regexp", "P", .none⟩, ⟨"regexp", "e", .required⟩, ⟨"file", "f", .required⟩, ⟨"ignore-case", "i", .none⟩,
     ⟨"no-ignore-case", "fold", .none⟩, ⟨"word-regexp", "w", .none⟩, ⟨"line-regexp", "x", .none⟩,
     ⟨"null-data", "z", .none⟩, ⟨"no-messages", "s", .none⟩, ⟨"invert-match", "v", .none⟩,
     ⟨"max-count", "m", .required⟩, ⟨"byte-offset", "b", .none⟩, ⟨"line-number", "n", .none⟩,
     ⟨"line-buffered", "u", .none⟩, ⟨"with-filename", "H", .none⟩, ⟨"no-filename", "h", .none⟩,
     ⟨"label", "label", .required⟩, ⟨"only-matching", "o", .none⟩, ⟨"quiet", "q", .none⟩, ⟨"silent", "q", .none⟩,
     ⟨"binary-files", "binary", .required⟩, ⟨"text", "a", .none⟩, ⟨"directories", "d", .required⟩,
     ⟨"devices", "D", .required⟩, ⟨"recursive", "r", .none⟩, ⟨"dereference-recursive", "R", .none⟩,
     ⟨"include", "include", .required⟩, ⟨"exclude", "exclude", .required⟩, ⟨"exclude-dir", "exclude-dir", .required⟩,
     ⟨"files-without-match", "L", .none⟩, ⟨"files-with-matches", "l", .none⟩, ⟨"count", "c", .none⟩,
     ⟨"initial-tab", "T", .none⟩, ⟨"null", "Z", .none⟩, ⟨"before-context", "B", .required⟩,
     ⟨"after-context", "A", .required⟩, ⟨"context", "C", .required⟩, ⟨"color", "color", .optional⟩,
     ⟨"colour", "color", .optional⟩], false⟩

/-- Shows how the program is called and ends it. -/
def usage {α : Type} (c : Call) : Act α := do
  let name := c.baseName
  let _ ← Act.write 2 (Raw.ofText "Usage: " ++ name ++ Raw.ofText " [OPTION]... PATTERNS [FILE]...\nTry '" ++ name ++
    Raw.ofText " --help' for more information.\n")
  Act.exit 2

/-- The digits among the switches as one number of lines. -/
def contextDigits (g : Given) : Option Nat :=
  let digits := (g.switches.filterMap fun s => match s.1.toList with
    | [d] => if d.isDigit then some d else none
    | _ => none)
  if digits.isEmpty then none else some (Raw.valueIn 10 digits)

/-- The lines around a selected one that a switch asks for. -/
def context (c : Call) (g : Given) (key : String) : Act (Option Nat) :=
  match (g.value? key).orElse fun _ => g.value? "C" with
  | none => return contextDigits g
  | some w =>
    match Raw.natural? w with
    | some n => return some n
    | none => c.fail (w ++ Raw.ofText ": invalid context length argument") 2

/-- The texts of the expressions: each line of a value is one. -/
def patternTexts (c : Call) : List (String × Raw) → Act (List Raw)
  | [] => return []
  | (key, value) :: rest => do
    let here ← match key with
      | "e" => pure (Raw.splitAt '\n' value)
      | "f" => do
        match ← Call.contents value with
        | .ok text => pure (Raw.lines text)
        | .error e => c.fail (value ++ Raw.ofText (": " ++ e.message)) 2
      | _ => pure []
    return here ++ (← patternTexts c rest)

/-- The signs of repetition in an extended expression that have nothing before them; `bare` says that nothing is before
the text. -/
def strayRepetitions : (bare : Bool) → (fuel : Nat) → Raw → List Raw
  | _, 0, _ => []
  | _, _, [] => []
  | bare, fuel + 1, ch :: rest =>
    match ch with
    | '\\' => strayRepetitions false fuel (rest.drop 1)
    | '[' =>
      match Regex.setOf .wide rest with
      | .ok (_, after) => strayRepetitions false fuel after
      | .error _ => []
    | '(' | '|' | '^' => strayRepetitions true fuel rest
    | '*' | '+' | '?' => (if bare then [[ch]] else []) ++ strayRepetitions bare fuel rest
    | '\x7b' =>
      match bare, Regex.boundsOf .wide rest with
      | true, .ok (_, _, after) => "\x7b...\x7d".toList :: strayRepetitions true fuel after
      | _, _ => strayRepetitions false fuel rest
    | _ => strayRepetitions false fuel rest

/-- Reads an expression; `kind` is the switch that says how it is written.  Says what it does not know what to make
of. -/
def expressionOf (c : Call) (g : Given) (kind : String) (text : Raw) : Act Regex := do
  let folds := g.last? ["i", "y", "fold"] != some "fold" && (g.has "i" || g.has "y")
  let read ← match kind with
    | "F" => pure (.ok (Regex.verbatim folds text))
    | "G" => pure (Regex.ofText ⟨false, folds, true, true, false⟩ text)
    | _ => do
      for sign in strayRepetitions true (text.length + 1) text do
        c.complain (Raw.ofText "warning: " ++ sign ++ Raw.ofText " at start of expression")
      pure (Regex.ofText ⟨true, folds, true, true, false⟩ text)
  match read with
  | .ok e =>
    return if g.has "x" then e.within .start .finish
      else if g.has "w" then e.within (.apart true) (.apart false)
      else e
  | .error f => c.fail (Raw.ofText f.message) 2

/-- Shows the lines of files that match. -/
def grep : Utility := fun c => do
  match switches.ofWords c.args with
  | .error message =>
    c.complain message
    usage c
  | .ok g =>
    let kinds := g.switches.filter fun s => ["E", "F", "G", "P"].contains s.1
    let kind := ((kinds.getLast?).map Prod.fst).getD "G"
    if kinds.any fun s => s.1 != kind then c.fail (Raw.ofText "conflicting matchers specified") 2
    else
      let given := g.switches.filter fun s => s.1 == "e" || s.1 == "f"
      if given.isEmpty && g.operands.isEmpty then usage c
      else
        let texts ← if given.isEmpty then pure (Raw.splitAt '\n' (g.operands.headD [])) else patternTexts c given
        let paths := if given.isEmpty then g.operands.drop 1 else g.operands
        let most ← match g.value? "m" with
          | none => pure none
          | some w =>
            match Raw.integer? w with
            | some n => pure (if n < 0 then none else some n.toNat)
            | none => c.fail (Raw.ofText "invalid max count") 2
        let before ← context c g "B"
        let after ← context c g "A"
        let expressions ← texts.mapM (expressionOf c g kind)
        let deep := g.has "r" || g.has "R" || g.value? "d" == some "recurse".toList
        let report : Report :=
          if g.has "q" then .nothing
          else match g.last? ["l", "L"] with
            | some "l" => .names true
            | some _ => .names false
            | none => if g.has "c" then .count else if g.has "o" then .places else .lines
        let named ← match g.last? ["h", "H"], paths with
          | some "H", _ => pure true
          | some _, _ => pure false
          | none, [path] => if deep then Paths.isDirectory path else pure false
          | none, _ => pure (deep || paths.length > 1)
        let binary := (g.value? "binary").getD []
        let s : Search :=
          { expressions, inverted := g.has "v", report, numbered := g.has "n", placed := g.has "b", named, before, after, most
            mark := if g.has "z" then '\x00' else '\n'
            nameEnd := if g.has "Z" then some '\x00' else none
            binaryAsText := g.has "a" || binary = "text".toList
            binaryIgnored := g.has "I" || binary = "without-match".toList
            silent := g.has "s"
            label := (g.value? "label").getD (Raw.ofText "(standard input)") }
        if most = some 0 then return 1
        else
          let patternsOf (key : String) : List Shell.Pattern :=
            (g.switches.filter fun s => s.1 == key).map fun s => Shell.Pattern.ofEscaped s.2
          let filter : Filter := ⟨patternsOf "include", patternsOf "exclude", patternsOf "exclude-dir"⟩
          let files ← if !deep then pure (orInput paths)
            else if paths.isEmpty then do
              let found ← filesUnder filter (g.has "R") FileTree.maxPath true ['.']
              pure (found.map fun p => if Raw.startsWith "./".toList p then p.drop 2 else p)
            else do
              let found ← paths.mapM fun p =>
                if p = ['-'] then pure [p] else filesUnder filter (g.has "R") FileTree.maxPath true p
              pure found.flatten
          let mut tally : Tally := ⟨false, false, Kept.nothing, false⟩
          for path in files do
            if !(s.report = .nothing && tally.found) then
              let isSkipped ← if g.value? "d" == some "skip".toList then Paths.isDirectory path else pure false
              if !isSkipped then tally ← searchFile c s path tally
          let _ ← tally.kept.flush c true
          return if tally.failed && !(s.report = .nothing && tally.found) then 2 else if tally.found then 0 else 1

/-- The program with a kind of expressions of its own. -/
def grepWith (letter : Char) : Utility := fun c =>
  grep { c with words := "grep".toList :: ['-', letter] :: c.args }

/-- The programs by name. -/
def programs : List (String × Utility) :=
  [("grep", grep), ("egrep", grepWith 'E'), ("fgrep", grepWith 'F')]

end RunMeter.Machine.Searching
