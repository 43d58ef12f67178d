import RunMeter.Machine.Shell.Bracketed

/-!
# RunMeter.Machine.Shell.Token — the words and operators of a script

A script is cut into words, operators and redirections.  A word keeps its quotes and substitutions as they are
written; they are taken apart when the word is expanded.  The text of a here-document is taken from the lines
after the one that it stands in.

What is wrong with a script is a token of its own, since everything before it still runs.

Nothing that is proved depends on this module.
-/

namespace RunMeter.Machine.Shell

open Nesting

/-- What a redirection does with its target. -/
inductive Direction where
  | read
  | write
  /-- Writing, even where an existing file is to be kept. -/
  | force
  | append
  | readWrite
  | copyIn
  | copyOut
  /-- Standard output and standard error together. -/
  | writeBoth
  | appendBoth
  /-- The target is the text to be read; `quoted` says that nothing in it is expanded. -/
  | here (quoted : Bool)
  /-- The target is a word to be read as a line. -/
  | hereWord
  deriving DecidableEq

/-- A part of a script. -/
inductive Token where
  | word (line : Nat) (text : Raw)
  | operator (line : Nat) (name : String)
  /-- A redirection of a descriptor.  The target is the next word, or the text itself for a here-document. -/
  | redirect (line : Nat) (fd : Nat) (direction : Direction) (text : Raw)
  /-- What stands in double brackets. -/
  | condition (line : Nat) (text : Raw)
  /-- What stands in double parentheses. -/
  | arithmetic (line : Nat) (text : Raw)
  /-- The script can not be read on from here; `delimiter` is the character that is missing. -/
  | bad (line : Nat) (message : String) (delimiter : Char)
  /-- What stands in double brackets has a fault: what is said of it with the line that it is said of, and what is
  near, if the script does not end there. -/
  | fault (line : Nat) (said : List (Nat × Raw)) (near : Option Raw)

namespace Token

/-- The line that a token starts in. -/
def line : Token → Nat
  | word line _ | operator line _ | redirect line _ _ _ | condition line _ | arithmetic line _ | bad line _ _
  | fault line _ _ => line

/-- Whether what was scanned of a word, from its end to its start, is a name that a value is to follow. -/
def awaitsValue (taken : Raw) : Bool :=
  match taken with
  | '=' :: before =>
    let name := match before with
      | '+' :: more => more.reverse
      | more => more.reverse
    Raw.isName (name.takeWhile (· != '['))
  | _ => false

/-- Scans a word, of which `taken` has been scanned, from its end to its start; `lists` says that it may give a name
a list. -/
def scanWord (r : Rules) (lists : Bool) : (fuel : Nat) → (taken : Raw) → Raw → Except Inside (Raw × Raw)
  | 0, taken, rest => .ok (taken.reverse, rest)
  | _ + 1, taken, [] => .ok (taken.reverse, [])
  | fuel + 1, taken, '\\' :: '\n' :: rest => scanWord r lists fuel taken rest
  | fuel + 1, taken, '\\' :: c :: rest => scanWord r lists fuel (c :: '\\' :: taken) rest
  | fuel + 1, taken, c :: rest =>
    let within (inside : Inside) (opening : Raw) (rest : Raw) : Except Inside (Raw × Raw) :=
      match Nesting.scan false (rest.length + 1) [inside] [] rest with
      | .ok (text, after) => scanWord r lists fuel (text.reverse ++ opening.reverse ++ taken) after
      | .error missing => .error missing
    match c, rest with
    | '\'', rest =>
      let inner := rest.takeWhile (· != '\'')
      match rest.drop inner.length with
      | [] => .error .quotes
      | _ :: after => scanWord r lists fuel ('\'' :: inner.reverse ++ '\'' :: taken) after
    | '"', rest => within .quotes ['"'] rest
    | '`', rest => within .backquotes ['`'] rest
    | '$', '(' :: rest => within .parens ['$', '('] rest
    | '$', '\x7b' :: rest => within .braces ['$', '\x7b'] rest
    | '$', '\'' :: rest =>
      if r.dialect = .extended then
        match scanEscaped [] rest with
        | some (text, after) => scanWord r lists fuel (text.reverse ++ '\'' :: '$' :: taken) after
        | none => .error .quotes
      else scanWord r lists fuel ('$' :: taken) ('\'' :: rest)
    | c, rest =>
      if lists && c = '(' && awaitsValue taken then within .parens ['('] rest
      else if r.groups && startsGroup c rest then within .parens [c, '('] (rest.drop 1)
      else if r.dialect = .extended ∧ (c = '<' ∨ c = '>') ∧ rest.head? = some '(' then
        within .parens [c, '('] (rest.drop 1)
      else if endsWord c then .ok (taken.reverse, c :: rest)
      else scanWord r lists fuel (c :: taken) rest

/-- A delimiter of a here-document without its quotes. -/
def unquoted : Raw → Raw
  | [] => []
  | '\\' :: c :: rest => c :: unquoted rest
  | c :: rest => if c = '"' ∨ c = '\'' then unquoted rest else c :: unquoted rest

/-- A here-document whose text has not come yet: the number of its token, its delimiter, and whether tabs at
the start of its lines do not count. -/
structure Awaited where
  index : Nat
  delimiter : Raw
  stripTabs : Bool

/-- The text up to a delimiter's line, whether that line was there, and the rest after it. -/
def hereText (a : Awaited) : (fuel : Nat) → (text : List Raw) → Raw → Raw × Bool × Raw
  | 0, text, rest => (text.reverse.flatten, false, rest)
  | _ + 1, text, [] => (text.reverse.flatten, false, [])
  | fuel + 1, text, rest =>
    let line := rest.takeWhile (· != '\n')
    let after := (rest.drop line.length).drop 1
    let shown := if a.stripTabs then line.dropWhile (· == '\t') else line
    if shown == a.delimiter then (text.reverse.flatten, true, after)
    else if line.length < rest.length then hereText a fuel ((shown ++ ['\n']) :: text) after
    else ((shown :: text).reverse.flatten, false, [])

/-- How many ends of line a text has. -/
def lineCount (r : Raw) : Nat :=
  r.count '\n'

/-- A here-document that ends with the script: the lines where it starts and where the script ends, and its
delimiter. -/
structure CutShort where
  start : Nat
  line : Nat
  delimiter : Raw

/-- Tokens and what is left to cut. -/
structure Cut where
  tokens : Array Token
  rest : Raw
  line : Nat
  /-- Whether a here-document or a line goes on after the end of the script. -/
  unfinished : Bool
  /-- The words since the last operator, the last first. -/
  before : List Raw
  short : List CutShort

/-- Words after which a command can start. -/
def openers : List String :=
  ["if", "then", "else", "elif", "while", "until", "do", "!", "\x7b", "time"]

/-- Whether a word leaves the place in front of a command. -/
def opens (w : Raw) : Bool := openers.contains (Raw.text w)

/-- Whether a command starts after some words. -/
def Cut.startsCommand (c : Cut) : Bool := c.before.all opens

/-- Commands whose words can give lists to names. -/
def listTakers : List String := ["declare", "typeset", "local", "export", "readonly", "eval", "let"]

/-- Whether a word can give a list to a name after some words. -/
def Cut.takesLists (c : Cut) : Bool :=
  let isGift (w : Raw) : Bool := w.contains '=' && Raw.isName (w.takeWhile fun c => c != '=' && c != '[' && c != '+')
  match (c.before.reverse.dropWhile opens).dropWhile isGift with
  | [] => true
  | w :: _ => listTakers.contains (Raw.text w)

/-- The words since the last operator once another one has come. -/
def Cut.beforeNext (c : Cut) (w : Raw) : List Raw :=
  if w = ['\x7b'] && c.before.getLast? == some "function".toList then [] else w :: c.before

/-- Fills in the here-documents that were waited for. -/
def fillHere (c : Cut) : List Awaited → Cut
  | [] => c
  | a :: more =>
    let (text, ended, after) := hereText a (c.rest.length + 1) [] c.rest
    let tokens := match c.tokens[a.index]? with
      | some (.redirect line fd direction _) => c.tokens.setIfInBounds a.index (.redirect line fd direction text)
      | _ => c.tokens
    let line := c.line + (lineCount c.rest - lineCount after)
    let short := if ended then c.short else c.short ++ [⟨c.line - 1, line - 1, a.delimiter⟩]
    fillHere { c with tokens := tokens, rest := after, line := line, unfinished := c.unfinished || !ended, short := short } more

/-- The operators of the plain dialect, longer ones first. -/
def operators : List String := ["&&", "||", ";;", "&", "|", ";", "(", ")"]

/-- The operators of the extended dialect, longer ones first. -/
def extendedOperators : List String := [";;&", ";&", "|&"] ++ operators

/-- The operator at the start of a text, and the rest. -/
def operator? (d : Dialect) (cs : Raw) : Option (String × Raw) :=
  ((if d = .extended then extendedOperators else operators).find? fun o => o.toList.isPrefixOf cs).map fun o =>
    (o, cs.drop o.length)

/-- Redirections other than those of here-documents, longer ones first: their marks, usual descriptors and
directions. -/
def redirections : List (String × Nat × Direction) :=
  [("<&", 0, .copyIn), ("<>", 0, .readWrite), ("<", 0, .read), (">>", 1, .append), (">&", 1, .copyOut),
   (">|", 1, .force), (">", 1, .write)]

/-- Redirections of the extended dialect. -/
def extendedRedirections : List (String × Nat × Direction) :=
  [("<<<", 0, .hereWord), ("&>>", 1, .appendBoth), ("&>", 1, .writeBoth)] ++ redirections

/-- The redirection at the start of a text: its usual descriptor, what it does, and the rest. -/
def redirection? (d : Dialect) (cs : Raw) : Option (Nat × Direction × Raw) :=
  let known := if d = .extended then extendedRedirections else redirections
  (known.find? fun r => r.1.toList.isPrefixOf cs).map fun r => (r.2.1, r.2.2, cs.drop r.1.length)

/-- Whether a word in front of a redirection is its descriptor.  The plain dialect has ten of them. -/
def descriptor? (d : Dialect) (text rest : Raw) : Option Nat :=
  let redirects := rest.head? = some '<' || rest.head? = some '>'
  if redirects && text.all Char.isDigit && !text.isEmpty && (d = .extended || text.length = 1) then
    some (Raw.valueIn 10 text)
  else none

/-- What stands in double parentheses at the start of a text, and the rest after them; nothing if they are no such
parentheses, and a fault if the text ends inside of them. -/
def doubled? (cs : Raw) : Except Inside (Option (Raw × Raw)) :=
  match cs with
  | '(' :: '(' :: rest => do
    match ← Nesting.scan false (rest.length + 1) [.parens] [] rest with
    | (text, ')' :: after) => return some (text.dropLast, after)
    | _ => return none
  | _ => .ok none

/-- The token of a fault in double brackets, which stand in a line of their own.  `text` is the script from its
opening brackets on. -/
def ofFault (line : Nat) (text : Raw) (f : Bracketed.Fault) : Token :=
  let read := text.take (text.length - f.rest.length)
  let here := line + lineCount read.dropLast
  let shown := (read.dropLast.reverse.takeWhile (· != '\n')).reverse ++ read.getLast?.toList
  .fault here (f.said.toList.map fun m => (if f.atStart then line else here, m))
    (if f.atEnd then none else some (Bracketed.near shown f.rest.head?))

/-- Whether a text holds another. -/
def holds (part : Raw) : Raw → Bool
  | [] => part.isEmpty
  | c :: rest => part.isPrefixOf (c :: rest) || holds part rest

/-- Cuts a script into tokens.  `fd` is the descriptor that was written in front of a redirection. -/
def cut (r : Rules) : (fuel : Nat) → (fd : Option Nat) → List Awaited → Cut → Cut
  | 0, _, _, s => s
  | fuel + 1, fd, waiting, s =>
    match s.rest with
    | [] => { s with unfinished := s.unfinished || !waiting.isEmpty }
    | c :: rest =>
    let isExtended := r.dialect = .extended
    let add (t : Token) (after : Raw) : Cut := { s with tokens := s.tokens.push t, rest := after, before := [] }
    let addWord (w : Raw) (after : Raw) : Cut :=
      { s with tokens := s.tokens.push (.word s.line w), rest := after, before := s.beforeNext w }
    let addRedirect (t : Token) (after : Raw) : Cut := { s with tokens := s.tokens.push t, rest := after }
    let bad (missing : Inside) (line : Nat) (text : Raw) : Cut :=
      let single := missing = .quotes && text.head? = some '\''
      { s with
        tokens := s.tokens.push (.bad line missing.missing (if single then '\'' else missing.closing))
        unfinished := true }
    if isSpace c then cut r fuel none waiting { s with rest := rest }
    else if c = '\n' then
      cut r fuel none [] (fillHere { add (.operator s.line "\n") rest with line := s.line + 1 } waiting)
    else if c = '#' then cut r fuel none waiting { s with rest := rest.dropWhile (· != '\n') }
    else if c = '\\' ∧ rest.head? = some '\n' then
      cut r fuel none waiting
        { s with rest := rest.drop 1, line := s.line + 1, unfinished := s.unfinished || rest.length = 1 }
    else if c = '<' ∧ rest.head? = some '<' ∧ !(isExtended ∧ (rest.drop 1).head? = some '<') then
      let dash := (rest.drop 1).head? = some '-'
      let start := (rest.drop (if dash then 2 else 1)).dropWhile isSpace
      match scanWord r false (start.length + 1) [] start with
      | .error missing => bad missing s.line start
      | .ok ([], after) => cut r fuel none waiting (addRedirect (.redirect s.line (fd.getD 0) .read []) after)
      | .ok (delimiter, after) =>
        let quoted := delimiter.any fun c => c == '\'' || c == '"' || c == '\\'
        let awaited : Awaited := ⟨s.tokens.size, unquoted delimiter, dash⟩
        cut r fuel none (waiting ++ [awaited]) (addRedirect (.redirect s.line (fd.getD 0) (.here quoted) []) after)
    else
      let substitutes := isExtended ∧ (c = '<' ∨ c = '>') ∧ rest.head? = some '('
      let computes := isExtended && (s.startsCommand || s.before == ["for".toList])
      match if computes then doubled? (c :: rest) else .ok none with
      | .error missing => bad missing s.line []
      | .ok (some (text, after)) =>
        let next := add (.arithmetic s.line text) after
        cut r fuel none waiting { next with line := s.line + lineCount text }
      | .ok none =>
      match if substitutes then none else redirection? r.dialect (c :: rest) with
      | some (usual, direction, after) =>
        cut r fuel none waiting (addRedirect (.redirect s.line (fd.getD usual) direction []) after)
      | none =>
        match operator? r.dialect (c :: rest) with
        | some (name, after) => cut r fuel none waiting (add (.operator s.line name) after)
        | none =>
          match scanWord r (isExtended && s.takesLists) (rest.length + 2) [] (c :: rest) with
          | .error missing =>
            let computes := missing = .parens && holds "$((".toList (c :: rest)
            let line := if isExtended && (missing != .parens || computes) then s.line else s.line + lineCount rest
            if computes && !isExtended then
              { s with tokens := s.tokens.push (.bad line "Missing '))'" ')'), unfinished := true }
            else bad missing line (c :: rest)
          | .ok (text, after) =>
            match descriptor? r.dialect text after with
            | some n => cut r fuel (some n) waiting { s with rest := after }
            | none =>
              if isExtended && text = ['[', '['] && s.startsCommand then
                match Bracketed.read after with
                | .ok (inner, after) =>
                  let next := add (.condition s.line inner) after
                  cut r fuel none waiting { next with line := s.line + lineCount inner }
                | .error f =>
                  { s with tokens := s.tokens.push (ofFault s.line (c :: rest) f), unfinished := s.unfinished || f.atEnd }
              else
                let next := addWord text after
                cut r fuel none waiting { next with line := s.line + (lineCount (c :: rest) - lineCount after) }

/-- The tokens of a text whose first line has a number. -/
def ofText (r : Rules) (line : Nat) (text : Raw) : Cut :=
  cut r (text.length + 1) none [] ⟨#[], text, line, false, [], []⟩

/-- The tokens of a script whose first line has a number.  In the extended dialect its last line always ends. -/
def ofScript (r : Rules) (line : Nat) (script : Raw) : Cut :=
  let open_ := r.dialect = .extended && !script.isEmpty && script.getLast? != some '\n'
  ofText r line (if open_ then script ++ ['\n'] else script)

end Token
end RunMeter.Machine.Shell
