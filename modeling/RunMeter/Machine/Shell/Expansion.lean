import RunMeter.Machine.Shell.Parameter

/-!
# RunMeter.Machine.Shell.Expansion — from words as written to words as used

A word is expanded to glyphs, which remember what was quoted and what came out of a substitution.  From glyphs
come the fields of a command, a single text, or a pattern.

Nothing that is proved depends on this module.
-/

namespace RunMeter.Machine.Shell

/-- A part of an expanded word. -/
inductive Glyph where
  /-- A character; `loose` if it came out of a substitution that is not quoted, so that it can end a field. -/
  | char (c : Char) (quoted loose : Bool)
  /-- Makes a field, even an empty one. -/
  | quotes
  /-- Ends a field. -/
  | gap

/-- How the commands inside of words are run. -/
structure Substitution where
  /-- Runs a script whose first line has a number, and gives what it writes. -/
  output : (line : Nat) → Raw → Sh Raw
  /-- Runs a script beside the shell, and gives a path to read from it or to write to it. -/
  stream : (reads : Bool) → Raw → Sh Raw

namespace Expansion

/-- The glyphs of characters that were written as they are. -/
def written (quoted : Bool) (cs : Raw) : List Glyph :=
  cs.map fun c => .char c quoted false

/-- The glyphs of the value of a substitution. -/
def substituted (quoted : Bool) (cs : Raw) : List Glyph :=
  cs.map fun c => .char c quoted (!quoted)

/-- The glyphs of several values, one field each. -/
def separate (quoted : Bool) (values : List Raw) : List Glyph :=
  let each := values.map fun w => (if quoted then [Glyph.quotes] else []) ++ substituted quoted w
  (each.intersperse [.gap]).flatten

/-- Glyphs as a text, a space for each gap. -/
def flat (gs : List Glyph) : Raw :=
  gs.filterMap fun
    | .char c _ _ => some c
    | .gap => some ' '
    | .quotes => none

/-- Glyphs as a pattern without groups. -/
def plainPattern (gs : List Glyph) : Pattern :=
  gs.filterMap fun
    | .char c quoted _ => some (.of c quoted)
    | .gap => some (.of ' ' true)
    | .quotes => none

/-- Whether patterns may hold groups. -/
def allowsGroups : Sh Bool := Sh.isOn "extglob"

/-- Glyphs as a pattern. -/
def pattern (gs : List Glyph) : Sh Pattern := do
  return if ← allowsGroups then (plainPattern gs).withGroups else plainPattern gs

/-- A command in backquotes without the backslashes that only protect it there. -/
def unprotected (quoted : Bool) : Raw → Raw
  | [] => []
  | '\\' :: c :: rest =>
    if c = '`' ∨ c = '\\' ∨ c = '$' ∨ (quoted ∧ c = '"') then c :: unprotected quoted rest
    else '\\' :: c :: unprotected quoted rest
  | c :: rest => c :: unprotected quoted rest

/-- The output of a command without the ends of line at its end. -/
def withoutLastLines (output : Raw) : Raw :=
  Raw.dropEndWhile (· == '\n') output

/-- What is inside up to its end, and the rest after that. -/
def inside (quoted : Bool) (stack : List Nesting.Inside) (closing : Nat) (rest : Raw) : Sh (Raw × Raw) :=
  match Nesting.scan quoted (rest.length + 1) stack [] rest with
  | .ok (text, after) => return (text.take (text.length - closing), after)
  | .error missing => Sh.fatal (Raw.ofText ("Syntax error: " ++ missing.missing)) 2

/-- The status of a shell of the extended dialect that ends over an expansion. -/
def lostStatus : Sh Nat := do
  return if (← Sh.shell).scripted then 127 else 1

/-- Ends the shell over a parameter, with the message of its dialect. -/
def lost {α : Type} (plain extended : Raw) : Sh α := do
  if ← Sh.extended then
    Sh.complain extended
    throw (.exit (← lostStatus))
  else Sh.fatal plain 2

/-- A parameter as it is written. -/
def shown (p : Parameter) : Raw :=
  p.name ++ (p.index.map fun i => '[' :: i ++ [']']).getD []

/-- Ends the shell if a value is missing and may not be. -/
def mustBeSet (p : Parameter) (value : Option Raw) : Sh Unit := do
  if value.isNone && (← Sh.isOn "nounset") then
    lost (shown p ++ Raw.ofText ": parameter not set") (shown p ++ Raw.ofText ": unbound variable")

/-- The glyphs of what a parameter stands for. -/
def ofContent (quoted : Bool) (c : Content) : Sh (List Glyph) := do
  match c with
  | .one v => return substituted quoted (v.getD [])
  | .many joined values =>
    if joined && quoted then
      return substituted true (Raw.joined (← Parameter.separators).head?.toList values)
    else return separate quoted values

/-- Ends the shell over braces that do not read. -/
def badBraces {α : Type} (text : Raw) : Sh α := do
  if ← Sh.extended then
    Sh.complain ("$\x7b".toList ++ text ++ Raw.ofText "\x7d: bad substitution")
    throw (.exit 1)
  else Sh.fatal (Raw.ofText "Bad substitution") 2

/-- How a word inside of another is expanded: quoted or not. -/
abbrev Again := (quoted : Bool) → Raw → Sh (List Glyph)

/-- Content with each value changed. -/
def mapped (f : Raw → Raw) : Content → Content
  | .one v => .one (some (f (v.getD [])))
  | .many joined values => .many joined (values.map f)

/-- The number that a text stands for, once it is expanded. -/
def computed (again : Again) (word : Raw) : Sh Int64 := do
  Arithmetic.value (flat (← again true word))

/-- A word cut at the first place of a character that stands outside of quotes and braces. -/
def cutWord (c : Char) : (depth : Nat) → (taken : Raw) → Raw → Raw × Option Raw
  | _, taken, [] => (taken.reverse, none)
  | depth, taken, '\\' :: d :: rest => cutWord c depth (d :: '\\' :: taken) rest
  | depth, taken, d :: rest =>
    if d = c && depth = 0 then (taken.reverse, some rest)
    else if d = '\x7b' || d = '(' then cutWord c (depth + 1) (d :: taken) rest
    else if d = '\x7d' || d = ')' then cutWord c (depth - 1) (d :: taken) rest
    else cutWord c depth (d :: taken) rest

/-- Some of the characters of a value: from an offset on, which counts from the end if it is negative. -/
def slice {α : Type} (offset : Int) (length : Option Int) (value : List α) : Option (List α) :=
  let size : Int := value.length
  let start := if offset < 0 then size + offset else offset
  if start < 0 then some []
  else
    let stop := match length with
      | none => size
      | some n => if n < 0 then size + n else start + n
    if (length.any (· < 0)) && stop < start then none
    else some ((value.drop start.toNat).take (stop - start).toNat)

/-- A part of what a parameter stands for. -/
def sliced (again : Again) (p : Parameter) (c : Content) (word : Raw) : Sh Content := do
  let (first, second) := cutWord ':' 0 [] word
  let offset := (← computed again first).toInt
  let length ← match second with
    | some w => do pure (some (← computed again w).toInt)
    | none => pure none
  match c with
  | .one v =>
    match slice offset length (v.getD []) with
    | some r => return .one (some r)
    | none => lost [] ((second.getD []) ++ Raw.ofText ": substring expression < 0")
  | .many joined values =>
    let own := (← Sh.shell).name
    return .many joined ((slice offset length (if p.index.isNone then own :: values else values)).getD [])

/-- A value with the case of its first letter changed, or of all. -/
def recased (f : Char → Char) (every : Bool) (p : Pattern) (r : Raw) : Raw :=
  let change (c : Char) : Char := if p.isEmpty || p.isMatch [c] then f c else c
  if every then r.map change
  else match r with
    | c :: rest => change c :: rest
    | [] => []

/-- What the letter after an at sign makes of a parameter. -/
def transformed (p : Parameter) (letter : Char) (c : Content) : Sh (Option Content) := do
  match letter with
  | 'Q' => return some (mapped Parameter.requoted c)
  | 'U' => return some (mapped Raw.toUpper c)
  | 'L' => return some (mapped Raw.toLower c)
  | 'u' => return some (mapped (recased Char.toUpper false []) c)
  | 'E' => return some (mapped (fun r => Parameter.unescaped (r.length + 1) r) c)
  | 'P' => return some c
  | 'A' =>
    match c with
    | .one (some v) => return some (.one (some (p.name ++ '=' :: Parameter.requoted v)))
    | c => return some c
  | 'a' =>
    let v := (← Sh.binding? p.name).getD Variable.unset
    let shape := match v.value with
      | some (.list _) => ['a']
      | some (.map _) => ['A']
      | _ => []
    return some (.one (some (shape ++ (if v.integer then ['i'] else []) ++ (if v.fixed then ['r'] else []) ++
      if v.exported then ['x'] else [])))
  | 'K' | 'k' => return some c
  | _ => return none

/-- What an operator of the extended dialect makes of a parameter; nothing if there is no such operator. -/
def extendedOperator (again : Again) (p : Parameter) (c : Content) (op : Char) (word : Raw) : Sh (Option Content) := do
  match op with
  | ':' => return some (← sliced again p c word)
  | '/' =>
    let (every, anchor, word) := match word with
      | '/' :: word => (true, none, word)
      | '#' :: word => (false, some '#', word)
      | '%' :: word => (false, some '%', word)
      | word => (false, none, word)
    let (first, second) := cutWord '/' 0 [] word
    let pat ← pattern (← again false first)
    let by_ := flat (← again false (second.getD []))
    return some (mapped (fun r =>
      match anchor with
      | some '#' => Parameter.replacedAtStart pat by_ r
      | some _ => Parameter.replacedAtEnd pat by_ r
      | none => if pat.isEmpty then r else Parameter.replaced every pat by_ (r.length + 1) r) c)
  | '^' | ',' =>
    let (every, word) := match word with
      | d :: rest => if d = op then (true, rest) else (false, word)
      | [] => (false, [])
    let pat ← pattern (← again false word)
    return some (mapped (recased (if op = '^' then Char.toUpper else Char.toLower) every pat) c)
  | '@' =>
    match word with
    | [letter] => transformed p letter c
    | _ => return none
  | _ => return none

/-- What a cut at the start or at the end makes of a parameter. -/
def cut (again : Again) (without : Bool → Pattern → Raw → Raw) (op : Char) (c : Content) (word : Raw) : Sh Content := do
  let (longest, word) := match word with
    | d :: rest => if d = op then (true, rest) else (false, word)
    | [] => (false, [])
  let pat ← pattern (← again false word)
  match c with
  | .many _ values =>
    if ← Sh.extended then return mapped (without longest pat) c
    else return .one (some (without longest pat values.flatten))
  | c => return mapped (without longest pat) c

/-- The glyphs of a parameter with an operator and its word. -/
def modified (again : Again) (quoted : Bool) (text : Raw) (p : Parameter) (op : Char) (word : Raw) :
    Sh (List Glyph) := do
  let c ← Parameter.content (computed again) p
  let (colon, test, rest) := match op, word with
    | ':', d :: rest => if "-+=?".toList.contains d then (true, d, rest) else (false, op, word)
    | _, _ => (false, op, word)
  let missing := match c with
    | .one none => true
    | .one (some v) => colon && v.isEmpty
    | .many _ values => values.isEmpty || (colon && values.all List.isEmpty)
  match test with
  | '-' => if missing then again quoted rest else ofContent quoted c
  | '+' => if missing then return [] else again quoted rest
  | '=' =>
    if missing then
      let v := flat (← again quoted rest)
      if !Raw.isName p.name then
        lost (shown p ++ Raw.ofText ": bad variable name") ('$' :: p.name ++ Raw.ofText ": cannot assign in this way")
      Sh.assign p.name v
      return substituted quoted v
    else ofContent quoted c
  | '?' =>
    if missing then
      let message := flat (← again quoted rest)
      let usual (words : String) : Raw := if message.isEmpty then Raw.ofText words else message
      lost (shown p ++ Raw.ofText ": " ++ usual (if colon then "parameter not set or null" else "parameter not set"))
        (shown p ++ Raw.ofText ": " ++ usual (if colon then "parameter null or not set" else "parameter not set"))
    else ofContent quoted c
  | '%' => ofContent quoted (← cut again Parameter.withoutEnd op c word)
  | '#' => ofContent quoted (← cut again Parameter.withoutStart op c word)
  | _ =>
    if ← Sh.extended then
      match c with
      | .one none => mustBeSet p none
      | _ => pure ()
      match ← extendedOperator again p c op word with
      | some c => ofContent quoted c
      | none => badBraces text
    else badBraces text

/-- The glyphs of a length. -/
def lengthOf (again : Again) (quoted : Bool) (p : Parameter) : Sh (List Glyph) := do
  match ← Parameter.content (computed again) p with
  | .one v =>
    mustBeSet p v
    return substituted quoted (Raw.ofNat (v.getD []).length)
  | .many _ values =>
    let n := if ← Sh.extended then values.length else (Raw.joined [' '] values).length
    return substituted quoted (Raw.ofNat n)

/-- The glyphs of a parameter that another one names, or of the names and keys that there are. -/
def indirect (again : Again) (quoted : Bool) (text rest : Raw) : Sh (List Glyph) := do
  match Parameter.inBraces? .extended rest with
  | some (⟨name, some i⟩, []) =>
    if i = ['@'] || i = ['*'] then
      let ks := ((← Parameter.variableValue name).map Parameter.keys).getD []
      ofContent quoted (.many (i = ['*']) ks)
    else badBraces text
  | some (⟨start, none⟩, [mark]) =>
    if mark = '*' || mark = '@' then
      let names := ((← Sh.shell).bindings.filter fun e => start.isPrefixOf e.1 && e.2.value.isSome).map Prod.fst
      ofContent quoted (.many (mark = '*') (names.mergeSort Raw.atMost))
    else badBraces text
  | some (⟨name, none⟩, after) =>
    let target := (← Parameter.plainValue name).getD []
    match Parameter.inBraces? .extended target with
    | some (p, []) =>
      match after with
      | [] => ofContent quoted (← Parameter.content (computed again) p)
      | op :: word => modified again quoted text p op word
    | _ =>
      Sh.complain (target ++ Raw.ofText ": invalid variable name")
      throw (.exit 1)
  | _ => badBraces text

/-- The glyphs of what stands in braces after a dollar sign. -/
def braced (again : Again) (quoted : Bool) (text : Raw) : Sh (List Glyph) := do
  let d := (← Sh.shell).dialect
  match text with
  | '#' :: rest@(_ :: _) =>
    match Parameter.inBraces? d rest with
    | some (p, []) => lengthOf again quoted p
    | _ =>
      match rest with
      | op :: word =>
        if "-+=?%#:".toList.contains op then modified again quoted text ⟨['#'], none⟩ op word else badBraces text
      | [] => badBraces text
  | '!' :: rest@(_ :: _) =>
    if d = .extended then indirect again quoted text rest
    else match rest with
      | op :: word => modified again quoted text ⟨['!'], none⟩ op word
      | [] => badBraces text
  | _ =>
    match Parameter.inBraces? d text with
    | none => badBraces text
    | some (p, []) =>
      let c ← Parameter.content (computed again) p
      match c with
      | .one v => mustBeSet p v
      | _ => pure ()
      ofContent quoted c
    | some (p, op :: word) => modified again quoted text p op word

/-- Goes past the lines that end in a text. -/
def passLines (text : Raw) : Sh Unit := do
  let n := text.count '\n'
  if n > 0 then Sh.update fun p => { p with wordLine := p.wordLine + n }

/-- The word of a modification that stands in double quotes.  More double quotes have no effect there. -/
def withoutQuotes : Raw → Raw
  | [] => []
  | '\\' :: c :: rest => '\\' :: c :: withoutQuotes rest
  | c :: rest => if c = '"' then withoutQuotes rest else c :: withoutQuotes rest

/-- Expands what is written to glyphs, after those that come before them, the last first. -/
def glyphsAfter (sub : Substitution) : (fuel : Nat) → (quoted : Bool) → (before : List Glyph) → Raw → Sh (List Glyph)
  | 0, _, before, _ => return before
  | _, _, before, [] => return before
  | fuel + 1, quoted, before, '\\' :: c :: rest => do
    if c = '\n' then passLines [c]
    if c = '\n' then glyphsAfter sub fuel quoted before rest
    else if quoted && !(['$', '`', '"', '\\'].contains c) then
      glyphsAfter sub fuel quoted ((written true ['\\', c]).reverse ++ before) rest
    else glyphsAfter sub fuel quoted (.char c true false :: before) rest
  | fuel + 1, false, before, '\'' :: rest => do
    let text := rest.takeWhile (· != '\'')
    passLines text
    glyphsAfter sub fuel false ((written true text).reverse ++ .quotes :: before) (rest.drop (text.length + 1))
  | fuel + 1, false, before, '"' :: rest => do
    let (text, after) ← inside false [.quotes] 1 rest
    let gs ← glyphsAfter sub fuel true [] text
    let listed := text == "$@".toList || text == "$\x7b@\x7d".toList ||
        ("[@]\x7d".toList.isSuffixOf text && "$\x7b".toList.isPrefixOf text)
    let vanishes := listed && gs.isEmpty
    glyphsAfter sub fuel false (gs ++ (if vanishes then before else .quotes :: before)) after
  | fuel + 1, quoted, before, '`' :: rest => do
    let (text, after) ← inside quoted [.backquotes] 1 rest
    let value ← sub.output 1 (unprotected quoted text)
    passLines text
    glyphsAfter sub fuel quoted ((substituted quoted (withoutLastLines value)).reverse ++ before) after
  | fuel + 1, quoted, before, '$' :: '(' :: '(' :: rest => do
    match Nesting.scan quoted (rest.length + 1) [.parens] [] rest with
    | .ok (text, ')' :: after) =>
      let value ← Arithmetic.result (flat (← glyphsAfter sub fuel true [] text.dropLast).reverse)
      glyphsAfter sub fuel quoted ((substituted quoted value).reverse ++ before) after
    | _ =>
      let (text, after) ← inside quoted [.parens] 1 ('(' :: rest)
      let value ← sub.output (← Sh.shell).wordLine text
      passLines text
      glyphsAfter sub fuel quoted ((substituted quoted (withoutLastLines value)).reverse ++ before) after
  | fuel + 1, quoted, before, '$' :: '(' :: rest => do
    let (text, after) ← inside quoted [.parens] 1 rest
    let value ← sub.output (← Sh.shell).wordLine text
    passLines text
    glyphsAfter sub fuel quoted ((substituted quoted (withoutLastLines value)).reverse ++ before) after
  | fuel + 1, quoted, before, '$' :: '\x7b' :: rest => do
    let (text, after) ← inside quoted [.braces] 1 rest
    let again (q : Bool) (word : Raw) : Sh (List Glyph) := do
      return (← glyphsAfter sub fuel q [] (if q then withoutQuotes word else word)).reverse
    let gs ← braced again quoted text
    glyphsAfter sub fuel quoted (gs.reverse ++ before) after
  | fuel + 1, quoted, before, '$' :: rest => do
    let d := (← Sh.shell).dialect
    match d, quoted, rest with
    | .extended, false, '\'' :: more =>
      match Nesting.scanEscaped [] more with
      | some (text, after) =>
        let inner := text.dropLast
        let value := Parameter.unescaped (inner.length + 1) inner
        glyphsAfter sub fuel false ((written true value).reverse ++ .quotes :: before) after
      | none => glyphsAfter sub fuel quoted (.char '$' quoted false :: before) rest
    | .extended, false, '"' :: _ => glyphsAfter sub fuel quoted before rest
    | _, _, _ =>
      match Parameter.atStart? rest with
      | some (name, after) => do
        let c ← Parameter.content (fun _ => pure 0) ⟨name, none⟩
        match c with
        | .one v => mustBeSet ⟨name, none⟩ v
        | _ => pure ()
        glyphsAfter sub fuel quoted ((← ofContent quoted c).reverse ++ before) after
      | none => glyphsAfter sub fuel quoted (.char '$' quoted false :: before) rest
  | fuel + 1, quoted, before, c :: rest => do
    match rest with
    | '(' :: more =>
      if !quoted && (c = '<' || c = '>') then
        let (text, after) ← inside false [.parens] 1 more
        let path ← sub.stream (c = '<') text
        glyphsAfter sub fuel quoted ((written true path).reverse ++ before) after
      else glyphsAfter sub fuel quoted (.char c quoted false :: before) rest
    | _ =>
      if c = '\n' then passLines [c]
      glyphsAfter sub fuel quoted (.char c quoted false :: before) rest

/-- Expands what is written to glyphs. -/
def glyphs (sub : Substitution) (quoted : Bool) (text : Raw) : Sh (List Glyph) := do
  return (← glyphsAfter sub (text.length + 1) quoted [] text).reverse

/-- The directory that a tilde and a name stand for. -/
def home? (name : Raw) : Sh (Option Raw) := do
  let d := (← Sh.shell).dialect
  match Raw.text name with
  | "" =>
    match ← Sh.value? "HOME".toList with
    | some h => return some h
    | none => return if d = .extended then some "/".toList else none
  | "root" => return some "/root".toList
  | "+" => if d = .extended then Sh.value? "PWD".toList else return none
  | "-" => if d = .extended then Sh.value? "OLDPWD".toList else return none
  | _ => return none

/-- The glyphs of a tilde at the start of a word and of what belongs to it, and the rest of the word. -/
def tilde (assigning : Bool) (word : Raw) : Sh (List Glyph × Raw) := do
  match word with
  | '~' :: rest =>
    let name := rest.takeWhile fun c => c != '/' && !(assigning && c == ':')
    if name.any fun c => !(c.isAlphanum || c == '_' || c == '-' || c == '+') then return ([], word)
    else match ← home? name with
      | some h => return (written true h, rest.drop name.length)
      | none => return ([], word)
  | _ => return ([], word)

/-- The glyphs of a word, with a leading tilde as the home directory. -/
def ofWord (sub : Substitution) (word : Raw) : Sh (List Glyph) := do
  let (start, rest) ← tilde false word
  return start ++ (← glyphs sub false rest)

/-- The parts of a value between colons outside of quotes and substitutions. -/
def colonParts (word : Raw) : List Raw :=
  if word.any fun c => "'\"`$\\".toList.contains c then [word] else Raw.splitAt ':' word

/-- The glyphs of a value that is assigned: a tilde may also follow a colon. -/
def ofValue (sub : Substitution) (word : Raw) : Sh (List Glyph) := do
  let parts ← (colonParts word).mapM fun part => do
    let (start, rest) ← tilde true part
    return start ++ (← glyphs sub false rest)
  return (parts.intersperse (written false [':'])).flatten

/-- Splits glyphs into fields.  `field` is the field at hand, from its end to its start, if there is one, and
`blank` says that blanks have just ended a field.  The fields come after `done`, the last first. -/
def split (ifs : Raw) : (field : Option Pattern) → (blank : Bool) → (done : List Pattern) → List Glyph → List Pattern
  | field, _, done, [] => ((field.map List.reverse).toList ++ done).reverse
  | field, _, done, .gap :: rest => split ifs none false ((field.map List.reverse).toList ++ done) rest
  | field, _, done, .quotes :: rest => split ifs (some (field.getD [])) false done rest
  | field, blank, done, .char c quoted loose :: rest =>
    if loose && ifs.contains c then
      if c == ' ' || c == '\t' || c == '\n' then
        split ifs none (blank || field.isSome) ((field.map List.reverse).toList ++ done) rest
      else if field.isSome || !blank then split ifs none false ((field.getD []).reverse :: done) rest
      else split ifs none false done rest
    else split ifs (some (.of c quoted :: field.getD [])) false done rest

/-- A part in braces: what stands between them, cut at its commas, and the rest after them.  `parts` are those
before the part at hand, the last first. -/
def braceParts : (depth : Nat) → (part : Raw) → (parts : List Raw) → Raw → Option (List Raw × Raw)
  | _, _, _, [] => none
  | depth, part, parts, '\\' :: c :: rest => braceParts depth (c :: '\\' :: part) parts rest
  | depth, part, parts, '$' :: '\x7b' :: rest => braceParts (depth + 1) ('\x7b' :: '$' :: part) parts rest
  | depth, part, parts, c :: rest =>
    if c = '\'' || c = '"' then
      let inner := rest.takeWhile (· != c)
      if (rest.drop inner.length).isEmpty then none
      else
        let rest' := rest.drop (inner.length + 1)
        if rest'.length < rest.length then braceParts depth (c :: inner.reverse ++ c :: part) parts rest' else none
    else if c = '\x7b' then braceParts (depth + 1) (c :: part) parts rest
    else if c = '\x7d' then
      match depth with
      | 0 => some ((part.reverse :: parts).reverse, rest)
      | depth + 1 => braceParts depth (c :: part) parts rest
    else if c = ',' && depth = 0 then braceParts depth [] (part.reverse :: parts) rest
    else braceParts depth (c :: part) parts rest
termination_by _ _ _ cs => cs.length
decreasing_by
  all_goals first
    | exact Nat.lt_succ_self _
    | exact Nat.lt_succ_of_lt (Nat.lt_succ_self _)
    | exact Nat.lt_succ_of_lt ‹_›

/-- The numbers or letters from one to another that stand between two pairs of dots; nothing if that is none. -/
def braceRange? (text : Raw) : Option (List Raw) :=
  let ends : Option (Raw × Raw × Option Raw) := do
    let first := text.takeWhile (· != '.')
    let rest ← Raw.after? ['.', '.'] (text.drop first.length)
    let second := rest.takeWhile (· != '.')
    match rest.drop second.length with
    | [] => some (first, second, none)
    | '.' :: '.' :: step => some (first, second, some step)
    | _ => none
  match ends with
  | none => none
  | some (a, b, s) =>
    let step := match s.bind Raw.integer? with
      | some 0 => 1
      | some n => n.natAbs
      | none => 1
    if s.isSome && (s.bind Raw.integer?).isNone then none
    else
      let series (x y : Int) : List Int :=
        (List.range ((y - x).natAbs / step + 1)).map fun (i : Nat) =>
          if x ≤ y then x + (i * step : Nat) else x - (i * step : Nat)
      match Raw.integer? a, Raw.integer? b, a, b with
      | some x, some y, _, _ =>
        let padded (r : Raw) : Bool := (r.dropWhile (· == '-')).length > 1 && (r.dropWhile (· == '-')).head? = some '0'
        let width := if padded a || padded b then max a.length b.length else 0
        some ((series x y).map fun n =>
          if n < 0 then '-' :: Raw.padZeros (width - 1) (Raw.ofNat n.natAbs)
          else Raw.padZeros width (Raw.ofNat n.natAbs))
      | _, _, [c], [d] =>
        if c.isAlpha && d.isAlpha then
          some ((series c.toNat d.toNat).map fun n => [Char.ofNat n.toNat])
        else none
      | _, _, _, _ => none

/-- The words that a word with braces stands for. -/
def braces : (fuel : Nat) → (taken : Raw) → Raw → List Raw
  | 0, taken, cs => [taken.reverse ++ cs]
  | _, taken, [] => [taken.reverse]
  | fuel + 1, taken, '\\' :: c :: rest => braces fuel (c :: '\\' :: taken) rest
  | fuel + 1, taken, '$' :: '\x7b' :: rest =>
    match Nesting.scan false (rest.length + 1) [.braces] [] rest with
    | .ok (text, after) => braces fuel (text.reverse ++ '\x7b' :: '$' :: taken) after
    | .error _ => [taken.reverse ++ '$' :: '\x7b' :: rest]
  | fuel + 1, taken, '$' :: '(' :: rest =>
    match Nesting.scan false (rest.length + 1) [.parens] [] rest with
    | .ok (text, after) => braces fuel (text.reverse ++ '(' :: '$' :: taken) after
    | .error _ => [taken.reverse ++ '$' :: '(' :: rest]
  | fuel + 1, taken, c :: rest =>
    if c = '\'' then
      let inner := rest.takeWhile (· != '\'')
      braces fuel ('\'' :: inner.reverse ++ '\'' :: taken) (rest.drop (inner.length + 1))
    else if c = '"' then
      match Nesting.scan false (rest.length + 1) [.quotes] [] rest with
      | .ok (text, after) => braces fuel (text.reverse ++ '"' :: taken) after
      | .error _ => [taken.reverse ++ c :: rest]
    else if c = '\x7b' then
      match braceParts 0 [] [] rest with
      | some ([only], after) =>
        match braceRange? only with
        | some values =>
          let ends := braces fuel [] after
          values.flatMap fun v => ends.map fun e => taken.reverse ++ v ++ e
        | none => braces fuel (c :: taken) rest
      | some (parts, after) =>
        let ends := braces fuel [] after
        (parts.flatMap (braces fuel [])).flatMap fun v => ends.map fun e => taken.reverse ++ v ++ e
      | none => braces fuel (c :: taken) rest
    else braces fuel (c :: taken) rest

/-- The paths that a pattern stands for: those that match, or else its own text. -/
def pathsOf (p : Pattern) : Sh (List Raw) := do
  if !p.isGlob || (← Sh.isOn "noglob") then return [p.text]
  let found ← Sh.act (Act.ask fun pid k => p.paths k.files (k.task pid).cwd)
  if found.isEmpty then return if ← Sh.isOn "nullglob" then [] else [p.text]
  else return found

/-- The fields of a word: split, and with patterns replaced by the paths that match. -/
def fields (sub : Substitution) (word : Raw) : Sh (List Raw) := do
  let parts := split (← Parameter.separators) none false [] (← ofWord sub word)
  let parts := if ← allowsGroups then parts.map Pattern.withGroups else parts
  return (← parts.mapM pathsOf).flatten

/-- The fields of words in order. -/
def allFields (sub : Substitution) (words : List Raw) : Sh (List Raw) := do
  let words :=
    if ← Sh.extended then words.flatMap fun w => if w.contains '\x7b' then braces (w.length + 1) [] w else [w]
    else words
  return (← words.mapM (fields sub)).flatten

/-- A word as one text. -/
def single (sub : Substitution) (word : Raw) : Sh Raw := do
  return flat (← ofWord sub word)

/-- A value that is assigned as one text. -/
def assigned (sub : Substitution) (word : Raw) : Sh Raw := do
  return flat (← ofValue sub word)

/-- The text of a here-document. -/
def document (sub : Substitution) (text : Raw) : Sh Raw := do
  return flat (← glyphs sub true text)

/-- A word as a pattern. -/
def asPattern (sub : Substitution) (word : Raw) : Sh Pattern := do
  pattern (← ofWord sub word)

end Expansion
end RunMeter.Machine.Shell
