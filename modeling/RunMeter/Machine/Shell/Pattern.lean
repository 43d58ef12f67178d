import RunMeter.Machine.FileTree

/-!
# RunMeter.Machine.Shell.Pattern — patterns of words and file names

In a pattern a star stands for any characters, a question mark for one, and brackets for one of a set.  A
quoted character stands for itself.  Where a pattern may hold groups, alternatives in parentheses after a mark stand
for one of them, for any number of them, or for what none of them is.

Nothing that is proved depends on this module.
-/

namespace RunMeter.Machine.Shell

/-- A character of a pattern: whether it is quoted, and whether it is the mark of a group, whose parentheses
follow. -/
structure PatternChar where
  char : Char
  quoted : Bool
  marks : Bool

/-- A character of a pattern without groups. -/
def PatternChar.of (c : Char) (quoted : Bool) : PatternChar := ⟨c, quoted, false⟩

/-- A pattern. -/
abbrev Pattern := List PatternChar

namespace Pattern

/-- The pattern that a text is when nothing in it is quoted. -/
def ofRaw (r : Raw) : Pattern := r.map fun c => .of c false

/-- The pattern that a text is in which a backslash quotes the character after it. -/
def ofEscaped : Raw → Pattern
  | [] => []
  | '\\' :: c :: rest => .of c true :: ofEscaped rest
  | c :: rest => .of c false :: ofEscaped rest

/-- A pattern with its groups marked. -/
def withGroups : Pattern → Pattern
  | a :: b :: rest =>
    let marks := !a.quoted && "?*+@!".toList.contains a.char && !b.quoted && b.char == '('
    { a with marks := marks } :: withGroups (b :: rest)
  | p => p

/-- Whether a character does not stand for itself. -/
def isSpecial (p : PatternChar) : Bool :=
  p.marks || !p.quoted && (p.char == '*' || p.char == '?' || p.char == '[')

/-- Whether a pattern can match more than its own text. -/
def isGlob (p : Pattern) : Bool :=
  p.any isSpecial

/-- The text that a pattern is made of. -/
def text (p : Pattern) : Raw :=
  p.map PatternChar.char

/-- Whether a character is in the set that starts here, and the pattern after it; nothing if no set does. -/
def set? (c : Char) : (first : Bool) → (found : Bool) → (fuel : Nat) → Pattern → Option (Bool × Pattern)
  | _, _, 0, _ => none
  | _, _, _, [] => none
  | first, found, fuel + 1, a :: rest =>
    if a.char = ']' ∧ !a.quoted ∧ !first then some (found, rest)
    else match rest with
      | b :: d :: after =>
        if a.char = '[' ∧ b.char = ':' then
          let name := (d :: after).takeWhile fun p => p.char != ':'
          let left := (d :: after).drop (name.length + 2)
          set? c false (found || Raw.inClass (Raw.text (text name)) c) fuel left
        else if b.char = '-' ∧ !b.quoted ∧ (d.char ≠ ']' ∨ d.quoted) then
          set? c false (found || (a.char ≤ c && c ≤ d.char)) fuel after
        else set? c false (found || a.char == c) fuel rest
      | _ => set? c false (found || a.char == c) fuel rest

/-- The alternatives of a group after its opening parenthesis, and the pattern after it; nothing if it is not closed.
`part` is the alternative at hand, from its end to its start, and `parts` are those before it, the last first. -/
def alternatives? : (depth : Nat) → (part : Pattern) → (parts : List Pattern) → Pattern → Option (List Pattern × Pattern)
  | _, _, _, [] => none
  | depth, part, parts, c :: rest =>
    if c.quoted then alternatives? depth (c :: part) parts rest
    else if c.char = ')' then
      match depth with
      | 0 => some ((part.reverse :: parts).reverse, rest)
      | depth + 1 => alternatives? depth (c :: part) parts rest
    else if c.char = '|' && depth = 0 then alternatives? 0 [] (part.reverse :: parts) rest
    else alternatives? (if c.char = '(' then depth + 1 else depth) (c :: part) parts rest

/-- Whether a text matches a pattern. -/
def matchesWithin : (fuel : Nat) → Pattern → Raw → Bool
  | 0, _, _ => false
  | _ + 1, [], cs => cs.isEmpty
  | fuel + 1, p :: rest, cs =>
    match if p.marks then alternatives? 0 [] [] (rest.drop 1) else none with
    | some (choices, after) =>
      let isChoice (r : Raw) : Bool := choices.any fun a => matchesWithin fuel a r
      let cuts := List.range (cs.length + 1)
      match p.char with
      | '@' => choices.any fun a => matchesWithin fuel (a ++ after) cs
      | '?' => matchesWithin fuel after cs || choices.any fun a => matchesWithin fuel (a ++ after) cs
      | '!' => cuts.any fun n => matchesWithin fuel after (cs.drop n) && !isChoice (cs.take n)
      | c =>
        let least := if c = '+' then 0 else 1
        (c = '*' && matchesWithin fuel after cs) || cuts.any fun n =>
          least ≤ n && isChoice (cs.take n) && matchesWithin fuel ({ p with char := '*' } :: rest) (cs.drop n)
    | none =>
    if p.char = '*' ∧ !p.quoted then
      matchesWithin fuel rest cs || match cs with
        | [] => false
        | _ :: cs => matchesWithin fuel (p :: rest) cs
    else match cs with
      | [] => false
      | c :: cs =>
        if p.char = '?' ∧ !p.quoted then matchesWithin fuel rest cs
        else if p.char = '[' ∧ !p.quoted then
          let (negated, body) := match rest with
            | n :: body => if (n.char = '!' ∨ n.char = '^') ∧ !n.quoted then (true, body) else (false, rest)
            | [] => (false, rest)
          match set? c true false (body.length + 1) body with
          | some (found, after) => found != negated && matchesWithin fuel after cs
          | none => c == '[' && matchesWithin fuel rest cs
        else p.char == c && matchesWithin fuel rest cs

/-- Whether a text matches a pattern. -/
def isMatch (p : Pattern) (cs : Raw) : Bool :=
  matchesWithin (p.length + cs.length + 1) p cs

/-- The parts of a pattern between its slashes. -/
def parts (p : Pattern) : List Pattern :=
  let (part, parts) := p.foldr (fun c (part, parts) =>
    if c.char = '/' then ([], part :: parts) else (c :: part, parts)) (([] : Pattern), ([] : List Pattern))
  part :: parts

/-- The paths that match a pattern part by part, from a directory that is written as `shown`. -/
def pathsFrom (t : FileTree) (cwd : Nat) : (shown : Raw) → List Pattern → List Raw
  | shown, [] => [shown]
  | shown, part :: rest =>
    let joined (name : Raw) : Raw := shown ++ name ++ if rest.isEmpty then [] else ['/']
    let leads (name : Raw) : Bool := (t.find cwd (joined name) (!rest.isEmpty)).toOption.isSome
    if isGlob part then
      let all : List Raw := match t.find cwd (if shown.isEmpty then ['.'] else shown) true with
        | .ok here => if (t.node here).isDirectory && (t.node here).allows 4 then t.sortedNames here else []
        | .error _ => []
      let hidden := part.head?.map PatternChar.char == some '.'
      let all := (if hidden then [['.'], ['.', '.']] else []) ++ all
      let names := all.filter fun name =>
        isMatch part name && (name.head? != some '.' || hidden)
      (names.filter leads).flatMap fun name => pathsFrom t cwd (joined name) rest
    else if rest.isEmpty && !part.isEmpty && !leads (text part) then []
    else pathsFrom t cwd (joined (text part)) rest

/-- The paths that match a pattern, in order. -/
def paths (t : FileTree) (cwd : Nat) (p : Pattern) : List Raw :=
  pathsFrom t cwd [] (parts p)

end Pattern
end RunMeter.Machine.Shell
