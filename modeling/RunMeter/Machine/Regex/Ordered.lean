import RunMeter.Machine.Regex

/-!
# RunMeter.Machine.Regex.Ordered — expressions whose choices are tried in order

These expressions have more to write with: classes of one letter, repetitions that take as little as will do, groups
that are not noted, and looks ahead and behind.  Of several matches at a place the first that is found counts, and not
the longest.

* `Ordered.ofText`: reads an expression.

Nothing that is proved depends on this module.
-/

namespace RunMeter.Machine.Regex

/-- How an expression is meant. -/
structure Manner where
  folds : Bool
  /-- Whether anchors stand for the starts and ends of lines. -/
  lines : Bool
  /-- Whether a dot stands for an end of line as well. -/
  all : Bool
  /-- Whether blanks and comments do not count. -/
  spaced : Bool

/-- An expression, and the names of its groups. -/
structure Ordered where
  regex : Regex
  names : List (Raw × Nat)

namespace Ordered

/-- Where reading is: the manner, how many groups have begun, and the names of groups. -/
structure Place where
  manner : Manner
  groups : Nat
  names : List (Raw × Nat)
  left : Raw

/-- The sets of one letter. -/
def letterSet? (c : Char) : Option (Bool × List SetItem) :=
  let word : List SetItem := [.range 'a' 'z', .range 'A' 'Z', .range '0' '9', .range '_' '_']
  match c with
  | 'd' => some (false, [.range '0' '9'])
  | 'D' => some (true, [.range '0' '9'])
  | 'w' => some (false, word)
  | 'W' => some (true, word)
  | 's' => some (false, [.named "space"])
  | 'S' => some (true, [.named "space"])
  | 'h' => some (false, [.named "blank"])
  | _ => none

/-- The character of an escape, and the rest. -/
def escapedChar (c : Char) (rest : Raw) : Char × Raw :=
  match c with
  | 'n' => ('\n', rest)
  | 't' => ('\t', rest)
  | 'r' => ('\r', rest)
  | 'f' => ('\x0c', rest)
  | 'v' => ('\x0b', rest)
  | 'a' => ('\x07', rest)
  | 'e' => ('\x1b', rest)
  | '0' => ('\x00', rest)
  | 'x' =>
    match rest with
    | '\x7b' :: body =>
      let ds := body.takeWhile (· != '\x7d')
      (Char.ofNat (Raw.valueIn 16 ds), body.drop (ds.length + 1))
    | rest =>
      let ds := (rest.take 2).takeWhile Raw.isHex
      (Char.ofNat (Raw.valueIn 16 ds), rest.drop ds.length)
  | c => (c, rest)

/-- The members of a set after its bracket, and the rest. -/
def setItems : (fuel : Nat) → (first : Bool) → Raw → Except Fault (List SetItem × Raw)
  | 0, _, _ => .error .bracket
  | _, _, [] => .error .bracket
  | fuel + 1, first, c :: rest => do
    let one (c : Char) (rest : Raw) : Except Fault (List SetItem × Raw) := do
      match rest with
      | '-' :: d :: after =>
        if d = ']' then
          let (more, left) ← setItems fuel false rest
          return (.range c c :: more, left)
        else
          let (d, after) := if d = '\\' then escapedChar (after.headD '\\') (after.drop 1) else (d, after)
          if d < c then throw .range
          let (more, left) ← setItems fuel false after
          return (.range c d :: more, left)
      | rest =>
        let (more, left) ← setItems fuel false rest
        return (.range c c :: more, left)
    match c, rest with
    | ']', rest => if first then one c rest else return ([], rest)
    | '[', ':' :: body =>
      let name := body.takeWhile Char.isAlpha
      match body.drop name.length with
      | ':' :: ']' :: after =>
        let (more, left) ← setItems fuel false after
        return (.named (Raw.text name) :: more, left)
      | _ => one c rest
    | '\\', d :: after =>
      match letterSet? d with
      | some (false, items) =>
        let (more, left) ← setItems fuel false after
        return (items ++ more, left)
      | some (true, items) =>
        -- the characters outside a set, as ranges between its members
        let outside := (List.range 256).filterMap fun n =>
          let ch := Char.ofNat n
          if items.any (SetItem.has ch) then none else some (SetItem.range ch ch)
        let (more, left) ← setItems fuel false after
        return (outside ++ more, left)
      | none =>
        let (ch, left) := if d = 'b' then ('\x08', after) else escapedChar d after
        one ch left
    | c, rest => one c rest

/-- The bounds of a repetition after its brace, and the rest; nothing if there are none. -/
def bounds? (r : Raw) : Option (Nat × Option Nat × Raw) :=
  let low := r.takeWhile Char.isDigit
  match r.drop low.length with
  | '\x7d' :: rest => if low.isEmpty then none else some (Raw.valueIn 10 low, some (Raw.valueIn 10 low), rest)
  | ',' :: rest =>
    let high := rest.takeWhile Char.isDigit
    match rest.drop high.length with
    | '\x7d' :: rest =>
      if low.isEmpty && high.isEmpty then none
      else some (Raw.valueIn 10 low, if high.isEmpty then none else some (Raw.valueIn 10 high), rest)
    | _ => none
  | _ => none

/-- A part with what repeats it. -/
def repetition (part : RegexPart) (r : Raw) : RegexPart × Raw :=
  let put (least : Nat) (most : Option Nat) (rest : Raw) : RegexPart × Raw :=
    match rest with
    | '?' :: rest => (.spared least most part, rest)
    | '+' :: rest => (.repeated least most part, rest)
    | rest => (.repeated least most part, rest)
  match r with
  | '*' :: rest => put 0 none rest
  | '+' :: rest => put 1 none rest
  | '?' :: rest => put 0 (some 1) rest
  | '\x7b' :: body =>
    match bounds? body with
    | some (least, most, rest) => put least most rest
    | none => (part, r)
  | r => (part, r)

/-- The manner with letters switched on, from nothing if they begin with a caret. -/
def switched (m : Manner) (letters : Raw) : Manner :=
  let m : Manner := if letters.head? = some '^' then ⟨false, false, false, false⟩ else m
  ⟨m.folds || letters.contains 'i', m.lines || letters.contains 'm', m.all || letters.contains 's',
    m.spaced || letters.contains 'x'⟩

/-- Reads choices up to a closing parenthesis or the end.  `done` holds the choices that are finished and `parts` those
of the one at hand, the last first. -/
def choices : (fuel : Nat) → Place → (inner : Bool) → (done : List (List RegexPart)) → (parts : List RegexPart) →
    Except Fault (List (List RegexPart) × Place)
  | 0, _, _, _, _ => .error .size
  | fuel + 1, p, inner, done, parts => do
    let finish (left : Raw) : Except Fault (List (List RegexPart) × Place) :=
      .ok ((parts.reverse :: done).reverse, { p with left := left })
    let put (part : RegexPart) (p : Place) : Except Fault (List (List RegexPart) × Place) :=
      let (part, left) := repetition part p.left
      choices fuel { p with left := left } inner done (part :: parts)
    let bare (part : RegexPart) (left : Raw) : Except Fault (List (List RegexPart) × Place) :=
      choices fuel { p with left := left } inner done (part :: parts)
    let literal (c : Char) (left : Raw) : Except Fault (List (List RegexPart) × Place) :=
      put (.set false (p.manner.folds && c.isAlpha) [.range c c]) { p with left := left }
    let group (number : Option Nat) (p : Place) : Except Fault (List (List RegexPart) × Place) := do
      let (cs, q) ← choices fuel p true [] []
      let (part, left) := repetition (.ordered number cs) q.left
      choices fuel { q with left := left, manner := p.manner } inner done (part :: parts)
    let looks (behind negated : Bool) (left : Raw) : Except Fault (List (List RegexPart) × Place) := do
      let (cs, q) ← choices fuel { p with left := left } true [] []
      choices fuel { q with manner := p.manner } inner done (.looking behind negated cs :: parts)
    let named (close : Char) (body : Raw) : Except Fault (List (List RegexPart) × Place) :=
      let name := body.takeWhile (· != close)
      let n := p.groups + 1
      group (some n) { p with groups := n, names := p.names ++ [(name, n)], left := body.drop (name.length + 1) }
    match p.left with
    | [] => if inner then .error .group else finish []
    | c :: rest =>
      match c, rest with
      | '|', rest => choices fuel { p with left := rest } inner (parts.reverse :: done) []
      | ')', rest => if inner then finish rest else .error .closing
      | '(', '?' :: ':' :: rest => group none { p with left := rest }
      | '(', '?' :: '=' :: rest => looks false false rest
      | '(', '?' :: '!' :: rest => looks false true rest
      | '(', '?' :: '<' :: '=' :: rest => looks true false rest
      | '(', '?' :: '<' :: '!' :: rest => looks true true rest
      | '(', '?' :: 'P' :: '<' :: rest => named '>' rest
      | '(', '?' :: '<' :: rest => named '>' rest
      | '(', '?' :: '#' :: rest => choices fuel { p with left := (rest.dropWhile (· != ')')).drop 1 } inner done parts
      | '(', '?' :: rest =>
        let letters := rest.takeWhile fun c => c.isAlpha || c = '^' || c = '-'
        let on := switched p.manner (letters.takeWhile (· != '-'))
        match rest.drop letters.length with
        | ')' :: rest => choices fuel { p with left := rest, manner := on } inner done parts
        | ':' :: rest => do
          let (cs, q) ← choices fuel { p with left := rest, manner := on } true [] []
          let (part, left) := repetition (.ordered none cs) q.left
          choices fuel { q with left := left, manner := p.manner } inner done (part :: parts)
        | _ => .error .pattern
      | '(', rest => group (some (p.groups + 1)) { p with groups := p.groups + 1, left := rest }
      | '.', rest =>
        put (if p.manner.all then .any else .set true false [.range '\n' '\n']) { p with left := rest }
      | '^', rest => bare (if p.manner.lines then .lineStart else .start) rest
      | '$', rest => bare (if p.manner.lines then .lineFinish else .nearFinish) rest
      | '[', '^' :: rest =>
        let (items, left) ← setItems (rest.length + 1) true rest
        put (.set true p.manner.folds items) { p with left := left }
      | '[', rest =>
        let (items, left) ← setItems (rest.length + 1) true rest
        put (.set false p.manner.folds items) { p with left := left }
      | '*', _ | '+', _ | '?', _ => .error .repetition
      | '\\', [] => .error .backslash
      | '\\', d :: rest =>
        match letterSet? d with
        | some (negated, items) => put (.set negated false items) { p with left := rest }
        | none =>
          match d with
          | 'b' => bare (.edge true true) rest
          | 'B' => bare .noEdge rest
          | 'A' => bare .start rest
          | 'z' => bare .finish rest
          | 'Z' => bare .nearFinish rest
          | 'K' | 'Q' | 'E' | 'G' => choices fuel { p with left := rest } inner done parts
          | d =>
            if d.isDigit && d != '0' then
              let ds := (d :: rest).takeWhile Char.isDigit
              put (.again (Raw.valueIn 10 ds)) { p with left := (d :: rest).drop ds.length }
            else
              let (ch, left) := escapedChar d rest
              literal ch left
      | c, rest =>
        if p.manner.spaced && Raw.isSpace c then choices fuel { p with left := rest } inner done parts
        else if p.manner.spaced && c = '#' then
          choices fuel { p with left := rest.dropWhile (· != '\n') } inner done parts
        else literal c rest

/-- Reads an expression. -/
def ofText (m : Manner) (text : Raw) : Except Fault Ordered := do
  let (cs, p) ← choices (2 * text.length + 2) ⟨m, 0, [], text⟩ false [] []
  return ⟨⟨[[.ordered none cs]], p.groups⟩, p.names⟩

end Ordered
end RunMeter.Machine.Regex
