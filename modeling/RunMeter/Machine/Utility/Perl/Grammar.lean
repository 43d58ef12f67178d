import RunMeter.Machine.Utility.Perl.Words

/-!
# RunMeter.Machine.Utility.Perl.Grammar — values and texts with values in them

* `dollar`, `many`: variables.
* `filledText`: a text with values in it.
* `quoted?`: quoted texts.

Nothing that is proved depends on this module.
-/

namespace RunMeter.Machine.Perl

open Reader

/-- How the parts of a program are read from elsewhere. -/
structure Grammar where
  /-- An expression with the operators that bind least, and one with commas. -/
  lowest : Reader Expr
  commas : Reader Expr
  /-- An expression that may give what is at its left a value, and several with commas. -/
  assigned : Reader Expr
  items : Reader (List Expr)
  /-- An expression with operators that bind at least so closely, and one with signs before it. -/
  operated : (least : Nat) → Reader Expr
  signed : Reader Expr
  statements : Reader (List Statement)
  /-- What a sign is put before. -/
  base : Reader Base

/-- The grammar of nothing. -/
def Grammar.none : Grammar :=
  ⟨unexpected, unexpected, unexpected, unexpected, fun _ => unexpected, unexpected, unexpected, unexpected⟩

/-- The key between braces, of which the first has been taken. -/
def keyInBraces (g : Grammar) : Reader Expr := do
  let r ← ahead
  let sign := if r.head? = some '-' then ['-'] else []
  let w := nameOf (r.length + 1) (r.drop sign.length)
  let after := Raw.trimStart (r.drop (sign.length + w.length))
  if !w.isEmpty && (w.head?).any isWordStart && after.head? = some '\x7d' then
    take (r.length - after.length + 1)
    return .text (sign ++ w)
  else
    let e ← g.lowest
    expect "\x7d"
    return e

/-- Arguments in parentheses, if there are any. -/
def argumentsInParentheses (g : Grammar) : Reader (List Expr) := do
  if (← left).head? = some '(' then
    take 1
    let args ← g.items
    expect ")"
    return args
  else return []

/-- What follows a value: indices, keys, arguments and methods. -/
def subscripts (g : Grammar) : (fuel : Nat) → (inText : Bool) → Expr → Reader Expr
  | 0, _, e => return e
  | fuel + 1, inText, e => do
    let r ← if inText then left else ahead
    let isPart : Bool := match e with
      | .element .. | .entry .. | .invoke .. | .method .. => true
      | _ => false
    match r with
    | '[' :: _ =>
      if isPart && !(match e with
        | .method .. => true
        | _ => false) then
        take 1
        let i ← g.lowest
        expect "]"
        subscripts g fuel inText (.element (.through .array e) i)
      else return e
    | '\x7b' :: _ =>
      if isPart && !(match e with
        | .method .. => true
        | _ => false) then
        take 1
        let k ← keyInBraces g
        subscripts g fuel inText (.entry (.through .table e) k)
      else return e
    | '(' :: _ =>
      if isPart && !inText && !(match e with
        | .method .. => true
        | _ => false) then
        take 1
        let args ← g.items
        expect ")"
        subscripts g fuel inText (.invoke e (some args))
      else return e
    | '-' :: '>' :: rest =>
      let next := if inText then rest else Raw.trimStart rest
      match next with
      | '[' :: _ =>
        take (r.length - next.length + 1)
        let i ← g.lowest
        expect "]"
        subscripts g fuel inText (.element (.through .array e) i)
      | '\x7b' :: _ =>
        take (r.length - next.length + 1)
        let k ← keyInBraces g
        subscripts g fuel inText (.entry (.through .table e) k)
      | '@' :: '*' :: _ =>
        take (r.length - next.length + 2)
        return .through .array e
      | '%' :: '*' :: _ =>
        take (r.length - next.length + 2)
        return .through .table e
      | '$' :: '*' :: _ =>
        take (r.length - next.length + 2)
        return .through .scalar e
      | '$' :: '#' :: '*' :: _ =>
        take (r.length - next.length + 3)
        return .lastIndex (.through .array e)
      | '@' :: '[' :: _ =>
        take (r.length - next.length + 2)
        let i ← g.lowest
        expect "]"
        return .elements (.through .array e) i
      | '@' :: '\x7b' :: _ =>
        take (r.length - next.length + 2)
        let k ← g.lowest
        expect "\x7d"
        return .entries (.through .table e) k
      | '(' :: _ =>
        if inText then return e
        else
          take (r.length - next.length + 1)
          let args ← g.items
          expect ")"
          subscripts g fuel inText (.invoke e (some args))
      | '$' :: _ =>
        if inText then return e
        else
          take (r.length - next.length + 1)
          let b ← g.base
          let args ← argumentsInParentheses g
          subscripts g fuel inText (.method e [] (some (b.ofSign .scalar)) args)
      | c :: _ =>
        if inText || !isWordStart c then return e
        else
          let w := nameOf (next.length + 1) next
          take (r.length - next.length + w.length)
          let args ← argumentsInParentheses g
          subscripts g fuel inText (.method e w none args)
      | [] => return e
    | _ => return e

/-- A value with a dollar sign, which has been taken; perhaps a part of an array or a table. -/
def dollar (g : Grammar) (inText : Bool) (isPattern : Bool) : Reader Expr := do
  let r ← left
  match r with
  | '#' :: c :: _ =>
    if c = '\x7b' || c = '$' || isWordStart c then
      take 1
      let b ← g.base
      return .lastIndex (← b.used .array)
    else
      take 1
      return .name .scalar ['#']
  | _ =>
    let b ← g.base
    let r ← if inText then left else ahead
    match r with
    | '[' :: rest =>
      if isPattern && !isIndex rest then b.used .scalar
      else if inText && (rest.head? = some ']' || (rest.head?).any Raw.isSpace) then b.used .scalar
      else
        take 1
        let i ← g.lowest
        expect "]"
        let e := Expr.element (← b.used .array) i
        if isPattern then return e else subscripts g (← bound) inText e
    | '\x7b' :: rest =>
      if isPattern && isCount rest then b.used .scalar
      else
        take 1
        let k ← keyInBraces g
        subscripts g (← bound) inText (.entry (← b.used .table) k)
    | '-' :: '>' :: d :: _ =>
      if inText && (d = '[' || d = '\x7b') then subscripts g (← bound) inText (← b.used .scalar)
      else b.used .scalar
    | _ => b.used .scalar

/-- A value with an at sign, which has been taken. -/
def many (g : Grammar) : Reader Expr := do
  let b ← g.base
  match ← left with
  | '[' :: _ =>
    take 1
    let i ← g.lowest
    expect "]"
    return .elements (← b.used .array) i
  | '\x7b' :: _ =>
    take 1
    let k ← g.lowest
    expect "\x7d"
    return .entries (← b.used .table) k
  | _ => b.used .array

/-- The parts of a text with values in it, up to its end or the end of a piece that is changed. -/
def parts (g : Grammar) : (fuel : Nat) → (isPattern inner : Bool) → (taken : Raw) → Reader (List Expr)
  | 0, _, _, taken => return [.text taken.reverse]
  | fuel + 1, isPattern, inner, taken => do
    let now (more : List Expr) : List Expr := if taken.isEmpty then more else .text taken.reverse :: more
    let changed (name : String) : Reader (List Expr) := do
      modify fun p => { p with left := p.left.drop 2 }
      let body ← parts g fuel isPattern true []
      let rest ← parts g fuel isPattern inner []
      return now (.builtin name [filledOf body] :: rest)
    let changedFirst (name : String) : Reader (List Expr) := do
      modify fun p => { p with left := p.left.drop 2 }
      let rest ← parts g fuel isPattern inner []
      match rest with
      | e :: more => return now (.builtin name [e] :: more)
      | [] => return now []
    match ← left with
    | [] => return now []
    | '\\' :: c :: rest =>
      match c with
      | 'U' => changed "uc"
      | 'L' => changed "lc"
      | 'Q' => changed "quotemeta"
      | 'F' => changed "fc"
      | 'u' => changedFirst "ucfirst"
      | 'l' => changedFirst "lcfirst"
      | 'E' =>
        modify fun p => { p with left := rest }
        if inner then return now [] else parts g fuel isPattern inner taken
      | c =>
        if isPattern then
          modify fun p => { p with left := rest }
          parts g fuel isPattern inner (c :: '\\' :: taken)
        else
          let (cs, after) := escapedChar c rest
          modify fun p => { p with left := after }
          parts g fuel isPattern inner (cs.reverse ++ taken)
    | '$' :: c :: rest =>
      let isValue :=
        isWordStart c || c.isDigit || c = '\x7b' || (c = '$' && (!isPattern || (rest.head?).any isWordStart)) ||
        (c = ':' && ":".toList.isPrefixOf rest && ((rest.drop 1).head?).any isWordStart) || c = '&' ||
        (c = '#' && (rest.head?).any fun d => d = '\x7b' || d = '$' || isWordStart d) ||
        (!isPattern && "!@/\\,;.?0+^".toList.contains c)
      let isEnd := c = '^' && !(rest.head?).any Char.isUpper
      if isValue && !isEnd then
        modify fun p => { p with left := p.left.drop 1 }
        let e ← dollar g true isPattern
        return now (e :: (← parts g fuel isPattern inner []))
      else
        modify fun p => { p with left := p.left.drop 1 }
        parts g fuel isPattern inner ('$' :: taken)
    | '@' :: c :: rest =>
      let isValue :=
        isWordStart c || c = '\x7b' || (c = '$' && (rest.head?).any fun d => isWordStart d || d = '\x7b' || d = '$') ||
        (c = ':' && ":".toList.isPrefixOf rest)
      if isValue then
        modify fun p => { p with left := p.left.drop 1 }
        let e ← many g
        return now (.builtin "joined" [e] :: (← parts g fuel isPattern inner []))
      else
        modify fun p => { p with left := p.left.drop 1 }
        parts g fuel isPattern inner ('@' :: taken)
    | c :: rest =>
      modify fun p => { p with left := rest }
      parts g fuel isPattern inner (c :: taken)

/-- A text with values in it. -/
def filledText (g : Grammar) (isPattern : Bool) (r : Raw) : Reader Expr := do
  if !(r.any fun c => c = '$' || c = '@' || c = '\\') then return .text r
  else return filledOf (← within r (parts g (← bound) isPattern false []))

/-- A block of statements in braces. -/
def blockOf (g : Grammar) : Reader (List Statement) := do
  expect "\x7b"
  let ss ← inScope (g.statements)
  expect "\x7d"
  return ss

/-- The second of two quoted texts. -/
def second (c : Char) (message : String) : Reader (Char × Raw) := do
  if closing c != c then
    blanks
    delimited "string terminator"
  else
    let r ← left
    match enclosed c c 0 [] r with
    | some (body, after) =>
      take (r.length - after.length)
      return (c, body)
    | none =>
      let p ← get
      throw ⟨message.toList ++ whereabouts p ++ ".\n".toList, p.line, true⟩

/-- What a word before a quoted text means; nothing if it is none of these. -/
def quoted? (g : Grammar) (w : Raw) : Reader (Option Expr) := do
  let text := Raw.text w
  let r ← left
  let after := (r.drop w.length)
  let next := Raw.trimStart after
  let marked : Bool := match next with
    | [] => false
    | c :: more =>
      !isWordChar c && c != ',' && c != ';' && c != ')' &&
          !(c = '=' && (more.head? = some '>' || text == "s" || text == "y")) &&
        !(c = '#' && next.length < after.length) && !("=>".toList.isPrefixOf next)
  if !marked || !(["q", "qq", "qw", "qr", "qx", "m", "s", "tr", "y"].contains text) then return none
  else
    take w.length
    let r ← left
    if (r.head?).any Raw.isSpace then blanks
    match text with
    | "q" =>
      let (c, body) ← delimited "string terminator"
      return some (.text (plainText c body))
    | "qq" =>
      let (_, body) ← delimited "string terminator"
      return some (← filledText g false body)
    | "qw" =>
      let (_, body) ← delimited "string terminator"
      return some (.list ((Raw.words body).map .text))
    | "qx" =>
      let (c, body) ← delimited "string terminator"
      let e ← if c = '\'' then pure (.text body) else filledText g false body
      return some (.command e)
    | "qr" =>
      let (c, body) ← delimited "string terminator"
      let flags ← letters
      let e ← if c = '\'' then pure (.text body) else filledText g true body
      return some (.pattern e flags)
    | "m" =>
      let (c, body) ← delimited "string terminator"
      let flags ← letters
      let e ← if c = '\'' then pure (.text body) else filledText g true body
      return some (.matches false none e flags)
    | "s" =>
      let (c, body) ← delimited "string terminator"
      let (d, new) ← second c "Substitution replacement not terminated"
      let flags ← letters
      let text ← if c = '\'' then pure (.text body) else filledText g true body
      let result ← if flags.contains 'e' then do
          let ss ← within new (g.statements)
          pure (.block ss)
        else if d = '\'' then pure (.text new)
        else filledText g false new
      return some (.substitute none text result flags)
    | _ =>
      let (c, body) ← delimited "string terminator"
      let (_, new) ← second c "Transliteration replacement not terminated"
      let flags ← letters
      return some (.transliterate none (exchanged (body.length + 1) body) (exchanged (new.length + 1) new) flags)

end RunMeter.Machine.Perl
