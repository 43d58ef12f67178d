import RunMeter.Machine.Utility.Perl.Grammar

/-!
# RunMeter.Machine.Utility.Perl.Terms — values that begin with a word or a sign

* `wordValue`: a value that begins with a word.
* `primary`: a value.

Nothing that is proved depends on this module.
-/

namespace RunMeter.Machine.Perl

open Reader

/-- A name that is made known. -/
def declaredName : Reader (Option (Sign × Raw)) := do
  let r ← ahead
  let named (sign : Sign) (rest : Raw) : Reader (Option (Sign × Raw)) := do
    let w := nameOf (rest.length + 1) rest
    if w.isEmpty then unexpected
    else
      take (w.length + 1)
      makeKnown sign w
      return some (sign, w)
  match r with
  | '$' :: rest => named .scalar rest
  | '@' :: rest => named .array rest
  | '%' :: rest => named .table rest
  | _ => if ← takesWord "undef" then return none else unexpected

/-- Names that are made known, in parentheses. -/
def declaredNames : (fuel : Nat) → Reader (List (Option (Sign × Raw)))
  | 0 => return []
  | fuel + 1 => do
    if ← takes ")" then return []
    else if ← takes "," then declaredNames fuel
    else
      let n ← declaredName
      return n :: (← declaredNames fuel)

/-- Names that are made known. -/
def declared (how : Declaration) : Reader Expr := do
  if ← takes "(" then
    let names ← declaredNames (← bound)
    return .declare how names true
  else return .declare how [← declaredName] false

/-- What gives the arguments of a function the names between parentheses, if they are names. -/
def parameters : Reader (List Statement) := do
  if (← ahead).head? = some '(' then
    let line := (← get).line
    let (_, body) ← delimited "string terminator"
    if body.any Char.isAlpha then
      let bare := (Raw.splitAt ',' body).map fun r => Raw.trim (r.takeWhile (· != '='))
      let names ← within (Raw.joined [','] bare ++ [')']) (declaredNames (← bound))
      return [.value line (.assign none (.declare .own names true) (.name .array ['_']))]
    else return []
  else return []

/-- The arguments of a function of any number of values. -/
def arguments (g : Grammar) : Reader (List Expr) := do
  if ← takes "(" then
    let args ← g.items
    expect ")"
    return args
  else if ← startsValue then g.items
  else return []

/-- The argument of a function of at most one value. -/
def argument (g : Grammar) : Reader (List Expr) := do
  if ← takes "(" then
    let args ← g.items
    expect ")"
    return args
  else if ← startsValue then return [← g.operated 10]
  else return []

/-- The outlet that comes before the values, if there is one. -/
def outlet? (g : Grammar) : Reader (Option Expr) := do
  let r ← ahead
  match r with
  | '\x7b' :: _ =>
    take 1
    let body ← g.statements
    expect "\x7d"
    match body with
    | [.value _ e] => return some e
    | body => return some (.block body)
  | '$' :: c :: rest =>
    if isWordStart c then
      let w := nameOf (rest.length + 2) (c :: rest)
      let after := (c :: rest).drop w.length
      match after with
      | ' ' :: d :: more =>
        let isWord := isWordStart d && !(lowWords.contains (Raw.text (nameOf (more.length + 2) (d :: more))))
        if isWord || d.isDigit || d = '"' || d = '\'' || d = '$' || d = '@' || d = '\\' ||
            (d = '<' && more.head? = some '<') then
          take (w.length + 1)
          return some (.name .scalar (shortName w))
        else return none
      | _ => return none
    else return none
  | c :: _ =>
    if isWordStart c then
      let w := nameOf (r.length + 1) r
      let after := r.drop w.length
      let next := Raw.trimStart after
      let p ← get
      let isName :=
        !ownWords.contains (Raw.text w) && !p.defined.contains w && !p.constants.contains w && !p.imported.contains w &&
        !(":".toList.isPrefixOf after) && w.all fun d => d.isUpper || d.isDigit || d = '_'
      let ends := match next with
        | [] => true
        | '-' :: '>' :: _ | '=' :: '>' :: _ => false
        | d :: _ => !("(,.=+*/?[".toList.contains d)
      if isName && ends && !(w.length > 1 && w.head? = some '_') then
        take w.length
        return some (.bare w)
      else return none
    else return none
  | [] => return none

/-- The outlet and the values of something that writes. -/
def written (g : Grammar) (how : String) : Reader Expr := do
  let r ← ahead
  match r with
  | '(' :: _ =>
    take 1
    let outlet ← outlet? g
    let args ← g.items
    expect ")"
    return .print how outlet args
  | _ =>
    let outlet ← outlet? g
    let args ← if ← startsValue then g.items else pure []
    return .print how outlet args

/-- The piece of program that a function of a piece of program begins with, if it is one; braces may be those of a
table. -/
def blockArgument? (g : Grammar) : Reader (Option (List Statement)) := do
  let r ← ahead
  match r with
  | '\x7b' :: rest =>
    match enclosed '\x7b' '\x7d' 0 [] rest with
    | some (_, after) =>
      if (Raw.trimStart after).head? = some ',' then return none
      else return some (← blockOf g)
    | none => return some (← blockOf g)
  | _ => return none

/-- A function of a piece of program and values. -/
def withBlock (g : Grammar) (name : String) : Reader Expr := do
  let closed ← takes "("
  let e ← match ← blockArgument? g with
    | some body => do
      let _ ← takes ","
      let args ← g.items
      pure (.withBlock name body args)
    | none => do
      if name == "sort" then
        let r ← ahead
        let isCode : Bool := match r with
          | '$' :: rest =>
            let w := nameOf (rest.length + 1) rest
            let after := rest.drop w.length
            !w.isEmpty && after.head? = some ' ' && ((after.drop 1).head?).any fun d => d = '@' || d = '(' || isWordStart d
          | c :: _ =>
            let w := nameOf (r.length + 1) r
            isWordStart c && !ownWords.contains (Raw.text w) && ((r.drop w.length).head? = some ' ') &&
              ((r.drop (w.length + 1)).head?).any fun d => d = '@' || isWordStart d || d = '('
          | [] => false
        if isCode then
          let code ← match r with
            | '$' :: _ => do
              take 1
              let b ← g.base
              pure (Expr.invoke (b.ofSign .scalar) none)
            | _ => do
              let w ← peekName
              take w.length
              pure (Expr.call (← functionName w) none)
          let args ← g.items
          pure (.withBlock name [.value (← get).line code] args)
        else pure (.builtin name (← g.items))
      else
        let all ← g.items
        match all with
        | first :: rest =>
          if name == "map" || name == "grep" then pure (.withBlock name [.value (← get).line first] rest)
          else pure (.builtin name all)
        | [] => pure (.builtin name [])
  if closed then expect ")"
  return e

/-- Ends reading where a value follows a word that does nothing with values. -/
def foundValue {α : Type} (w : Raw) : Reader α := do
  let r ← ahead
  let p ← get
  let piece := pieceOf r
  let near := w ++ ' ' :: piece
  let what := match r with
    | '"' :: _ | '\'' :: _ => "String"
    | '$' :: _ => "Scalar"
    | '@' :: _ => "Array"
    | c :: _ => if c.isDigit then "Number" else "Bareword"
    | [] => "String"
  throw ⟨what.toList ++ " found where operator expected".toList ++ whereabouts p ++ ", near \"".toList ++ near ++
    "\"\n\t(Do you need to predeclare ".toList ++
    w ++ "?)\nsyntax error".toList ++ whereabouts p ++ ", near \"".toList ++ near ++ "\"\n".toList, p.line, false⟩

/-- A value that begins with a word. -/
def wordValue (g : Grammar) (w : Raw) : Reader Expr := do
  let r ← ahead
  let p ← get
  let after := Raw.trimStart (r.drop w.length)
  let text := Raw.text w
  if "=>".toList.isPrefixOf after then
    take w.length
    return .text w
  match ← quoted? g w with
  | some e => return e
  | none =>
  let known := !(w.contains ':') && !(p.defined.contains w && !ownWords.contains text)
  take w.length
  match text with
  | "my" => declared .own
  | "our" => declared .shared
  | "state" => declared .lasting
  | "local" => return .localized (← g.signed)
  | "do" =>
    if (← ahead).head? = some '\x7b' then return .block (← blockOf g)
    else return .builtin "do" (← argument g)
  | "eval" =>
    if (← ahead).head? = some '\x7b' then return .attempt (← blockOf g)
    else return .builtin "eval" (← argument g)
  | "sub" =>
    let taken ← parameters
    return .newCode (taken ++ (← blockOf g))
  | "return" =>
    if ← startsValue then return .give (some (← g.commas)) else return .give none
  | "next" => return .leave .next (← label?)
  | "last" => return .leave .last (← label?)
  | "redo" => return .leave .redo (← label?)
  | "print" | "printf" => written g text
  | "say" =>
    if p.speaks then written g text
    else if ← startsValue then foundValue w
    else return .bare w
  | "map" | "grep" | "sort" => withBlock g text
  | "__FILE__" => return .text p.file
  | "__LINE__" => return .int p.line
  | "__PACKAGE__" => return .text p.package
  | "wantarray" | "time" | "times" | "wait" | "getppid" | "fork" | "getlogin" =>
    if ← takes "(" then expect ")"
    return .builtin (if text == "time" && p.imported.contains "time".toList then "Time::HiRes::time" else text) []
  | "defined" | "exists" | "delete" | "scalar" | "undef" =>
    return .builtin text (← argument g)
  | "shift" | "pop" =>
    let args ← argument g
    return .builtin text args
  | "__END__" | "__DATA__" =>
    modify fun p => { p with left := [] }
    return .list []
  | _ =>
    if known && unaryNames.contains text then
      let name :=
        if p.imported.contains w && (text == "sleep" || text == "alarm") then "Time::HiRes::" ++ text else text
      return .builtin name (← argument g)
    else if known && listNames.contains text then return .builtin text (← arguments g)
    else if p.constants.contains w then
      if ← takes "(" then expect ")"
      return .call (← functionName w) (some [])
    else if p.imported.contains w && blockNames.contains text then withBlock g text
    else if p.imported.contains w then
      if "*".toList.isPrefixOf w then return .bare w
      else if text.toList.all fun c => c.isUpper || c = '_' || c.isDigit then
        if (← left).head? = some '(' then return .builtin text (← arguments g) else return .builtin text []
      else return .builtin text (← arguments g)
    else if "CORE::".toList.isPrefixOf w then
      let inner := Raw.text (w.drop 6)
      return .builtin inner (← if unaryNames.contains inner then argument g else arguments g)
    else if "->".toList.isPrefixOf after then return .bare w
    else if after.head? = some '(' then
      expect "("
      let args ← g.items
      expect ")"
      return .call (← functionName w) (some args)
    else if "::".toList.isPrefixOf after then
      take 2
      return .text w
    else if p.defined.contains w then return .call (← functionName w) (some (← arguments g))
    else
      -- a name of something that is made, a call of what is not known, or a word by itself
      match after with
      | c :: _ =>
        if isWordStart c && !ownWords.contains (Raw.text (nameOf (after.length + 1) after)) && !w.contains ':' then
          let kind ← peekName
          take kind.length
          return .method (.bare kind) w none (← arguments g)
        else if c = '"' || c = '\'' || c = '$' || c = '@' || c.isDigit then
          if w.all fun d => d.isUpper || d = '_' then return .bare w else foundValue w
        else return .bare w
      | [] => return .bare w

/-- The values in parentheses, of which the first has been taken. -/
def inParentheses (g : Grammar) : Reader (List Expr) := do
  if ← takes ")" then return []
  else
    let e ← g.lowest
    expect ")"
    match e with
    | .list es => return es
    | e => return [e]

/-- A value. -/
def primary (g : Grammar) : Reader Expr := do
  let r ← ahead
  match r with
  | [] => unexpected
  | '$' :: _ =>
    take 1
    dollar g false false
  | '@' :: _ =>
    take 1
    many g
  | '%' :: c :: _ =>
    if isWordStart c || c = '$' || c = '\x7b' || c = '+' || c = ':' then
      take 1
      let b ← g.base
      match ← left with
      | '\x7b' :: _ =>
        take 1
        let k ← g.lowest
        expect "\x7d"
        return .pairs true (← b.used .table) k
      | '[' :: _ =>
        take 1
        let k ← g.lowest
        expect "]"
        return .pairs false (← b.used .array) k
      | _ => b.used .table
    else unexpected
  | '&' :: c :: _ =>
    if isWordStart c || c = '$' || c = '\x7b' then
      take 1
      let b ← g.base
      let args : Option (List Expr) ← if (← ahead).head? = some '(' then do
          take 1
          let args ← g.items
          expect ")"
          pure (some args)
        else pure none
      match b with
      | .named n => return .call (← functionName n) args
      | .led e => return .invoke e args
    else unexpected
  | '*' :: c :: rest =>
    if isWordStart c then
      let w := nameOf (rest.length + 2) (c :: rest)
      take (w.length + 1)
      return .name .handle (shortName w)
    else if c = '\x7b' then
      take 1
      let b ← g.base
      return b.ofSign .handle
    else unexpected
  | '(' :: _ =>
    take 1
    let es ← inParentheses g
    if (← ahead).head? = some '[' then
      take 1
      let i ← g.lowest
      expect "]"
      return .pick (.list es) i
    else return .list es
  | '[' :: _ =>
    take 1
    let es ← g.items
    expect "]"
    return .newArray es
  | '\x7b' :: _ =>
    take 1
    let es ← g.items
    expect "\x7d"
    return .newTable es
  | '"' :: _ =>
    let (_, body) ← delimited "string terminator"
    filledText g false body
  | '\'' :: _ =>
    let (_, body) ← delimited "string terminator"
    return .text (plainText '\'' body)
  | '`' :: _ =>
    let (_, body) ← delimited "string terminator"
    return .command (← filledText g false body)
  | '/' :: _ =>
    let (_, body) ← delimited "search pattern"
    let flags ← letters
    return .matches false none (← filledText g true body) flags
  | '<' :: '<' :: c :: rest =>
    if c = '"' || c = '\'' || c = '~' || isWordStart c then
      let indented := c = '~'
      let r := if indented then Raw.trimStart rest else c :: rest
      match r with
      | q :: more =>
        if q = '"' || q = '\'' then
          match enclosed q q 0 [] more with
          | some (ending, after) =>
            take ((← left).length - after.length)
            let body ← hereText ending indented
            if q = '\'' then return .text body else filledText g false body
          | none => unexpected
        else
          let ending := nameOf (r.length + 1) r
          take ((← left).length - (r.length - ending.length))
          let body ← hereText ending indented
          filledText g false body
      | [] => unexpected
    else if c = '>' then
      take 4
      return .readFiles
    else unexpected
  | '<' :: rest =>
    let inner := rest.takeWhile (· != '>')
    match rest.drop inner.length with
    | _ :: _ =>
      take (inner.length + 2)
      match inner with
      | [] => return .readFiles
      | '$' :: w =>
        if !w.isEmpty && w.all isWordChar then return .readLine (.name .scalar w)
        else return .builtin "glob" [← filledText g false inner]
      | w =>
        if w.all fun c => isWordChar c || c = ':' then
          return if w = "ARGV".toList then .readFiles else .readLine (.bare (shortName w))
        else return .builtin "glob" [← filledText g false inner]
    | [] => unexpected
  | '.' :: c :: _ => if c.isDigit then number else unexpected
  | c :: _ =>
    if c.isDigit then number
    else if isWordStart c then wordValue g (nameOf (r.length + 1) r)
    else if c = '-' then
      -- after a comma or a parenthesis a sign has been seen to already
      g.signed
    else unexpected

end RunMeter.Machine.Perl
