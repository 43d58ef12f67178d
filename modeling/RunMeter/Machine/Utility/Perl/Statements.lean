import RunMeter.Machine.Utility.Perl.Terms

/-!
# RunMeter.Machine.Utility.Perl.Statements — statements as they are written

* `statement`: a statement, or those that it means.

Nothing that is proved depends on this module.
-/

namespace RunMeter.Machine.Perl

open Reader

/-- A test in parentheses. -/
def test (g : Grammar) : Reader Expr := do
  expect "("
  let e ← g.lowest
  expect ")"
  return e

/-- What follows a test and its block: other tests with blocks, and a block for all else. -/
def branches (g : Grammar) : (fuel : Nat) → Reader (List (Expr × List Statement) × List Statement)
  | 0 => return ([], [])
  | fuel + 1 => do
    if ← takesWord "elsif" then
      let e ← test g
      let body ← blockOf g
      let (more, otherwise) ← branches g fuel
      return ((e, body) :: more, otherwise)
    else if ← takesWord "else" then return ([], ← blockOf g)
    else return ([], [])

/-- A test that reads a line gives it to the usual variable and asks if there was one. -/
def readsLine (e : Expr) : Expr :=
  match e with
  | .readLine _ | .readFiles | .builtin "readline" _ | .builtin "readdir" _ | .builtin "shift" _ | .builtin "each" _ =>
    match e with
    | .builtin "shift" _ | .builtin "each" _ => e
    | e => .builtin "defined" [.assign none (.name .scalar ['_']) e]
  | .assign none t v =>
    match v with
    | .readLine _ | .readFiles | .builtin "readline" _ | .builtin "readdir" _ =>
      match t with
      | .list _ => e
      | .declare _ _ true => e
      | t => .builtin "defined" [.assign none t v]
    | _ => e
  | e => e

/-- A loop after its word. -/
def loopOf (g : Grammar) (line : Nat) (label : Option Raw) (word : String) : Reader (List Statement) := do
  if word == "while" || word == "until" then
    expect "("
    let e : Option Expr ← if (← ahead).head? = some ')' then pure none else some <$> g.lowest
    expect ")"
    let body ← blockOf g
    let after ← if ← takesWord "continue" then blockOf g else pure []
    let e := if word == "until" then e.map .not else e.map readsLine
    return [.loop line label e body after]
  else
    let isOwn ← takesWord "my"
    let isOwn ← if isOwn then pure true else takesWord "our"
    let r ← ahead
    match r with
    | '$' :: rest =>
      let w := nameOf (rest.length + 1) rest
      take (w.length + 1)
      expect "("
      let es ← g.items
      expect ")"
      if isOwn then makeKnown .scalar w else noteUse .scalar w
      let body ← blockOf g
      return [.each line label isOwn (shortName w) (.list es) body]
    | _ =>
      expect "("
      let first : Option Expr ← if (← ahead).head? = some ';' then pure none
        else if (← ahead).head? = some ')' then pure (some (.list []))
        else some <$> g.lowest
      if ← takes ";" then
        let e : Option Expr ← if (← ahead).head? = some ';' then pure none else some <$> g.lowest
        expect ";"
        let step : Option Expr ← if (← ahead).head? = some ')' then pure none else some <$> g.lowest
        expect ")"
        let body ← blockOf g
        return [.count line label first (e.map readsLine) step body]
      else
        expect ")"
        let body ← blockOf g
        let _ ← if ← takesWord "continue" then blockOf g else pure []
        return [.each line label false ['_'] (first.getD (.list [])) body]

/-- What a word that makes a module known does. -/
def useOf (g : Grammar) (line : Nat) : Reader (List Statement) := do
  let r ← ahead
  if (r.head?).any Char.isDigit || (r.head? = some 'v' && ((r.drop 1).head?).any Char.isDigit) then
    let version := r.takeWhile fun c => c.isAlphanum || c = '.' || c = '_'
    take version.length
    modify fun p => { p with speaks := true }
    return []
  else
    let w ← peekName
    take w.length
    let name := Raw.text w
    let r ← ahead
    let version := if (r.head?).any Char.isDigit then r.takeWhile fun c => c.isDigit || c = '.' || c = '_' else []
    take version.length
    if name == "strict" then modify fun p => { p with strict := true, firm := true }
    if name == "vars" then
      let es ← g.items
      for n in es.flatMap namesIn do
        modify fun p => { p with known := n :: p.known }
      return []
    else if name == "constant" then
      let es ← g.items
      constants es line
    else
      let es ← g.items
      let wanted := es.flatMap namesIn
      match modules.find? fun m => m.1 == name && !absentModules.contains name with
      | none =>
        let p ← get
        let path := Raw.text (Raw.joined ['/'] (partsOf w)) ++ ".pm"
        throw ⟨("Can't locate " ++ path ++ " in @INC (you may need to install the " ++ name ++ " module) (@INC contains: " ++
          "/etc/perl /usr/local/lib/x86_64-linux-gnu/perl/5.36.0 /usr/local/share/perl/5.36.0 /usr/lib/x86_64-linux-gnu/perl5/5.36 " ++
          "/usr/share/perl5 /usr/lib/x86_64-linux-gnu/perl-base /usr/lib/x86_64-linux-gnu/perl/5.36 /usr/share/perl/5.36 " ++
          "/usr/local/lib/site_perl)").toList ++ whereabouts p ++ ".\nBEGIN failed--compilation aborted".toList ++ whereabouts p ++
          ".\n".toList, 2, true⟩
      | some (_, functions) =>
        let usual := functions.filterMap fun f => if f.startsWith "*" then some (f.toList.drop 1) else none
        let all := functions.map fun f => if f.startsWith "*" then f.toList.drop 1 else f.toList
        let asked := if es.isEmpty then usual
          else if wanted.any fun n => n.head? = some ':' then all
          else all.filter wanted.contains
        modify fun p => { p with
          imported := asked ++ p.imported
          speaks := p.speaks || (name == "feature" && wanted.any fun n => n = "say".toList || n.head? = some ':') }
        let kinds := Expr.name .array (kindsOf (← get).package)
        if name == "parent" || name == "base" then
          return [.value line (.builtin "push" [kinds, .list ((wanted.filter (· != "-norequire".toList)).map .text)])]
        else return []
where
  /-- The array of the kinds that a package takes methods from. -/
  kindsOf (package : Raw) : Raw := shortName (package ++ "::ISA".toList)
  /-- The parts of a name between colons. -/
  partsOf (w : Raw) : List Raw := (Raw.splitAt ':' w).filter (!·.isEmpty)
  /-- The texts in an expression. -/
  namesIn : Expr → List Raw
    | .text r => [r]
    | .list es => es.filterMap fun e => match e with
      | .text r => some r
      | _ => none
    | .builtin "split" [_, .text r] => Raw.splitAt ',' r
    | _ => []
  /-- Names for values. -/
  constants (es : List Expr) (line : Nat) : Reader (List Statement) := do
    let define (n : Raw) (values : List Expr) : Reader Statement := do
      modify fun p => { p with constants := n :: p.constants }
      return .define (← functionName n) [.value line (.list values)]
    match es with
    | [.newTable es] =>
      let rec each : List Expr → Reader (List Statement)
        | .text n :: v :: rest => do
          let s ← define n [v]
          return s :: (← each rest)
        | _ => return []
      each es
    | .text n :: values => return [← define n values]
    | _ => return []

/-- An expression as a statement, with what may follow it. -/
def simple (g : Grammar) (line : Nat) : Reader (List Statement) := do
  let e ← g.lowest
  let w ← peekName
  let s : Statement ← match Raw.text w with
    | "if" => do
      take w.length
      let t ← g.lowest
      pure (.value line (.both t e))
    | "unless" => do
      take w.length
      let t ← g.lowest
      pure (.value line (.either t e))
    | "while" | "until" => do
      take w.length
      let t ← g.lowest
      let t := if w = "until".toList then .not t else readsLine t
      match e with
      | .block _ => pure (.loopAfter line e t)
      | e => pure (.loop line none (some t) [.value line e] [])
    | "for" | "foreach" => do
      take w.length
      let t ← g.lowest
      pure (.each line none false ['_'] t [.value line e])
    | _ => pure (.value line e)
  let r ← ahead
  match r with
  | ';' :: _ =>
    take 1
    return [s]
  | '\x7d' :: _ => return [s]
  | [] => return [s]
  | _ => unexpected

/-- A statement, or those that it means. -/
def statement (g : Grammar) : Reader (List Statement) := do
  let r ← ahead
  let line := (← get).line
  let w ← peekName
  let after := Raw.trimStart (r.drop w.length)
  let text := Raw.text w
  let isArrow := "=>".toList.isPrefixOf after
  match r with
  | '\x7b' :: _ => return [.block none (← blockOf g)]
  | _ =>
  if !w.isEmpty && after.head? = some ':' && !("::".toList.isPrefixOf after) && !ownWords.contains text &&
      !(w.contains ':') then
    take (r.length - after.length + 1)
    let inner ← peekName
    match Raw.text inner with
    | "while" | "until" | "for" | "foreach" =>
      take inner.length
      inScope (loopOf g line (some w) (Raw.text inner))
    | _ =>
      if (← ahead).head? = some '\x7b' then return [.block (some w) (← blockOf g)]
      else return []
  else if isArrow then simple g line
  else match text with
    | "sub" =>
      if (after.head?).any isWordStart then
        take 3
        let n ← peekName
        take n.length
        let taken ← parameters
        let body ← blockOf g
        modify fun p => { p with defined := n :: p.defined }
        return [.define (← functionName n) (taken ++ body)]
      else simple g line
    | "if" | "unless" =>
      take w.length
      let e ← test g
      let body ← blockOf g
      let (more, otherwise) ← branches g (← bound)
      return [.choice line ((if text == "unless" then .not e else e, body) :: more) otherwise]
    | "while" | "until" | "for" | "foreach" =>
      take w.length
      inScope (loopOf g line none text)
    | "package" =>
      take w.length
      let n ← peekName
      take n.length
      if (← ahead).head? = some '\x7b' then
        let before := (← get).package
        modify fun p => { p with package := n }
        let body ← blockOf g
        modify fun p => { p with package := before }
        return [.package n (some body)]
      else
        modify fun p => { p with package := n }
        return [.package n none]
    | "use" =>
      take w.length
      useOf g line
    | "no" =>
      take w.length
      let n ← peekName
      take n.length
      let es ← g.items
      if n = "strict".toList then
        modify fun p => { p with firm := false, strict := p.strict && !es.isEmpty }
      return []
    | "BEGIN" | "INIT" | "CHECK" | "UNITCHECK" =>
      if after.head? = some '\x7b' then
        take w.length
        return [.atStart (← blockOf g)]
      else simple g line
    | "END" =>
      if after.head? = some '\x7b' then
        take w.length
        return [.atEnd r.length (← blockOf g)]
      else simple g line
    | _ => simple g line

end RunMeter.Machine.Perl
