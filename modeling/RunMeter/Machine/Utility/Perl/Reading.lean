import RunMeter.Machine.Utility.Perl.Statements

/-!
# RunMeter.Machine.Utility.Perl.Reading — Perl programs as they are written

* `programOf`: the statements of a program, or what is wrong with it.

Nothing that is proved depends on this module.
-/

namespace RunMeter.Machine.Perl

open Reader

mutual

/-- The grammar of programs. -/
def grammar : (fuel : Nat) → Grammar
  | 0 => Grammar.none
  | fuel + 1 =>
    { lowest := lowest fuel
      commas := commas fuel
      assigned := assigned fuel
      items := items fuel
      operated := fun least => operated fuel least
      signed := signed fuel
      statements := statements fuel
      base := base fuel }

/-- An expression with the operators that bind least. -/
def lowest : (fuel : Nat) → Reader Expr
  | 0 => unexpected
  | fuel + 1 => do
    let a ← lowBoth fuel
    lowestRest fuel a

/-- What follows the first part of such an expression. -/
def lowestRest : (fuel : Nat) → Expr → Reader Expr
  | 0, a => return a
  | fuel + 1, a => do
    if ← takesWord "or" then
      let b ← lowBoth fuel
      lowestRest fuel (.either a b)
    else if ← takesWord "xor" then
      let b ← lowBoth fuel
      lowestRest fuel (.exclusive a b)
    else return a

/-- Expressions that must both hold. -/
def lowBoth : (fuel : Nat) → Reader Expr
  | 0 => unexpected
  | fuel + 1 => do
    let a ← lowNot fuel
    lowBothRest fuel a

/-- What follows the first of them. -/
def lowBothRest : (fuel : Nat) → Expr → Reader Expr
  | 0, a => return a
  | fuel + 1, a => do
    if ← takesWord "and" then
      let b ← lowNot fuel
      lowBothRest fuel (.both a b)
    else return a

/-- An expression that must not hold, or one with commas. -/
def lowNot : (fuel : Nat) → Reader Expr
  | 0 => unexpected
  | fuel + 1 => do
    if ← takesWord "not" then return .not (← lowNot fuel)
    else commas fuel

/-- Expressions with commas between them. -/
def commas : (fuel : Nat) → Reader Expr
  | 0 => unexpected
  | fuel + 1 => do
    let a ← assigned fuel
    let r ← ahead
    if r.head? = some ',' || "=>".toList.isPrefixOf r then return .list (a :: (← moreItems fuel))
    else return a

/-- The items after a first one, each with a comma before it. -/
def moreItems : (fuel : Nat) → Reader (List Expr)
  | 0 => return []
  | fuel + 1 => do
    if (← takes ",") || (← takes "=>") then
      let r ← ahead
      if r.head? = some ',' || (← atEnd) then moreItems fuel
      else
        let e ← assigned fuel
        return e :: (← moreItems fuel)
    else return []

/-- Items up to something that ends them. -/
def items : (fuel : Nat) → Reader (List Expr)
  | 0 => return []
  | fuel + 1 => do
    let r ← ahead
    if (← atEnd) && r.head? != some ',' then return []
    else if r.head? = some ',' then
      take 1
      items fuel
    else
      let e ← assigned fuel
      return e :: (← moreItems fuel)

/-- An expression that may give what is at its left a value. -/
def assigned : (fuel : Nat) → Reader Expr
  | 0 => unexpected
  | fuel + 1 => do
    let a ← chosen fuel
    match updateAt? (← ahead) with
    | some (u, n) =>
      take n
      return .assign u a (← assigned fuel)
    | none => return a

/-- An expression that may choose between two. -/
def chosen : (fuel : Nat) → Reader Expr
  | 0 => unexpected
  | fuel + 1 => do
    let a ← operated fuel 2
    if ← takes "?" then
      let b ← assigned fuel
      expect ":"
      return .choice a b (← assigned fuel)
    else return a

/-- An expression with operators that bind at least so closely. -/
def operated : (fuel : Nat) → (least : Nat) → Reader Expr
  | 0, _ => unexpected
  | fuel + 1, least => do
    let a ← signed fuel
    operatedRest fuel least a

/-- What follows the first operand. -/
def operatedRest : (fuel : Nat) → (least : Nat) → Expr → Reader Expr
  | 0, _, a => return a
  | fuel + 1, least, a => do
    match infixAt? (← ahead) with
    | none => return a
    | some (op, level, n) =>
      if level < least || level = 15 then return a
      else
        take n
        let b ← operated fuel (level + 1)
        let e : Expr := match op, a, b with
          | .plain .repeated, .list es, b => .listTimes es b
          | .plain op, a, b => .binary op a b
          | .both, a, b => .both a b
          | .either, a, b => .either a b
          | .orDefined, a, b => .orDefined a b
          | .range, a, b => .range a b
          | .bound negated, a, .matches inner none t flags => .matches (inner != negated) (some a) t flags
          | .bound _, a, .substitute none t new flags => .substitute (some a) t new flags
          | .bound _, a, .transliterate none x y flags => .transliterate (some a) x y flags
          | .bound negated, a, b => .matches negated (some a) b []
        operatedRest fuel least e

/-- An expression with signs before it. -/
def signed : (fuel : Nat) → Reader Expr
  | 0 => unexpected
  | fuel + 1 => do
    let r ← ahead
    match r with
    | '!' :: '~' :: _ => unexpected
    | '!' :: _ =>
      take 1
      return .not (← signed fuel)
    | '~' :: _ =>
      take 1
      return .complement (← signed fuel)
    | '\\' :: _ =>
      take 1
      return .reference (← signed fuel)
    | '-' :: '-' :: _ | '+' :: '+' :: _ => powered fuel
    | '+' :: _ =>
      take 1
      signed fuel
    | '-' :: c :: rest =>
      let isTest := "edfrwxszlpSbctugkoRWXOTBAMC".toList.contains c && !(rest.head?).any isWordChar &&
        !("=>".toList.isPrefixOf (Raw.trimStart rest)) && !(rest.head? = some ',')
      if isTest then
        take 2
        if ← startsValue then return .fileTest c (← operated fuel 14) else return .fileTest c (.name .scalar ['_'])
      else if isWordStart c then
        let w := nameOf (r.length + 1) (c :: rest)
        let p ← get
        if ownWords.contains (Raw.text w) || p.constants.contains w || p.defined.contains w ||
            p.imported.contains w then
          take 1
          return .negative (← signed fuel)
        else
          take (w.length + 1)
          return .text ('-' :: w)
      else
        take 1
        return .negative (← signed fuel)
    | _ => powered fuel

/-- An expression that may be to the power of another. -/
def powered : (fuel : Nat) → Reader Expr
  | 0 => unexpected
  | fuel + 1 => do
    let a ← step fuel
    let r ← ahead
    match infixAt? r with
    | some (op, 15, n) =>
      take n
      let b ← signed fuel
      match op with
      | .plain op => return .binary op a b
      | _ => return a
    | _ => return a

/-- An expression that may be stepped up or down. -/
def step : (fuel : Nat) → Reader Expr
  | 0 => unexpected
  | fuel + 1 => do
    let r ← ahead
    match r with
    | '+' :: '+' :: _ =>
      take 2
      return .step true true (← step fuel)
    | '-' :: '-' :: _ =>
      take 2
      return .step false true (← step fuel)
    | _ =>
      let e ← primary (grammar fuel)
      let e ← subscripts (grammar fuel) (← bound) false e
      let r ← ahead
      match r with
      | '+' :: '+' :: _ =>
        take 2
        return .step true false e
      | '-' :: '-' :: _ =>
        take 2
        return .step false false e
      | _ => return e

/-- What a sign is put before. -/
def base : (fuel : Nat) → Reader Base
  | 0 => unexpected
  | fuel + 1 => do
    match ← left with
    | '\x7b' :: rest =>
      let body := Raw.trimStart rest
      let w := match body with
        | '^' :: more => '^' :: more.takeWhile isWordChar
        | body => nameOf (body.length + 1) body
      let after := Raw.trimStart (body.drop w.length)
      if !w.isEmpty && after.head? = some '\x7d' then
        take (rest.length + 1 - after.length + 1)
        return .named (shortName w)
      else
        take 1
        let body ← statements fuel
        expect "\x7d"
        match body with
        | [.value _ e] => return .led e
        | body => return .led (.block body)
    | '$' :: rest =>
      match rest with
      | c :: _ =>
        if isWordStart c || c = '$' || c = '\x7b' || c = ':' then
          take 1
          let b ← base fuel
          return .led (← b.used .scalar)
        else
          take 1
          return .named ['$']
      | [] =>
        take 1
        return .named ['$']
    | '^' :: c :: _ =>
      if c.isUpper then
        take 2
        return .named ['^', c]
      else
        take 1
        return .named ['^']
    | ':' :: ':' :: rest =>
      let w := nameOf (rest.length + 1) rest
      take (w.length + 2)
      return .named (shortName w)
    | c :: rest =>
      if isWordStart c then
        let w := nameOf (rest.length + 2) (c :: rest)
        take w.length
        return .named (shortName w)
      else if c.isDigit then
        let ds := (c :: rest).takeWhile Char.isDigit
        take ds.length
        return .named ds
      else if Raw.isSpace c then unexpected
      else
        take 1
        return .named [c]
    | [] => unexpected

/-- Statements up to a closing brace or the end. -/
def statements : (fuel : Nat) → Reader (List Statement)
  | 0 => return []
  | fuel + 1 => do
    let r ← ahead
    match r with
    | [] => return []
    | '\x7d' :: _ => return []
    | ';' :: _ =>
      take 1
      statements fuel
    | _ =>
      let ss ← statement (grammar fuel)
      return ss ++ (← statements fuel)

end

/-- The names of the functions that a text defines. -/
def definedIn : (fuel : Nat) → Raw → List Raw
  | 0, _ => []
  | fuel + 1, r =>
    match Raw.after? "sub ".toList r with
    | none => []
    | some rest =>
      let body := Raw.trimStart rest
      let w := nameOf (body.length + 1) body
      if w.isEmpty then definedIn fuel rest else w :: definedIn fuel rest

/-- The text of a program, and what follows its end if something does. -/
def withoutData : (fuel : Nat) → (taken : Raw) → Raw → Raw × Option Raw
  | 0, taken, r => (taken.reverse ++ r, none)
  | _, taken, [] => (taken.reverse, none)
  | fuel + 1, taken, r =>
    let line := r.takeWhile (· != '\n')
    let rest := r.drop line.length
    if line = "__END__".toList || line = "__DATA__".toList then (taken.reverse, some (rest.drop 1))
    else withoutData fuel ((line ++ rest.take 1).reverse ++ taken) (rest.drop 1)

/-- The statements of a text, with what is known before it. -/
def statementsOf (p : Place) : Except Fault (List Statement × Place) := do
  let whole : Reader (List Statement) := do
    let ss ← statements (8 * p.left.length + 400)
    let r ← ahead
    let q ← get
    if r.isEmpty then
      if q.complaints.isEmpty then return ss else throw ⟨q.complaints.reverse.flatten, q.line, false⟩
    else
      throw ⟨"Unmatched right curly bracket".toList ++ whereabouts q ++ ", at end of line\nsyntax error".toList ++ whereabouts q ++
        ", near \"".toList ++ r.take 1 ++ "\"\n".toList, q.line, false⟩
  whole.run p

/-- The place before a program's text. -/
def Place.start (file text : Raw) (speaks : Bool) : Place :=
  { left := if text.getLast? = some '\n' then text.dropLast else text
    mark := [], before := [], line := 1, skipped := 0, file := file, package := "main".toList
    defined := definedIn 1000 text
    constants := [], imported := [], speaks := speaks, strict := false, known := [], firm := false, complaints := [] }

end RunMeter.Machine.Perl
