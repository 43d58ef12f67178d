import RunMeter.Machine.Shell.Token

/-!
# RunMeter.Machine.Shell.Script — the commands of a script

A script is read one complete command at a time, up to an end of line, so that a mistake further down does not
keep the lines before it from running.  A name that stands for other words is replaced by them where a command
can start.

Nothing that is proved depends on this module.
-/

namespace RunMeter.Machine.Shell

/-- A redirection as it is written: the descriptor, what is done, and the word or text that it is done with. -/
structure Redirection where
  fd : Nat
  direction : Direction
  target : Raw

/-- An assignment as it is written.  The value of a list is the text between its parentheses. -/
structure Assignment where
  name : Raw
  index : Option Raw
  append : Bool
  value : Raw
  isList : Bool

/-- What follows an arm of a selection. -/
inductive ArmEnd where
  /-- The selection is over. -/
  | atEnd
  /-- The next arm runs as well. -/
  | falls
  /-- The next patterns are tried. -/
  | tries
  deriving DecidableEq

/-- A command of a script. -/
inductive Statement where
  | nothing
  /-- Assignments, words and redirections, in the line that the command starts in. -/
  | simple (line : Nat) (assignments : List Assignment) (words : List Raw) (redirections : List Redirection)
  | pipe (commands : List Statement)
  | negate (command : Statement)
  /-- A command after which the time that it took is told, in short or not. -/
  | timed (brief : Bool) (command : Statement)
  | both (left right : Statement)
  | either (left right : Statement)
  | inOrder (left right : Statement)
  | background (command : Statement)
  | subshell (body : Statement)
  | redirected (body : Statement) (redirections : List Redirection)
  | branch (test yes no : Statement)
  | cycle (stopWhen : Bool) (test body : Statement)
  | each (line : Nat) (name : Raw) (words : Option (List Raw)) (body : Statement)
  | count (line : Nat) (first test next : Raw) (body : Statement)
  | select (line : Nat) (subject : Raw) (arms : List (List Raw × Statement × ArmEnd))
  | condition (line : Nat) (text : Raw)
  | compute (line : Nat) (text : Raw)
  | define (name : Raw) (body : Statement)

/-- Whether a statement is a single command with its words. -/
def Statement.isSimple : Statement → Bool
  | .simple .. => true
  | _ => false

/-- Where the reading of a script stopped. -/
inductive Stop where
  /-- At a token that was not expected. -/
  | token (text : Raw)
  /-- Inside of a condition, near a text. -/
  | inside (text : Raw)
  /-- At the end, while a character was looked for. -/
  | unclosed (delimiter : Char)
  | atEnd
  /-- At something that more is said of. -/
  | shown

/-- Why a script can not be read: the line, the message of the plain dialect, where the reading stopped, and what
the extended dialect says of lines before that. -/
structure SyntaxError where
  line : Nat
  message : String
  stop : Stop
  said : List (Nat × Raw)

/-- Whether more of a script could help. -/
def SyntaxError.isOpen (e : SyntaxError) : Bool :=
  match e.stop with
  | .unclosed _ | .atEnd => true
  | _ => false

/-- A mistake at a token. -/
def SyntaxError.atToken (line : Nat) (message : String) (text : Option Raw) : SyntaxError :=
  ⟨line, message, (text.map Stop.token).getD .atEnd, []⟩

/-- What a reader has to do with: the tokens to come, what is fixed for the script, and the names that stand for
other words and have not been replaced on the way. -/
structure Reading where
  tokens : List Token
  rules : Rules
  lastLine : Nat
  aliases : List (Raw × Raw)

/-- A reader of tokens. -/
abbrev Reader := StateT Reading (Except SyntaxError)

namespace Reader

/-- Words that have a meaning where a command can start. -/
def reserved : List String :=
  ["!", "case", "do", "done", "elif", "else", "esac", "fi", "for", "if", "in", "then", "until", "while", "\x7b",
   "\x7d"]

/-- Words of the extended dialect that have a meaning where a command can start. -/
def extendedReserved : List String := ["function", "[[", "time"] ++ reserved

/-- Whether a word has a meaning where a command can start. -/
def isReserved (d : Dialect) (w : Raw) : Bool :=
  (if d = .extended then extendedReserved else reserved).contains (Raw.text w)

/-- The commands that belong to the language. -/
def special : List String :=
  [".", ":", "break", "continue", "eval", "exec", "exit", "export", "local", "readonly", "return", "set", "shift",
   "times", "trap", "unset"]

/-- How a token is named in messages. -/
def naming (d : Dialect) : Option Token → String
  | none => "end of file"
  | some (.word _ w) => if isReserved d w then "\"" ++ Raw.text w ++ "\"" else "word"
  | some (.operator _ "\n") => "newline"
  | some (.operator _ name) => "\"" ++ name ++ "\""
  | some (.redirect ..) => "redirection"
  | some (.condition ..) | some (.arithmetic ..) => "word"
  | some (.bad ..) | some (.fault ..) => "end of file"

/-- How a token is written. -/
def written : Token → Raw
  | .word _ w => w
  | .operator _ "\n" => "newline".toList
  | .operator _ name => name.toList
  | .redirect _ _ direction _ =>
    match (Token.extendedRedirections.find? fun r => r.2.2 = direction) with
    | some r => r.1.toList
    | none => "<<".toList
  | .condition .. => "[[".toList
  | .arithmetic .. => "((".toList
  | .bad .. | .fault .. => []

/-- The token that comes next. -/
def peek : Reader (Option Token) := do
  return (← get).tokens.head?

/-- The tokens that come. -/
def tokens : Reader (List Token) := do
  return (← get).tokens

/-- How many parts a part of a command has at most: no more than there are tokens, but names may stand for more
words. -/
def left : Reader Nat := do
  return (← get).tokens.length + 10000

/-- Goes past some tokens. -/
def skip (n : Nat) : Reader Unit :=
  modify fun r => { r with tokens := r.tokens.drop n }

/-- Fails at the next token, which is not what was expected. -/
def unexpected {α : Type} (expected : Option String) : Reader α := do
  let r ← get
  match r.tokens with
  | .bad line message missing :: _ => throw ⟨line, message, .unclosed missing, []⟩
  | .fault line said near :: _ => throw ⟨line, "", (near.map Stop.inside).getD .atEnd, said⟩
  | ts =>
    let line := match ts with
      | .operator line "\n" :: _ => if r.rules.dialect = .plain then line + 1 else line
      | t :: _ => t.line
      | [] => r.lastLine
    let name := naming r.rules.dialect ts.head?
    let near := ts.head?.map written
    throw (.atToken line (match expected with
      | some e =>
        let shown := if e = "word" then e else "\"" ++ e ++ "\""
        name ++ " unexpected (expecting " ++ shown ++ ")"
      | none => name ++ " unexpected") near)

/-- Fails at the next token, where a reserved word is a word like any other. -/
def unexpectedWord {α : Type} (expected : Option String) : Reader α := do
  match ← peek with
  | some (.word line _) =>
    modify fun r => { r with tokens := [Token.word line []] }
    unexpected expected
  | _ => unexpected expected

/-- Whether the next token is an operator. -/
def atOperator (name : String) : Reader Bool := do
  match ← peek with
  | some (.operator _ n) => return n == name
  | _ => return false

/-- Whether the next token is a reserved word. -/
def atWord (name : String) : Reader Bool := do
  match ← peek with
  | some (.word _ w) => return w == name.toList
  | _ => return false

/-- Goes past all ends of line. -/
def skipLines : Reader Unit :=
  modify fun r => { r with tokens := r.tokens.dropWhile fun
    | .operator _ "\n" => true
    | _ => false }

/-- Goes past a reserved word, which has to be there. -/
def expect (name : String) : Reader Unit := do
  if ← atWord name then skip 1 else unexpected (some name)

/-- Puts the words that a name stands for in its place, at most `fuel` times in a row.  Gives whether a blank at
their end makes the next word such a name, too. -/
def replaceName : (fuel : Nat) → Reader Unit
  | 0 => pure ()
  | fuel + 1 => do
    let r ← get
    match r.tokens with
    | .word line w :: rest =>
      match r.aliases.find? fun a => a.1 == w with
      | none => pure ()
      | some (_, text) =>
        let words := Token.ofText r.rules line text
        set { r with tokens := words.tokens.toList ++ rest, aliases := r.aliases.filter fun a => a.1 != w }
        replaceName fuel
        if text.getLast? = some ' ' then
          match (← get).tokens with
          | first :: following =>
            modify fun r => { r with tokens := following }
            replaceName fuel
            modify fun r => { r with tokens := first :: r.tokens }
          | [] => pure ()
    | _ => pure ()

/-- Does something with the names restored that stand for other words. -/
def keepingNames {α : Type} (body : Reader α) : Reader α := do
  let before := (← get).aliases
  let x ← body
  modify fun r => { r with aliases := before }
  return x

/-- A word that a redirection needs. -/
def redirectTarget : Reader Raw := do
  match ← peek with
  | some (.word _ w) =>
    skip 1
    return w
  | _ => unexpected none

/-- The redirections that come next, at most `fuel`. -/
def redirections : (fuel : Nat) → Reader (List Redirection)
  | 0 => return []
  | fuel + 1 => do
    match ← peek with
    | some (.redirect _ fd direction body) =>
      skip 1
      let target ← match direction with
        | .here _ => pure body
        | _ => redirectTarget
      return ⟨fd, direction, target⟩ :: (← redirections fuel)
    | _ => return []

/-- The assignment that a word is. -/
def assignment? (d : Dialect) (w : Raw) : Option Assignment :=
  let name := Raw.nameAtStart w
  if name.isEmpty then none
  else
    let rest := w.drop name.length
    let (index, rest) : Option Raw × Raw := match d, rest with
      | .extended, '[' :: more =>
        let inner := more.takeWhile (· != ']')
        if (more.drop inner.length).isEmpty then (none, rest) else (some inner, more.drop (inner.length + 1))
      | _, rest => (none, rest)
    match d, rest with
    | .extended, '+' :: '=' :: value => some ⟨name, index, true, value, false⟩
    | .extended, '=' :: '(' :: value => some ⟨name, index, false, value.dropLast, true⟩
    | _, '=' :: value => some ⟨name, index, false, value, false⟩
    | _, _ => none

/-- An assignment, of a list where its value is one. -/
def asList (a : Assignment) : Assignment :=
  match a.append, a.value with
  | true, '(' :: value => { a with value := value.dropLast, isList := true }
  | _, _ => a

/-- The parts of a simple command: assignments as long as there is no other word, words and redirections. -/
def simpleParts : (fuel : Nat) → List Assignment → List Raw → List Redirection →
    Reader (List Assignment × List Raw × List Redirection)
  | 0, as, ws, rs => return (as.reverse, ws.reverse, rs.reverse)
  | fuel + 1, as, ws, rs => do
    match ← peek with
    | some (.word _ w) =>
      if ws.isEmpty && !as.isEmpty then keepingNames (replaceName 100)
      match ← peek with
      | some (.word _ w) =>
        skip 1
        let d := (← get).rules.dialect
        match if ws.isEmpty then assignment? d w else none with
        | some a => simpleParts fuel (asList a :: as) ws rs
        | none => simpleParts fuel as (w :: ws) rs
      | _ =>
        skip 1
        simpleParts fuel as (w :: ws) rs
    | some (.redirect _ fd direction body) =>
      skip 1
      let target ← match direction with
        | .here _ => pure body
        | _ => redirectTarget
      simpleParts fuel as ws (⟨fd, direction, target⟩ :: rs)
    | _ => return (as.reverse, ws.reverse, rs.reverse)

/-- The words up to the end of a list of words. -/
def wordList : (fuel : Nat) → Reader (List Raw)
  | 0 => return []
  | fuel + 1 => do
    match ← peek with
    | some (.word _ w) =>
      skip 1
      return w :: (← wordList fuel)
    | _ => return []

/-- The patterns of an arm.  What stands in the place of a pattern is looked at only after what follows it. -/
def patterns : (fuel : Nat) → Reader (List Raw)
  | 0 => return []
  | fuel + 1 => do
    let w := match ← peek with
      | some (.word _ w) => w
      | _ => []
    skip 1
    if ← atOperator "|" then
      skip 1
      return w :: (← patterns fuel)
    else if ← atOperator ")" then
      skip 1
      return [w]
    else unexpectedWord (some ")")

/-- What ends an arm here. -/
def armEnd? : Reader (Option ArmEnd) := do
  match ← peek with
  | some (.operator _ ";;") => return some .atEnd
  | some (.operator _ ";&") => return some .falls
  | some (.operator _ ";;&") => return some .tries
  | _ => return none

/-- The arms of a selection, up to its end. -/
def arms (body : Reader Statement) : (fuel : Nat) → Reader (List (List Raw × Statement × ArmEnd))
  | 0 => return []
  | fuel + 1 => do
    skipLines
    if ← atWord "esac" then
      skip 1
      return []
    else
      if ← atOperator "(" then skip 1
      let ps ← patterns fuel
      skipLines
      let n ← if (← armEnd?).isSome || (← atWord "esac") then pure .nothing else body
      match ← armEnd? with
      | some ending =>
        skip 1
        return (ps, n, ending) :: (← arms body fuel)
      | none =>
        skipLines
        if !(← atWord "esac") then unexpected (some ";;")
        skip 1
        return [(ps, n, .atEnd)]

/-- The branches after a test, up to the end. -/
def branches (body : Reader Statement) : (fuel : Nat) → Reader Statement
  | 0 => return .nothing
  | fuel + 1 => do
    let test ← body
    expect "then"
    let yes ← body
    if ← atWord "elif" then
      skip 1
      return .branch test yes (← branches body fuel)
    else if ← atWord "else" then
      skip 1
      let no ← body
      expect "fi"
      return .branch test yes no
    else
      expect "fi"
      return .branch test yes .nothing

/-- A body between its two words. -/
def doBody (body : Reader Statement) : Reader Statement := do
  expect "do"
  let n ← body
  expect "done"
  return n

/-- A command with redirections after it, if there are any. -/
def withRedirections (n : Statement) : Reader Statement := do
  let rs ← redirections (← left)
  return if rs.isEmpty then n else .redirected n rs

/-- The parts of a counting loop's head. -/
def countParts? (text : Raw) : Option (Raw × Raw × Raw) :=
  match Raw.splitAt ';' text with
  | [a, b, c] => some (Raw.trim a, Raw.trim b, Raw.trim c)
  | _ => none

/-- The body of a loop: between its two words, or in the extended dialect between braces. -/
def loopBody (body : Reader Statement) : Reader Statement := do
  if (← get).rules.dialect = .extended && (← atWord "\x7b") then
    skip 1
    let n ← body
    expect "\x7d"
    return n
  else doBody body

/-- A loop over words, or a counting one. -/
def loopOverWords (line : Nat) (body : Reader Statement) : Reader Statement := do
  match ← tokens with
  | .word _ name :: _ =>
    if !Raw.isName name then throw (.atToken line "Bad for loop variable" (some name))
    skip 1
    skipLines
    let words ← if ← atWord "in" then do
        skip 1
        let ws ← wordList (← left)
        if !((← atOperator ";") || (← atOperator "\n")) then unexpected none
        pure (some ws)
      else pure none
    if ← atOperator ";" then skip 1
    skipLines
    return .each line name words (← loopBody body)
  | .arithmetic _ text :: _ =>
    match countParts? text with
    | some (first, test, next) =>
      skip 1
      if ← atOperator ";" then skip 1
      skipLines
      return .count line first test next (← loopBody body)
    | none =>
      let message : String := "syntax error: "
      throw ⟨line, "", .shown, [(line, Raw.ofText (message ++ "arithmetic expression required")),
        (line, Raw.ofText (message ++ "`((") ++ text ++ Raw.ofText "))'")]⟩
  | .bad .. :: _ => unexpected none
  | t :: _ => throw (.atToken line "Bad for loop variable" (some (written t)))
  | [] => throw (.atToken line "Bad for loop variable" none)

/-- A command that holds other commands, if one starts here; `body` reads the commands inside of it. -/
def compound? (body : Reader Statement) : Reader (Option Statement) := do
  let fuel ← left
  let finished (n : Statement) : Reader (Option Statement) := do
    return some (← withRedirections n)
  match ← tokens with
  | .operator _ "(" :: _ =>
    skip 1
    let n ← body
    if ← atOperator ")" then
      skip 1
      finished (.subshell n)
    else unexpected (some ")")
  | .condition line text :: _ =>
    skip 1
    finished (.condition line text)
  | .arithmetic line text :: _ =>
    skip 1
    finished (.compute line text)
  | .word line w :: rest =>
    match Raw.text w with
    | "if" =>
      skip 1
      finished (← branches body fuel)
    | "while" =>
      skip 1
      let test ← body
      finished (.cycle false test (← doBody body))
    | "until" =>
      skip 1
      let test ← body
      finished (.cycle true test (← doBody body))
    | "for" =>
      skip 1
      finished (← loopOverWords line body)
    | "case" =>
      skip 1
      match rest with
      | .word _ subject :: _ =>
        skip 1
        skipLines
        expect "in"
        finished (.select line subject (← arms body fuel))
      | _ => unexpected (some "word")
    | "\x7b" =>
      skip 1
      let n ← body
      expect "\x7d"
      finished n
    | _ => return none
  | _ => return none

/-- A command without others inside: assignments, words and redirections. -/
def simple (line : Nat) : Reader Statement := do
  let (as, ws, rs) ← simpleParts (← left) [] [] []
  return .simple line as ws rs

/-- The body of a function whose name was read. -/
def functionBody (name : Raw) (body : Reader Statement) : Reader Statement := do
  skipLines
  match ← compound? body with
  | some n => return .define name n
  | none =>
    match ← tokens with
    | .word line _ :: _ =>
      if (← get).rules.dialect = .plain then return .define name (← simple line) else unexpected none
    | _ => unexpected none

/-- Whether a word can be the name of a function. -/
def namesFunction (d : Dialect) (name : Raw) : Bool :=
  if d = .plain then Raw.isName name && !special.contains (Raw.text name)
  else !name.any fun c => c == '$' || c == '"' || c == '\'' || c == '`'

/-- One command; `body` reads the commands inside of it. -/
def command (body : Reader Statement) : Reader Statement := do
  keepingNames (replaceName 100)
  match ← compound? body with
  | some n => return n
  | none =>
    let r ← get
    match r.tokens with
    | .word line name :: .operator _ "(" :: _ =>
      if isReserved r.rules.dialect name then unexpected none
      if (assignment? r.rules.dialect name).isSome then
        skip 1
        unexpected none
      skip 2
      if !(← atOperator ")") then unexpectedWord (some ")")
      if !namesFunction r.rules.dialect name then throw (.atToken line "Bad function name" (some ['(']))
      skip 1
      functionBody name body
    | .word line w :: rest =>
      if r.rules.dialect = .extended && w == "function".toList then
        match rest with
        | .word _ name :: .operator _ "(" :: .operator _ ")" :: _ =>
          skip 4
          functionBody name body
        | .word _ name :: _ =>
          skip 2
          functionBody name body
        | _ =>
          skip 1
          unexpected none
      else if isReserved r.rules.dialect w then unexpected none
      else simple line
    | .redirect line _ _ _ :: _ => simple line
    | _ => unexpected none

/-- The commands of a pipe after the first. -/
def pipeRest (body : Reader Statement) : (fuel : Nat) → Reader (List Statement × Bool)
  | 0 => return ([], false)
  | fuel + 1 => do
    let joins ← atOperator "|&"
    if joins || (← atOperator "|") then
      skip 1
      skipLines
      let c ← command body
      let (more, next) ← pipeRest body fuel
      let c := if next then Statement.redirected c [⟨2, .copyOut, ['1']⟩] else c
      return (c :: more, joins)
    else return ([], false)

/-- What can stand in front of a pipe. -/
inductive Front where
  | not
  | time (brief : Bool)

/-- What stands in front of a pipe.  The plain dialect knows a single negation. -/
def fronts : (fuel : Nat) → Reader (List Front)
  | 0 => return []
  | fuel + 1 => do
    let isExtended := (← get).rules.dialect = .extended
    if ← atWord "!" then
      skip 1
      return .not :: (← if isExtended then fronts fuel else pure [])
    else if isExtended && (← atWord "time") then
      skip 1
      let brief ← atWord "-p"
      if brief then skip 1
      return .time brief :: (← fronts fuel)
    else return []

/-- A pipe with what stands in front of it, after which the extended dialect needs no pipe. -/
def pipeline (body : Reader Statement) : Reader Statement := do
  let before ← fronts (← left)
  let isExtended := (← get).rules.dialect = .extended
  let n ← match before, ← peek with
    | _ :: _, some (.operator line name) =>
      if isExtended && (name = "\n" || name = ";") then pure (.simple line [] [] [])
      else pipe
    | _, _ => pipe
  return before.foldr (fun front n => match front with
    | .not => .negate n
    | .time brief => .timed brief n) n
where
  /-- A pipe alone. -/
  pipe : Reader Statement := do
    let first ← command body
    let (rest, joins) ← pipeRest body (← left)
    let first := if joins then Statement.redirected first [⟨2, .copyOut, ['1']⟩] else first
    return if rest.isEmpty then first else Statement.pipe (first :: rest)

/-- The pipes after the first of a list that goes on by success or failure. -/
def andOrRest (body : Reader Statement) : (fuel : Nat) → Statement → Reader Statement
  | 0, left => return left
  | fuel + 1, left => do
    if ← atOperator "&&" then
      skip 1
      skipLines
      let right ← pipeline body
      andOrRest body fuel (.both left right)
    else if ← atOperator "||" then
      skip 1
      skipLines
      let right ← pipeline body
      andOrRest body fuel (.either left right)
    else return left

/-- A list that goes on by success or failure. -/
def andOr (body : Reader Statement) : Reader Statement := do
  let first ← pipeline body
  andOrRest body (← left) first

/-- Whether a list of commands ends here. -/
def listEnds : Reader Bool := do
  match ← peek with
  | none => return true
  | some (.operator _ name) => return [")", ";;", ";&", ";;&"].contains name
  | some (.word _ w) => return ["\x7d", "then", "else", "elif", "fi", "do", "done", "esac"].contains (Raw.text w)
  | _ => return false

/-- One command after another. -/
def join : List Statement → Statement
  | [] => .nothing
  | [n] => n
  | n :: rest => .inOrder n (join rest)

/-- The commands of a list; `oneLine` stops at the first end of line. -/
def items (oneLine : Bool) (body : Reader Statement) : (fuel : Nat) → Reader (List Statement)
  | 0 => return []
  | fuel + 1 => do
    if !oneLine then skipLines
    if ← listEnds then return []
    let n ← andOr body
    if ← atOperator "&" then
      skip 1
      if oneLine && (← atOperator "\n") then return [.background n]
      return .background n :: (← items oneLine body fuel)
    else if ← atOperator ";" then
      skip 1
      if oneLine && (← atOperator "\n") then return [n]
      return n :: (← items oneLine body fuel)
    else if ← atOperator "\n" then
      if oneLine then return [n]
      skip 1
      return n :: (← items oneLine body fuel)
    else return [n]

/-- The commands inside of a command, nested at most `depth` deep. -/
def list : (depth : Nat) → Reader Statement
  | 0 => do throw (.atToken (← get).lastLine "too deep" none)
  | depth + 1 => do
    let start ← left
    let ns ← items false (list depth) start
    if ns.isEmpty && (← peek).isSome then unexpected none else return join ns

/-- How deep commands stand inside of one another. -/
def depthBound : Nat := 100000

/-- The next complete command of a script: nothing at its end. -/
def next : Reader (Option Statement) := do
  skipLines
  match ← tokens with
  | [] => return none
  | _ =>
    let ns ← items true (list depthBound) (← left)
    match ← peek with
    | none | some (.operator _ "\n") =>
      if ← atOperator "\n" then skip 1
      return some (join ns)
    | some _ => unexpected none

end Reader
end RunMeter.Machine.Shell
