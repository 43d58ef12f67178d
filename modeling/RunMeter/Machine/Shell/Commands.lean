import RunMeter.Machine.Shell.Builtin.Table
import RunMeter.Machine.Shell.Redirect

/-!
# RunMeter.Machine.Shell.Commands — simple commands

A simple command is a command of the shell's own, a function, or a program.  What is assigned in front of it
holds for it alone, except where it is one of the commands that belong to the language.

* `resolve`: the program that a name starts.
* `external`: runs a program.
* `builtin`: runs a command of the shell's own.
* `simple`: runs a simple command.

Nothing that is proved depends on this module.
-/

namespace RunMeter.Machine.Shell.Commands

open Sh

/-! ## Programs -/

/-- Whether a path leads to a file that is no script. -/
def isBinary (t : FileTree) (cwd : Nat) (path : Raw) : Bool :=
  match (t.find cwd path true).map t.node with
  | .ok ⟨_, _, _, .file contents⟩ => Launch.isBinary contents
  | _ => false

/-- The path of a name in a directory if a program stands there, or an error that is worth telling. -/
def candidate? (t : FileTree) (cwd : Nat) (name directory : Raw) : Option (Except Errno Raw) :=
  let full := Launch.join directory name
  match (t.find cwd full true).map t.node with
  | .error e => if e = .noEntry || e = .notDirectory then none else some (.error e)
  | .ok node => some (if node.isRegular && node.allows 1 then .ok full else .error .access)

/-- The program that a path starts in a shell: a file that names no interpreter is a script of the shell's own. -/
def ofPath (t : FileTree) (cwd : Nat) (interpreter : Raw) (path : Raw) (words : List Raw) : Except Errno Image :=
  match Launch.ofPath t cwd path words with
  | .error e =>
    if e = .execFormat && !isBinary t cwd path then
      Launch.ofPath t cwd interpreter (interpreter :: path :: words.tail)
    else .error e
  | .ok image => .ok image

/-- Why a program does not start: the reason, and the path that was found for its name, if one was. -/
structure Unstarted where
  reason : Errno
  path : Option Raw

/-- The directories of the search path. -/
def directories : Sh (List Raw) := do
  return ((← value? "PATH".toList).map (Raw.splitAt ':')).getD []

/-- The path and the program that a name starts in the shell, or why it starts none. -/
def resolve (name : Raw) (words : List Raw) : Sh (Except Unstarted (Raw × Image)) := do
  let d := (← shell).dialect
  let searched ← directories
  let interpreter := (if d = .extended then "/bin/bash" else "/bin/sh").toList
  act (Act.ask fun pid k =>
    let t := k.files
    let cwd := (k.task pid).cwd
    let start (path : Raw) : Except Unstarted (Raw × Image) :=
      ((ofPath t cwd interpreter path words).map fun image => (path, image)).mapError fun e => ⟨e, some path⟩
    if name.contains '/' then start name
    else
      let candidates := if name.isEmpty then [] else searched.filterMap (candidate? t cwd name)
      match candidates.findSome? Except.toOption with
      | some full => start full
      | none =>
        match candidates.getLast? with
        | some (.error e) => .error ⟨e, none⟩
        | _ => .error ⟨.noEntry, none⟩)

/-- The message about a program that does not start, and the status, in the plain dialect. -/
def plainReason (name : Raw) (u : Unstarted) : Raw × Nat :=
  let missing := u.reason = .noEntry || u.reason = .notDirectory
  let reason := if name.isEmpty then Errno.access.message else if missing then "not found" else u.reason.message
  let lost := missing || u.reason = .nameTooLong || u.reason = .loop || u.path.isNone
  (name ++ Raw.ofText (": " ++ reason), if lost then 127 else 126)

/-- The message about a program that does not start, and the status, in the extended dialect. -/
def extendedReason (name : Raw) (u : Unstarted) : Sh (Raw × Nat) := do
  match u.path with
  | none => return (name ++ Raw.ofText ": command not found", 127)
  | some path =>
    let kind ← act (Act.node? path true)
    let isDirectory := match kind with
      | .ok (_, n) => n.isDirectory
      | .error _ => false
    if isDirectory then return (path ++ Raw.ofText ": Is a directory", 126)
    else if u.reason = .execFormat then
      return (path ++ Raw.ofText ": cannot execute binary file: Exec format error", 126)
    else if u.reason = .noEntry then
      if kind.toOption.isSome then return (path ++ Raw.ofText ": cannot execute: required file not found", 127)
      else return (path ++ Raw.ofText ": No such file or directory", 127)
    else return (path ++ Raw.ofText (": " ++ u.reason.message), 126)

/-- Says why a program does not start; gives the status. -/
def unstarted (name : Raw) (u : Unstarted) : Sh Nat := do
  let (message, status) ← if ← extended then extendedReason name u else pure (plainReason name u)
  complain message
  return status

/-- Runs a program, in the shell's place if `inPlace`. -/
def external (inPlace : Bool) (env : List (Raw × Raw)) (words : List Raw) (text : Raw) : Sh Unit := do
  let name := words.headD []
  match ← resolve name words with
  | .error u =>
    let status ← unstarted name u
    if inPlace then throw (.exit status) else setStatus status
  | .ok (path, image) =>
    let start := (← shell).start
    let env := if ← extended then (env.filter fun e => e.1 != ['_']) ++ [(['_'], path)] else env
    if inPlace then
      let how ← act (start image env)
      finish how
    else
      let pid ← act (Act.fork (start image env))
      Jobs.conclude [pid] text

/-! ## Assignments -/

/-- The words of a list's value: each with the index that is written in front of it, if there is one. -/
def listWords (text : Raw) : List (Option Raw × Raw) :=
  let words := (Token.ofText ⟨.extended, false⟩ 1 text).tokens.toList.filterMap fun
    | .word _ w => some w
    | _ => none
  words.map fun w =>
    match w with
    | '[' :: rest =>
      let (index, after) := Arithmetic.untilBracket rest
      match after with
      | '=' :: value => (some index, value)
      | _ => (none, w)
    | _ => (none, w)

/-- Puts a value in the place of an index of a list, or of a key of a map. -/
def setPlace (sub : Substitution) (name index : Raw) (f : Raw → Raw) : Sh Unit := do
  mustNotBeFixed name
  let v := (← binding? name).getD Variable.unset
  match v.value with
  | some (.map items) =>
    let key ← Expansion.single sub index
    let old := ((items.find? fun i => i.1 == key).map Prod.snd).getD []
    let next := if items.any fun i => i.1 == key then
        items.map fun i => if i.1 == key then (key, f old) else i
      else items ++ [(key, f old)]
    setVariable name fun _ => { v with value := some (.map next) }
  | value =>
    let items := match value with
      | some (.list items) => items
      | some (.text r) => [(0, r)]
      | _ => []
    let n := (← Arithmetic.value (← Expansion.single sub index)).toInt
    let n := if n < 0 then (((items.getLast?.map Prod.fst).getD 0 : Nat) : Int) + 1 + n else n
    let old := ((items.find? fun i => (i.1 : Int) = n).map Prod.snd).getD []
    setVariable name fun _ => { v with value := some (.list (setItem n.toNat (f old) items)) }

/-- Puts values at the next places of a list. -/
def append (items : List (Nat × Raw)) (values : List Raw) : List (Nat × Raw) :=
  let next := (items.getLast?.map fun i => i.1 + 1).getD 0
  items ++ values.zipIdx.map fun (v, i) => (next + i, v)

/-- Gives a variable a list of values. -/
def assignList (sub : Substitution) (name : Raw) (onto : Bool) (text : Raw) : Sh Unit := do
  mustNotBeFixed name
  let v := (← binding? name).getD Variable.unset
  let empty : Value := match v.value with
    | some (.map items) => .map (if onto then items else [])
    | some (.list items) => .list (if onto then items else [])
    | some (.text r) => .list (if onto then [(0, r)] else [])
    | none => .list []
  setVariable name fun _ => { v with value := some empty }
  for (index, word) in listWords text do
    match index with
    | some i =>
      let value ← Expansion.single sub word
      setPlace sub name i fun _ => value
    | none =>
      let values ← Expansion.allFields sub [word]
      setVariable name fun old =>
        let v := old.getD Variable.unset
        match v.value with
        | some (.list items) => { v with value := some (.list (append items values)) }
        | _ => v

/-- Carries out an assignment.  Gives the text of the value, for showing it. -/
def assignOne (sub : Substitution) (a : Assignment) : Sh Raw := do
  if a.isList then
    assignList sub a.name a.append a.value
    return '(' :: a.value ++ [')']
  else
    let value ← Expansion.assigned sub a.value
    let isInteger := ((← binding? a.name).map Variable.integer).getD false
    let value ← if isInteger then Arithmetic.result value else pure value
    let joined (old : Raw) : Sh Raw := do
      if !a.append then return value
      else if isInteger then Arithmetic.result (old ++ '+' :: value)
      else return old ++ value
    match a.index with
    | some i => setPlace sub a.name i fun old => if a.append then old ++ value else value
    | none => assign a.name (← joined ((← value? a.name).getD []))
    return value

/-! ## What names are -/

/-- How a name is told to be what it is. -/
inductive NameKind where
  | word
  | special
  | function
  | builtin
  | file (path : Raw)

/-- What a name is. -/
def kindOf (name : Raw) : Sh (Option NameKind) := do
  let p ← shell
  let text := Raw.text name
  if Reader.isReserved p.dialect name then return some .word
  else if p.dialect = .plain && Reader.special.contains text then return some .special
  else if p.functions.any fun f => f.1 == name then return some .function
  else if Builtin.isBuiltin p.dialect text then return some .builtin
  else
    let searched ← directories
    let full := if name.contains '/' then [name] else searched.map fun d => Launch.join d name
    let found ← act (Act.ask fun pid k => full.find? fun path =>
      match k.find pid path true with
      | .ok n => (k.files.node n).isRegular && (k.files.node n).allows 1
      | .error _ => false)
    return found.map .file

/-- How a name is told to be what it is. -/
def telling (d : Dialect) (name : Raw) (k : NameKind) : Raw :=
  match k with
  | .word => name ++ Raw.ofText " is a shell keyword"
  | .special => name ++ Raw.ofText " is a special shell builtin"
  | .function => name ++ Raw.ofText (if d = .extended then " is a function" else " is a shell function")
  | .builtin => name ++ Raw.ofText " is a shell builtin"
  | .file path => name ++ Raw.ofText " is " ++ path

/-- The one word for what a name is. -/
def kindWord (k : NameKind) : Raw :=
  Raw.ofText (match k with
    | .word => "keyword"
    | .special | .builtin => "builtin"
    | .function => "function"
    | .file _ => "file")

/-- Tells what names are; the status says whether all of them are something. -/
def tell (show? : Raw → NameKind → Option Raw) (silent : Bool) (missing : Nat) : List Raw → Sh Unit
  | [] => setStatus 0
  | name :: names => do
    let found ← kindOf name
    match found with
    | some k =>
      match show? name k with
      | some text => Builtin.put (text ++ ['\n'])
      | none => pure ()
    | none =>
      if !silent then
        if ← extended then complain (name ++ Raw.ofText ": not found")
        else Builtin.put (name ++ Raw.ofText ": not found\n")
    tell show? silent missing names
    if found.isNone then setStatus missing

/-- Where the shell finds a command. -/
def whereIs (name : Raw) : NameKind → Option Raw
  | .file path => some path
  | _ => some name

/-- Tells what names are, as the command for that does. -/
def typeOf (args : List Raw) : Sh Unit := do
  let p ← shell
  if p.dialect = .extended then
    let (chosen, names) ← Builtin.optionsOf "afptP" args
    if Builtin.given chosen 't' then tell (fun _ k => some (kindWord k)) true 1 names
    else if Builtin.given chosen 'p' || Builtin.given chosen 'P' then
      tell (fun _ k => match k with
        | .file path => some path
        | _ => none) true 1 names
    else tell (fun name k => some (telling .extended name k)) false 1 names
  else tell (fun name k => some (telling .plain name k)) false 127 args

/-! ## The shell's own commands -/

/-- Runs a command that only fails where it makes a mistake. -/
def forgiving (body : Sh Unit) : Sh Unit :=
  tryCatch body fun
    | .fault code => setStatus code
    | e => throw e

/-- Does something of which a mistake is a failure and no more: what it gives, or nothing. -/
def forgivingly {α : Type} (body : Sh α) : Sh (Option α) :=
  tryCatch (do return some (← body)) fun
    | .fault code => do
      setStatus code
      return none
    | e => throw e

/-- Runs a script in a file of a name, with other words if there are any. -/
def source (run : Runner) (args : List Raw) : Sh Unit := do
  match args with
  | [] => Builtin.refused (Raw.ofText "filename argument required") (Raw.ofText "filename argument required") 2
  | path :: words =>
    let searched ← directories
    let found ← if path.contains '/' then pure (some path) else
      act (Act.ask fun pid k =>
        let inPath := (searched.map fun d => Launch.join d path).find? fun p => (k.find pid p true).toOption.isSome
        if inPath.isSome then inPath else if (k.find pid path true).toOption.isSome then some path else none)
    let isExtended ← extended
    let missing (p : Raw) (e : Errno) : Sh Unit := do
      if isExtended then
        update fun q => { q with within := none }
        Builtin.failed (p ++ Raw.ofText (": " ++ e.message)) 1
      else Builtin.wrong (← refusal "open" p e)
    match found with
    | none => if isExtended then missing path .noEntry else Builtin.wrong (path ++ Raw.ofText ": not found")
    | some p =>
      if !isExtended && !path.contains '/' && p = path then Builtin.wrong (path ++ Raw.ofText ": not found")
      match ← act (Act.openFile p .reading) with
      | .error e => missing p e
      | .ok fd =>
        let read ← act (Act.readAll fd)
        act (Act.close fd)
        match read with
        | .error e => if isExtended then missing p e else setStatus 0
        | .ok text =>
          let outer ← shell
          setStatus 0
          update fun q => { q with
            sourced := q.sourced + 1
            within := if isExtended then none else some p
            words := if isExtended && !words.isEmpty then words else q.words
            line := q.line }
          let leave : Sh Unit := update fun q => { q with
            sourced := outer.sourced
            within := outer.within
            line := outer.line
            words := if isExtended && !words.isEmpty then outer.words else q.words }
          always (tryCatch (Copies.script run text) fun
            | .back code => setStatus code
            | e => throw e) leave

/-- Looks whether there are commands of some names. -/
def look (args : List Raw) : Sh Unit := do
  setStatus 0
  for name in args.filter fun w => w.head? != some '-' do
    if (← kindOf name).isNone then Builtin.failed (name ++ Raw.ofText ": not found") 1

/-- Runs one of the commands that run commands, or another of the shell's own. -/
def builtin (run : Runner) (env : List (Raw × Raw)) : (fuel : Nat) → List Raw → Sh Unit
  | 0, _ => setStatus 2
  | _, [] => setStatus 0
  | fuel + 1, name :: args =>
    asCommand name <| match Raw.text name with
    | "eval" => do
      if args.isEmpty then setStatus 0
      else
        setStatus 0
        let outer := (← shell).line
        Copies.scriptAt run false (if ← extended then outer else 1) (Raw.joined [' '] args)
        update fun p => { p with line := outer }
    | "." | "source" => source run args
    | "exec" => do
      if ← extended then
        let (_, words) ← Builtin.optionsOf "cla:" args
        if words.isEmpty then setStatus 0 else external true env words []
      else if args.isEmpty then setStatus 0
      else external true env args []
    | "command" => do
      let (chosen, words) ← Builtin.optionsOf "pvV" args
      match (chosen.filter fun o => o.1 != 'p').getLast?, words with
      | _, [] => setStatus 0
      | some ('v', _), words =>
        let words := if ← extended then words else words.take 1
        tell whereIs true (if ← extended then 1 else 127) words
      | some _, words =>
        let d := (← shell).dialect
        tell (fun name k => some (telling d name k)) false (if d = .extended then 1 else 127) words
      | none, words =>
        if Builtin.isBuiltin (← shell).dialect (Raw.text (words.headD [])) then builtin run env fuel words
        else
          update fun p => { p with within := none }
          external false env words (Raw.joined [' '] words)
    | "builtin" => do
      if args.isEmpty then setStatus 0
      else if Builtin.isBuiltin (← shell).dialect (Raw.text (args.headD [])) then builtin run env fuel args
      else Builtin.failed (args.headD [] ++ Raw.ofText ": not a shell builtin") 1
    | "type" => typeOf args
    | "hash" => look args
    | text => do
      match Builtin.named? (← shell).dialect text with
      | some command => command args
      | none => setStatus 127

/-- Commands whose words can be assignments. -/
def isDeclaration (name : String) : Bool :=
  ["declare", "typeset", "local", "export", "readonly"].contains name

/-- Runs a command whose words can be assignments, in the extended dialect: it marks the variables, the
assignments are carried out, and what keeps variables from being changed comes last. -/
def declare (run : Runner) (name : Raw) (words : List Raw) : Sh Unit := do
  let sub := Copies.substitution run
  let mut plain : List Raw := []
  let mut given : List Assignment := []
  for w in words do
    match Reader.assignment? .extended w with
    | some a =>
      given := given ++ [Reader.asList a]
      plain := plain ++ [a.name]
    | none => plain := plain ++ (← Expansion.allFields sub [w])
  let switches := plain.filter fun w => w.head? = some '-'
  let fixes := name == "readonly".toList || switches.any fun w => w.contains 'r'
  let shown := switches.any fun w => w.contains 'p'
  let lists := given.filter fun a => a.isList
  let forName : Raw := if name == "readonly".toList then "declare".toList else name
  let words := if !lists.isEmpty && isDeclaration (Raw.text forName) && forName != "export".toList &&
      !(switches.any fun w => w.contains 'A') then ['-', 'a'] :: plain else plain
  let bare := plain.filter fun w => w.head? != some '-'
  let none := bare.isEmpty
  let inFunction := !(← shell).calls.isEmpty
  asCommand name (if none then builtin run [] 10 (name :: plain)
    else if forName == "local".toList then
      if inFunction then Builtin.declareNames words else Builtin.own []
    else if forName == "export".toList then Builtin.publish plain
    else Builtin.declareNames (if name == "readonly".toList then ['-', 'g'] :: words else words))
  if (← shell).status = 0 && !shown then
    for a in given do
      let _ ← assignOne sub a
    if fixes then for w in bare do
      setVariable w fun old => { old.getD Variable.unset with fixed := true }

/-! ## Functions -/

/-- How many functions can be at work inside one another in the plain dialect. -/
def callBound : Nat := 1000

/-- The same for the extended dialect, whose stack has no room for more. -/
def extendedCallBound : Nat := 6000

/-- Variables with those that a function made its own as they were before. -/
def withoutLocals (locals : List (Raw × Option Variable)) (vs : List (Raw × Variable)) : List (Raw × Variable) :=
  locals.foldl (fun vs (name, old) =>
    match old with
    | some v => withVariable name (fun _ => v) vs
    | none => vs.filter fun e => e.1 != name) vs

/-- Runs a function. -/
def callFunction (run : Runner) (name : Raw) (body : Statement) (words : List Raw) : Sh Unit := do
  let outer ← shell
  if outer.dialect = .plain && outer.calls.length ≥ callBound then
    fatal (Raw.ofText ("Maximum function recursion depth (" ++ toString callBound ++ ") reached")) 2
  if outer.calls.length ≥ extendedCallBound then finish (.signal 11)
  let leave : Sh Unit := do
    let inner := (← shell).locals
    update fun p => { p with
      words := outer.words
      calls := outer.calls
      loops := outer.loops
      locals := outer.locals
      line := outer.line
      bindings := withoutLocals inner p.bindings }
  update fun p => { p with words := words, calls := name :: p.calls, loops := 0, locals := [] }
  always (tryCatch (run false body) fun
    | .back code => setStatus code
    | e => throw e) leave

/-! ## Simple commands -/

/-- A word as it is shown in a trace. -/
def traced (d : Dialect) (w : Raw) : Raw :=
  if d = .plain then w else if w.isEmpty then "''".toList else Builtin.told w

/-- Shows the words of a command if the shell is to show them.  Redirections have no effect on that. -/
def showTrace (saved : Redirect.Saved) (words : List Raw) : Sh Unit := do
  if ← isOn "xtrace" then
    let mark := (← value? "PS4".toList).getD ['+', ' ']
    let line := mark ++ Raw.joined [' '] words ++ ['\n']
    match saved.find? fun s => s.1 = 2 with
    | some (_, some kept) => let _ ← act (Act.write kept line)
    | some (_, none) => pure ()
    | none => warn line

/-- Shows assignments and words. -/
def traceCommand (saved : Redirect.Saved) (assigned : List (Raw × Raw)) (words : List Raw) : Sh Unit := do
  let d := (← shell).dialect
  let as := assigned.map fun a => a.1 ++ '=' :: traced d a.2
  if d = .plain then showTrace saved (as ++ words)
  else
    for a in as do showTrace saved [a]
    if !words.isEmpty then showTrace saved (words.map (traced d))

/-- Runs something with variables that hold for it alone unless `stays`. -/
def withVariables (assigned : List (Raw × Raw)) (exporting stays : Bool) (body : Sh Unit) : Sh Unit := do
  let before := (← shell).bindings
  for (n, v) in assigned do
    assign n v
    if exporting then setVariable n fun old => { old.getD Variable.unset with exported := true }
  body
  if !stays then
    for (n, _) in assigned do
      match (before.find? fun e => e.1 == n).map Prod.snd with
      | some v => setVariable n fun _ => v
      | none => dropVariable n

/-- A simple command without words: redirections and assignments alone. -/
def withoutWords (sub : Substitution) (assignments : List Assignment) (rs : List Redirection) : Sh Unit :=
  Redirect.during sub rs Redirect.failed fun saved => do
    let mut shown : List (Raw × Raw) := []
    for a in assignments do
      shown := shown ++ [(a.name, ← assignOne sub a)]
    if !shown.isEmpty then traceCommand saved shown []
    setStatus ((← shell).substitution.getD 0)

/-- The values of assignments in front of a command. -/
def assignedValues (sub : Substitution) (assignments : List Assignment) : Sh (List (Raw × Raw)) :=
  assignments.mapM fun a => do
    let value ← Expansion.assigned sub a.value
    let old ← if a.append then do pure ((← value? a.name).getD []) else pure []
    if ← isFixed a.name then mustNotBeFixed a.name
    return (a.name, old ++ value)

/-- Runs a simple command. -/
def simple (run : Runner) (last : Bool) (line : Nat) (assignments : List Assignment) (words : List Raw)
    (rs : List Redirection) : Sh Unit := do
  let sub := Copies.substitution run
  let streams := (← shell).streams
  update fun p => { p with line := line, wordLine := line, substitution := none }
  let d := (← shell).dialect
  let declares := d = .extended && isDeclaration (Raw.text (words.headD []))
  let fields ← if declares then pure words else Expansion.allFields sub words
  let text := Raw.joined [' '] words
  match fields with
  | [] => withoutWords sub assignments rs
  | name :: args =>
    let plainName := Raw.text name
    let isSpecial := d = .plain && Reader.special.contains plainName
    let function := (← shell).functions.find? fun f => f.1 == name
    if plainName = "exec" && function.isNone then
      let (_, message) ← Redirect.all sub false [] rs
      match message with
      | some message => if d = .plain then fatal message 2 else Redirect.failed message
      | none =>
        let extra ← assignedValues sub assignments
        traceCommand [] extra fields
        builtin run (← exports extra) 10 fields
    else
      let failed (message : Raw) : Sh Unit :=
        if isSpecial then fatal message 2 else Redirect.failed message
      Redirect.during sub rs failed fun saved => do
        let extra ← assignedValues sub assignments
        traceCommand saved extra fields
        let own (body : Sh Unit) : Sh Unit := withVariables extra false isSpecial body
        match function with
        | some (_, body) =>
          if isSpecial then own (builtin run [] 10 fields)
          else withVariables extra true false (callFunction run name body args)
        | none =>
          if declares then own (forgiving (declare run name args))
          else if Builtin.isBuiltin d plainName then
            if plainName = "command" then forgiving (builtin run (← exports extra) 10 fields)
            else if isSpecial then own (builtin run [] 10 fields)
            else own (forgiving (builtin run (← exports extra) 10 fields))
          else
            let p ← shell
            let trapped := p.traps.any fun t => !t.2.isEmpty
            let inPlace := last && !trapped && (d = .plain || p.jobs.isEmpty)
            external inPlace (← exports extra) fields text
  Copies.closeStreams streams

end RunMeter.Machine.Shell.Commands
