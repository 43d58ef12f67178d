import RunMeter.Machine.Utility.Sources
import RunMeter.Machine.Utility.Words

/-!
# RunMeter.Machine.Utility.Starting — programs that start others

They change something for the program that their words name: its variables, its place, the signals that reach it,
or how long it may take.

Nothing that is proved depends on this module.
-/

namespace RunMeter.Machine.Starting

/-- The exit code for a program that can not be started. -/
def unstarted (e : Errno) : UInt8 := if e = .noEntry then 127 else 126

/-! ## Variables -/

/-- Variables with a value put in place of an old one, or behind the others. -/
def withVariable (env : List (Raw × Raw)) (name value : Raw) : List (Raw × Raw) :=
  if env.any fun v => v.1 == name then env.map fun v => if v.1 == name then (name, value) else v
  else env ++ [(name, value)]

/-- What is wrong with a text that holds words. -/
inductive SplitFault where
  | quote
  | backslash
  | reference (rest : Raw)
  | sequence (c : Char)

/-- What is said about a fault. -/
def SplitFault.message : SplitFault → Raw
  | quote => Raw.ofText "no terminating quote in -S string"
  | backslash => Raw.ofText "invalid backslash at end of string in -S"
  | reference rest => Raw.ofText "only $\x7bVARNAME\x7d expansion is supported, error at: " ++ rest
  | sequence c => Raw.ofText "invalid sequence '\\" ++ c :: Raw.ofText "' in -S"

/-- The words in a text.  `word` is the word at hand, the last character first, and `quote` what it is quoted by. -/
def split (env : List (Raw × Raw)) :
    (fuel : Nat) → (word : Option Raw) → (quote : Option Char) → Raw → Except SplitFault (List Raw)
  | 0, _, _, _ => .ok []
  | _, word, quote, [] => if quote.isSome then .error .quote else .ok (word.map List.reverse).toList
  | fuel + 1, word, quote, c :: rest =>
    let put (ch : Char) (rest : Raw) : Except SplitFault (List Raw) :=
      split env fuel (some (ch :: word.getD [])) quote rest
    let onwards (rest : Raw) : Except SplitFault (List Raw) :=
      match word with
      | some w => (split env fuel none none rest).map (w.reverse :: ·)
      | none => split env fuel none none rest
    match c, quote with
    | '\'', some '\'' => split env fuel word none rest
    | '"', some '"' => split env fuel word none rest
    | '\'', none => split env fuel (some (word.getD [])) (some '\'') rest
    | '"', none => split env fuel (some (word.getD [])) (some '"') rest
    | '#', none => if word.isNone then .ok [] else put c rest
    | '\\', q =>
      match rest with
      | [] => .error .backslash
      | d :: after =>
        if q = some '\'' && d != '\\' && d != '\'' then put c rest
        else match d with
          | '"' | '#' | '$' | '\'' | '\\' => put d after
          | '_' => if q = some '"' then put ' ' after else onwards after
          | 'c' => if q = some '"' then .error (.sequence 'c') else .ok (word.map List.reverse).toList
          | 'f' => put '\x0c' after
          | 'n' => put '\n' after
          | 'r' => put '\r' after
          | 't' => put '\t' after
          | 'v' => put '\x0b' after
          | d => .error (.sequence d)
    | '$', some '\'' => put c rest
    | '$', _ =>
      match rest with
      | '\x7b' :: body =>
        let name := body.takeWhile (· != '\x7d')
        if Raw.isName name && body.length > name.length then
          let value := ((env.find? fun v => v.1 == name).map Prod.snd).getD []
          split env fuel (some (value.reverse ++ word.getD [])) quote (body.drop (name.length + 1))
        else .error (.reference (c :: rest))
      | _ => .error (.reference (c :: rest))
    | c, none => if Raw.isSpace c then onwards rest else put c rest
    | c, some _ => put c rest

/-- The switches of the program that sets variables. -/
def envSwitches : Switches :=
  ⟨"iu:0vC:S:", [⟨"ignore-environment", "i", .none⟩, ⟨"null", "0", .none⟩, ⟨"unset", "u", .required⟩,
    ⟨"chdir", "C", .required⟩, ⟨"debug", "v", .none⟩, ⟨"split-string", "S", .required⟩,
    ⟨"block-signal", "block", .optional⟩, ⟨"default-signal", "default", .optional⟩,
    ⟨"ignore-signal", "ignore", .optional⟩, ⟨"list-signal-handling", "list", .none⟩], true⟩

/-- The switches among words, where one of them holds further words. -/
def envWords (c : Call) : (fuel : Nat) → List Raw → Act (List (String × Raw) × List Raw)
  | 0, ws => return ([], ws)
  | fuel + 1, ws => do
    match envSwitches.ofWords ws with
    | .error message =>
      c.complain message
      if (message.getLast? = some '\'') && message.any fun ch => ch = '\t' then
        c.complain (Raw.ofText "use -[v]S to pass options in shebang lines")
      else if Raw.ofText "invalid option -- ' '" == message then
        c.complain (Raw.ofText "use -[v]S to pass options in shebang lines")
      c.hint 125
    | .ok g =>
      let before := g.switches.takeWhile fun s => s.1 != "S"
      match g.switches.drop before.length with
      | (_, text) :: after =>
        match split c.env (text.length + 1) none none text with
        | .error fault => c.fail fault.message 125
        | .ok inner =>
          if after.isEmpty then
            let (more, rest) ← envWords c fuel (inner ++ g.operands)
            return (before ++ more, rest)
          else return (before ++ after, inner ++ g.operands)
      | [] => return (g.switches, g.operands)

/-- The signals that a word lists. -/
def signalsOf (w : Raw) : List Nat :=
  (Raw.splitAt ',' w).filterMap fun s =>
    let upper := Raw.toUpper s
    match Raw.natural? s with
    | some n => some n
    | none => SignalNumber.named? (Raw.text (if "SIG".toList.isPrefixOf upper then upper.drop 3 else upper))

/-- Sets variables for another program, or shows them. -/
def env : Utility := fun c => do
  let (switches, rest) ← envWords c 20 c.args
  let g : Given := ⟨switches, rest⟩
  let (bare, rest) : Bool × List Raw := match rest with
    | ['-'] :: rest => (true, rest)
    | rest => (g.has "i", rest)
  let gone := (switches.filter fun s => s.1 == "u").map Prod.snd
  match gone.find? fun w => w.isEmpty || w.contains '=' with
  | some w => c.fail (Raw.ofText "cannot unset " ++ Raw.quoted w ++ Raw.ofText ": Invalid argument") 125
  | none =>
    let start := if bare then [] else c.env.filter fun v => !gone.contains v.1
    let settings := rest.takeWhile fun w => w.contains '='
    let words := rest.drop settings.length
    let settled := settings.foldl (fun vs w =>
      let name := w.takeWhile (· != '=')
      withVariable vs name (w.drop (name.length + 1))) start
    let ending := if g.has "0" then '\x00' else '\n'
    if g.has "v" then
      for w in gone do let _ ← Act.write 2 (Raw.ofText "unset:    " ++ w ++ ['\n'])
      for w in settings do let _ ← Act.write 2 (Raw.ofText "setenv:   " ++ w ++ ['\n'])
    if g.has "0" && !words.isEmpty then c.misused (Raw.ofText "cannot specify --null (-0) with command") 125
    else if g.has "C" && words.isEmpty then c.misused (Raw.ofText "must specify command with --chdir (-C)") 125
    else if words.isEmpty then
      c.emit (settled.flatMap fun v => v.1 ++ '=' :: v.2 ++ [ending]) 125
      return 0
    else
      for s in switches do
        match s.1 with
        | "ignore" => for n in signalsOf s.2 do Act.choose n .ignore
        | "default" => for n in signalsOf s.2 do Act.choose n .usual
        | _ => pure ()
      match g.value? "C" with
      | some d =>
        match ← Act.tryChange fun pid k => k.enter pid d with
        | some e =>
          c.fail (Raw.ofText "cannot change directory to " ++ Raw.quoted d ++ Raw.ofText (": " ++ e.message)) 125
        | none => if g.has "v" then let _ ← Act.write 2 (Raw.ofText "chdir:    " ++ Raw.quoted d ++ ['\n'])
      | none => pure ()
      if g.has "v" then
        let _ ← Act.write 2 (Raw.ofText "executing: " ++ words.headD [] ++ ['\n'] ++ (words.zipIdx.flatMap fun (w, i) =>
          Raw.ofText "   arg[" ++ Raw.ofNat i ++ Raw.ofText "]= " ++ Raw.quoted w ++ ['\n']))
      let e ← c.replace settled words
      let name := words.headD []
      c.complain (Raw.quoted name ++ Raw.ofText (": " ++ e.message))
      if e = .noEntry && name.any Raw.isSpace then
        c.complain (Raw.ofText "use -[v]S to pass options in shebang lines")
      return unstarted e

/-! ## Places and priorities -/

/-- The words of the program that changes priorities, with an old form of its switch replaced. -/
def niceWords (ws : List Raw) : List Raw :=
  match ws with
  | ('-' :: d :: ds) :: rest =>
    if d.isDigit then ['-', 'n'] :: (d :: ds) :: rest
    else match d, ds with
      | '-', e :: _ => if e.isDigit then ['-', 'n'] :: ('-' :: ds) :: rest else ws
      | '+', e :: _ => if e.isDigit then ['-', 'n'] :: ds :: rest else ws
      | _, _ => ws
  | ws => ws

/-- Starts a program with another priority, or shows the priority. -/
def nice : Utility := fun c => do
  let g ← ({ c with words := c.name :: niceWords c.args }).options ⟨"n:", [⟨"adjustment", "n", .required⟩], true⟩ 125
  let own := (← Act.task).niceness
  match g.operands with
  | [] =>
    if g.has "n" then c.misused (Raw.ofText "a command must be given with an adjustment") 125
    else c.put (Raw.ofInt own ++ ['\n'])
  | words =>
    match Raw.integer? ((g.value? "n").getD "10".toList) with
    | none => c.fail (Raw.ofText "invalid adjustment " ++ Raw.quoted ((g.value? "n").getD [])) 125
    | some n =>
      let wanted := own + n
      if wanted < own then c.complain (Raw.ofText "cannot set niceness: Permission denied")
      else Act.change fun pid k => k.onTask pid fun t => { t with niceness := min wanted 19 }
      let e ← c.replace c.env words
      c.complain (Raw.quoted (words.headD []) ++ Raw.ofText (": " ++ e.message))
      return unstarted e

/-- Starts a program that hang-ups do not reach. -/
def nohup : Utility := fun c => do
  let g ← c.options ⟨"", [], true⟩ 125
  match g.operands with
  | [] => c.misused (Raw.ofText "missing operand") 125
  | words =>
    Act.choose SignalNumber.hangUp .ignore
    let e ← c.replace c.env words
    c.complain (Raw.ofText "failed to run command " ++ Raw.quoted (words.headD []) ++ Raw.ofText (": " ++ e.message))
    return unstarted e

/-- Puts the process at the head of a group of its own. -/
def ownGroup : Act Unit := Act.change fun pid k => k.onTask pid fun t => { t with group := pid }

/-- How a child ends that has to be waited for. -/
def endOf (child : Pid) : Act Ended := do
  match ← Act.waitChild (some child) true true with
  | .ended _ how => return how
  | _ => return .code 0

/-- Starts a program in a group of its own. -/
def setsid : Utility := fun c => do
  let g ← c.options ⟨"cfw", [⟨"ctty", "c", .none⟩, ⟨"fork", "f", .none⟩, ⟨"wait", "w", .none⟩], true⟩ 1
  match g.operands with
  | [] => c.misused (Raw.ofText "no command specified") 1
  | words =>
    let failed (e : Errno) : Act UInt8 := do
      c.complain (Raw.ofText "failed to execute " ++ words.headD [] ++ Raw.ofText (": " ++ e.message))
      return unstarted e
    let t ← Act.task
    if g.has "f" || t.group = t.pid then
      let child ← c.spawn ownGroup words fun e => do return .code (← failed e)
      if g.has "w" then return UInt8.ofNat ((← endOf child).status % 256) else return 0
    else
      ownGroup
      failed (← c.replace c.env words)

/-- Starts a program with other buffers, which makes no difference here. -/
def stdbuf : Utility := fun c => do
  let g ←
    c.options ⟨"i:o:e:", [⟨"input", "i", .required⟩, ⟨"output", "o", .required⟩, ⟨"error", "e", .required⟩], true⟩ 125
  match g.switches.find? fun s => s.2 != ['L'] && (Sources.amount? s.2).isNone with
  | some s => c.fail (Raw.ofText "invalid mode " ++ Raw.quoted s.2) 125
  | none =>
    match g.operands with
    | [] => c.misused (Raw.ofText "missing operand") 125
    | words =>
      if g.switches.isEmpty then c.misused (Raw.ofText "you must specify a buffering mode option") 125
      else
        let e ← c.replace c.env words
        c.complain (Raw.ofText "failed to run command " ++ Raw.quoted (words.headD []) ++ Raw.ofText (": " ++ e.message))
        return unstarted e

/-- Starts the program behind some words, which make no difference here. -/
def passing (switches : Switches) (dropped : Nat) : Utility := fun c => do
  let g ← c.options switches 1
  match g.operands.drop dropped with
  | [] => return 0
  | words =>
    let e ← c.replace c.env words
    c.complain (Raw.ofText "failed to execute " ++ words.headD [] ++ Raw.ofText (": " ++ e.message))
    return unstarted e

/-- The programs that start others with a place, a priority or limits of their own. -/
def passers : List (String × Utility) :=
  let long (name key : String) : LongSwitch := ⟨name, key, .none⟩
  [("taskset", passing ⟨"acp", [long "all-tasks" "a", long "cpu-list" "c"], true⟩ 1),
   ("ionice", passing ⟨"c:n:p:t", [⟨"class", "c", .required⟩, ⟨"classdata", "n", .required⟩, long "ignore" "t"],
   true⟩ 0),
   ("chrt", passing ⟨"abdfiomrRpvT:P:D:", [long "other" "o", long "batch" "b", long "idle" "i"], true⟩ 1),
   ("prlimit", passing ⟨"p:o:c::d::e::f::i::l::m::n::q::r::s::t::u::v::x::y::", [], true⟩ 0),
   ("choom", passing ⟨"n:p:", [⟨"adjust", "n", .required⟩], true⟩ 0),
   ("setpriv", passing ⟨"dh", [long "no-new-privs" "N", long "dump" "d"], true⟩ 0),
   ("unshare", passing ⟨"cfhimnprTuU", [], true⟩ 0),
   ("setarch", passing ⟨"BFILRSTXZ3v", [], true⟩ 1)] ++
  ["linux64", "linux32", "x86_64", "i386"].map fun name => (name, passing ⟨"BFILRSTXZ3v", [], true⟩ 0)

/-- Starts a program while a file is locked, which nobody else does here, or locks an open file. -/
def flock : Utility := fun c => do
  let g ← c.options ⟨"sexnouFE:w:v", [⟨"shared", "s", .none⟩, ⟨"exclusive", "x", .none⟩, ⟨"unlock", "u", .none⟩,
    ⟨"nonblock", "n", .none⟩, ⟨"nb", "n", .none⟩, ⟨"timeout", "w", .required⟩, ⟨"close", "o", .none⟩,
    ⟨"conflict-exit-code", "E", .required⟩, ⟨"no-fork", "F", .none⟩, ⟨"verbose", "v", .none⟩], true⟩ 64
  match g.operands with
  | [] => c.misused (Raw.ofText "not enough arguments") 64
  | [w] =>
    match Raw.natural? w with
    | none => c.fail (Raw.ofText "bad file descriptor: " ++ Raw.quoted w) 64
    | some fd =>
      match ← Act.channel? fd with
      | some _ => return 0
      | none => c.fail (Raw.ofNat fd ++ Raw.ofText (": " ++ Errno.badDescriptor.message)) 65
  | path :: words =>
    let words := match words with
      | [['-', 'c'], command] => ["/bin/sh".toList, "-c".toList, command]
      | words => words
    match ← Act.attempt fun pid k => k.openPath pid path ⟨true, false, true, false, false, false⟩ 0o666 3 false with
    | .error e => c.fail (Raw.ofText "cannot open lock file " ++ path ++ Raw.ofText (": " ++ e.message)) 66
    | .ok fd =>
      let child ← c.spawn (if g.has "o" then Act.close fd else pure ()) words fun e => do
        c.complain (Raw.ofText "failed to execute " ++ words.headD [] ++ Raw.ofText (": " ++ e.message))
        return .code 69
      return UInt8.ofNat ((← endOf child).status % 256)

/-! ## Time -/

/-- What a program that watches another one waits for. -/
inductive News where
  | ended (how : Ended)
  | signal (n : Nat)
  | late

/-- Waits for the end of a child, for a signal, or for an instant. -/
def watch (child : Pid) (limit : Option Instant) : Act News :=
  Act.attempt fun pid k =>
    match (k.task? child).bind Task.ended with
    | some how => .done { k with tasks := k.tasks.filter fun t => t.pid != child } (.ended how)
    | none =>
      match (k.task pid).arrived with
      | n :: rest => .done (k.onTask pid fun t => { t with arrived := rest }) (.signal n)
      | [] =>
        match limit with
        | some instant => if k.now ≥ instant then .done k .late else .wait limit
        | none => .wait none

/-- How long a program may take, and what is done then. -/
structure Limit where
  signal : Nat
  /-- How long after the signal the program is killed. -/
  grace : Option Nat
  foreground : Bool
  verbose : Bool
  /-- The name of the program. -/
  name : Raw

/-- Sends a signal to the watched program and to all others in the group. -/
def warn (c : Call) (l : Limit) (child : Pid) (signal : Nat) : Act Unit := do
  if l.verbose then
    let name := match SignalNumber.name? signal with
      | some n => n.toList
      | none => Raw.ofNat signal
    c.complain (Raw.ofText "sending signal " ++ name ++ Raw.ofText " to command " ++ Raw.quoted l.name)
  let _ ← Act.send child signal
  if !l.foreground then
    Act.choose signal .ignore
    let _ ← Act.send 0 signal
    if signal != SignalNumber.kill && signal != SignalNumber.goOn then
      let _ ← Act.send child SignalNumber.goOn
      let _ ← Act.send 0 SignalNumber.goOn

/-- Watches a program: its end, and whether it took too long. -/
def supervise (c : Call) (l : Limit) (child : Pid) :
    (fuel : Nat) → (signal : Nat) → (grace : Option Nat) → (limit : Option Instant) → (late : Bool) → Act (Ended × Bool)
  | 0, _, _, _, late => return (.code 0, late)
  | fuel + 1, signal, grace, limit, late => do
    let strike (n : Nat) (late : Bool) : Act (Ended × Bool) := do
      warn c l child n
      match grace with
      | some micros => do
        let now ← Act.now
        supervise c l child fuel SignalNumber.kill none (some (now + micros)) late
      | none => supervise c l child fuel signal none none late
    match ← watch child limit with
    | .ended how => return (how, late)
    | .late => strike signal true
    | .signal n => if n = SignalNumber.alarm then strike signal true else strike n late

/-- Runs a program that may not take longer than a time. -/
def timeout : Utility := fun c => do
  let g ← c.options ⟨"k:s:v", [⟨"foreground", "fg", .none⟩, ⟨"kill-after", "k", .required⟩,
    ⟨"preserve-status", "keep", .none⟩, ⟨"signal", "s", .required⟩, ⟨"verbose", "v", .none⟩], true⟩ 125
  let time (w : Raw) : Act (Option Nat) := do
    match Words.interval? w with
    | some t => return t
    | none => c.misused (Words.noInterval w) 125
  let grace ← match g.value? "k" with
    | some w => time w
    | none => pure none
  let named (w : Raw) : Option Nat :=
    let upper := Raw.toUpper w
    match Raw.natural? w with
    | some n => if n ≤ SignalNumber.greatest then some n else none
    | none => SignalNumber.named? (Raw.text (if "SIG".toList.isPrefixOf upper then upper.drop 3 else upper))
  match named ((g.value? "s").getD "TERM".toList) with
  | none => c.misused (Raw.quoted ((g.value? "s").getD []) ++ Raw.ofText ": invalid signal") 125
  | some signal =>
    match g.operands with
    | [] | [_] => c.hint 125
    | limit :: words =>
      let limit ← time limit
      let foreground := g.has "fg"
      if !foreground then ownGroup
      for n in [SignalNumber.alarm, SignalNumber.interrupt, SignalNumber.quit, SignalNumber.hangUp,
          SignalNumber.terminate, signal] do
        if !((← Act.task).ignored.contains n) then Act.choose n .take
      let child ← c.spawn (pure ()) words fun e => do
        c.complain (Raw.ofText "failed to run command " ++ Raw.quoted (words.headD []) ++ Raw.ofText (": " ++ e.message))
        return .code (unstarted e)
      let now ← Act.now
      let last := match limit with
        | some 0 => none
        | some micros => some (now + micros)
        | none => none
      let grace := if grace = some 0 then none else grace
      let (how, late) ←
        supervise c ⟨signal, grace, foreground, g.has "v", words.headD []⟩ child 1000 signal grace last false
      match how with
      | .code n => return if late && !g.has "keep" then 124 else n
      | .signal n =>
        if !late then Act.die n
        else if g.has "keep" || n = SignalNumber.kill then return UInt8.ofNat (128 + n)
        else return 124

/-! ## Words from a source -/

/-- What is wrong with words that are read. -/
inductive WordsFault where
  | quote (mark : Char)

/-- The words of a text with quotes: a list of lines of words.  A blank at the end of a line joins it to the next. -/
def quotedWords : (fuel : Nat) → (word : Option Raw) → (line : List Raw) → (blank : Bool) → Raw →
    Except WordsFault (List (List Raw))
  | 0, _, _, _, _ => .ok []
  | _, word, line, _, [] =>
    let line := (word.map List.reverse).toList ++ line
    .ok (if line.isEmpty then [] else [line.reverse])
  | fuel + 1, word, line, blank, c :: rest =>
    if c = '\'' || c = '"' then
      let inner := rest.takeWhile fun d => d != c && d != '\n'
      if (rest.drop inner.length).head? = some c then
        quotedWords fuel (some (inner.reverse ++ word.getD [])) line false (rest.drop (inner.length + 1))
      else .error (.quote c)
    else if c = '\\' then
      match rest with
      | d :: after => quotedWords fuel (some (d :: word.getD [])) line false after
      | [] => quotedWords fuel word line false []
    else if c = '\n' then
      let whole := (word.map List.reverse).toList ++ line
      if (blank && word.isNone) || whole.isEmpty then quotedWords fuel none whole false rest
      else (quotedWords fuel none [] false rest).map (whole.reverse :: ·)
    else if c = ' ' || c = '\t' then quotedWords fuel none ((word.map List.reverse).toList ++ line) true rest
    else quotedWords fuel (some (c :: word.getD [])) line false rest

/-- The lines of a text for the form of the program that puts each into a command: without the blanks at the start,
and with quotes taken away. -/
def quotedLines : (fuel : Nat) → (line : Option Raw) → Raw → Except WordsFault (List Raw)
  | 0, _, _ => .ok []
  | _, line, [] => .ok (line.map List.reverse).toList
  | fuel + 1, line, c :: rest =>
    if c = '\n' then
      match line with
      | some l => (quotedLines fuel none rest).map (l.reverse :: ·)
      | none => quotedLines fuel none rest
    else if (c = ' ' || c = '\t') && line.isNone then quotedLines fuel none rest
    else if c = '\'' || c = '"' then
      let inner := rest.takeWhile fun d => d != c && d != '\n'
      if (rest.drop inner.length).head? = some c then
        quotedLines fuel (some (inner.reverse ++ line.getD [])) (rest.drop (inner.length + 1))
      else .error (.quote c)
    else if c = '\\' then
      match rest with
      | d :: after => quotedLines fuel (some (d :: line.getD [])) after
      | [] => quotedLines fuel line []
    else quotedLines fuel (some (c :: line.getD [])) rest

/-- Lists cut into groups of so many. -/
def groupsOf {α : Type} (size : Nat) : (fuel : Nat) → List α → List (List α)
  | 0, _ => []
  | _, [] => []
  | fuel + 1, xs => xs.take size :: groupsOf size fuel (xs.drop size)

/-- A text with another in place of each mark. -/
def substituted (mark value : Raw) : (fuel : Nat) → Raw → Raw
  | 0, r => r
  | _, [] => []
  | fuel + 1, r@(c :: rest) =>
    if mark.isPrefixOf r then value ++ substituted mark value fuel (r.drop mark.length)
    else c :: substituted mark value fuel rest

/-- What is written of a command before it runs. -/
def shownCommand (words : List Raw) : Raw :=
  Raw.joined [' '] (words.map fun w =>
    if w.isEmpty || w.any fun c => " '\"\t\n\\*?$&;<>|()`[]\x7b\x7d~#!".toList.contains c then Raw.quoted w
    else w) ++ ['\n']

/-- How a run of commands goes on. -/
inductive Progress where
  | on (code : UInt8)
  | stop (code : UInt8)

/-- What comes of a command that a run has started. -/
def conclude (c : Call) (words : List Raw) (code : UInt8) (how : Ended) : Act Progress := do
  let name := words.headD []
  match how with
  | .code 0 => return .on code
  | .code 255 =>
    c.complain (name ++ Raw.ofText ": exited with status 255; aborting")
    return .stop 124
  | .code 127 => return .stop 127
  | .code 126 => return .stop 126
  | .code _ => return .on 123
  | .signal n =>
    c.complain (name ++ Raw.ofText (": terminated by signal " ++ toString n))
    return .stop 125

/-- Starts commands one after another, or several at once. -/
def runAll (c : Call) (shown : Bool) (atOnce : Nat) :
    (fuel : Nat) → (code : UInt8) → (running : List (Pid × List Raw)) → List (List Raw) → Act UInt8
  | 0, code, _, _ => return code
  | fuel + 1, code, running, commands => do
    let await : Act UInt8 := do
      match ← Act.waitChild none true true with
      | .ended pid how =>
        let words := ((running.find? fun r => r.1 = pid).map Prod.snd).getD []
        match ← conclude c words code how with
        | .on code => runAll c shown atOnce fuel code (running.filter fun r => r.1 != pid) commands
        | .stop code => return code
      | _ => return code
    match commands with
    | [] => if running.isEmpty then return code else await
    | words :: rest =>
      if running.length ≥ atOnce then await
      else
        if shown then let _ ← Act.write 2 (shownCommand words)
        let prepare : Act Unit := do
          match ← Act.openFile "/dev/null".toList .reading with
          | .ok fd =>
            let _ ← Act.duplicate fd 0
            Act.close fd
          | .error _ => pure ()
        let pid ← c.spawn prepare words fun e => do
          c.complain (words.headD [] ++ Raw.ofText (": " ++ e.message))
          return .code (unstarted e)
        runAll c shown atOnce fuel code ((pid, words) :: running) rest

/-- Words without those from an end mark on. -/
def upTo (mark : Option Raw) (lines : List (List Raw)) : List (List Raw) :=
  match mark with
  | none => lines
  | some m =>
    let before := lines.takeWhile fun l => !l.contains m
    match lines.drop before.length with
    | line :: _ => before ++ (if line.head? = some m then [] else [line.takeWhile (· != m)])
    | [] => before

/-- Starts a command with words that are read. -/
def xargs : Utility := fun c => do
  let g ← c.options ⟨"0a:d:E:e::I:i::L:l::n:oP:prs:tx", [⟨"null", "0", .none⟩, ⟨"arg-file", "a", .required⟩,
    ⟨"delimiter", "d", .required⟩, ⟨"eof", "E", .optional⟩, ⟨"replace", "i", .optional⟩, ⟨"max-lines", "L", .optional⟩,
    ⟨"max-args", "n", .required⟩, ⟨"max-procs", "P", .required⟩, ⟨"no-run-if-empty", "r", .none⟩,
    ⟨"max-chars", "s", .required⟩, ⟨"verbose", "t", .none⟩, ⟨"exit", "x", .none⟩], true⟩ 1
  let number (key : String) (least : Nat) : Act (Option Nat) := do
    match g.value? key with
    | none => return none
    | some w =>
      match Raw.natural? w with
      | some n =>
        if n < least then
          c.misused (Raw.ofText ("value " ++ toString n ++ " for -" ++ key ++ " option should be >= " ++ toString least)) 1
        else return some n
      | none => c.misused (Raw.ofText "invalid number \"" ++ w ++ Raw.ofText ("\" for -" ++ key ++ " option")) 1
  let most ← number "n" 1
  let linesEach ← if g.value? "L" = some [] then pure (some 1) else number "L" 1
  let atOnce ← number "P" 0
  let replacing := g.last? ["I", "i", "n", "L"]
  let mark : Option Raw := match replacing with
    | some "I" => g.value? "I"
    | some "i" => some (match g.value? "i" with
      | some [] => ['\x7b', '\x7d']
      | some w => w
      | none => ['\x7b', '\x7d'])
    | _ => none
  let delimiter : Option Raw := match g.value? "d" with
    | some ['\\', '0'] => some ['\x00']
    | some ['\\', ch] => (Printing.simple? ch).map fun e => [e]
    | some [ch] => some [ch]
    | some w => some w
    | none => if g.has "0" then some ['\x00'] else none
  match delimiter with
  | some (_ :: _ :: _) =>
    c.fail (Raw.ofText "Invalid input delimiter specification " ++ (g.value? "d").getD [] ++ Raw.ofText
      ": the delimiter must be either a single character or an escape sequence starting with \\.") 1
  | _ => pure ()
  let text ← match g.value? "a" with
    | none => Call.input
    | some path => do
      match ← Call.contents path with
      | .ok text => pure text
      | .error e => c.fail (Raw.ofText "Cannot open input file " ++ Raw.quoted path ++ Raw.ofText (": " ++ e.message)) 1
  let found : Except WordsFault (List (List Raw)) := match delimiter, mark with
    | some d, _ => .ok ((Sources.records (d.headD '\n') text).map fun w => [w])
    | none, some _ => (quotedLines (text.length + 1) none text).map fun ls => ls.map fun l => [l]
    | none, none => quotedWords (text.length + 1) none [] false text
  match found with
  | .error (.quote q) =>
    c.fail (Raw.ofText ("unmatched " ++ (if q = '"' then "double" else "single") ++
      " quote; by default quotes are special to xargs unless you use the -0 option")) 1
  | .ok lines =>
    let lines := upTo (g.value? "E") lines
    let command := if g.operands.isEmpty then ["echo".toList] else g.operands
    let commands := match mark with
      | some m => lines.map fun l =>
        let value := l.headD []
        command.map fun w => substituted m value (w.length + 1) w
      | none =>
        let groups := match most, linesEach with
          | some n, _ => groupsOf n (lines.flatten.length + 1) lines.flatten
          | none, some n => (groupsOf n (lines.length + 1) lines).map List.flatten
          | none, none => if lines.isEmpty then [] else groupsOf 5000 (lines.flatten.length + 1) lines.flatten
        let groups := if groups.isEmpty && !g.has "r" then [[]] else groups
        groups.map (command ++ ·)
    runAll c (g.has "t") (match atOnce with
      | some 0 => 1000
      | some n => n
      | none => 1) (2 * commands.length + 2) 0 [] commands

/-- The programs by name. -/
def programs : List (String × Utility) :=
  [("env", env), ("nice", nice), ("nohup", nohup), ("setsid", setsid), ("stdbuf", stdbuf), ("timeout", timeout),
   ("xargs", xargs), ("flock", flock)] ++ passers

end RunMeter.Machine.Starting
