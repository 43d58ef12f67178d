import RunMeter.Machine.Utility.Paths
import RunMeter.Machine.Utility.Perl.Matching

/-!
# RunMeter.Machine.Utility.Perl.System — processes, signals and files

* `Running.systemCall?`: the functions that ask something of the system.
* `Running.openStream`: files and the ends of other programs.

Nothing that is proved depends on this module.
-/

namespace RunMeter.Machine.Perl
namespace Running

/-! ## Streams -/

/-- The cell of the stream that a value names. -/
def streamCell? (v : Value) : Running (Option Nat) := do
  match v with
  | .reference .handle n => return some n
  | .reference .scalar n =>
    match ← valueOf n with
    | .reference .handle k => return some k
    | _ => return none
  | .undefined => return none
  | v =>
    let name := v.toText
    let name := if name.head? = some '*' then name.drop 1 else name
    if name.isEmpty then return none else globalCell? .handle (shortName name)

/-- Opens a file for a cell.  A cell that had one of the first descriptors keeps it. -/
def attach (n : Nat) (s : Stream) (fd : Nat) : Running Unit := do
  let old ← streamOf n
  match old.fd with
  | some k =>
    let _ ← flush n
    if k ≤ 2 then
      if fd != k then
        let _ ← act (Act.duplicate fd k)
        act (Act.close fd)
      setCell n (.stream { s with fd := some k, name := old.name, prompt := old.prompt })
    else
      act (Act.close k)
      setCell n (.stream { s with fd := some fd, name := if s.name.isEmpty then old.name else s.name })
  | none => setCell n (.stream { s with fd := some fd, name := if s.name.isEmpty then old.name else s.name })

/-- The variables that other programs get. -/
def environment : Running (List (Raw × Raw)) :=
  return ((← tableOf environmentCell).entries).filterMap fun (k, v) => if v.isDefined then some (k, v.toText) else none

/-- Whether a command needs the shell. -/
def needsShell (r : Raw) : Bool :=
  let body := Raw.trimStart r
  let word := body.takeWhile isWordChar
  let text := if body.getLast? = some '\n' then body.dropLast else body
  (body.drop word.length).head? = some '=' || "exec ".toList.isPrefixOf body ||
    text.any "$&*()\x7b\x7d[]'\";\\|?<>~\n".toList.contains || text.any fun c => c.toNat = 96

/-- The words that a command is carried out by. -/
def wordsOf (args : List Value) : List Raw :=
  match args with
  | [v] =>
    let r := v.toText
    if needsShell r then ["sh".toList, "-c".toList, r] else Raw.words r
  | vs => vs.map Value.toText

/-- Puts another program in the place of this one; gives the reason if that can not be done. -/
def replaceBy (m : Means) (env : List (Raw × Raw)) (words : List Raw) : Act Errno :=
  match words with
  | [] => return Errno.noEntry
  | ws => m.program.replace env ws

/-- What keeps a command from being started, if anything does. -/
def obstacle? (env : List (Raw × Raw)) (words : List Raw) : Running (Option Errno) := do
  let path := ((env.find? fun v => v.1 == "PATH".toList).map Prod.snd).getD Call.usualPath
  match words with
  | [] => return some Errno.noEntry
  | w :: _ =>
    act (Act.ask fun pid k =>
      match Launch.search k.files (k.task pid).cwd path w words with
      | .ok _ => none
      | .error e => if e = Errno.execFormat then none else some e)

/-- The status of an ended process in one number. -/
def statusWord : Ended → Int
  | .code n => (n.toNat * 256 : Nat)
  | .signal n => (n : Nat)

/-- Waits for a child; tells which it was. -/
def awaitChild (m : Means) (which : Option Pid) (patient : Bool) : (fuel : Nat) → Running Int
  | 0 => return -1
  | fuel + 1 => do
    let deadline ← orAlarm none
    match ← act (Act.waitChild which (patient && deadline.isNone) false) with
    | .ended pid how =>
      modify fun s => { s with status := statusWord how }
      return (pid : Nat)
    | .nobody =>
      fault Errno.noChild
      modify fun s => { s with status := -1 }
      return -1
    | .signal =>
      let _ ← checkSignals m
      awaitChild m which patient fuel
    | .none =>
      if !patient then return 0
      else
        let now ← act Act.now
        let _ ← act (Act.sleepUntil (min (deadline.getD now) (now + 1000)))
        let _ ← checkSignals m
        awaitChild m which patient fuel

/-- Waits for a child whose end nothing else can take. -/
def awaitPartner (m : Means) (pid : Pid) : Running Unit := do
  let _ ← awaitChild m (some pid) true waitBound

/-- Starts a command in a process of its own with some descriptors in the places of the first ones. -/
def startCommand (m : Means) (words : List Raw) (leads : List (Nat × Nat)) (closed : List Nat) : Running Pid := do
  flushAll
  let env ← environment
  act (Act.fork do
    for (source, goal) in leads do
      let _ ← Act.duplicate source goal
    for fd in closed do Act.close fd
    let e ← replaceBy m env words
    return .code (Starting.unstarted e))

/-- Opens the end of a pipe to or from a command; tells the command's number. -/
def openCommand (m : Means) (n : Nat) (words : List Raw) (reads : Bool) : Running Value := do
  match ← obstacle? (← environment) words with
  | some e =>
    fault e
    return .undefined
  | none =>
    let (r, w) ← act Act.pipe
    let pid ← if reads then startCommand m words [(w, 1)] [r, w] else startCommand m words [(r, 0)] [r, w]
    let (own, other) := if reads then (r, w) else (w, r)
    act (Act.close other)
    attach n { Stream.ofFd [] own reads (!reads) false with partner := some pid } own
    return .int pid

/-- How a file is opened by a mode. -/
def modeOf? (mode : Raw) : Option OpenMode :=
  match Raw.text mode with
  | "<" => some .reading
  | ">" => some .writing
  | ">>" => some .appending
  | "+<" => some { OpenMode.updating with create := false }
  | "+>" => some { OpenMode.writing with readable := true }
  | "+>>" => some { OpenMode.appending with readable := true }
  | _ => none

/-- A mode at the start of a text, and the rest. -/
def modeIn (r : Raw) : Raw × Raw :=
  let body := Raw.trim r
  match (["+>>", "+<", "+>", ">>", "<", ">"].find? fun s => s.toList.isPrefixOf body) with
  | some s => (s.toList, Raw.trimStart (body.drop s.length))
  | none => (['<'], body)

/-- A stream that leads where another leads. -/
def openSame (n : Nat) (mode : Raw) (source : Value) (same : Bool) : Running Value := do
  let name := source.toText
  let fd? : Option Nat ← match Raw.natural? name with
    | some k => pure (some k)
    | none => do
      match ← streamCell? source with
      | some c => do
        let _ ← flush c
        pure (← streamOf c).fd
      | none => pure none
  match fd? with
  | none =>
    fault Errno.badDescriptor
    return .ofBool false
  | some fd =>
    let writes := mode.head? = some '>' || mode.head? = some '+'
    let free ← if same then pure fd else do
      let free ← act (Act.ask fun pid k => k.freeFd pid 3)
      let _ ← act (Act.duplicate fd free)
      pure free
    if (← act (Act.channel? free)).isNone then
      fault Errno.badDescriptor
      return .ofBool false
    else
      attach n (Stream.ofFd [] free (!writes || mode.head? = some '+') writes false) free
      return .int 1

/-- Opens a file. -/
def openFile (n : Nat) (mode path : Raw) : Running Value := do
  match modeOf? mode with
  | none => die ("Unknown open() mode '".toList ++ mode ++ ['\''])
  | some how =>
    let writes := how.writable
    let isDirectory ← act (Paths.isDirectory path)
    if path = ['-'] && mode.length = 1 then
      let fd := if writes then 1 else 0
      attach n (Stream.ofFd [] fd (!writes) writes false) fd
      return .int 1
    else if isDirectory && writes then
      fault Errno.isDirectory
      return .ofBool false
    else
      match ← act (Act.openFile path how) with
      | .error e =>
        fault e
        return .ofBool false
      | .ok fd =>
        attach n (Stream.ofFd [] fd how.readable writes false) fd
        return .int 1

/-- Opens something for a cell as its mode and the other values say. -/
def openStream (m : Means) (n : Nat) (args : List Value) : Running Value := do
  match args with
  | [] => return .ofBool false
  | [v] =>
    let r := Raw.trim v.toText
    if r.head? = some '|' then openCommand m n (wordsOf [.text (r.drop 1)]) false
    else if r.getLast? = some '|' then openCommand m n (wordsOf [.text r.dropLast]) true
    else
      let (mode, path) := modeIn r
      match path with
      | '&' :: '=' :: rest => openSame n mode (.text (Raw.trim rest)) true
      | '&' :: rest => openSame n mode (.text (Raw.trim rest)) false
      | path => openFile n mode path
  | modeValue :: first :: rest =>
    let full := Raw.trim modeValue.toText
    let mode := Raw.trim (full.takeWhile (· != ':'))
    if mode = "-|".toList then openCommand m n (wordsOf (first :: rest)) true
    else if mode = "|-".toList then openCommand m n (wordsOf (first :: rest)) false
    else if mode.getLast? = some '&' then openSame n mode.dropLast first false
    else if "&=".toList.isSuffixOf mode then openSame n (mode.take (mode.length - 2)) first true
    else
      match first with
      | .reference .scalar v =>
        let writes := mode.head? = some '>'
        let before ← valueOf v
        if writes then
          if mode != ">>".toList then setCell v (.scalar (.text []))
          setCell n (.stream { Stream.closed [] with writes := true, memory := some v })
        else
          setCell n (.stream { Stream.closed [] with reads := true, ahead := before.toText, atEnd := true })
        return .int 1
      | .undefined => do
        let name := "/tmp/PerlIO_".toList ++ Raw.ofNat (← act Act.now)
        let done ← openFile n "+>".toList name
        let _ ← doing fun pid k => k.removeName pid name
        return done
      | first =>
        let done ← openFile n mode first.toText
        if (Raw.after? "utf".toList (Raw.toLower full)).isSome then onStream n fun s => { s with wide := true }
        return done

/-- Closes a stream; tells if that went well. -/
def closeStream (m : Means) (n : Nat) : Running Bool := do
  let s ← streamOf n
  let isOpen := s.fd.isSome || s.memory.isSome || s.reads || s.writes
  let done ← flush n
  match s.fd with
  | some fd => act (Act.close fd)
  | none => pure ()
  setCell n (.stream { Stream.closed s.name with prompt := s.prompt })
  if !isOpen then
    fault Errno.badDescriptor
    return false
  else
    match s.partner with
    | some pid =>
      awaitPartner m pid
      let status := (← get).status
      if status != 0 then modify fun s => { s with errno := 0 }
      return done && status = 0
    | none => return done

/-- Whether nothing more can be read of a stream. -/
def isAtEnd (m : Means) (n : Nat) : Running Bool := do
  let s ← streamOf n
  if !s.ahead.isEmpty then return false
  else return !(← readMore m n 1000)

/-! ## Processes and signals -/

/-- The signal that a value names, and whether groups of processes are meant. -/
def signalOf? (v : Value) : Option (Nat × Bool) :=
  let r := v.toText
  match r with
  | '-' :: rest => (find rest).map fun n => (n, true)
  | r => (find r).map fun n => (n, false)
where
  /-- The number of a signal by its name or in digits. -/
  find (r : Raw) : Option Nat :=
    match Raw.natural? r with
    | some n => some n
    | none =>
      let name := if "SIG".toList.isPrefixOf r then r.drop 3 else r
      if name = "ZERO".toList then some 0 else SignalNumber.named? (Raw.text name)

/-- Sends a signal to processes; tells how many it could be sent to. -/
def sendSignal (m : Means) (args : List Value) : Running Value := do
  match args with
  | [] => return .int 0
  | v :: targets =>
    match signalOf? v with
    | none => die ("Unrecognized signal name \"".toList ++ v.toText ++ ['"'])
    | some (signal, groups) =>
      let results ← targets.mapM fun t => do
        match t with
        | .text r =>
          if !looksLikeNumber r then die "Can't kill a non-numeric process ID".toList
        | .undefined => die "Can't kill a non-numeric process ID".toList
        | _ => pure ()
        let target := if groups then -t.toInt else t.toInt
        match ← act (Act.send target signal) with
        | none => return true
        | some e =>
          fault e
          return false
      let _ ← checkSignals m
      return .int (results.filter id).length

/-- A new process that goes on as this one does: zero in it, and its number here. -/
def forkSelf : Act Nat := fun next => .fork (next 0) next

/-- Carries out a command and waits for it; tells its status. -/
def system (m : Means) (words : List Raw) : Running Value := do
  flushAll
  let env ← environment
  match ← obstacle? env words with
  | some e =>
    fault e
    modify fun s => { s with status := -1 }
    return .int (-1)
  | none =>
    let task ← act Act.task
    let kept (n : Nat) : Act.Choice :=
      if task.ignored.contains n then .ignore else if task.caught.contains n then .take else .usual
    let pid ← startCommand m words [] []
    act do
      Act.choose SignalNumber.interrupt .ignore
      Act.choose SignalNumber.quit .ignore
    awaitPartner m pid
    act do
      Act.choose SignalNumber.interrupt (kept SignalNumber.interrupt)
      Act.choose SignalNumber.quit (kept SignalNumber.quit)
    let _ ← checkSignals m
    return .int (← get).status

/-- What a command writes. -/
def outputOf (m : Means) (command : Raw) : Running (Option Raw) := do
  let words := wordsOf [.text command]
  match ← obstacle? (← environment) words with
  | some e =>
    fault e
    modify fun s => { s with status := -1 }
    return none
  | none =>
    let (r, w) ← act Act.pipe
    let pid ← startCommand m words [(w, 1)] [r, w]
    act (Act.close w)
    let n ← newCell (.stream (Stream.ofFd [] r true false false))
    let text ← takeOctets m n 1000000000 Act.blockBound
    act (Act.close r)
    setCell n (.stream (Stream.closed []))
    awaitPartner m pid
    return some text

/-- Waits so many microseconds; tells how many have passed. -/
def sleepFor (m : Means) (micros : Nat) : Running Nat := do
  let start ← act Act.now
  let _ ← sleepUntil m (some (start + micros)) waitBound
  return (← act Act.now) - start

/-- Sets the alarm; tells how many microseconds were left of the one before. -/
def setAlarm (micros : Nat) : Running Nat := do
  let now ← act Act.now
  let left := match (← get).alarm with
    | some i => i - now
    | none => 0
  modify fun s => { s with alarm := if micros = 0 then none else some (now + micros) }
  return left

/-- So many seconds in microseconds. -/
def microsOf (v : Value) : Nat := (cutToInt (v.float * 1000000)).toNat

/-! ## Files -/

/-- What is asked about a file. -/
def fileTest (letter : Char) (v : Value) : Running Value := do
  let nodeOf (follow : Bool) : Running (Option Node) := do
    match ← streamCell? (match v with
      | .text _ => .undefined
      | v => v) with
    | some _ => return none
    | none => granted ((← act (Act.node? v.toText follow)).map Prod.snd)
  let ask (follow : Bool) (f : Node → Value) : Running Value := do
    match ← nodeOf follow with
    | some n => return f n
    | none => return .undefined
  match letter with
  | 'e' => ask true fun _ => .int 1
  | 'f' => ask true fun n => .ofBool n.isRegular
  | 'd' => ask true fun n => .ofBool n.isDirectory
  | 'l' => ask false fun n => .ofBool n.isLink
  | 'r' | 'R' => ask true fun n => .ofBool (n.allows 4)
  | 'w' | 'W' => ask true fun n => .ofBool (n.allows 2)
  | 'x' | 'X' => ask true fun n => .ofBool (n.allows 1)
  | 'o' | 'O' => ask true fun n => .ofBool n.ours
  | 's' => ask true fun n => if n.size = 0 then .ofBool false else .int n.size
  | 'z' => ask true fun n => .ofBool (n.size = 0)
  | 'p' => ask true fun n => .ofBool (match n.body with
    | .fifo _ => true
    | _ => false)
  | 'c' => ask true fun n => .ofBool (match n.body with
    | .device _ => true
    | _ => false)
  | 'b' | 'S' | 'u' | 'g' | 'k' => ask true fun _ => .ofBool false
  | 't' => return .ofBool false
  | 'M' | 'A' | 'C' =>
    let now ← act Act.now
    ask true fun n => .real (Float.ofInt ((now : Int) - n.changed) / 86400000000.0)
  | 'T' => ask true fun _ => .int 1
  | _ => ask true fun _ => .ofBool false

/-- What is known of a file, as a list. -/
def statOf (v : Value) (follow : Bool) : Running (List Value) := do
  match ← granted (← act (Act.node? v.toText follow)) with
  | none => return []
  | some (i, n) =>
    let kind : Nat := if n.isDirectory then 0o40000 else if n.isLink then 0o120000 else 0o100000
    let time : Value := .int (n.changed / 1000000 : Nat)
    let owner : Value := .int (if n.ours then 1000 else 0)
    return [.int 2049, .int i, .int (kind + n.mode : Nat), .int (if n.isDirectory then 2 else 1), owner, owner, .int 0, .int n.size,
      time, time, time, .int 4096, .int ((n.size + 511) / 512 : Nat)]

/-- How many of some paths something can be done with. -/
def countDone (paths : List Value) (f : Raw → Pid → Kernel → Except Errno Kernel) : Running Value := do
  let results ← paths.mapM fun p => doing (f p.toText)
  return .int (results.filter id).length

/-- The paths that a pattern stands for. -/
def globbed (word : Raw) : Running (List Value) := do
  let found ← (braced 100 word).mapM fun w => do
    if w.any "*?[".toList.contains then
      let (head, name) := pathParts w
      let names ← act (Paths.namesIn (if head.isEmpty then ['.'] else head))
      let names := match names with
        | .ok ns => ns
        | .error _ => []
      let e ← expression ("^".toList ++ wild name ++ "$".toList) []
      let fits := names.filter fun n => (n.head? != some '.' || name.head? = some '.') && e.regex.isIn n
      return (fits.mergeSort fun a b => Raw.atMost a b).map fun n => Value.text (head ++ n)
    else return [Value.text w]
  return found.flatten
where
  /-- The words that braces with commas stand for. -/
  braced : (fuel : Nat) → Raw → List Raw
    | 0, w => [w]
    | fuel + 1, w =>
      let head := w.takeWhile (· != '\x7b')
      match w.drop head.length with
      | _ :: rest =>
        match enclosed '\x7b' '\x7d' 0 [] rest with
        | some (body, after) => (Raw.splitAt ',' body).flatMap fun p => braced fuel (head ++ p ++ after)
        | none => [w]
      | [] => [w]
  /-- An expression for names. -/
  wild (r : Raw) : Raw :=
    r.flatMap fun c => if c = '*' then ".*".toList else if c = '?' then ['.'] else if c = '[' || c = ']' || c = '-' then [c]
      else quotemeta [c]

/-! ## All of them -/

/-- The value of a function that asks something of the system. -/
def systemCall? (m : Means) (name : String) (args : List Value) (many : Bool) : Running (Option (List Value)) := do
  let first := args.headD .undefined
  let second := args.getD 1 .undefined
  let one (v : Value) : Running (Option (List Value)) := return some [v]
  let int (n : Int) : Running (Option (List Value)) := return some [.int n]
  let truth (b : Bool) : Running (Option (List Value)) := return some [.ofBool b]
  let permitted (pid : Pid) (k : Kernel) (mode : Nat) : Nat := mode - (mode &&& (k.task pid).mask)
  match name with
  | "time" => do int ((← act Act.now) / 1000000 : Nat)
  | "Time::HiRes::time" => do one (.real (Float.ofNat (← act Act.now) / 1000000.0))
  | "times" => return some [.real 0.01, .real 0, .real 0, .real 0]
  | "getppid" => do int (← act Act.parentPid)
  | "getpid" => do int (← act Act.ownPid)
  | "getpgrp" => do int ((← act Act.task).group)
  | "getuid" => int 1000
  | "getlogin" => one .undefined
  | "setpgrp" | "setsid" | "setpgid" => do
    act (Act.change fun pid k => k.onTask pid fun t => { t with group := pid })
    int (← act Act.ownPid)
  | "fork" => do
    flushAll
    let pid ← act forkSelf
    if pid = 0 then modify fun s => { s with alarm := none }
    int pid
  | "wait" => do int (← awaitChild m none true waitBound)
  | "waitpid" => do
    let target := first.toInt
    int (← awaitChild m (if target > 0 then some target.toNat else none) (second.toInt % 2 = 0) waitBound)
  | "kill" => do one (← sendSignal m args)
  | "raise" => do
    let pid ← act Act.ownPid
    let _ ← act (Act.send pid first.toNat)
    let _ ← checkSignals m
    int 1
  | "abort" => act (Act.die SignalNumber.abort)
  | "_exit" => throw (.halt (.code (UInt8.ofNat (first.toInt % 256).toNat)))
  | "system" => do one (← system m (wordsOf args))
  | "exec" => do
    flushAll
    let e ← act (replaceBy m (← environment) (wordsOf args))
    fault e
    truth false
  | "sleep" => do
    if args.isEmpty then
      let start ← act Act.now
      let _ ← sleepUntil m none waitBound
      int (((← act Act.now) - start + 500000) / 1000000 : Nat)
    else int (((← sleepFor m (first.toNat * 1000000)) + 500000) / 1000000 : Nat)
  | "pause" => do
    let _ ← sleepUntil m none waitBound
    fault Errno.interrupted
    one .undefined
  | "Time::HiRes::sleep" => do one (.real (Float.ofNat (← sleepFor m (microsOf first)) / 1000000.0))
  | "usleep" => do int (← sleepFor m first.toNat)
  | "nanosleep" => do int ((← sleepFor m (first.toNat / 1000)) * 1000)
  | "gettimeofday" => do
    let now ← act Act.now
    if many then return some [.int (now / 1000000 : Nat), .int (now % 1000000 : Nat)]
    else one (.real (Float.ofNat now / 1000000.0))
  | "alarm" => do int (((← setAlarm (first.toNat * 1000000)) + 999999) / 1000000 : Nat)
  | "Time::HiRes::alarm" => do one (.real (Float.ofNat (← setAlarm (microsOf first)) / 1000000.0))
  | "ualarm" => do int (← setAlarm first.toNat)
  | "select" =>
    if args.length ≥ 4 then do
      match args.getD 3 .undefined with
      | .undefined =>
        let _ ← sleepUntil m none waitBound
        fault Errno.interrupted
        int (-1)
      | v =>
        let start ← act Act.now
        if ← sleepUntil m (some (start + microsOf v)) waitBound then
          fault Errno.interrupted
          int (-1)
        else int 0
    else do
      let before := (← get).selected
      match ← streamCell? first with
      | some n => modify fun s => { s with selected := n }
      | none => pure ()
      let name := (← streamOf before).name
      one (if before ≤ errorCell then .text ("main::".toList ++ name) else .reference .handle before)
  | "umask" => do
    let old := (← act Act.task).mask
    if !args.isEmpty then act (Act.change fun pid k => k.onTask pid fun t => { t with mask := first.toNat % 512 })
    int old
  | "nice" => do
    act (Act.change fun pid k => k.onTask pid fun t => { t with niceness := min (t.niceness + first.toInt) 19 })
    one (.text "0 but true".toList)
  | "getpriority" => do int (← act Act.task).niceness
  | "chdir" => do
    let home := ((← tableOf environmentCell).get? "HOME".toList).getD .undefined
    let path := if args.isEmpty then home.toText else first.toText
    truth (← doing fun pid k => k.enter pid path)
  | "getcwd" | "cwd" => do one (.text (← act Act.workingDirectory))
  | "mkdir" => do
    let mode := if args.length > 1 then second.toNat else 0o777
    truth (← doing fun pid k => k.makeDirectory pid first.toText (permitted pid k mode))
  | "rmdir" => do truth (← doing fun pid k => k.removeDirectory pid first.toText)
  | "make_path" | "mkpath" => do
    let made ← args.mapM fun v => do
      let parts := Raw.splitAt '/' v.toText
      let levels := (List.range parts.length).map fun i => Raw.joined ['/'] (parts.take (i + 1))
      let done ← (levels.filter (!·.isEmpty)).mapM fun l => do
        if ← act (Act.isThere l) then return false
        else doing fun pid k => k.makeDirectory pid l (permitted pid k 0o777)
      return (done.filter id).length
    int (made.foldl (· + ·) 0 : Nat)
  | "unlink" => do one (← countDone args fun p pid k => k.removeName pid p)
  | "rename" | "move" => do truth (← doing fun pid k => k.move pid first.toText second.toText)
  | "link" => do truth (← doing fun pid k => k.addName pid first.toText second.toText)
  | "symlink" => do truth (← doing fun pid k => k.makeLink pid first.toText second.toText)
  | "readlink" => do
    match ← granted (← act (Act.ask fun pid k => k.readLink pid first.toText)) with
    | some r => one (.text r)
    | none => one .undefined
  | "chmod" => do one (← countDone (args.drop 1) fun p pid k => k.setMode pid p first.toNat)
  | "chown" => int (args.length - 2 : Nat)
  | "utime" => do
    let now ← act Act.now
    let time := if second.isDefined then microsOf second else now
    one (← countDone (args.drop 2) fun p pid k => k.setTime pid p time)
  | "truncate" => do truth (← doing fun pid k => k.setSize pid first.toText second.toNat)
  | "stat" | "lstat" => do
    let vs ← statOf first (name == "stat")
    return some (if many then vs else [.ofBool !vs.isEmpty])
  | "access" => do
    match ← granted (← act (Act.node? first.toText true)) with
    | some (_, n) => truth ([4, 2, 1].all fun bit => second.toNat &&& bit = 0 || n.allows bit)
    | none => truth false
  | "glob" => do
    let words := Raw.words first.toText
    let all ← words.mapM globbed
    if many then return some all.flatten else return some (all.flatten.take 1)
  | "dup2" => do
    if ← act (Act.duplicate first.toNat second.toNat) then
      one (if second.toNat = 0 then .text "0 but true".toList else .int second.toNat)
    else
      fault Errno.badDescriptor
      one .undefined
  | "dup" => do
    let free ← act (Act.ask fun pid k => k.freeFd pid 3)
    if ← act (Act.duplicate first.toNat free) then int free
    else
      fault Errno.badDescriptor
      one .undefined
  | "write" => do
    match ← act (Act.write first.toNat (second.toText)) with
    | none => int second.toText.length
    | some e =>
      fault e
      one .undefined
  | "hostname" => one (.text "localhost".toList)
  | "localtime" | "gmtime" => do
    let seconds : Int ← if args.isEmpty then do pure ((← act Act.now) / 1000000 : Nat) else pure first.toInt
    return some (timeParts seconds many)
  | "rand" => do
    let s ← get
    let next := (s.random * 6364136223846793005 + 1442695040888963407) % 18446744073709551616
    set { s with random := next }
    let scale := if first.float == 0 then 1.0 else first.float
    one (.real (Float.ofNat (next / 2048) / 9007199254740992.0 * scale))
  | "srand" => do
    let seed ← if args.isEmpty then do pure (← act Act.now) else pure first.toNat
    modify fun s => { s with random := seed * 2862933555777941757 + 3037000493 }
    one (if seed = 0 then .text "0 but true".toList else .int seed)
  | "Dumper" => do one (.text (← dumpedAll args))
  | "getpwuid" | "getpwnam" | "getgrgid" => return some (if many then [] else [.undefined])
  | "flock" | "binmode" | "setpriority" => int 1
  | _ => return none

end Running
end RunMeter.Machine.Perl
