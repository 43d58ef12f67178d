import RunMeter.Machine.Utility.Paths
import RunMeter.Machine.Utility.Python.Operators

/-!
# RunMeter.Machine.Utility.Python.Processes — what Python programs do with processes, signals and files

* `checkSignals`: signals that have arrived are dealt with.
* `pauseUntil`, `awaitChild`: waiting, in which signals are dealt with.
* `launch`: another program in a process of its own.
* `streamMethod`: what a stream can be asked to do.

Nothing that is proved depends on this module.
-/

namespace RunMeter.Machine.Python
namespace Running

/-! ## Signals and waiting -/

/-- How many signals are dealt with at once. -/
def signalBound : Nat := 1000

/-- Deals with the signals that have arrived, at most `fuel`. -/
def checkSignalsWithin (m : Means) : (fuel : Nat) → Running Unit
  | 0 => return
  | fuel + 1 => do
    let s ← get
    match s.alarm with
    | some instant =>
      if (← act Act.now) ≥ instant then
        set { s with alarm := none }
        let pid ← act Act.ownPid
        let _ ← act (Act.send pid SignalNumber.alarm)
    | none => pure ()
    match ← act Act.takeSignal with
    | none => return
    | some n =>
      match (← get).handlers.lookup n with
      | some (.builtin "signal.default_int_handler") => raiseWith "KeyboardInterrupt" [] []
      | some f =>
        let _ ← m.call f [.member "Signals" ("SIG" ++ (SignalNumber.name? n).getD "") n, .nothing] []
      | none => pure ()
      checkSignalsWithin m fuel

/-- Deals with the signals that have arrived. -/
def checkSignals (m : Means) : Running Unit := checkSignalsWithin m signalBound

/-- The earlier of an instant and the next alarm. -/
def orAlarm (instant : Option Instant) : Running (Option Instant) := do
  match instant, (← get).alarm with
  | some a, some b => return some (min a b)
  | none, b => return b
  | a, none => return a

/-- Waits until an instant, or for a signal if there is none. -/
def pauseUntil (m : Means) (instant : Option Instant) : (fuel : Nat) → Running Unit
  | 0 => return
  | fuel + 1 => do
    match ← orAlarm instant with
    | some i =>
      let _ ← act (Act.sleepUntil i)
    | none => act Act.pause
    checkSignals m
    match instant with
    | some i => if (← act Act.now) < i then pauseUntil m instant fuel
    | none => return

/-- How many times waiting begins again. -/
def waitBound : Nat := 10000000

/-- The microseconds between two looks at a child. -/
def lookTime : Nat := 1000

/-- Waits for a child's end, until an instant if there is one; tells which it was and how it ended. -/
def awaitChild (m : Means) (which : Option Pid) (patient : Bool) (limit : Option Instant) :
    (fuel : Nat) → Running (Option (Pid × Ended))
  | 0 => return none
  | fuel + 1 => do
    let deadline ← orAlarm limit
    match ← act (Act.waitChild which (patient && deadline.isNone) false) with
    | .ended pid how => return some (pid, how)
    | .nobody => raiseErrno Errno.noChild []
    | .signal =>
      checkSignals m
      awaitChild m which patient limit fuel
    | .none =>
      if !patient then return none
      else
        let now ← act Act.now
        if (limit.map fun l => decide (now ≥ l)).getD false then return none
        else
          let _ ← act (Act.sleepUntil (min ((deadline).getD now) (now + lookTime)))
          checkSignals m
          awaitChild m which patient limit fuel

/-- The status of an ended process in one number. -/
def statusWord : Ended → Int
  | .code n => (n.toNat * 256 : Nat)
  | .signal n => (n : Nat)

/-- The status of an ended process as its exit code, or the negative number of a signal. -/
def statusNumber : Ended → Int
  | .code n => (n.toNat : Nat)
  | .signal n => -(n : Int)

/-! ## Paths and variables -/

/-- The path that a value is. -/
def pathOf (v : Value) : Running Raw := do
  match v with
  | .text t => return Text.toRaw t
  | .octets r => return r
  | v => raiseKind ("expected str, bytes or os.PathLike object, not " ++ (← kindName v))

/-- What a name in a module stands for, where that is not fixed. -/
def attributeOf (module name : String) : Running Value :=
  return (((← get).attributes.find? fun e => e.1 == (module, name.toList)).map Prod.snd).getD .nothing

/-- Lets a name in a module stand for a value. -/
def setAttributeOf (module : String) (name : Text) (v : Value) : Running Unit :=
  modify fun s => { s with
    attributes := ((module, name), v) :: s.attributes.filter fun e => e.1 != (module, name) }

/-- The variables of a mapping. -/
def variablesOf (v : Value) : Running (List (Raw × Raw)) := do
  match v with
  | .object n =>
    match ← objectAt n with
    | .dict es => es.mapM fun e => do return (← pathOf e.1, ← pathOf e.2)
    | _ => return []
  | _ => return []

/-- The variables of the program. -/
def environment : Running (List (Raw × Raw)) := do variablesOf (← attributeOf "os" "environ")

/-! ## Streams -/

/-- A stream of a descriptor. -/
def streamOf (fd : Nat) (name : Value) (mode : String) (octets : Bool) : Stream :=
  let has (c : Char) : Bool := mode.toList.contains c
  let writes := has 'w' || has 'a' || has 'x' || has '+'
  ⟨fd, name, mode, has 'r' || has '+', writes, octets, false, false, false, [], 0, [], 0, [], false⟩

/-- A stream of a file that the program opens. -/
def openedStream (s : Stream) : Running Value := do
  let v ← create (.stream s)
  match v with
  | .object n => modify fun s => { s with opened := n :: s.opened }
  | _ => pure ()
  return v

/-- Opens a file. -/
def openStream (path : Value) (mode : String) : Running Value := do
  let has (c : Char) : Bool := mode.toList.contains c
  if (mode.toList.filter "rwax".toList.contains).length != 1 || !(mode.toList.all "rwaxbt+".toList.contains) then
    if mode.toList.all "rwaxbt+".toList.contains then
      raise "ValueError" "must have exactly one of create/read/write/append mode"
    else raise "ValueError" ("invalid mode: '" ++ mode ++ "'")
  let how : OpenMode :=
    if has 'w' then { OpenMode.writing with readable := has '+' }
    else if has 'a' then { OpenMode.appending with readable := has '+' }
    else if has 'x' then { OpenMode.fresh with readable := has '+' }
    else if has '+' then { OpenMode.updating with create := false }
    else .reading
  match path.int? with
  | some fd => openedStream (streamOf fd.toNat path mode (has 'b'))
  | none =>
    let raw ← pathOf path
    let isDirectory ← act (Paths.isDirectory raw)
    if isDirectory then raiseErrno Errno.isDirectory [path]
    let fd ← granted (← act (Act.openFile raw how)) [path]
    openedStream (streamOf fd path mode (has 'b'))

/-- Begins to leave because a stream is not meant for something. -/
def notMeant {α : Type} (what : String) : Running α := raise "io.UnsupportedOperation" ("not " ++ what)

/-- Closes a stream. -/
def closeStream (n : Nat) : Running Unit := do
  match ← objectAt n with
  | .stream s =>
    if !s.closed then
      let wrong ← tryFlush n
      act (Act.close s.fd)
      put n (.stream { s with closed := true, pending := [], kept := [], pendingSize := 0, keptSize := 0 })
      match wrong with
      | some e => raiseErrno e []
      | none => return
  | _ => return

/-- What a stream can be asked to do; `octets` says that it is taken as one of octets. -/
def streamMethod (m : Means) (n : Nat) (s : Stream) (octets : Bool) (name : String) (args : List Value) :
    Running (Option Value) := do
  let wrap (r : Raw) : Value := if octets then .octets r else .text (Text.ofRaw r)
  let written (v : Value) : Running Nat := do
    match v, octets with
    | .text t, false =>
      emit n false (Text.toRaw t)
      return t.length
    | v, true =>
      match v.octets? (← store) with
      | some r =>
        emit n true r
        return r.length
      | none => raiseKind ("a bytes-like object is required, not '" ++ (← kindName v) ++ "'")
    | .vast (.text t) k, false =>
      emit n false (List.replicate k (Text.toRaw t)).flatten
      return t.length * k
    | v, false => raiseKind ("write() argument must be str, not " ++ (← kindName v))
  if s.closed && !(["close", "__exit__"].contains name) then raise "ValueError" "I/O operation on closed file."
  if (name == "write" || name == "writelines") && !s.writable then notMeant "writable"
  if ["read", "readline", "readlines"].contains name && !s.readable then notMeant "readable"
  match name, args with
  | "write", [v] => return some (.int (← written v))
  | "writelines", [v] =>
    for w in ← itemsOf m v do let _ ← written w
    return some .nothing
  | "read", args => do
    match args with
    | [] | [.nothing] => return some (wrap (← takeOctets n none))
    | v :: _ =>
      let k ← intOf v
      return some (wrap (← takeOctets n (if k < 0 then none else some k.toNat)))
  | "readline", _ => return some (wrap (← takeLine n))
  | "readlines", _ => return some (← newList ((← takeLines n Act.blockBound).map wrap))
  | "flush", [] =>
    flush n
    return some .nothing
  | "close", [] | "__exit__", _ =>
    closeStream n
    return some .nothing
  | "__enter__", [] => return some (.object n)
  | "fileno", [] => return some (.int s.fd)
  | "isatty", [] => return some (.truth false)
  | "readable", [] => return some (.truth s.readable)
  | "writable", [] => return some (.truth s.writable)
  | "seekable", [] => return some (.truth (s.name matches .text _))
  | "reconfigure", _ => return some .nothing
  | "seek", v :: _ =>
    flush n
    let place ← intOf v
    match ← objectAt n with
    | .stream s => put n (.stream { s with ahead := [], atEnd := false })
    | _ => pure ()
    let _ ← granted (← act (Act.seek s.fd fun _ _ => place)) []
    return some v
  | "tell", [] =>
    flush n
    let place ← granted (← act (Act.seek s.fd fun offset _ => offset)) []
    return some (.int ((place : Int) - s.ahead.length))
  | _, _ => return none

/-! ## Other programs -/

/-- What is asked for when another program is started. -/
structure Wanted where
  words : List Raw
  env : List (Raw × Raw)
  directory : Option Raw
  session : Bool
  /-- The descriptors that take the places of the standard ones. -/
  input : Option Nat
  output : Option Nat
  errors : Option Nat
  /-- Whether messages go where output goes. -/
  joined : Bool
  /-- Whether only the standard descriptors are kept. -/
  closes : Bool

/-- Starts another program in a process of its own. -/
def launch (m : Means) (w : Wanted) : Running Pid := do
  let lead (source : Option Nat) (target : Nat) : Act Unit := do
    match source with
    | some fd =>
      if fd != target then
        let _ ← Act.duplicate fd target
    | none => pure ()
  act (Act.fork do
    lead w.input 0
    lead w.output 1
    lead w.errors 2
    if w.joined then
      let _ ← Act.duplicate 1 2
    if w.closes then
      Act.change fun pid k => (k.task pid).fds.foldl (fun k e => if e.1 > 2 then k.close pid e.1 else k) k
      for n in [SignalNumber.brokenPipe, 25] do Act.choose n .usual
    if w.session then Act.change fun pid k => k.onTask pid fun t => { t with group := pid }
    match w.directory with
    | some d => let _ ← Act.tryChange fun pid k => k.enter pid d
    | none => pure ()
    let e ← m.program.replace w.env w.words
    return .code (Starting.unstarted e))

/-- What keeps a program from being started, if anything does. -/
def obstacle? (w : Wanted) : Running (Option Errno) := do
  let path := ((w.env.find? fun v => v.1 == "PATH".toList).map Prod.snd).getD Call.usualPath
  act (Act.ask fun pid k =>
    match Launch.search k.files (k.task pid).cwd path (w.words.headD []) w.words with
    | .ok _ => none
    | .error e => some e)

/-- The words that a value means for a new program. -/
def wordsOfValue (m : Means) (v : Value) (shell : Bool) : Running (List Raw) := do
  match v with
  | .text _ | .octets _ =>
    let w ← pathOf v
    return if shell then ["/bin/sh".toList, "-c".toList, w] else [w]
  | v =>
    let ws ← (← itemsOf m v).mapM pathOf
    return if shell then ["/bin/sh".toList, "-c".toList] ++ ws else ws

/-- The file with the functions for starting programs. -/
def startingFile : Text := "/usr/lib/python3.11/subprocess.py".toList

/-- A started program as an object, and the ends of its pipes. -/
def startProcess (m : Means) (caller : List Spot) (args : List Value) (named : List (Text × Value)) : Running Nat := do
  let s ← store
  let option (name : String) : Value := (named.lookup name.toList).getD .nothing
  let isSet (name : String) : Bool := (option name).isTrue s
  let command := args.headD ((named.lookup "args".toList).getD .nothing)
  let words ← wordsOfValue m command (isSet "shell")
  let env ← if (option "env") matches .nothing then environment else variablesOf (option "env")
  let directory ← match option "cwd" with
    | .nothing => pure none
    | v => do pure (some (← pathOf v))
  let texts := isSet "text" || isSet "universal_newlines" || isSet "encoding"
  let mode (letter : String) : String := if texts then letter else letter ++ "b"
  let place (name : String) (reads : Bool) : Running (Option Nat × Option Nat) := do
    -- the child's descriptor and the program's own
    match option name with
    | .nothing | .int (-2) => return (none, none)
    | .int (-1) =>
      let (r, w) ← act Act.pipe
      return if reads then (some r, some w) else (some w, some r)
    | .int (-3) =>
      let fd ← granted (← act (Act.openFile "/dev/null".toList (if reads then .reading else .writing))) []
      return (some fd, none)
    | v =>
      match v.int? with
      | some fd => return (some fd.toNat, none)
      | none =>
        match ← stream? v with
        | some (_, st, _) => return (some st.fd, none)
        | none => raise "AttributeError" ("'" ++ v.kindName s ++ "' object has no attribute 'fileno'")
  let wanted : Wanted :=
    ⟨words, env, directory, isSet "start_new_session", none, none, none, (option "stderr") matches .int (-2), true⟩
  match ← obstacle? wanted with
  | some e =>
    let spots : List Spot := caller ++
      [⟨startingFile, "__init__".toList, 1024, ["self._execute_child(args, executable, preexec_fn, close_fds,".toList]⟩,
       ⟨startingFile, "_execute_child".toList, 1901, ["raise child_exception_type(errno_num, err_msg, err_filename)".toList]⟩]
    raiseIn spots (raiseErrno e [.text (Text.ofRaw (words.headD []))])
  | none => pure ()
  let (input, ownInput) ← place "stdin" true
  let (output, ownOutput) ← place "stdout" false
  let (errors, ownErrors) ← place "stderr" false
  let pid ← launch m { wanted with input, output, errors }
  for (own, theirs) in [(ownInput, input), (ownOutput, output), (ownErrors, errors)] do
    match own, theirs with
    | some _, some fd => act (Act.close fd)
    | _, _ => pure ()
  let side (own : Option Nat) (letter : String) : Running Value := do
    match own with
    | some fd => create (.stream (streamOf fd (.int fd) (mode letter) (!texts)))
    | none => return .nothing
  let v ← create (.instance (.kind "Popen") [("args".toList, command), ("pid".toList, .int pid),
    ("returncode".toList, .nothing), ("stdin".toList, ← side ownInput "w"), ("stdout".toList, ← side ownOutput "r"),
    ("stderr".toList, ← side ownErrors "r")])
  match v with
  | .object n => return n
  | _ => return 0

/-- An attribute of an object. -/
def field (n : Nat) (name : String) : Running Value := do
  match ← objectAt n with
  | .instance _ fs => return (fs.lookup name.toList).getD .nothing
  | .mishap x => return (x.attributes.lookup name.toList).getD .nothing
  | _ => return .nothing

/-- Changes an attribute of an object. -/
def setField (n : Nat) (name : Text) (v : Value) : Running Unit := do
  match ← objectAt n with
  | .instance k fs => put n (.instance k (bound fs name v))
  | .mishap x => put n (.mishap { x with attributes := bound x.attributes name v })
  | .kind k => put n (.kind { k with attributes := bound k.attributes name v })
  | _ => return

/-- Begins to leave because a program took too long. -/
def tooLate {α : Type} (command limit : Value) : Running α := do
  let s ← store
  raiseWith "subprocess.TimeoutExpired" [command, limit] [("cmd".toList, command), ("timeout".toList, limit),
    ("told".toList,
      .text ("Command '".toList ++ command.printed s ++ "' timed out after ".toList ++ limit.printed s ++
        " seconds".toList))]

/-- The instant so many seconds from now. -/
def instantAfter (v : Value) : Running (Option Instant) := do
  match v.real? with
  | none => return none
  | some f =>
    let now ← act Act.now
    return some (now + ((wholePart? (f * 1000000)).getD 0).toNat)

/-- Waits for a started program; gives its status. -/
def waitProcess (m : Means) (n : Nat) (limit : Value) : Running Value := do
  match ← field n "returncode" with
  | .nothing =>
    let pid ← intOf (← field n "pid")
    let deadline ← instantAfter limit
    match ← awaitChild m (some pid.toNat) true deadline waitBound with
    | some (_, how) =>
      setField n "returncode".toList (.int (statusNumber how))
      return .int (statusNumber how)
    | none => tooLate (← field n "args") limit
  | v => return v

/-- Writes to a started program, reads what it writes, and waits for it. -/
def communicate (m : Means) (n : Nat) (input limit : Value) : Running (Value × Value) := do
  match ← field n "stdin" with
  | .object i =>
    match input with
    | .nothing => pure ()
    | v =>
      let raw ← pathOf v
      emit i true raw
      let _ ← tryFlush i
    match ← objectAt i with
    | .stream s =>
      act (Act.close s.fd)
      put i (.stream { s with closed := true, pending := [], kept := [], pendingSize := 0, keptSize := 0 })
    | _ => pure ()
  | _ => pure ()
  if !(limit matches .nothing) then
    let _ ← waitProcess m n limit
  let all (name : String) : Running Value := do
    match ← field n name with
    | .object i =>
      match ← objectAt i with
      | .stream s =>
        let r ← takeOctets i none
        act (Act.close s.fd)
        put i (.stream { s with closed := true, ahead := [] })
        return if s.octets then .octets r else .text (Text.ofRaw r)
      | _ => return .nothing
    | _ => return .nothing
  let output ← all "stdout"
  let errors ← all "stderr"
  let _ ← waitProcess m n .nothing
  return (output, errors)

/-- Begins to leave because a program ended otherwise than well. -/
def unsuccessful {α : Type} (command status output errors : Value) : Running α := do
  let s ← store
  let text := match status with
    | .int n =>
      if n < 0 then
        match SignalNumber.name? n.natAbs with
        | some name =>
          "died with <Signals.SIG".toList ++ name.toList ++ ": ".toList ++ Raw.ofNat n.natAbs ++ ">.".toList
        | none => "died with unknown signal ".toList ++ Raw.ofNat n.natAbs ++ ".".toList
      else "returned non-zero exit status ".toList ++ Raw.ofInt n ++ ".".toList
    | _ => []
  raiseWith "subprocess.CalledProcessError" [status, command] [("returncode".toList, status), ("cmd".toList, command),
    ("output".toList, output), ("stdout".toList, output), ("stderr".toList, errors),
    ("told".toList, .text ("Command '".toList ++ command.printed s ++ "' ".toList ++ text))]

/-- Starts a program and waits for it: the object that tells about it. -/
def runProcess (m : Means) (args : List Value) (named : List (Text × Value)) : Running Value := do
  let s ← store
  let option (name : String) : Value := (named.lookup name.toList).getD .nothing
  let capture := (option "capture_output").isTrue s
  let more : List (Text × Value) :=
    (if capture then [("stdout".toList, .int (-1)), ("stderr".toList, .int (-1))] else []) ++
    (if (option "input") matches .nothing then [] else [("stdin".toList, .int (-1))])
  let spot (line : Nat) (source : List String) : Spot := ⟨startingFile, "run".toList, line, source.map String.toList⟩
  let opened := spot 548 ["with Popen(*popenargs, **kwargs) as process:", "     ^^^^^^^^^^^^^^^^^^^^^^^^^^^"]
  let n ← startProcess m [opened] args (more ++ named)
  let (output, errors) ← communicate m n (option "input") (option "timeout") |> tryCatchThe Jump <| fun j => do
    match (option "timeout") with
    | .nothing => throw j
    | _ =>
      let pid ← intOf (← field n "pid")
      let _ ← act (Act.send pid SignalNumber.kill)
      let _ ← awaitChild m (some pid.toNat) true none waitBound
      throw j
  let command ← field n "args"
  let status ← field n "returncode"
  if (option "check").isTrue s && !(status matches .int 0) then
    raiseIn [spot 571 ["raise CalledProcessError(retcode, process.args,"]] (unsuccessful command status output errors)
  else
    create (.instance (.kind "CompletedProcess") [("args".toList, command), ("returncode".toList, status),
      ("stdout".toList, output), ("stderr".toList, errors)])

/-- What a started program can be asked to do. -/
def processMethod (m : Means) (n : Nat) (name : String) (args : List Value) (named : List (Text × Value)) :
    Running (Option Value) := do
  let argument (i : Nat) (key : String) : Value := (args[i]?).getD ((named.lookup key.toList).getD .nothing)
  let send (signal : Nat) : Running (Option Value) := do
    match ← field n "returncode" with
    | .nothing =>
      let pid ← intOf (← field n "pid")
      let _ ← act (Act.send pid signal)
      return some .nothing
    | _ => return some .nothing
  match name with
  | "wait" => return some (← waitProcess m n (argument 0 "timeout"))
  | "poll" =>
    match ← field n "returncode" with
    | .nothing =>
      let pid ← intOf (← field n "pid")
      match ← awaitChild m (some pid.toNat) false none 1000 with
      | some (_, how) =>
        setField n "returncode".toList (.int (statusNumber how))
        return some (.int (statusNumber how))
      | none => return some .nothing
    | v => return some v
  | "communicate" =>
    let (a, b) ← communicate m n (argument 0 "input") (argument 1 "timeout")
    return some (.tuple [a, b])
  | "kill" => send SignalNumber.kill
  | "terminate" => send SignalNumber.terminate
  | "send_signal" => do send (← intOf (argument 0 "sig")).toNat
  | "__enter__" => return some (.object n)
  | "__exit__" =>
    let _ ← waitProcess m n .nothing
    return some .nothing
  | "check_returncode" =>
    let status ← field n "returncode"
    if status matches .int 0 then return some .nothing
    else unsuccessful (← field n "args") status (← field n "stdout") (← field n "stderr")
  | _ => return none

end Running
end RunMeter.Machine.Python
