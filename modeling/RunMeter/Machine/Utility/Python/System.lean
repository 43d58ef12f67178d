import RunMeter.Machine.Utility.Python.Library

/-!
# RunMeter.Machine.Utility.Python.System — the functions of modules

* `systemCall?`: those about processes, files and signals.
* `moduleCall?`: all of them.

Nothing that is proved depends on this module.
-/

namespace RunMeter.Machine.Python
namespace Running

/-- The number of a signal that a value names. -/
def signalOf (v : Value) : Running Nat := do
  let n ← intOf v
  if n < 1 || n > 64 then raise "ValueError" "signal number out of range" else return n.toNat

/-- Does something with the kernel that the system may refuse. -/
def doing (paths : List Value) (change : Pid → Kernel → Except Errno Kernel) : Running Value := do
  match ← act (Act.tryChange change) with
  | none => return .nothing
  | some e => raiseErrno e paths

/-- What is done about a signal now. -/
def handlerOf (n : Nat) : Running Value := do
  match (← get).handlers.lookup n with
  | some v => return v
  | none =>
    if (← act Act.task).ignored.contains n then return .member "Handlers" "SIG_IGN" 1
    else return .member "Handlers" "SIG_DFL" 0

/-- Chooses what is done about a signal. -/
def setHandler (n : Nat) (v : Value) : Running Value := do
  let before ← handlerOf n
  let set (choice : Act.Choice) (kept : List (Nat × Value)) : Running Unit := do
    if SignalNumber.fixed n then
      let call := "handler = _signal.signal(_enum_to_int(signalnum), _enum_to_int(handler))".toList
      let carets := List.replicate 10 ' ' ++ List.replicate (call.length - 10) '^'
      raiseIn [⟨"/usr/lib/python3.11/signal.py".toList, "signal".toList, 58, [call, carets]⟩] (raiseErrno Errno.invalid [])
    act (Act.choose n choice)
    modify fun s => { s with handlers := kept ++ s.handlers.filter fun e => e.1 != n }
  match v with
  | .member "Handlers" _ 1 | .int 1 => set .ignore []
  | .member "Handlers" _ _ | .int 0 => set .usual []
  | .object _ | .builtin _ | .method .. => set .take [(n, v)]
  | _ => raiseKind "signal handler must be signal.SIG_IGN, signal.SIG_DFL, or a callable object"
  return before

/-- Puts another program in the place of this one. -/
def replaceBy (m : Means) (path : Value) (words : List Raw) (env : List (Raw × Raw)) (searched : Bool) : Running Value := do
  let raw ← pathOf path
  let place (function : String) (line : Nat) : Spot := ⟨"<frozen os>".toList, function.toList, line, []⟩
  let searches := searched && !raw.contains '/'
  let w := if searches || raw.contains '/' then raw else "./".toList ++ raw
  let found : Except Errno Image ← act (Act.ask fun pid k =>
    let search := ((env.find? fun v => v.1 == "PATH".toList).map Prod.snd).getD Call.usualPath
    Launch.search k.files (k.task pid).cwd search w words)
  match found with
  | .error e =>
    if searched then
      raiseIn ([place "execvp" 574, place "_execvpe" 616] ++ if searches then [place "_execvpe" 607] else []) (raiseErrno e [])
    else raiseErrno e []
  | .ok image =>
    act do
      let how ← m.program.start image env
      Act.finish how

/-- A new process that goes on as this one does: zero in it, and its number here. -/
def forkSelf : Act Nat := fun next => .fork (next 0) next

/-- A path with single slashes and without points. -/
def normal (path : Raw) : Raw :=
  let absolute := path.head? = some '/'
  let parts := (Raw.splitAt '/' path).filter fun p => !p.isEmpty && p != ['.']
  let kept := parts.foldl (fun (done : List Raw) p =>
    if p = ['.', '.'] then
      match done with
      | d :: rest => if d = ['.', '.'] then p :: done else rest
      | [] => if absolute then [] else [p]
    else p :: done) []
  let body := Raw.joined ['/'] kept.reverse
  if absolute then '/' :: body else if body.isEmpty then ['.'] else body

/-- Paths joined. -/
def joinedPath (parts : List Raw) : Raw :=
  parts.foldl (fun done p =>
    if p.head? = some '/' || done.isEmpty then p
    else if done.getLast? = some '/' then done ++ p else done ++ '/' :: p) []

/-- A function about paths. -/
def pathCall? (name : String) (args : List Value) : Running (Option Value) := do
  let wrap (r : Raw) : Running (Option Value) := return some (.text (Text.ofRaw r))
  let node (follow : Bool) : Running (Option Node) := do
    let p ← pathOf (args.headD .nothing)
    return ((← act (Act.node? p follow)).toOption).map Prod.snd
  let path : Running Raw := pathOf (args.headD .nothing)
  let cut (p : Raw) : Raw × Raw :=
    let last := (p.reverse.takeWhile (· != '/')).reverse
    let head := p.take (p.length - last.length)
    let bare := Raw.dropEndWhile (· == '/') head
    (if bare.isEmpty then head else bare, last)
  match name with
  | "exists" => do return some (.truth (← node true).isSome)
  | "isfile" => do return some (.truth (((← node true).map Node.isRegular).getD false))
  | "isdir" => do return some (.truth (((← node true).map Node.isDirectory).getD false))
  | "islink" => do return some (.truth (((← node false).map Node.isLink).getD false))
  | "getsize" => do
    let (_, n) ← granted (← act (Act.node? (← path) true)) args
    return some (.int n.size)
  | "join" => do wrap (joinedPath (← args.mapM pathOf))
  | "basename" => do wrap (cut (← path)).2
  | "dirname" => do wrap (cut (← path)).1
  | "split" => do
    let (a, b) := cut (← path)
    return some (.tuple [.text (Text.ofRaw a), .text (Text.ofRaw b)])
  | "splitext" => do
    let p ← path
    let name := (cut p).2
    let ending := (name.reverse.takeWhile (· != '.')).reverse
    let stem := name.take (name.length - ending.length - 1)
    if ending.length = name.length || stem.all (· == '.') then
      return some (.tuple [.text (Text.ofRaw p), .text []])
    else return some (.tuple [.text (Text.ofRaw (p.take (p.length - ending.length - 1))), .text (Text.ofRaw ('.' :: ending))])
  | "abspath" | "realpath" => do
    let here ← act Act.workingDirectory
    wrap (normal (joinedPath [here, ← path]))
  | "normpath" => do wrap (normal (← path))
  | "isabs" => do return some (.truth ((← path).head? = some '/'))
  | "expanduser" => do wrap (← path)
  | _ => return none

/-- A function about processes and files. -/
def systemCall? (m : Means) (name : String) (args : List Value) (named : List (Text × Value)) : Running (Option Value) := do
  let arg (i : Nat) (key : String) : Value := (args[i]?).getD ((named.lookup key.toList).getD .nothing)
  let number (i : Nat) : Running Nat := do return (← intOf (args.getD i .nothing)).toNat
  let path (i : Nat) : Running Raw := pathOf (args.getD i .nothing)
  let some? (v : Value) : Running (Option Value) := return some v
  let text (r : Raw) : Running (Option Value) := return some (.text (Text.ofRaw r))
  match name with
  | "getpid" => do some? (.int (← act Act.ownPid))
  | "getppid" => do some? (.int (← act Act.parentPid))
  | "getpgrp" | "getpgid" | "getsid" => do some? (.int (← act Act.task).group)
  | "setsid" | "setpgrp" | "setpgid" => do
    act (Act.change fun pid k => k.onTask pid fun t => { t with group := pid })
    some? .nothing
  | "getuid" | "geteuid" | "getgid" | "getegid" => some? (.int 1000)
  | "kill" | "killpg" => do
    let target ← intOf (args.getD 0 .nothing)
    let signal ← intOf (args.getD 1 .nothing)
    let target := if name == "killpg" then -target else target
    if signal < 0 then raiseErrno Errno.invalid []
    match ← act (Act.send target signal.toNat) with
    | some e => raiseErrno e []
    | none =>
      checkSignals m
      some? .nothing
  | "abort" => act (Act.die SignalNumber.abort)
  | "_exit" => do
    let n ← intOf (arg 0 "status")
    act (Act.exit (UInt8.ofNat (n % 256).toNat))
  | "getcwd" => do text (← act Act.workingDirectory)
  | "chdir" => do
    let p ← path 0
    some? (← doing args fun pid k => k.enter pid p)
  | "listdir" => do
    let p ← match args with
      | [] => pure ['.']
      | v :: _ => pathOf v
    let names ← granted (← act (Paths.namesIn p)) (args.take 1)
    some? (← newList (names.map fun n => .text (Text.ofRaw n)))
  | "mkdir" => do
    let p ← path 0
    some? (← doing (args.take 1) fun pid k => k.makeDirectory pid p (0o777 - (0o777 &&& (k.task pid).mask)))
  | "makedirs" => do
    let p ← path 0
    let parts := Raw.splitAt '/' p
    let levels := (List.range parts.length).map fun i => Raw.joined ['/'] (parts.take (i + 1))
    for l in levels do
      if !l.isEmpty then
        let there ← act (Act.isThere l)
        if !there then
          let _ ← doing [.text (Text.ofRaw l)] fun pid k => k.makeDirectory pid l 0o755
        else if l == p && !((arg 2 "exist_ok").isTrue (← store)) then raiseErrno Errno.fileExists (args.take 1)
    some? .nothing
  | "remove" | "unlink" => do
    let p ← path 0
    some? (← doing (args.take 1) fun pid k => k.removeName pid p)
  | "rmdir" => do
    let p ← path 0
    some? (← doing (args.take 1) fun pid k => k.removeDirectory pid p)
  | "rename" | "replace" => do
    let p ← path 0
    let q ← path 1
    some? (← doing (args.take 2) fun pid k => k.move pid p q)
  | "symlink" => do
    let p ← path 0
    let q ← path 1
    some? (← doing (args.take 2) fun pid k => k.makeLink pid p q)
  | "link" => do
    let p ← path 0
    let q ← path 1
    some? (← doing (args.take 2) fun pid k => k.addName pid p q)
  | "readlink" => do
    let p ← path 0
    text (← granted (← act (Act.ask fun pid k => k.readLink pid p)) (args.take 1))
  | "chmod" => do
    let p ← path 0
    let mode ← number 1
    some? (← doing (args.take 1) fun pid k => k.setMode pid p mode)
  | "truncate" => do
    let p ← path 0
    let size ← number 1
    some? (← doing (args.take 1) fun pid k => k.setSize pid p size)
  | "mkfifo" => do
    let p ← path 0
    some? (← doing (args.take 1) fun pid k => k.makeFifo pid p 0o644)
  | "access" => do
    let p ← path 0
    let mode ← number 1
    match ← act (Act.node? p true) with
    | .ok (_, n) => some? (.truth ([4, 2, 1].all fun bit => mode &&& bit = 0 || n.allows bit))
    | .error _ => some? (.truth false)
  | "stat" => do
    let (i, n) ← granted (← act (Act.node? (← path 0) true)) (args.take 1)
    let size := Value.int n.size
    some? (← create (.instance (.kind "os.stat_result") [("st_size".toList, size), ("st_ino".toList, .int i),
      ("st_mode".toList, .int (n.mode + (if n.isDirectory then 0o40000 else 0o100000))), ("st_uid".toList, .int 1000)]))
  | "open" => do
    let flags ← number 1
    let how : OpenMode := ⟨flags % 4 != 1, flags % 4 != 0, flags / 64 % 2 = 1, flags / 128 % 2 = 1, flags / 512 % 2 = 1,
      flags / 1024 % 2 = 1⟩
    some? (.int (← granted (← act (Act.openFile (← path 0) how)) (args.take 1)))
  | "read" => do
    let fd ← number 0
    some? (.octets (← granted (← act (Act.readOrSignal fd (← number 1))) []))
  | "write" => do
    let fd ← number 0
    match (args.getD 1 .nothing).octets? (← store) with
    | some r =>
      match ← act (Act.write fd r) with
      | some e => raiseErrno e []
      | none => some? (.int r.length)
    | none => raiseKind ("a bytes-like object is required, not '" ++ (← kindName (args.getD 1 .nothing)) ++ "'")
  | "close" => do
    let fd ← number 0
    match ← act (Act.channel? fd) with
    | none => raiseErrno Errno.badDescriptor []
    | some _ =>
      act (Act.close fd)
      some? .nothing
  | "pipe" => do
    let (r, w) ← act Act.pipe
    some? (.tuple [.int r, .int w])
  | "dup2" => do
    let target ← number 1
    if ← act (Act.duplicate (← number 0) target) then some? (.int target) else raiseErrno Errno.badDescriptor []
  | "dup" => do
    let fd ← number 0
    let free ← act (Act.ask fun pid k => k.freeFd pid 0)
    if ← act (Act.duplicate fd free) then some? (.int free) else raiseErrno Errno.badDescriptor []
  | "fork" => do some? (.int (← act forkSelf))
  | "wait" | "waitpid" => do
    let target ← if name == "wait" then pure (-1) else intOf (args.getD 0 .nothing)
    let options ← if name == "wait" then pure 0 else intOf (args.getD 1 (.int 0))
    match ← awaitChild m (if target > 0 then some target.toNat else none) (options % 2 = 0) none waitBound with
    | some (pid, how) => some? (.tuple [.int pid, .int (statusWord how)])
    | none => some? (.tuple [.int 0, .int 0])
  | "system" => do
    let command ← path 0
    let task ← act Act.task
    let kept (n : Nat) : Act.Choice :=
      if task.ignored.contains n then .ignore else if task.caught.contains n then .take else .usual
    let env ← environment
    let pid ← act (Act.fork do
      let e ← m.program.replace env ["/bin/sh".toList, "-c".toList, command]
      return .code (Starting.unstarted e))
    let (i, q) := (kept SignalNumber.interrupt, kept SignalNumber.quit)
    act do
      Act.choose SignalNumber.interrupt .ignore
      Act.choose SignalNumber.quit .ignore
    let how ← awaitChild m (some pid) true none waitBound
    act do
      Act.choose SignalNumber.interrupt i
      Act.choose SignalNumber.quit q
    some? (.int (match how with
      | some (_, h) => statusWord h
      | none => 0))
  | "popen" => do
    let n ← startProcess m [] [arg 0 "cmd"] [("shell".toList, .truth true), ("stdout".toList, .int (-1)),
      ("text".toList, .truth true)]
    some? (← field n "stdout")
  | "execv" | "execvp" => do
    let words ← (← itemsOf m (args.getD 1 .nothing)).mapM pathOf
    some? (← replaceBy m (args.getD 0 .nothing) words (← environment) (name == "execvp"))
  | "execve" | "execvpe" => do
    let words ← (← itemsOf m (args.getD 1 .nothing)).mapM pathOf
    some? (← replaceBy m (args.getD 0 .nothing) words (← variablesOf (args.getD 2 .nothing)) (name == "execvpe"))
  | "execl" | "execlp" => do
    let words ← (args.drop 1).mapM pathOf
    some? (← replaceBy m (args.getD 0 .nothing) words (← environment) (name == "execlp"))
  | "getenv" => do
    let s ← store
    match ← attributeOf "os" "environ" with
    | .object n => match s.at n with
      | .dict es => some? (((es.find? fun e => e.1.equal s (args.getD 0 .nothing)).map Prod.snd).getD (arg 1 "default"))
      | _ => some? .nothing
    | _ => some? .nothing
  | "putenv" | "unsetenv" | "sched_yield" | "set_inheritable" => some? .nothing
  | "nice" => do
    let step ← intOf (args.getD 0 .nothing)
    let own := (← act Act.task).niceness
    if step < 0 then raiseErrno Errno.notPermitted []
    else
      act (Act.change fun pid k => k.onTask pid fun t => { t with niceness := min (own + step) 19 })
      some? (.int (min (own + step) 19))
  | "getpriority" => do some? (.int (← act Act.task).niceness)
  | "umask" => do
    let new ← number 0
    let old := (← act Act.task).mask
    act (Act.change fun pid k => k.onTask pid fun t => { t with mask := new % 512 })
    some? (.int old)
  | "urandom" => do some? (.octets (Kernel.disorder ((← act Act.now) + (← act Act.ownPid)) (← number 0)))
  | "cpu_count" => some? (.int 4)
  | "isatty" => some? (.truth false)
  | "strerror" => do text (Errno.message ⟨Int32.ofInt (← intOf (args.getD 0 .nothing))⟩).toList
  | "WIFEXITED" => do some? (.truth ((← number 0) % 128 = 0))
  | "WEXITSTATUS" => do some? (.int ((← number 0) / 256 % 256 : Nat))
  | "WIFSIGNALED" => do
    let n := (← number 0) % 128
    some? (.truth (n != 0 && n != 127))
  | "WTERMSIG" => do some? (.int ((← number 0) % 128 : Nat))
  | "WIFSTOPPED" => do some? (.truth ((← number 0) % 256 = 127))
  | "WCOREDUMP" => do some? (.truth ((← number 0) / 128 % 2 = 1))
  | "waitstatus_to_exitcode" => do
    let n ← number 0
    some? (.int (if n % 128 = 0 then ((n / 256 : Nat) : Int) else -((n % 128 : Nat) : Int)))
  | "fsencode" => do some? (.octets (← path 0))
  | "fsdecode" => do text (← path 0)
  | "getlogin" => raiseErrno Errno.noDevice []
  | "times" => some? (.tuple [.real 0.01, .real 0.0, .real 0.0, .real 0.0, .real 0.01])
  | "uname" => some? (.tuple (["Linux", "localhost", "6.1.0", "#1 SMP", "x86_64"].map fun t => .text t.toList))
  | "fdopen" => do
    let mode := match args.drop 1 with
      | .text t :: _ => Raw.text t
      | _ => "r"
    some? (← openStream (args.getD 0 .nothing) mode)
  | _ => return none

/-- A function about signals. -/
def signalCall? (m : Means) (name : String) (args : List Value) : Running (Option Value) := do
  let first := args.headD .nothing
  match name with
  | "signal" =>
    if args.length != 2 then raiseKind s!"signal expected 2 arguments, got {args.length}"
    return some (← setHandler (← signalOf first) (args.getD 1 .nothing))
  | "getsignal" => return some (← handlerOf (← signalOf first))
  | "pause" =>
    pauseUntil m none 1
    return some .nothing
  | "alarm" | "setitimer" =>
    let f := ((args.getLast?).bind Value.real?).getD 0
    let now ← act Act.now
    let s ← get
    let left : Nat := match s.alarm with
      | some i => (i - now + 999999) / 1000000
      | none => 0
    set { s with alarm := if f ≤ 0 then none else some (now + ((wholePart? (f * 1000000)).getD 0).toNat) }
    return some (.int left)
  | "raise_signal" | "pthread_kill" =>
    let n ← signalOf ((args.getLast?).getD .nothing)
    let pid ← act Act.ownPid
    let _ ← act (Act.send pid n)
    checkSignals m
    return some .nothing
  | "strsignal" => return some (.text (SignalNumber.describe (← signalOf first)).toList)
  | "default_int_handler" => raiseWith "KeyboardInterrupt" [] []
  | "siginterrupt" => return some .nothing
  | "pthread_sigmask" => return some (← create (.set false []))
  | _ => return none

/-- A function of mathematics. -/
def mathCall? (m : Means) (name : String) (args : List Value) : Running (Option Value) := do
  let s ← store
  let real (v : Value) : Running Float := do
    match v.real? with
    | some f => return f
    | none => raiseKind ("must be real number, not " ++ v.kindName s)
  let one (f : Float → Float) (fits : Float → Bool) : Running (Option Value) := do
    let x ← real (args.headD .nothing)
    if fits x then return some (.real (f x)) else raise "ValueError" "math domain error"
  let always (_ : Float) : Bool := true
  let positive (x : Float) : Bool := x > 0
  let whole (f : Float → Float) : Running (Option Value) := do
    match args.headD .nothing with
    | .real x =>
      match wholePart? (f x) with
      | some n => return some (.int n)
      | none => raise "OverflowError" "cannot convert float infinity to integer"
    | v => return some (.int (← intOf v))
  match name, args with
  | "sqrt", _ => one Float.sqrt fun x => !(x < 0)
  | "floor", _ => whole Float.floor
  | "ceil", _ => whole Float.ceil
  | "trunc", _ => whole fun x => if x < 0 then Float.ceil x else Float.floor x
  | "exp", _ => one Float.exp always
  | "sin", _ => one Float.sin always
  | "cos", _ => one Float.cos always
  | "tan", _ => one Float.tan always
  | "atan", _ => one Float.atan always
  | "fabs", _ => one Float.abs always
  | "log", [_] => one Float.log positive
  | "log2", _ => one Float.log2 positive
  | "log10", _ => one Float.log10 positive
  | "log", [a, b] => do return some (.real (Float.log (← real a) / Float.log (← real b)))
  | "pow", [a, b] => do return some (.real (Float.pow (← real a) (← real b)))
  | "atan2", [a, b] => do return some (.real (Float.atan2 (← real a) (← real b)))
  | "hypot", [a, b] => do
    let (x, y) := (← real a, ← real b)
    return some (.real (Float.sqrt (x * x + y * y)))
  | "isnan", [a] => do return some (.truth (← real a).isNaN)
  | "isinf", [a] => do return some (.truth (← real a).isInf)
  | "gcd", args => do return some (.int ((← args.mapM intOf).foldl (fun a b => (Int.gcd a b : Int)) 0))
  | "factorial", [a] => do
    let n ← intOf a
    if n < 0 then raise "ValueError" "factorial() not defined for negative values"
    let product : Nat := (List.range n.toNat).foldl (fun acc i => acc * (i + 1)) 1
    return some (.int product)
  | "isqrt", [a] => do
    let n ← intOf a
    if n < 0 then raise "ValueError" "isqrt() argument must be nonnegative"
    return some (.int (squareRoot n.toNat))
  | "prod", v :: _ => do
    let vs ← itemsOf m v
    return some (← vs.foldlM (fun acc v => arithmetic m .multiply "*" acc v) (.int 1))
  | _, _ => return none
where
  /-- The greatest number whose square is not above another one. -/
  squareRoot (n : Nat) : Nat :=
    let rec approach : (fuel : Nat) → Nat → Nat
      | 0, x => x
      | fuel + 1, x =>
        let y := (x + n / x) / 2
        if y < x then approach fuel y else x
    if n = 0 then 0 else approach (Nat.log2 n + 10) (Nat.pow 2 (Nat.log2 n / 2 + 1))

/-- A function of the module about time. -/
def timeCall? (m : Means) (name : String) (args : List Value) : Running (Option Value) := do
  let seconds (micros : Nat) : Float := Float.ofNat micros / 1000000
  match name with
  | "sleep" =>
    let v := args.headD .nothing
    match v.real? with
    | none => raiseKind ("'" ++ (← kindName v) ++ "' object cannot be interpreted as an integer")
    | some f =>
      if f < 0 then raise "ValueError" "sleep length must be non-negative"
      let now ← act Act.now
      pauseUntil m (some (now + ((wholePart? (f * 1000000)).getD 0).toNat)) waitBound
      return some .nothing
  | "time" | "monotonic" | "perf_counter" => return some (.real (seconds (← act Act.now)))
  | "process_time" | "thread_time" => return some (.real 0.02)
  | "time_ns" | "monotonic_ns" | "perf_counter_ns" => return some (.int ((← act Act.now) * 1000 : Nat))
  | "strftime" | "ctime" =>
    let form : Text := match args with
      | .text t :: _ => t
      | _ => "%c".toList
    return some (.text (Calendar.formatted (Calendar.Shown.at Calendar.Zone.universal ((← act Act.now) / 1000000 : Nat) 0) form))
  | _ => return none

/-- A function of the module that starts programs. -/
def startingCall? (m : Means) (name : String) (args : List Value) (named : List (Text × Value)) : Running (Option Value) := do
  let spot (line : Nat) (function source : String) : Spot := ⟨startingFile, function.toList, line, [source.toList]⟩
  match name with
  | "run" => return some (← runProcess m args named)
  | "Popen" => return some (.object (← startProcess m [] args named))
  | "call" | "check_call" =>
    let opening := [spot 389 "call" "with Popen(*popenargs, **kwargs) as p:"]
    let outer :=
      if name == "call" then opening else spot 408 "check_call" "retcode = call(*popenargs, **kwargs)" :: opening
    let n ← startProcess m outer args named
    let status ← waitProcess m n ((named.lookup "timeout".toList).getD .nothing)
    if name == "check_call" && !(status matches .int 0) then
      raiseIn [spot 413 "check_call" "raise CalledProcessError(retcode, cmd)"]
        (unsuccessful (← field n "args") status .nothing .nothing)
    else return some status
  | "check_output" =>
    let v ← raiseIn [spot 466 "check_output" "return run(*popenargs, stdout=PIPE, timeout=timeout, check=True,"]
      (runProcess m args ([("stdout".toList, .int (-1)), ("check".toList, .truth true)] ++ named))
    match v with
    | .object n => return some (← field n "stdout")
    | v => return some v
  | "getoutput" | "getstatusoutput" =>
    let n ← startProcess m [] args [("shell".toList, .truth true), ("stdout".toList, .int (-1)),
      ("stderr".toList, .int (-2)), ("text".toList, .truth true)]
    let (out, _) ← communicate m n .nothing .nothing
    let out := match out with
      | .text t => Value.text (if t.getLast? = some '\n' then t.dropLast else t)
      | v => v
    let status ← field n "returncode"
    return some (if name == "getoutput" then out else .tuple [status, out])
  | _ => return none

/-- A number without special order. -/
def nextRandom : Running Nat := do
  let s ← get
  let next := (s.seed * 6364136223846793005 + 1442695040888963407) % 18446744073709551616
  set { s with seed := next }
  return next / 2048

/-- A function of another module. -/
def otherCall? (m : Means) (module name : String) (args : List Value) (named : List (Text × Value)) :
    Running (Option Value) := do
  let s ← store
  let first := args.headD .nothing
  match module, name with
  | "sys", "exit" => quit args
  | "sys", "getrecursionlimit" => return some (.int (← get).limit)
  | "sys", "setrecursionlimit" =>
    let n ← intOf first
    modify fun s => { s with limit := n.toNat }
    return some .nothing
  | "sys", "getdefaultencoding" | "sys", "getfilesystemencoding" => return some (.text "utf-8".toList)
  | "sys", "getsizeof" => return some (.int (sizeTold s first))
  | "sys", "intern" => return some first
  | "sys", "getrefcount" => return some (.int 2)
  | "sys", "exc_info" =>
    match (← get).dealing with
    | n :: _ => return some (.tuple [kindOf s (.object n), .object n, .nothing])
    | [] => return some (.tuple [.nothing, .nothing, .nothing])
  | "ctypes", "string_at" | "ctypes", "wstring_at" | "ctypes", "memset" | "ctypes", "memmove" | "faulthandler", "_sigsegv" =>
    act (Act.die 11)
  | "faulthandler", "_sigabrt" | "ctypes", "abort" => act (Act.die SignalNumber.abort)
  | "faulthandler", "_sigfpe" => act (Act.die SignalNumber.arithmetic)
  | "ctypes", "CDLL" | "ctypes", "PyDLL" => return some (.module "ctypes library")
  | "ctypes library", "abort" => act (Act.die SignalNumber.abort)
  | "ctypes library", "_exit" => act (Act.exit (UInt8.ofNat ((← intOf first) % 256).toNat))
  | "ctypes library", "getpid" => return some (.int (← act Act.ownPid))
  | "ctypes library", "kill" =>
    let _ ← act (Act.send (← intOf first) (← intOf (args.getD 1 .nothing)).toNat)
    return some (.int 0)
  | "resource", "getrlimit" => return some (.tuple [.int (-1), .int (-1)])
  | "resource", "getrusage" =>
    return some (← create (.instance (.kind "resource.struct_rusage") [("ru_maxrss".toList, .int 9876),
      ("ru_utime".toList, .real 0.01), ("ru_stime".toList, .real 0.01)]))
  | "atexit", "register" =>
    modify fun s => { s with atExit := (first, args.drop 1) :: s.atExit }
    return some first
  | "gc", "collect" => return some (.int 0)
  | "random", "random" => return some (.real (Float.ofNat (← nextRandom) / 9007199254740992.0))
  | "random", "randint" | "random", "randrange" =>
    let (low, high) ← match ← args.mapM intOf with
      | [n] => pure (0, n - 1)
      | a :: b :: _ => pure (a, if name == "randint" then b else b - 1)
      | [] => pure (0, 0)
    return some (.int (low + ((← nextRandom) : Int) % (high - low + 1)))
  | "random", "choice" =>
    let vs ← itemsOf m first
    if vs.isEmpty then raise "IndexError" "Cannot choose from an empty sequence"
    return vs[(← nextRandom) % vs.length]?
  | "json", "dumps" => return some (.text (dataText s Value.depth first))
  | "itertools", "count" =>
    let start ← match args with
      | v :: _ => intOf v
      | [] => pure 0
    return some (← create (.iterator (.endless start ((args.getD 1 (.int 1)).int?.getD 1))))
  | "itertools", "repeat" =>
    match args with
    | [v, n] => return some (← create (.iterator (.items (List.replicate (← intOf n).toNat v))))
    | _ => return some (← create (.iterator (.endless 0 0)))
  | "itertools", "chain" => return some (← create (.iterator (.items (← args.mapM (itemsOf m)).flatten)))
  | "functools", "reduce" =>
    let vs ← itemsOf m (args.getD 1 .nothing)
    let (start, vs) ← match args.drop 2, vs with
      | v :: _, vs => pure (v, vs)
      | [], v :: vs => pure (v, vs)
      | [], [] => raiseKind "reduce() of empty iterable with no initial value"
    return some (← vs.foldlM (fun acc v => m.call first [acc, v] []) start)
  | "select", "select" =>
    match (args.getD 3 .nothing).real? with
    | some f =>
      let now ← act Act.now
      pauseUntil m (some (now + ((wholePart? (f * 1000000)).getD 0).toNat)) waitBound
    | none => pauseUntil m none 1
    return some (.tuple [← newList [], ← newList [], ← newList []])
  | "threading", "Thread" =>
    return some (← create (.instance (.kind "Thread") (named ++ [("daemon".toList, .truth false)])))
  | "platform", "system" => return some (.text "Linux".toList)
  | "platform", "machine" => return some (.text "x86_64".toList)
  | "platform", "python_version" => return some (.text "3.11.2".toList)
  | "platform", _ | "socket", "gethostname" => return some (.text "localhost".toList)
  | "traceback", "print_exc" =>
    match (← get).dealing, ← outletOf "stderr" with
    | n :: _, some e => emit e false (report s n)
    | _, _ => pure ()
    return some .nothing
  | "traceback", "format_exc" =>
    match (← get).dealing with
    | n :: _ => return some (.text (Text.ofRaw (report s n)))
    | [] => return some (.text "NoneType: None\n".toList)
  | "shutil", "which" =>
    let name ← pathOf first
    let path := (m.program.binding? "PATH").getD Call.usualPath
    let places := if name.contains '/' then [name] else (Raw.splitAt ':' path).map (Launch.join · name)
    let found ← act (Act.ask fun pid k => places.find? fun p =>
      match k.find pid p true with
      | .ok n => (k.files.node n).isRegular && (k.files.node n).allows 1
      | .error _ => false)
    return some (match found with
      | some p => .text (Text.ofRaw p)
      | none => .nothing)
  | "sys", _ | "faulthandler", _ | "resource", _ | "gc", _ | "random", "seed" => return some .nothing
  | _, _ => return none

/-- A function of a module. -/
def moduleCall? (m : Means) (name : String) (args : List Value) (named : List (Text × Value)) : Running (Option Value) := do
  let parts := (Raw.splitAt '.' name.toList).map Raw.text
  let module := ".".intercalate parts.dropLast
  let function := (parts.getLast?).getD ""
  match module with
  | "os" => systemCall? m function args named
  | "os.path" => pathCall? function args
  | "signal" => signalCall? m function args
  | "math" => mathCall? m function args
  | "time" => timeCall? m function args
  | "subprocess" => startingCall? m function args named
  | module => otherCall? m module function args named

end Running
end RunMeter.Machine.Python
