import RunMeter.Machine.Utility.Paths

/-!
# RunMeter.Machine.Utility.System — programs that tell about the machine

Who runs a program, where, and on what kind of machine.

Nothing that is proved depends on this module.
-/

namespace RunMeter.Machine.System

/-- The number of the user and of the user's group. -/
def userNumber : Raw := "1000".toList

/-- Complains about a word that is too many. -/
def extra (c : Call) (w : Raw) (code : UInt8) : Act UInt8 := c.misused (Raw.ofText "extra operand " ++ Raw.quoted w) code

/-- Shows the working directory. -/
def pwd : Utility := fun c => do
  let g ← c.options ⟨"LP", [⟨"logical", "L", .none⟩, ⟨"physical", "P", .none⟩], false⟩ 1
  let here ← Act.workingDirectory
  if !g.operands.isEmpty then c.complain (Raw.ofText "ignoring non-option arguments")
  let shown ← match g.last? ["L", "P"], c.binding? "PWD" with
    | some "L", some path => do
      if path.head? = some '/' && (← Paths.same path ['.']) then pure path else pure here
    | _, _ => pure here
  c.put (shown ++ ['\n'])

/-- Shows the name of the user, who has none. -/
def whoami : Utility := fun c => do
  let g ← c.options ⟨"", [], false⟩ 1
  match g.operands with
  | w :: _ => extra c w 1
  | [] => c.fail (Raw.ofText "cannot find name for user ID " ++ userNumber) 1

/-- Shows who has logged in, which nobody has. -/
def logname : Utility := fun c => do
  let g ← c.options ⟨"", [], false⟩ 1
  match g.operands with
  | w :: _ => extra c w 1
  | [] => c.fail (Raw.ofText "no login name") 1

/-- Shows the groups of the user. -/
def groups : Utility := fun c => do
  match c.args with
  | [] =>
    c.complain (Raw.ofText "cannot find name for group ID " ++ userNumber)
    c.emit (userNumber ++ ['\n']) 1
    return 1
  | w :: _ => c.fail (Raw.quoted w ++ Raw.ofText ": no such user") 1

/-- Shows the numbers of the user. -/
def id : Utility := fun c => do
  let g ← c.options ⟨"agGnruzZ", [⟨"group", "g", .none⟩, ⟨"groups", "G", .none⟩, ⟨"name", "n", .none⟩,
    ⟨"real", "r", .none⟩, ⟨"user", "u", .none⟩, ⟨"zero", "z", .none⟩], false⟩ 1
  let chosen := ["u", "g", "G"].filter g.has
  match g.operands, chosen with
  | w :: _, _ =>
    if w = "root".toList then
      match chosen with
      | [] => c.put (Raw.ofText "uid=0(root) gid=0(root) groups=0(root)\n")
      | _ => c.put (Raw.ofText (if g.has "n" then "root\n" else "0\n"))
    else c.fail (Raw.quoted w ++ Raw.ofText ": no such user") 1
  | [], [] =>
    if g.has "n" || g.has "r" then c.fail (Raw.ofText "cannot print only names or real IDs in default format") 1
    else c.put (Raw.ofText "uid=1000 gid=1000 groups=1000\n")
  | [], [which] =>
    if g.has "n" then
      c.complain (Raw.ofText ("cannot find name for " ++ (if which = "u" then "user" else "group") ++ " ID ") ++ userNumber)
      c.emit (userNumber ++ ['\n']) 1
      return 1
    else c.put (userNumber ++ ['\n'])
  | [], _ => c.fail (Raw.ofText "cannot print \"only\" of more than one choice") 1

/-- The facts about the machine, each with its letter. -/
def facts : List (String × String) :=
  [("s", "Linux"), ("n", "localhost"), ("r", "6.1.0"), ("v", "#1 SMP"), ("m", "x86_64"), ("o", "GNU/Linux")]

/-- Shows what kind of machine this is. -/
def uname : Utility := fun c => do
  let g ← c.options ⟨"asnrvmpio", [⟨"all", "a", .none⟩, ⟨"kernel-name", "s", .none⟩, ⟨"nodename", "n", .none⟩,
    ⟨"kernel-release", "r", .none⟩, ⟨"kernel-version", "v", .none⟩, ⟨"machine", "m", .none⟩, ⟨"processor", "p", .none⟩,
    ⟨"hardware-platform", "i", .none⟩, ⟨"operating-system", "o", .none⟩], false⟩ 1
  match g.operands with
  | w :: _ => extra c w 1
  | [] =>
    let order := ["s", "n", "r", "v", "m", "p", "i", "o"]
    let shown := order.filterMap fun key =>
      let known := (facts.find? fun f => f.1 == key).map Prod.snd
      if g.has key || (g.has "a" && known.isSome) || (g.switches.isEmpty && key = "s") then some (known.getD "unknown")
      else none
    c.put (Raw.ofText (" ".intercalate shown ++ "\n"))

/-- Shows one fact about the machine. -/
def told (fact : String) : Utility := fun c => do
  let g ← c.options ⟨"", [⟨"all", "all", .none⟩, ⟨"ignore", "ignore", .required⟩], false⟩ 1
  match g.operands with
  | w :: _ => extra c w 1
  | [] => c.put (Raw.ofText (fact ++ "\n"))

/-- Shows the name of the machine. -/
def hostname : Utility := fun c => do
  match c.args with
  | [] | [['-', 's']] | [['-', 'f']] => c.put (Raw.ofText "localhost\n")
  | ('-' :: _) :: _ => return 1
  | _ => c.fail (Raw.ofText "you must be root to change the host name") 1

/-- Shows the terminal, of which there is none. -/
def tty : Utility := fun c => do
  let g ← c.options ⟨"s", [⟨"silent", "s", .none⟩, ⟨"quiet", "s", .none⟩], false⟩ 2
  match g.operands with
  | w :: _ => extra c w 2
  | [] =>
    if !g.has "s" then c.emit (Raw.ofText "not a tty\n") 3
    return 1

/-- Tells that there is no terminal to be set. -/
def stty : Utility := fun c => c.fail (Raw.ofText "'standard input': Inappropriate ioctl for device") 1

/-- Does nothing. -/
def idle : Utility := fun _ => return 0

/-- Shows where programs are. -/
def which : Utility := fun c => do
  let all := c.args.head? = some ['-', 'a']
  let names := if all then c.args.tail else c.args
  let path := (c.binding? "PATH").getD Call.usualPath
  let places (name : Raw) : List Raw :=
    if name.contains '/' then [name]
    else (Raw.splitAt ':' path).map fun d => Paths.inside (if d.isEmpty then ['.'] else d) name
  let found ← names.mapM fun name => Act.ask fun pid k =>
    (places name).filter fun p =>
      match k.find pid p true with
      | .ok n => (k.files.node n).isRegular && (k.files.node n).allows 1
      | .error _ => false
  c.emit (found.flatMap fun ps => (if all then ps else ps.take 1).flatMap (· ++ ['\n'])) 1
  return if names.isEmpty || found.any List.isEmpty then 1 else 0

/-! ## Tables -/

/-- The limits and versions of the machine by name. -/
def limits : List (String × String) :=
  [("PAGESIZE", "4096"), ("PAGE_SIZE", "4096"), ("PATH", "/bin:/usr/bin"), ("ARG_MAX", "2097152"), ("LONG_BIT", "64"),
   ("WORD_BIT", "32"), ("CHAR_BIT", "8"), ("OPEN_MAX", "1024"), ("INT_MAX", "2147483647"), ("INT_MIN", "-2147483648"),
   ("UINT_MAX", "4294967295"), ("CHAR_MAX", "127"), ("CHAR_MIN", "-128"), ("SHRT_MAX", "32767"),
   ("LONG_MAX", "9223372036854775807"), ("SSIZE_MAX", "32767"), ("CLK_TCK", "100"), ("LINE_MAX", "2048"),
   ("_POSIX_VERSION", "200809"), ("_POSIX2_VERSION", "200809"), ("HOST_NAME_MAX", "64"), ("LOGIN_NAME_MAX", "256"),
   ("NGROUPS_MAX", "65536"), ("IOV_MAX", "1024"), ("RE_DUP_MAX", "32767"), ("_NPROCESSORS_CONF", "4"),
   ("_NPROCESSORS_ONLN", "4"), ("NPROCESSORS_CONF", "4"), ("NPROCESSORS_ONLN", "4"), ("BC_BASE_MAX", "99"),
   ("TZNAME_MAX", "undefined"), ("ATEXIT_MAX", "2147483647"), ("SYMLOOP_MAX", "undefined")]

/-- The limits of a path by name. -/
def pathLimits : List (String × String) :=
  [("NAME_MAX", "255"), ("PATH_MAX", "4096"), ("PIPE_BUF", "4096"), ("LINK_MAX", "127"), ("MAX_CANON", "255"),
   ("MAX_INPUT", "255"), ("_POSIX_NO_TRUNC", "1"), ("_POSIX_CHOWN_RESTRICTED", "1"), ("_POSIX_VDISABLE", "0")]

/-- Shows a limit. -/
def getconf : Utility := fun c => do
  let use : Act UInt8 := do
    let _ ← Act.write 2 (Raw.ofText "Usage: getconf [-v specification] variable_name [pathname]\n       getconf -a [pathname]\n")
    return 2
  let unknown (name : Raw) : Act UInt8 := do
    c.complain (Raw.ofText "Unrecognized variable `" ++ name ++ ['\''])
    return 2
  let shown (table : List (String × String)) (name : Raw) : Option Raw :=
    (table.find? fun l => l.1.toList == name).map fun l => Raw.ofText (l.2 ++ "\n")
  match c.args with
  | [name] =>
    match shown limits name with
    | some line => c.put line
    | none => if (shown pathLimits name).isSome then use else unknown name
  | [name, _] =>
    match shown pathLimits name with
    | some line => c.put line
    | none => unknown name
  | _ => use

/-- The lines of a table whose first or third field is a key. -/
def entriesOf (text key : Raw) : List Raw :=
  (Raw.lines text).filter fun line =>
    let fields := Raw.splitAt ':' line
    fields.head? = some key || fields[2]? = some key

/-- Shows entries of the tables of users, groups and hosts. -/
def getent : Utility := fun c => do
  let help : Raw := Raw.ofText "Try `getent --help' or `getent --usage' for more information.\n"
  match c.args with
  | [] =>
    c.complain (Raw.ofText "wrong number of arguments")
    c.emit help 1
    return 1
  | table :: keys =>
    if !(["passwd", "group", "hosts"].contains (Raw.text table)) then
      let _ ← Act.write 2 (Raw.ofText "Unknown database: " ++ table ++ ['\n'])
      c.emit help 1
      return 1
    let text ← match ← Call.contents ("/etc/".toList ++ table) with
      | .ok text => pure text
      | .error _ => pure []
    let host (line : Raw) : Raw :=
      let words := Raw.words line
      Raw.padEnd 16 (words.headD []) ++ Raw.joined [' '] words.tail
    if keys.isEmpty then
      c.put (if table = "hosts".toList then (Raw.lines text).flatMap fun l => host l ++ ['\n'] else text)
    else
      let found := keys.map fun key =>
        if table = "hosts".toList then
          (((Raw.lines text).filter fun l => (Raw.words l).contains key).map host).take 1
        else (entriesOf text key).take 1
      c.emit (found.flatMap fun ls => ls.flatMap (· ++ ['\n'])) 1
      return if found.any List.isEmpty then 2 else 0

/-- Shows the language of the machine's user. -/
def locale : Utility := fun c => do
  match c.args.map Raw.text with
  | [] =>
    let usual := (c.binding? "LANG").getD []
    let all := (c.binding? "LC_ALL").getD []
    let parts := ["CTYPE", "NUMERIC", "TIME", "COLLATE", "MONETARY", "MESSAGES", "PAPER", "NAME", "ADDRESS",
      "TELEPHONE", "MEASUREMENT", "IDENTIFICATION"]
    let shown (name : String) : Raw :=
      let own := (c.binding? ("LC_" ++ name)).getD []
      Raw.ofText ("LC_" ++ name ++ "=") ++
        (if !all.isEmpty then '"' :: all ++ ['"'] else if !own.isEmpty then own
        else '"' :: (if usual.isEmpty then "POSIX".toList else usual) ++ ['"']) ++ ['\n']
    c.put (Raw.ofText "LANG=" ++ usual ++ Raw.ofText "\nLANGUAGE=" ++ (c.binding? "LANGUAGE").getD [] ++ ['\n'] ++
      parts.flatMap shown ++ Raw.ofText "LC_ALL=" ++ all ++ ['\n'])
  | ["-a"] => c.put (Raw.ofText "C\nC.utf8\nPOSIX\n")
  | ["charmap"] => c.put (Raw.ofText "ANSI_X3.4-1968\n")
  | _ => return 1

/-- Tells whether a directory begins another file system. -/
def mountpoint : Utility := fun c => do
  let g ← c.options ⟨"qdx", [⟨"quiet", "q", .none⟩], false⟩ 1
  match g.operands with
  | [path] =>
    match ← Act.ask fun pid k => (k.find pid path true).map fun n => k.files.pathOf n with
    | .error e => if g.has "q" then return 1 else c.fail (Raw.displayed path ++ Raw.ofText (": " ++ e.message)) 1
    | .ok place =>
      let is := ["/", "/proc", "/dev", "/sys", "/dev/pts", "/dev/shm"].contains (Raw.text place)
      if !g.has "q" then c.emit (path ++ Raw.ofText (if is then " is a mountpoint\n" else " is not a mountpoint\n")) 1
      return if is then 0 else 32
  | _ => c.misused (Raw.ofText "bad usage") 1

/-! ## Terminals -/

/-- Clears the screen of a terminal, whose kind has to be known. -/
def clear : Utility := fun c => do
  match c.binding? "TERM" with
  | none =>
    let _ ← Act.write 2 (Raw.ofText "TERM environment variable not set.\n")
    return 1
  | some _ => c.put "\x1b[H\x1b[2J\x1b[3J".toList

/-- Shows what a terminal can do, whose kind has to be known. -/
def tput : Utility := fun c => do
  match c.binding? "TERM", c.args with
  | some _, [['c', 'o', 'l', 's']] => c.put (Raw.ofText "80\n")
  | some _, [['l', 'i', 'n', 'e', 's']] => c.put (Raw.ofText "24\n")
  | some _, _ => return 0
  | none, _ =>
    c.complain (Raw.ofText "No value for $TERM and no -T specified")
    return 2

/-- The programs by name. -/
def programs : List (String × Utility) :=
  [("pwd", pwd), ("whoami", whoami), ("logname", logname), ("groups", groups), ("id", id), ("uname", uname),
   ("arch", told "x86_64"), ("nproc", told "4"), ("hostname", hostname), ("tty", tty), ("stty", stty), ("sync", idle),
   ("users", idle), ("who", idle), ("which", which), ("getconf", getconf), ("getent", getent), ("locale", locale),
   ("mountpoint", mountpoint), ("clear", clear), ("tput", tput)]

end RunMeter.Machine.System
