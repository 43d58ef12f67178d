import RunMeter.Machine.Utility.Perl.Place

/-!
# RunMeter.Machine.Utility.Perl.Words — the words and signs of programs

* `infixAt?`, `updateAt?`: operators.
* `Reader.number`: numbers.

Nothing that is proved depends on this module.
-/

namespace RunMeter.Machine.Perl

open Reader

/-! ## Words -/

/-- The functions of at most one value. -/
def unaryNames : List String :=
  ["defined", "ref", "scalar", "lc", "uc", "lcfirst", "ucfirst", "fc", "length", "chr", "ord", "int", "abs", "sqrt",
   "sin", "cos", "exp", "log", "hex", "oct", "rand", "srand", "quotemeta", "chdir", "rmdir", "readlink", "exists",
   "delete", "each", "keys", "values", "shift", "pop", "undef", "chomp", "chop", "exit", "sleep", "alarm", "umask",
   "require", "localtime", "gmtime", "caller", "close", "fileno", "eof", "tell", "stat", "lstat", "lock", "getc",
   "closedir", "readdir", "pos", "study", "chroot", "getpgrp", "readline", "glob"]

/-- The functions without values. -/
def bareNames : List String := ["time", "times", "wait", "wantarray", "getppid", "fork", "getlogin"]

/-- The functions of any number of values. -/
def listNames : List String :=
  ["push", "unshift", "splice", "join", "split", "sprintf", "die", "warn", "kill", "system", "exec", "open", "binmode",
   "unlink", "mkdir", "chmod", "chown", "rename", "link", "symlink", "opendir", "reverse", "index", "rindex", "substr",
   "atan2", "waitpid", "seek", "read", "sysread", "syswrite", "pipe", "select", "pack", "unpack", "utime", "bless",
   "truncate", "flock", "setpgrp", "getpwuid", "getpwnam", "sysopen", "sysseek", "setpriority", "getpriority", "vec",
   "crypt", "local", "getgrgid", "syscall"]

/-- The words between values that bind least, and those that follow a statement. -/
def lowWords : List String :=
  ["and", "or", "xor", "not", "if", "unless", "while", "until", "for", "foreach", "x", "eq", "ne", "lt", "gt", "le",
   "ge", "cmp"]

/-- The words that mean something by themselves. -/
def ownWords : List String :=
  ["my", "our", "local", "state", "sub", "do", "eval", "return", "next", "last", "redo", "print", "printf", "say",
   "map", "grep", "sort", "q", "qq", "qw", "qr", "qx", "m", "s", "tr", "y", "package", "use", "no", "else", "elsif",
   "__FILE__", "__LINE__", "__PACKAGE__"] ++ lowWords ++ unaryNames ++ bareNames ++ listNames

/-- The functions of modules that take a piece of program. -/
def blockNames : List String := ["first", "any", "all", "none", "notall", "reduce", "reductions", "max_by", "min_by",
  "sum_by", "uniq_by", "sort_by", "pairmap", "pairgrep"]

/-- The functions of modules by module, the letter `*` before those that need not be asked for. -/
def modules : List (String × List String) :=
  [("strict", []), ("warnings", []), ("utf8", []), ("feature", []), ("lib", []), ("vars", []), ("constant", []),
   ("integer", []), ("bytes", []), ("Exporter", []), ("IO::Handle", []), ("IO::File", []), ("Config", []),
   ("parent", []), ("base", []), ("bigint", []), ("locale", []), ("sigtrap", []), ("overload", []), ("autodie", []),
   ("open", []), ("diagnostics", []), ("re", []), ("FindBin", []), ("English", []), ("Symbol", []),
   ("Encode", ["encode", "decode"]), ("IPC::Open3", ["*open3"]), ("IPC::Open2", ["*open2"]), ("Fcntl", ["*LOCK_EX",
     "*LOCK_SH", "*LOCK_UN", "*LOCK_NB", "*O_RDONLY", "*O_WRONLY", "*O_RDWR", "*O_CREAT", "*O_TRUNC", "*O_APPEND",
     "*O_EXCL", "SEEK_SET", "SEEK_CUR", "SEEK_END"]),
   ("POSIX", ["*_exit", "*floor", "*ceil", "*fmod", "*pow", "*strftime", "*pause", "*abort", "*raise", "*setsid",
     "*setpgid", "*getpid", "*dup2", "*dup", "*strerror", "*WIFEXITED", "*WEXITSTATUS", "*WIFSIGNALED", "*WTERMSIG",
     "*WNOHANG", "*WUNTRACED", "*DBL_MAX", "*DBL_MIN", "*INT_MAX", "*INT_MIN", "*UINT_MAX", "*LONG_MAX", "*LONG_MIN",
     "*EXIT_SUCCESS", "*EXIT_FAILURE", "*isatty", "*nice", "*SIGHUP", "*SIGINT", "*SIGQUIT", "*SIGILL", "*SIGTRAP",
     "*SIGABRT", "*SIGBUS", "*SIGFPE", "*SIGKILL", "*SIGUSR1", "*SIGSEGV", "*SIGUSR2", "*SIGPIPE", "*SIGALRM",
     "*SIGTERM", "*SIGCHLD", "*SIGCONT", "*SIGSTOP", "*SIGTSTP", "*SIGTTIN", "*SIGTTOU", "*SIG_IGN", "*SIG_DFL",
     "*ENOENT", "*EACCES", "*EINTR", "*EAGAIN", "*EEXIST", "*ECHILD", "*EPERM", "*ESRCH", "*EINVAL", "*EPIPE",
     "*toupper", "*tolower", "*isalpha", "*strtol", "*strtod", "*fmax", "*fmin", "*round", "*trunc", "*tcgetpgrp",
     "*getpgrp", "*access", "*write", "*close", "*ttyname", "*uname", "*getuid", "*getcwd"]),
   ("List::Util", ["sum", "sum0", "min", "max", "minstr", "maxstr", "product", "shuffle", "uniq", "uniqnum", "uniqstr",
     "pairs", "pairkeys", "pairvalues", "head", "tail"] ++ blockNames),
   ("Scalar::Util", ["blessed", "reftype", "looks_like_number", "weaken", "dualvar", "refaddr", "readonly"]),
   ("Time::HiRes", ["sleep", "usleep", "nanosleep", "time", "alarm", "ualarm", "tv_interval", "gettimeofday"]),
   ("Data::Dumper", ["*Dumper"]), ("Carp", ["*croak", "*carp", "*confess", "cluck"]),
   ("Cwd", ["*getcwd", "*cwd", "abs_path"]), ("File::Basename", ["*basename", "*dirname",
     "*fileparse"]), ("Errno", ["ENOENT", "EACCES", "EINTR", "ECHILD", "EPERM", "ESRCH", "EEXIST", "EAGAIN", "EINVAL",
     "EPIPE"]), ("Time::Local", ["*timelocal", "*timegm"]), ("Sys::Hostname", ["*hostname"]),
   ("Term::ANSIColor", ["*color", "*colored"]), ("Text::Wrap", ["*wrap"]), ("Storable", []),
   ("Getopt::Long", ["*GetOptions"]), ("File::Spec", []), ("File::Temp", ["*tempfile", "*tempdir"]),
   ("File::Path", ["*make_path", "*remove_tree", "*mkpath", "*rmtree"]), ("File::Copy", ["*copy", "*move"]),
   ("Socket", []), ("threads", []), ("BSD::Resource", [])]

/-- The modules that are not there although others of the kind are. -/
def absentModules : List String := ["BSD::Resource", "threads"]

/-- Whether a text of characters between brackets is an index. -/
def isIndex (r : Raw) : Bool :=
  let body := r.takeWhile (· != ']')
  let closed := body.length < r.length
  let digits := if body.head? = some '-' then body.drop 1 else body
  closed && !body.isEmpty && ((!digits.isEmpty && digits.all Char.isDigit) ||
    (body.head? = some '$' && (body.drop 1).all isWordChar && body.length > 1))

/-- Whether a text after a brace tells how often something is repeated. -/
def isCount (r : Raw) : Bool :=
  let body := r.takeWhile (· != '\x7d')
  !body.isEmpty && body.all fun c => c.isDigit || c = ','

/-! ## Operators -/

/-- An operator between values. -/
inductive Infix where
  | plain (op : Operator)
  | both
  | either
  | orDefined
  | range
  | bound (negated : Bool)

/-- The signs of operators, longer ones first, with how closely they bind. -/
def infixSigns : List (String × Nat × Infix) :=
  [("<=>", 7, .plain (.ordering false)), ("...", 2, .range), ("**", 15, .plain .power), ("=~", 13, .bound false),
   ("!~", 13, .bound true), ("==", 7, .plain (.compare false .equal)), ("!=", 7, .plain (.compare false .different)),
   ("<=", 8, .plain (.compare false .atMost)), (">=", 8, .plain (.compare false .atLeast)),
   ("<<", 10, .plain .shiftLeft), (">>", 10, .plain .shiftRight), ("&&", 4, .both), ("||", 3, .either),
   ("//", 3, .orDefined), ("..", 2, .range), ("<", 8, .plain (.compare false .less)),
   (">", 8, .plain (.compare false .greater)), ("+", 11, .plain .add), ("-", 11, .plain .subtract),
   (".", 11, .plain .join), ("*", 12, .plain .multiply), ("/", 12, .plain .divide), ("%", 12, .plain .modulo),
   ("|", 5, .plain .bitOr), ("^", 5, .plain .bitXor), ("&", 6, .plain .bitAnd)]

/-- The words for operators. -/
def infixWords : List (String × Nat × Operator) :=
  [("eq", 7, .compare true .equal), ("ne", 7, .compare true .different), ("cmp", 7, .ordering true),
   ("lt", 8, .compare true .less), ("gt", 8, .compare true .greater), ("le", 8, .compare true .atMost),
   ("ge", 8, .compare true .atLeast)]

/-- The signs after which an equals sign gives a variable a new value. -/
def updateSigns : List (String × Update) :=
  [("**", .by .power), ("||", .either), ("&&", .both), ("//", .orDefined), ("<<", .by .shiftLeft),
   (">>", .by .shiftRight), ("+", .by .add), ("-", .by .subtract), (".", .by .join), ("*", .by .multiply),
   ("/", .by .divide), ("%", .by .modulo), ("|", .by .bitOr), ("^", .by .bitXor), ("&", .by .bitAnd),
   ("x", .by .repeated)]

/-- The operator at the start of a text, how closely it binds, and how long it is. -/
def infixAt? (r : Raw) : Option (Infix × Nat × Nat) :=
  match r with
  | [] => none
  | 'x' :: rest =>
    match rest with
    | d :: _ =>
      if d = '=' then
        match rest with
        | '=' :: '=' :: _ | '=' :: '~' :: _ => some (.plain .repeated, 12, 1)
        | '=' :: '>' :: _ => none
        | _ => none
      else if d.isDigit || !isWordChar d then some (.plain .repeated, 12, 1) else none
    | [] => none
  | c :: _ =>
    if isWordStart c then
      let w := r.takeWhile isWordChar
      (infixWords.find? fun e => e.1.toList == w).map fun e => (.plain e.2.2, e.2.1, w.length)
    else
      match infixSigns.find? fun e => e.1.toList.isPrefixOf r with
      | none => none
      | some (s, level, op) =>
        let after := r.drop s.length
        let updates := after.head? = some '=' && !(["==", "=~"].any fun t => t.toList.isPrefixOf after) &&
          (updateSigns.any fun e => e.1 == s)
        if updates then none else some (op, level, s.length)

/-- Where a value is given to what is at its left: how it is combined, and how long the sign is. -/
def updateAt? (r : Raw) : Option (Option Update × Nat) :=
  match r with
  | '=' :: '=' :: _ | '=' :: '~' :: _ | '=' :: '>' :: _ => none
  | '=' :: _ => some (none, 1)
  | r =>
    match updateSigns.find? fun e => (e.1.toList ++ ['=']).isPrefixOf r with
    | some (s, u) =>
      let after := r.drop (s.length + 1)
      if after.head? = some '=' || after.head? = some '~' then none else some (some u, s.length + 1)
    | none => none

/-! ## Texts -/

/-- A text between plain quotes: a backslash before itself or a mark stands for nothing. -/
def plainText (opening : Char) : Raw → Raw
  | '\\' :: c :: rest =>
    if c = '\\' || c = opening || c = closing opening then c :: plainText opening rest
    else '\\' :: plainText opening (c :: rest)
  | c :: rest => c :: plainText opening rest
  | [] => []

/-- A character after a backslash, and the rest. -/
def escapedChar (c : Char) (rest : Raw) : Raw × Raw :=
  match c with
  | 'n' => (['\n'], rest)
  | 't' => (['\t'], rest)
  | 'r' => (['\r'], rest)
  | 'a' => (['\x07'], rest)
  | 'e' => (['\x1b'], rest)
  | 'f' => (['\x0c'], rest)
  | 'b' => (['\x08'], rest)
  | 'x' =>
    match rest with
    | '\x7b' :: body =>
      let ds := (body.takeWhile (· != '\x7d'))
      ([Char.ofNat (Raw.valueIn 16 (ds.filter Raw.isHex))], body.drop (ds.length + 1))
    | rest =>
      let ds := (rest.take 2).takeWhile Raw.isHex
      ([Char.ofNat (Raw.valueIn 16 ds)], rest.drop ds.length)
  | 'N' =>
    match rest with
    | '\x7b' :: 'U' :: '+' :: body =>
      let ds := (body.takeWhile (· != '\x7d'))
      ([Char.ofNat (Raw.valueIn 16 (ds.filter Raw.isHex))], body.drop (ds.length + 1))
    | rest => (['N'], rest)
  | 'c' =>
    match rest with
    | d :: after => ([Char.ofNat (d.toUpper.toNat ^^^ 64)], after)
    | [] => ([], [])
  | c =>
    if Raw.isOctal c then
      let ds := c :: (rest.take 2).takeWhile Raw.isOctal
      ([Char.ofNat (Raw.valueIn 8 ds)], rest.drop (ds.length - 1))
    else ([c], rest)

/-- The characters of a list for exchanging characters, ranges written out. -/
def exchanged : (fuel : Nat) → Raw → Raw
  | 0, _ => []
  | _, [] => []
  | fuel + 1, r =>
    let one (r : Raw) : Char × Raw := match r with
      | '\\' :: c :: rest =>
        if c = '-' then ('-', rest)
        else
          let (cs, left) := escapedChar c rest
          (cs.headD '\\', left)
      | c :: rest => (c, rest)
      | [] => (' ', [])
    let (c, rest) := one r
    match rest with
    | '-' :: d :: after =>
      let (d, after) := one (d :: after)
      ((List.range (d.toNat + 1 - c.toNat)).map fun i => Char.ofNat (c.toNat + i)) ++ exchanged fuel after
    | rest => c :: exchanged fuel rest

/-- What a name is said of: itself, or what an expression leads to. -/
inductive Base where
  | named (name : Raw)
  | led (e : Expr)

/-- A name or what is led to, as something of a sort. -/
def Base.ofSign (sign : Sign) : Base → Expr
  | named n => .name sign n
  | led e => .through sign e

/-- A name or what is led to, its use noted. -/
def Base.used (sign : Sign) (b : Base) : Reader Expr := do
  match b with
  | .named n => noteUse sign n
  | .led _ => pure ()
  return b.ofSign sign

/-- Texts next to one another made one. -/
def mergedParts : List Expr → List Expr
  | .text a :: rest =>
    match mergedParts rest with
    | .text b :: more => .text (a ++ b) :: more
    | more => if a.isEmpty then more else .text a :: more
  | e :: rest => e :: mergedParts rest
  | [] => []

/-- A text with values in it; one without is a plain text. -/
def filledOf (parts : List Expr) : Expr :=
  match mergedParts parts with
  | [] => .text []
  | [.text r] => .text r
  | parts => .filled parts

namespace Reader

/-- Reads something in another text. -/
def within {α : Type} (text : Raw) (r : Reader α) : Reader α := do
  let p ← get
  set { p with left := text }
  let x ← r
  modify fun q => { q with left := p.left, mark := p.mark, line := p.line, skipped := p.skipped }
  return x

/-- A word for a loop, if one comes next. -/
def label? : Reader (Option Raw) := do
  let w ← peekName
  if w.isEmpty || ownWords.contains (Raw.text w) then return none
  else
    take w.length
    return some w

/-- Whether a value may begin here. -/
def startsValue : Reader Bool := do
  let r ← ahead
  match r with
  | [] => return false
  | c :: rest =>
    if isWordStart c then
      let w := nameOf (r.length + 1) r
      return !(["and", "or", "xor", "if", "unless", "while", "until", "for", "foreach", "x", "eq", "ne", "lt", "gt",
        "le", "ge", "cmp"].contains (Raw.text w))
    else if c.isDigit || "$@\"'`([\x7b\\!~&".toList.contains c then
      return !(c = '&' && rest.head? = some '&') && !(c = '!' && (rest.head? = some '=' || rest.head? = some '~'))
    else
      match c with
      | '-' => return !(rest.head? = some '=')
      | '+' => return !(rest.head? = some '=')
      | '<' => return (rest.head?).any fun d => d = '$' || isWordStart d || d = '<' || d = '>'
      | '%' => return (rest.head?).any fun d => d = '$' || isWordStart d || d = '\x7b' || d = '+'
      | '*' => return (rest.head?).any isWordStart
      | '/' => return rest.head? != some '/'
      | '.' => return (rest.head?).any Char.isDigit
      | _ => return false

/-- Whether the end of what belongs to a word has come. -/
def atEnd : Reader Bool := do
  let r ← ahead
  match r with
  | [] => return true
  | c :: _ =>
    if ";)]\x7d:,".toList.contains c then return true
    else if isWordStart c then
      let w := nameOf (r.length + 1) r
      return ["and", "or", "xor", "if", "unless", "while", "until", "for", "foreach"].contains (Raw.text w)
    else return false

/-- A number. -/
def number : Reader Expr := do
  let r ← left
  let digitsIn (test : Char → Bool) (r : Raw) : Raw := r.takeWhile fun c => test c || c = '_'
  let plain (r : Raw) : Raw := r.filter (· != '_')
  match r with
  | '0' :: c :: rest =>
    if c = 'x' || c = 'X' then
      let ds := digitsIn Raw.isHex rest
      take (2 + ds.length)
      return .int (Raw.valueIn 16 (plain ds))
    else if c = 'b' || c = 'B' then
      let ds := digitsIn (fun d => d = '0' || d = '1') rest
      take (2 + ds.length)
      return .int (Raw.valueIn 2 (plain ds))
    else if c.isDigit then
      let ds := digitsIn Char.isDigit (c :: rest)
      take (1 + ds.length)
      return .int (Raw.valueIn 8 (plain ds))
    else decimal r
  | r => decimal r
where
  /-- A number in decimal digits. -/
  decimal (r : Raw) : Reader Expr := do
    let digitsOf (r : Raw) : Raw := r.takeWhile fun c => c.isDigit || c = '_'
    let whole := digitsOf r
    let rest := r.drop whole.length
    let fraction : Option Raw := match rest with
      | '.' :: '.' :: _ => none
      | '.' :: more => some (digitsOf more)
      | _ => none
    let after := match fraction with
      | some ds => rest.drop (ds.length + 1)
      | none => rest
    let exponent : Option Raw := match after with
      | e :: more =>
        if e = 'e' || e = 'E' then
          let sign := more.takeWhile fun c => c = '+' || c = '-'
          let ds := digitsOf (more.drop sign.length)
          if ds.isEmpty || sign.length > 1 then none else some (sign ++ ds)
        else none
      | [] => none
    let length := r.length - after.length + (match exponent with
      | some e => e.length + 1
      | none => 0)
    take length
    let plain (r : Raw) : Raw := r.filter (· != '_')
    match fraction, exponent with
    | none, none =>
      let n := Raw.valueIn 10 (plain whole)
      return if n ≤ 18446744073709551615 then .int n else .real (Float.ofNat n)
    | _, _ =>
      let ds := plain (fraction.getD [])
      let e : Int := ((exponent.bind Raw.integer?).getD 0) - ds.length
      return .real (Float.ofScientific (Raw.valueIn 10 (plain whole ++ ds)) (e < 0) e.natAbs)

/-- A name with the package of the program's part. -/
def qualified (name : Raw) : Reader Raw := do
  let p ← get
  if p.package == "main".toList || name.contains ':' then return shortName name
  else return p.package ++ "::".toList ++ name

/-- The name that a function is called by: its own, or that of the package. -/
def functionName (name : Raw) : Reader Raw := do
  if name.contains ':' then return shortName name
  else qualified name

end Reader

end RunMeter.Machine.Perl
