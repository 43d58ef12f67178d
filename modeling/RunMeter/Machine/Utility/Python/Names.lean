import RunMeter.Machine.Utility.Python.Processes

/-!
# RunMeter.Machine.Utility.Python.Names — the names that are always there, and those of modules

* `builtinNames`: the names that no module has to be asked for.
* `attributeOfModule`: what a name in a module stands for.
* `suggestion?`: the name that someone may have meant.

Nothing that is proved depends on this module.
-/

namespace RunMeter.Machine.Python

/-- The functions that are always there. -/
def builtinFunctions : List String :=
  ["__import__", "abs", "all", "any", "ascii", "bin", "breakpoint", "callable", "chr", "compile", "delattr", "dir",
   "divmod", "eval", "exec", "format", "getattr", "globals", "hasattr", "hash", "hex", "id", "input", "isinstance",
   "issubclass", "iter", "len", "locals", "max", "min", "next", "oct", "ord", "pow", "print", "repr", "round",
   "setattr", "sorted", "sum", "vars", "open", "quit", "exit", "help"]

/-- The kinds that are always there, without those of exceptions. -/
def builtinKinds : List String :=
  ["bool", "memoryview", "bytearray", "bytes", "classmethod", "complex", "dict", "enumerate", "filter", "float",
   "frozenset", "property", "int", "list", "map", "object", "range", "reversed", "set", "slice", "staticmethod", "str",
   "super", "tuple", "type", "zip"]

/-- All names that are always there, in their order. -/
def builtinNames : List String :=
  ["__name__", "__doc__", "__package__", "__loader__", "__spec__", "__build_class__", "__import__", "abs", "all", "any",
   "ascii", "bin", "breakpoint", "callable", "chr", "compile", "delattr", "dir", "divmod", "eval", "exec", "format",
   "getattr", "globals", "hasattr", "hash", "hex", "id", "input", "isinstance", "issubclass", "iter", "aiter", "len",
   "locals", "max", "min", "next", "anext", "oct", "ord", "pow", "print", "repr", "round", "setattr", "sorted", "sum",
   "vars", "None", "Ellipsis", "NotImplemented", "False", "True"] ++ builtinKinds ++ ["__debug__"] ++
  ["BaseException", "BaseExceptionGroup", "Exception", "GeneratorExit", "KeyboardInterrupt", "SystemExit",
   "ArithmeticError", "AssertionError", "AttributeError", "BufferError", "EOFError", "ImportError", "LookupError",
   "MemoryError", "NameError", "OSError", "ReferenceError", "RuntimeError", "StopAsyncIteration", "StopIteration",
   "SyntaxError", "SystemError", "TypeError", "ValueError", "Warning", "FloatingPointError", "OverflowError",
   "ZeroDivisionError", "BytesWarning", "DeprecationWarning", "EncodingWarning", "FutureWarning", "ImportWarning",
   "PendingDeprecationWarning", "ResourceWarning", "RuntimeWarning", "SyntaxWarning", "UnicodeWarning", "UserWarning",
   "BlockingIOError", "ChildProcessError", "ConnectionError", "FileExistsError", "FileNotFoundError",
   "InterruptedError", "IsADirectoryError", "NotADirectoryError", "PermissionError", "ProcessLookupError",
   "TimeoutError", "IndentationError", "IndexError", "KeyError", "ModuleNotFoundError", "NotImplementedError",
   "RecursionError", "UnboundLocalError", "UnicodeError", "BrokenPipeError", "ConnectionAbortedError",
   "ConnectionRefusedError", "ConnectionResetError", "TabError", "UnicodeDecodeError", "UnicodeEncodeError",
   "UnicodeTranslateError", "ExceptionGroup", "EnvironmentError", "IOError", "open", "quit", "exit", "credits", "help"]

/-! ## Names that someone may have meant -/

/-- What a character put in the place of another one costs. -/
def changeCost (a b : Char) : Nat := if a = b then 0 else if a.toLower = b.toLower then 1 else 2

/-- The costs of making the starts of a text out of one character more than the starts before it. -/
def nextCosts (c : Char) (above : List Nat) (row : Nat) (t : Text) : List Nat :=
  let rec go : (left : Nat) → List Nat → Text → List Nat
    | left, diagonal :: up :: rest, d :: more =>
      let cost := min (min (left + 2) (up + 2)) (diagonal + changeCost c d)
      cost :: go cost (up :: rest) more
    | _, _, _ => []
  row :: go row above t

/-- What it costs to make one text out of another. -/
def changesBetween (a b : Text) : Nat :=
  let first := (List.range (b.length + 1)).map (2 * ·)
  ((a.zipIdx.foldl (fun row (c, i) => nextCosts c row (2 * (i + 1)) b) first).getLast?).getD 0

/-- The first of the names that are nearest to a name, if they are near enough. -/
def suggestion? (name : Text) (candidates : List Text) : Option Text :=
  let step (best : Option (Text × Nat)) (candidate : Text) : Option (Text × Nat) :=
    if candidate == name then best
    else
      let limit := (name.length + candidate.length + 3) * 2 / 6
      let limit := match best with
        | some (_, d) => min limit (d - 1)
        | none => limit
      let cost := changesBetween name candidate
      if cost ≤ limit && (best.map fun b => decide (cost < b.2)).getD true then some (candidate, cost) else best
  (candidates.foldl step none).map Prod.fst

/-! ## Modules -/

/-- The functions of modules. -/
def moduleFunctions : List (String × List String) :=
  [("sys", ["exit", "setrecursionlimit", "getrecursionlimit", "getsizeof", "getdefaultencoding",
      "getfilesystemencoding", "exc_info", "intern", "getrefcount"]),
   ("os", ["getpid", "getppid", "kill", "killpg", "abort", "_exit", "getcwd", "chdir", "listdir", "mkdir", "makedirs",
      "remove", "unlink", "rmdir", "rename", "replace", "open", "read", "write", "close", "pipe", "dup", "dup2", "fork",
      "wait", "waitpid", "system", "execv", "execve", "execvp", "execvpe", "execl", "execlp", "popen", "getenv",
      "putenv", "unsetenv", "getuid", "geteuid", "getgid", "getegid", "getpgid", "getpgrp", "setpgid", "setpgrp",
      "getsid", "setsid", "nice", "umask", "urandom", "cpu_count", "isatty", "access", "chmod", "symlink", "readlink",
      "link", "strerror", "WIFEXITED", "WEXITSTATUS", "WIFSIGNALED", "WTERMSIG", "WIFSTOPPED", "WCOREDUMP",
      "waitstatus_to_exitcode", "fsencode", "fsdecode", "getlogin", "times", "uname", "truncate", "mkfifo", "stat",
      "fdopen", "getpriority", "sched_yield", "spawnvp", "set_inheritable"]),
   ("os.path", ["exists", "isfile", "isdir", "islink", "join", "basename", "dirname", "split", "splitext", "abspath",
      "realpath", "normpath", "isabs", "expanduser", "getsize"]),
   ("signal", ["signal", "getsignal", "pause", "alarm", "raise_signal", "strsignal", "default_int_handler",
      "siginterrupt", "pthread_sigmask", "setitimer", "pthread_kill", "sigwait"]),
   ("time", ["sleep", "time", "monotonic", "perf_counter", "process_time", "time_ns", "monotonic_ns", "perf_counter_ns",
      "thread_time", "strftime", "ctime"]),
   ("subprocess", ["run", "call", "check_call", "check_output", "getoutput", "getstatusoutput", "Popen"]),
   ("math", ["sqrt", "floor", "ceil", "trunc", "pow", "log", "log2", "log10", "exp", "sin", "cos", "tan", "atan",
      "atan2", "fabs", "gcd", "factorial", "isnan", "isinf", "hypot", "isqrt", "prod"]),
   ("ctypes", ["string_at", "wstring_at", "memset", "memmove", "CDLL", "PyDLL"]),
   ("faulthandler", ["enable", "disable", "_sigsegv", "_sigabrt", "_sigfpe", "_fatal_error", "dump_traceback"]),
   ("resource", ["setrlimit", "getrlimit", "getrusage"]), ("atexit", ["register"]),
   ("gc", ["collect", "disable", "enable"]), ("random", ["random", "randint", "choice", "seed", "randrange"]),
   ("json", ["dumps"]), ("itertools", ["count", "repeat", "chain"]), ("functools", ["reduce"]), ("select", ["select"]),
   ("platform", ["system", "machine", "node", "release", "python_version"]), ("traceback", ["print_exc", "format_exc"]),
   ("shutil", ["which"]), ("threading", ["Thread"]), ("socket", ["gethostname"])]

/-- Modules that are there and of which programs get nothing. -/
def otherModules : List String :=
  ["errno", "string", "re", "io", "collections", "multiprocessing", "tempfile", "pathlib", "datetime", "hashlib",
   "argparse", "logging", "contextlib", "typing", "enum", "copy", "operator", "struct", "base64", "types", "warnings",
   "inspect", "textwrap", "asyncio", "codecs", "fcntl", "pwd", "grp", "array", "queue", "decimal", "fractions",
   "statistics", "uuid", "builtins", "dataclasses", "abc", "glob", "fnmatch", "locale", "unittest", "urllib", "http",
   "csv", "pickle", "zlib", "gzip", "secrets", "heapq", "bisect", "weakref", "getpass", "stat", "shlex", "configparser",
   "concurrent", "ast", "dis", "pdb", "cProfile", "timeit", "tracemalloc", "curses", "termios", "tty", "pty", "mmap",
   "syslog", "sched", "posix", "posixpath", "site", "pprint"]

/-- Whether there is a module by a name. -/
def isModule (name : String) : Bool :=
  (moduleFunctions.any fun m => m.1 == name) || otherModules.contains name

/-- The names of signals with their numbers. -/
def signalMember? (name : String) : Option Value :=
  match name.toList with
  | 'S' :: 'I' :: 'G' :: rest =>
    if rest.isEmpty then none
    else (SignalNumber.named? (Raw.text rest)).bind fun n =>
      if n = 0 || n > SignalNumber.greatest then none else some (.member "Signals" name n)
  | _ => none

/-- What fixed names in modules stand for. -/
def constant? (module name : String) : Option Value :=
  let number (n : Int) : Option Value := some (.int n)
  let text (s : String) : Option Value := some (.text s.toList)
  match module, name with
  | "sys", "maxsize" => number 9223372036854775807
  | "sys", "platform" => text "linux"
  | "sys", "executable" => text "/usr/bin/python3"
  | "sys", "byteorder" => text "little"
  | "sys", "version" => text "3.11.2 (main, Mar 13 2023, 12:18:29) [GCC 12.2.0]"
  | "sys", "version_info" => some (.tuple [.int 3, .int 11, .int 2, .text "final".toList, .int 0])
  | "sys", "hexversion" => number 51053296
  | "sys", "prefix" | "sys", "exec_prefix" => text "/usr"
  | "sys", "maxunicode" => number 1114111
  | "sys", "flags" => some .nothing
  | "os", "sep" => text "/"
  | "os", "linesep" => text "\n"
  | "os", "name" => text "posix"
  | "os", "pathsep" => text ":"
  | "os", "devnull" => text "/dev/null"
  | "os", "curdir" => text "."
  | "os", "path" => some (.module "os.path")
  | "os", "EX_OK" | "os", "F_OK" | "os", "O_RDONLY" | "os", "SEEK_SET" | "os", "P_WAIT" | "os", "PRIO_PROCESS" =>
    number 0
  | "os", "O_WRONLY" | "os", "X_OK" | "os", "WNOHANG" | "os", "SEEK_CUR" | "os", "P_NOWAIT" => number 1
  | "os", "O_RDWR" | "os", "W_OK" | "os", "WUNTRACED" | "os", "SEEK_END" => number 2
  | "os", "R_OK" => number 4
  | "os", "O_CREAT" => number 64
  | "os", "O_EXCL" => number 128
  | "os", "O_TRUNC" => number 512
  | "os", "O_APPEND" => number 1024
  | "os", "O_NONBLOCK" => number 2048
  | "os", "EX_USAGE" => number 64
  | "os", "EX_DATAERR" => number 65
  | "os", "EX_SOFTWARE" => number 70
  | "os", "EX_TEMPFAIL" => number 75
  | "os", "EX_CONFIG" => number 78
  | "os", "error" => some (.kind "OSError")
  | "signal", "SIG_DFL" => some (.member "Handlers" "SIG_DFL" 0)
  | "signal", "SIG_IGN" => some (.member "Handlers" "SIG_IGN" 1)
  | "signal", "SIG_BLOCK" => some (.member "Sigmasks" "SIG_BLOCK" 0)
  | "signal", "SIG_UNBLOCK" => some (.member "Sigmasks" "SIG_UNBLOCK" 1)
  | "signal", "SIG_SETMASK" => some (.member "Sigmasks" "SIG_SETMASK" 2)
  | "signal", "ITIMER_REAL" => number 0
  | "signal", "NSIG" => number 65
  | "signal", "Signals" => some (.kind "Signals")
  | "signal", n => signalMember? n
  | "subprocess", "PIPE" => number (-1)
  | "subprocess", "STDOUT" => number (-2)
  | "subprocess", "DEVNULL" => number (-3)
  | "subprocess", "CalledProcessError" => some (.kind "subprocess.CalledProcessError")
  | "subprocess", "TimeoutExpired" => some (.kind "subprocess.TimeoutExpired")
  | "subprocess", "SubprocessError" => some (.kind "subprocess.SubprocessError")
  | "math", "pi" => some (.real 3.141592653589793)
  | "math", "e" => some (.real 2.718281828459045)
  | "math", "inf" => some (.real (1.0 / 0.0))
  | "math", "nan" => some (.real (0.0 / 0.0))
  | "string", "ascii_lowercase" => text "abcdefghijklmnopqrstuvwxyz"
  | "string", "ascii_uppercase" => text "ABCDEFGHIJKLMNOPQRSTUVWXYZ"
  | "string", "ascii_letters" => text "abcdefghijklmnopqrstuvwxyzABCDEFGHIJKLMNOPQRSTUVWXYZ"
  | "string", "digits" => text "0123456789"
  | "resource", "RLIMIT_CPU" => number 0
  | "resource", "RLIMIT_FSIZE" => number 1
  | "resource", "RLIMIT_DATA" => number 2
  | "resource", "RLIMIT_STACK" => number 3
  | "resource", "RLIMIT_CORE" => number 4
  | "resource", "RLIMIT_NOFILE" => number 7
  | "resource", "RLIMIT_AS" => number 9
  | "resource", "RLIMIT_NPROC" => number 6
  | "resource", "RLIM_INFINITY" => number (-1)
  | "resource", "RUSAGE_SELF" => number 0
  | "resource", "RUSAGE_CHILDREN" => number (-1)
  | "errno", n => ((Errno.table.find? fun e => e.symbol == n).map fun e => .int e.number)
  | _, _ => none

/-- What a name in a module stands for. -/
def attributeOfModule (module : String) (name : Text) : Running (Option Value) := do
  let known := ((← get).attributes.find? fun e => e.1 == (module, name)).map Prod.snd
  let s := Raw.text name
  match known with
  | some v => return some v
  | none =>
    match constant? module s with
    | some v => return some v
    | none =>
      if module == "builtins" && builtinFunctions.contains s then return some (.builtin s)
      else if ((moduleFunctions.lookup module).getD []).contains s then return some (.builtin (module ++ "." ++ s))
      else if s == "__name__" then return some (.text module.toList)
      else return none

/-- What a name that is always there stands for. -/
def builtin? (name : Text) : Option Value :=
  let s := Raw.text name
  if builtinFunctions.contains s then some (.builtin s)
  else if builtinKinds.contains s || isMishapKind s then some (.kind s)
  else match s with
    | "IOError" | "EnvironmentError" => some (.kind "OSError")
    | "Ellipsis" => some .ellipsis
    | "__debug__" => some (.truth true)
    | _ => none

end RunMeter.Machine.Python
