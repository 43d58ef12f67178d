import RunMeter.Machine.Utility.Python.Evaluation

/-!
# RunMeter.Machine.Utility.Python — a program that carries out Python programs

The text comes from the words of the command, from a file, or from standard input.

Nothing that is proved depends on this module.
-/

namespace RunMeter.Machine.Python

open Running

/-- Where a program's text comes from. -/
inductive Origin where
  | words (text : Raw)
  | file (path : Raw)
  | module (name : Raw)
  | input

/-- What the words of the command say: whether output is kept, where the text comes from, and the program's own
words. -/
structure Start where
  prompt : Bool
  origin : Origin
  words : List Raw

/-- How the command is used. -/
def usage (c : Call) : Raw :=
  Raw.ofText "usage: " ++ c.name ++ Raw.ofText " [option] ... [-c cmd | -m mod | file | -] [arg] ...\n" ++
    Raw.ofText "Try `python -h' for more information.\n"

/-- Reads the words of the command. -/
def Start.read (c : Call) : (fuel : Nat) → (prompt : Bool) → List Raw → Act Start
  | 0, prompt, ws => return ⟨prompt, .input, ws⟩
  | fuel + 1, prompt, ws => do
    let missing (letter : Char) : Act Start := do
      let _ ← Act.write 2 (Raw.ofText "Argument expected for the -" ++ [letter] ++ Raw.ofText " option\n" ++ usage c)
      Act.exit 2
    match ws with
    | [] => return ⟨prompt, .input, [[]]⟩
    | ['-'] :: rest => return ⟨prompt, .input, ['-'] :: rest⟩
    | ['-', '-'] :: rest =>
      match rest with
      | path :: _ => return ⟨prompt, .file path, rest⟩
      | [] => return ⟨prompt, .input, [[]]⟩
    | w@('-' :: '-' :: long) :: _ =>
      if long = "version".toList then
        let _ ← Act.write 1 (Raw.ofText "Python 3.11.2\n")
        Act.exit 0
      else
        let _ ← Act.write 2 (Raw.ofText "unknown option " ++ w ++ ['\n'] ++ usage c)
        Act.exit 2
    | ('-' :: letters) :: rest => cluster fuel missing prompt letters rest
    | path :: _ => return ⟨prompt, .file path, ws⟩
where
  /-- Reads the letters of a word. -/
  cluster (fuel : Nat) (missing : Char → Act Start) (prompt : Bool) (letters : Raw) (rest : List Raw) : Act Start := do
    let quiet := letters.takeWhile "uBsSEIOqbdvxiR".toList.contains
    let prompt := prompt || quiet.contains 'u'
    match letters.drop quiet.length with
    | [] => Start.read c fuel prompt rest
    | 'c' :: text =>
      match text, rest with
      | _ :: _, rest => return ⟨prompt, .words text, "-c".toList :: rest⟩
      | [], text :: rest => return ⟨prompt, .words text, "-c".toList :: rest⟩
      | [], [] => missing 'c'
    | 'm' :: name =>
      match name, rest with
      | _ :: _, rest => return ⟨prompt, .module name, "-m".toList :: rest⟩
      | [], name :: rest => return ⟨prompt, .module name, "-m".toList :: rest⟩
      | [], [] => missing 'm'
    | 'W' :: more | 'X' :: more => Start.read c fuel prompt (if more.isEmpty then rest.drop 1 else rest)
    | 'V' :: _ =>
      let _ ← Act.write 1 (Raw.ofText "Python 3.11.2\n")
      Act.exit 0
    | letter :: _ =>
      let _ ← Act.write 2 (Raw.ofText "Unknown option: -" ++ [letter, '\n'] ++ usage c)
      Act.exit 2

/-- The variables that programs see: the locale's characters are said to be all there are. -/
def vars (c : Call) : List (Raw × Raw) :=
  let isPlain (name : String) : Bool := match c.binding? name with
    | none => true
    | some v => v.isEmpty || v = "C".toList || v = "POSIX".toList
  if (c.binding? "LC_ALL").isNone && isPlain "LC_CTYPE" && isPlain "LANG" then
    Starting.withVariable c.env "LC_CTYPE".toList "C.UTF-8".toList
  else c.env

/-- The state before a program begins. -/
def State.start (c : Call) (s : Start) (file : Text) (listing : List Text) (ignored : List Nat) : State :=
  let stream (fd : Nat) (name mode : String) (byLine : Bool) : Object :=
    .stream { streamOf fd (.text name.toList) mode false with byLine := byLine, prompt := s.prompt && fd != 0 }
  let text (r : Raw) : Value := .text (Text.ofRaw r)
  let words := s.words.map text
  let names : List (Text × Value) := [("__name__".toList, .text "__main__".toList), ("__doc__".toList, .nothing),
    ("__package__".toList, .nothing), ("__loader__".toList, .nothing), ("__spec__".toList, .nothing),
    ("__annotations__".toList, .nothing), ("__builtins__".toList, .module "builtins")]
  { store := #[stream 0 "<stdin>" "r" false, stream 1 "<stdout>" "w" false, stream 2 "<stderr>" "w" true,
      .list words.toArray, .dict ((vars c).map fun (k, v) => (text k, text v)), .list #[.text []], .dict []]
    scopes := #[⟨names ++ (if listing.isEmpty then [] else [("__file__".toList, .text file)]), [], none, [], [], false⟩]
    scope := 0
    frames := [⟨file, "<module>".toList, 1, []⟩]
    file := file
    listing := listing
    handlers := if ignored.contains SignalNumber.interrupt then []
      else [(SignalNumber.interrupt, .builtin "signal.default_int_handler")]
    attributes := [(("sys", "stdin".toList), .object 0), (("sys", "stdout".toList), .object 1),
      (("sys", "stderr".toList), .object 2), (("sys", "__stdin__".toList), .object 0),
      (("sys", "__stdout__".toList), .object 1), (("sys", "__stderr__".toList), .object 2),
      (("sys", "argv".toList), .object 3), (("os", "environ".toList), .object 4), (("sys", "path".toList), .object 5),
      (("sys", "modules".toList), .object 6)]
    atExit := [], opened := [], alarm := none, dealing := [], seed := 88172645463325252, limit := 1000 }

/-- Shows an exception that nothing deals with, and tells how the process ends.  Output comes first if `flushing`. -/
def concluded (flushing : Bool) (n : Nat) : Running Ended := do
  let s ← store
  if flushing then
    match ← outletOf "stdout" with
    | some k =>
      let _ ← tryFlush k
    | none => pure ()
  let told (r : Raw) : Running Unit := do
    match ← outletOf "stderr" with
    | some e =>
      emit e false r
      let _ ← tryFlush e
    | none => pure ()
  if isOfKind s (.object n) 50 (.kind "SystemExit") then
    match ← field n "code" with
    | .nothing => return .code 0
    | v =>
      match v.int? with
      | some k =>
        let fits := -9223372036854775808 ≤ k && k ≤ 9223372036854775807
        return .code (if fits then UInt8.ofNat (k % 256).toNat else 255)
      | none =>
        told (Text.toRaw (v.printed s) ++ ['\n'])
        return .code 1
  else
    told (report s n)
    if isOfKind s (.object n) 50 (.kind "KeyboardInterrupt") then return .signal SignalNumber.interrupt
    else return .code 1

/-- Carries out what was left for the end, and writes what is kept. -/
def finished (m : Means) (how : Ended) : Running Ended := do
  for (f, args) in (← get).atExit do
    (do
      let _ ← m.call f args []) |> tryCatchThe Jump <| fun j => do
      match j with
      | .raise n =>
        let _ ← concluded false n
      | _ => pure ()
  let failed ← match ← outletOf "stdout" with
    | some n => do
      match ← tryFlush n with
      | some e => do
        let message := "Exception ignored in: ".toList ++ (Value.object n).shown (← store) ++ ['\n'] ++
          (errnoKind e).toList ++ ": [Errno ".toList ++ Raw.ofInt e.number.toInt ++ "] ".toList ++ e.message.toList ++
              ['\n']
        match ← outletOf "stderr" with
        | some k =>
          emit k false (Text.toRaw message)
          let _ ← tryFlush k
        | none => pure ()
        pure true
      | none => pure false
    | none => pure false
  flushAll
  return match failed, how with
    | true, .code _ => .code 120
    | _, how => how

/-- The text of a program, what it is called, and its lines if they are shown with exceptions. -/
def textOfStart (c : Call) (s : Start) : Act (Text × Text × List Text) := do
  match s.origin with
  | .words r => return (Text.ofRaw r ++ ['\n'], "<string>".toList, [])
  | .input => return (Text.ofRaw (← Call.input), "<stdin>".toList, [])
  | .module name =>
    let _ ← Act.write 2 (Raw.ofText "/usr/bin/python3: No module named " ++ name ++ ['\n'])
    Act.exit 1
  | .file path =>
    let here ← Act.workingDirectory
    let full := if path.head? = some '/' then path else here ++ '/' :: path
    let full := if path = ['.'] then here else full
    if ← Paths.isDirectory path then
      let _ ← Act.write 2 (Raw.ofText "/usr/bin/python3: can't find '__main__' module in '" ++ full ++ Raw.ofText "'\n")
      Act.exit 1
    else match ← Call.contents path with
      | .error e =>
        let _ ← Act.write 2 (c.name ++ Raw.ofText ": can't open file '" ++ full ++
          Raw.ofText ("': [Errno " ++ toString e.number ++ "] " ++ e.message ++ "\n"))
        Act.exit 2
      | .ok r =>
        let t := Text.ofRaw r
        return (t, Text.ofRaw full, Raw.lines t)

/-- The microseconds that pass before a program's first line. -/
def startTime : Nat := 12000

/-- Carries out Python programs. -/
def interpreter : Utility := fun c => do
  let s ← Start.read c (c.args.length + 1) false c.args
  let ignored := (← Act.task).ignored
  Act.choose SignalNumber.brokenPipe .ignore
  Act.choose 25 .ignore
  if !ignored.contains SignalNumber.interrupt then Act.choose SignalNumber.interrupt .take
  let _ ← Act.sleep startTime
  let (text, file, listing) ← textOfStart c s
  let c := { c with env := vars c }
  let m := means c evaluationBound
  let flushing := match s.origin with
    | .words _ => false
    | _ => true
  let work : Running Ended := do
    let how : Ended ← (do
      match linesOf text with
      | .error f =>
        modify fun s => { s with frames := [] }
        raiseFault file text f
      | .ok ls =>
        checkSignals m
        execAll c evaluationBound ls
        return Ended.code 0) |> tryCatchThe Jump <| fun j => match j with
          | .raise n => concluded flushing n
          | _ => return Ended.code 0
    finished m how
  let (result, _) ← work.run.run (State.start c s file listing ignored)
  match result with
  | .ok (.code n) => return n
  | .ok (.signal n) => Act.die n
  | .error _ => return 1

/-- The programs by name. -/
def programs : List (String × Utility) := [("python3", interpreter), ("python3.11", interpreter)]

end RunMeter.Machine.Python
