import RunMeter.Machine.Utility.Awk.Evaluation

/-!
# RunMeter.Machine.Utility.Awk — a program that carries out awk programs

The program's words are switches, a program, and the files that are read, among which variables may be given values.

Nothing that is proved depends on this module.
-/

namespace RunMeter.Machine.Awk

/-- The words of the program: where fields are separated, variables with values, files with programs, and the other
words. -/
structure Words where
  separator : Option Raw
  vars : List (Raw × Raw)
  files : List Raw
  rest : List Raw

/-- Reads the switches. -/
def Words.read (c : Call) : (fuel : Nat) → List Raw → Words → Act Words
  | 0, ws, w => return { w with rest := ws }
  | fuel + 1, ws, w => do
    let taken (letter : Char) (attached : Raw) (rest : List Raw) (f : Raw → Words) : Act Words := do
      match attached, rest with
      | _ :: _, rest => Words.read c fuel rest (f attached)
      | [], v :: rest => Words.read c fuel rest (f v)
      | [], [] => c.fail (Raw.ofText "option requires an argument: -" ++ [letter]) 2
    match ws with
    | ['-', '-'] :: rest => return { w with rest }
    | ['-'] :: _ => return { w with rest := ws }
    | ('-' :: 'F' :: attached) :: rest => taken 'F' attached rest fun v => { w with separator := some v }
    | ('-' :: 'v' :: attached) :: rest =>
      taken 'v' attached rest fun v =>
        match Running.assignment? v with
        | some pair => { w with vars := w.vars ++ [pair] }
        | none => w
    | ('-' :: 'f' :: attached) :: rest => taken 'f' attached rest fun v => { w with files := w.files ++ [v] }
    | ('-' :: 'W' :: attached) :: rest => taken 'W' attached rest fun _ => w
    | word@('-' :: _ :: _) :: _ => c.fail (Raw.ofText "not an option: " ++ word) 2
    | ws => return { w with rest := ws }

/-- The text of the program and the words after it. -/
def programText (c : Call) (w : Words) : Act (Raw × List Raw) := do
  if w.files.isEmpty then
    match w.rest with
    | text :: rest => return (text, rest)
    | [] => Act.exit 2
  else
    let texts ← w.files.mapM fun path => do
      match ← Call.contents path with
      | .ok text => return text
      | .error e => c.fail (Raw.ofText "cannot open \"" ++ path ++ Raw.ofText ("\" (" ++ e.message ++ ")")) 2
    return (Raw.joined ['\n'] texts, w.rest)

/-- The table of values in order, from a number on. -/
def numbered (values : List Raw) : Table :=
  values.zipIdx.foldl (fun t (v, i) => t.put (Raw.ofNat i) (Value.read v)) Table.empty

/-- The state before a program begins. -/
def State.start (c : Call) (p : Program) (args : List Raw) : State :=
  let words := c.baseName :: args
  let environment := c.env.foldl (fun t (n, v) => t.put n (Value.read v)) Table.empty
  let texts : List (String × String) := [("FS", " "), ("RS", "\n"), ("OFS", " "), ("ORS", "\n"), ("SUBSEP", "\x1c"),
    ("CONVFMT", "%.6g"), ("OFMT", "%.6g"), ("FILENAME", "")]
  let numbers : List (String × Float) := [("NR", 0), ("FNR", 0), ("RSTART", 0), ("RLENGTH", -1),
    ("ARGC", Float.ofNat words.length)]
  { functions := p.functions
    record := [], fields := none
    globals := texts.map (fun (n, v) => (n.toList, .value (.text v.toList))) ++
      numbers.map (fun (n, v) => (n.toList, .value (.number v))) ++
      [("ARGV".toList, .table 0), ("ENVIRON".toList, .table 1)]
    locals := []
    tables := #[numbered words, environment]
    main := none, used := 0, anyFile := false, finished := false
    sources := [], output := Sources.Kept.nothing, sinks := []
    seed := 0, random := 88172645463325252, ranges := [], code := 0 }

/-- Carries out an awk program. -/
def interpreter : Utility := fun c => do
  let c := { c with words := c.baseName :: c.args }
  let w ← Words.read c (c.args.length + 1) c.args ⟨none, [], [], []⟩
  let (text, args) ← programText c w
  match Program.ofText text with
  | .error f => c.fail f.message 2
  | .ok p =>
    let separator := w.separator.map fun v => ("FS".toList, unescaped (v.length + 1) v)
    let body : Running Unit := do
      for (n, v) in separator.toList ++ w.vars do
        Running.setVariable c n (Value.read v)
      p.carryOut c
    let (_, s) ← body.run.run (State.start c p args)
    return s.code

/-- The programs by name. -/
def programs : List (String × Utility) := [("awk", interpreter), ("mawk", interpreter), ("nawk", interpreter)]

end RunMeter.Machine.Awk
