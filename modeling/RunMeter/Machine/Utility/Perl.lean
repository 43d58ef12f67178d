import RunMeter.Machine.Utility.Perl.Evaluation

/-!
# RunMeter.Machine.Utility.Perl — a program that carries out Perl programs

The text comes from the words of the command, from a file, or from standard input.  Switches put a loop over lines
around it.

Nothing that is proved depends on this module.
-/

namespace RunMeter.Machine.Perl

open Running

/-- What the switches say. -/
structure Switching where
  /-- Texts from the words, the last first. -/
  texts : List Raw
  /-- Whether there is a loop over lines, and whether they are shown. -/
  loops : Bool
  shows : Bool
  /-- Whether ends of lines are taken off and put on again. -/
  lines : Bool
  /-- Whether lines are cut to parts, and where. -/
  cuts : Bool
  cutMark : Option Raw
  /-- What ends lines of input, if not the usual. -/
  ending : Option Value
  /-- What is known before the text. -/
  heading : List Raw
  checks : Bool
  speaks : Bool
  /-- What a file that is changed in its place is kept as. -/
  inPlace : Option Raw
  /-- Whether words like switches give variables values. -/
  sets : Bool

namespace Switching

/-- Nothing said. -/
def nothing : Switching := ⟨[], false, false, false, false, none, none, [], false, false, none, false⟩

end Switching

/-- Ends the program because of its words. -/
def wrongWords {α : Type} (message : Raw) (code : UInt8) : Act α := do
  let _ ← Act.write 2 message
  Act.exit code

/-- The statement that a switch for a module means. -/
def moduleStatement (r : Raw) (asks : Bool) : Raw :=
  let (word, r) : Raw × Raw := match r with
    | '-' :: rest => ("no ".toList, rest)
    | r => ("use ".toList, r)
  let name := r.takeWhile (· != '=')
  match r.drop name.length with
  | _ :: list => word ++ name ++ " split(/,/,q\x7b".toList ++ list ++ "\x7d);".toList
  | [] => word ++ r ++ (if asks then [] else " ()".toList) ++ [';']

/-- Reads the switches; gives the words that are left. -/
def Switching.read : (fuel : Nat) → Switching → List Raw → Act (Switching × List Raw)
  | 0, s, ws => return (s, ws)
  | fuel + 1, s, ws => do
    match ws with
    | ['-', '-'] :: rest => return (s, rest)
    | ('-' :: letters@(_ :: _)) :: rest =>
      let (s, rest) ← cluster (letters.length + 1) s letters rest
      Switching.read fuel s rest
    | ws => return (s, ws)
where
  /-- Reads the letters of a word; gives the words after it. -/
  cluster : (fuel : Nat) → Switching → Raw → List Raw → Act (Switching × List Raw)
    | 0, s, _, rest => return (s, rest)
    | _, s, [], rest => return (s, rest)
    | fuel + 1, s, letter :: more, rest => do
      match letter with
      | 'e' | 'E' =>
        let s := if letter = 'E' then { s with speaks := true } else s
        match more, rest with
        | _ :: _, rest => return ({ s with texts := more :: s.texts }, rest)
        | [], t :: rest => return ({ s with texts := t :: s.texts }, rest)
        | [], [] => wrongWords ("No code specified for -".toList ++ [letter] ++ ".\n".toList) 29
      | 'n' => cluster fuel { s with loops := true } more rest
      | 'p' => cluster fuel { s with loops := true, shows := true } more rest
      | 'a' => cluster fuel { s with loops := true, cuts := true } more rest
      | 'l' =>
        let ds := (more.take 4).takeWhile Raw.isOctal
        cluster fuel { s with lines := true } (more.drop ds.length) rest
      | '0' =>
        let ds := (more.take 3).takeWhile Raw.isOctal
        let n := Raw.valueIn 8 ds
        let ending : Value :=
          if ds = ['7', '7', '7'] then .undefined else if ds = ['0'] then .text [] else .text [Char.ofNat n]
        cluster fuel { s with ending := some ending } (more.drop ds.length) rest
      | 'F' =>
        let mark := match more, rest with
          | _ :: _, _ => more
          | [], t :: _ => t
          | [], [] => []
        return ({ s with loops := true, cuts := true, cutMark := some mark }, if more.isEmpty then rest.drop 1 else rest)
      | 'i' => return ({ s with inPlace := some more }, rest)
      | 'M' | 'm' =>
        if more.isEmpty then wrongWords ("Missing argument to -".toList ++ [letter] ++ ['\n']) 29
        else return ({ s with heading := s.heading ++ [moduleStatement more (letter = 'M')] }, rest)
      | 'I' => return (s, if more.isEmpty then rest.drop 1 else rest)
      | 'c' => cluster fuel { s with checks := true } more rest
      | 's' => cluster fuel { s with sets := true } more rest
      | 'w' | 'W' | 'X' | 'T' | 't' | 'u' | 'U' | 'S' | 'f' => cluster fuel s more rest
      | 'C' | 'D' | 'd' | 'x' => return (s, rest)
      | '-' => return (s, rest)
      | letter =>
        wrongWords ("Unrecognized switch: -".toList ++ letter :: more ++ "  (-h will show valid options).\n".toList) 29

/-- A text with the loop that the switches put around it. -/
def Switching.around (s : Switching) (text : Raw) : Raw :=
  let head := s.heading.flatten
  if !s.loops then head ++ text
  else
    let cut : Raw := if !s.cuts then [] else
      match s.cutMark with
      | none => "our @F=split(' ');".toList
      | some mark =>
        match mark with
        | q :: _ =>
          if q = '/' || q = '"' || q = '\'' then "our @F=split(".toList ++ mark ++ ");".toList
          else "our @F=split(q\x00".toList ++ mark ++ "\x00);".toList
        | [] => "our @F=split(' ');".toList
    head ++ "LINE: while (<>) \x7b".toList ++ (if s.lines then "chomp;".toList else []) ++ cut ++ text ++
      (if s.shows then ";\x7d continue\x7bdie \"-p destination: $!\\n\" unless print $_;\x7d".toList else ";\x7d".toList)

/-- The state before a program begins. -/
def State.start (c : Call) (s : Switching) (file : Raw) (words : List Raw) (p : Place) (now : Nat) : State :=
  let stream (name : String) (fd : Nat) (prompt : Bool) : Cell :=
    .stream (Stream.ofFd name.toList fd (fd = 0) (fd != 0) prompt)
  let environment := c.env.foldl (fun t (k, v) => t.put k (.text v)) Table.empty
  let ending : Value := s.ending.getD (.text ['\n'])
  let texts : List (Raw × Value) := [(['/'], ending), (['"'], .text [' ']), ([';'], .text ['\x1c']),
    (['0'], .text file), (['@'], .text []), (['_'], .undefined), ([','], .undefined),
    (['\\'], if s.lines then .text ['\n'] else .undefined)]
  let fixed : Array Cell := #[stream "STDIN" 0 false, stream "STDOUT" 1 false, stream "STDERR" 2 true,
    .array (words.map Value.text).toArray, .table environment, .table Table.empty, .array #[], .array #[]]
  let names : List (Raw × Nat) := [("*STDIN".toList, inputCell), ("*STDOUT".toList, outputCell),
    ("*STDERR".toList, errorCell), ("@ARGV".toList, wordsCell), ("%ENV".toList, environmentCell),
    ("%SIG".toList, signalCell), ("@INC".toList, 7)]
  let own := texts.zipIdx.map fun ((name, _), i) => ('$' :: name, fixed.size + i)
  { cells := fixed ++ (texts.map fun e => Cell.scalar e.2).toArray
    globals := (names ++ own).foldl (fun t (k, n) => t.insert k n) ∅
    scope := [], args := 6, frames := [], line := 1, file := file, package := "main".toList, undo := [], matched := none
    errno := 0, status := 0, lastRead := none, selected := outputCell, alarm := none, catches := false, ends := []
    kinds := ∅, patterns := ∅, positions := ∅, lasting := ∅, random := now * 2862933555777941757 + 3037000493, began := false
    inPlace := s.inPlace, changing := false, place := p }

/-- The exit code of a program that has died. -/
def mishapCode : Running UInt8 := do
  let s ← get
  let upper := (s.status / 256 % 256).toNat
  return UInt8.ofNat (if s.errno % 256 != 0 then s.errno else if upper != 0 then upper else 255)

/-- What comes of the reason why a program did not go on. -/
def concluded (j : Jump) : Running Ended := do
  match j with
  | .exit code => return .code code
  | .halt how => throw (.halt how)
  | .give _ => return .code 0
  | .die v =>
    tell (← textOf v)
    return .code (← mishapCode)
  | .leave exit label =>
    let word := match exit with
      | .last => "last"
      | .next => "next"
      | .redo => "redo"
    let place ← whereabouts
    match label with
    | some l => tell ("Label not found for \"".toList ++ word.toList ++ ' ' :: l ++ "\"".toList ++ place)
    | none => tell ("Can't \"".toList ++ word.toList ++ "\" outside a loop block".toList ++ place)
    return .code (← mishapCode)

/-- Carries out what was left for the end, and writes what is kept. -/
def finished (c : Call) (last : List (Nat × List Statement)) (how : Ended) : Running Ended := do
  let code : Nat := match how with
    | .code n => n.toNat
    | .signal _ => 0
  modify fun s => { s with status := code, frames := [], scope := [] }
  let s ← get
  for (number, body) in last.reverse do
    let scope := (s.ends.lookup number).getD []
    modify fun s => { s with scope }
    (do
      let _ ← execAll c evaluationBound false body) |> tryCatchThe Jump <| fun j => do
        match ← concluded j with
        | .code n => modify fun s => { s with status := n.toNat }
        | _ => pure ()
  let code := ((← get).status % 256).toNat
  flushAll
  return .code (UInt8.ofNat code)

/-- The text of a program, what it is called, and its words. -/
def textOfStart (s : Switching) (words : List Raw) : Act (Raw × Raw × List Raw) := do
  if !s.texts.isEmpty then return (Raw.joined ['\n'] s.texts.reverse ++ ['\n'], "-e".toList, words)
  else
    match words with
    | [] => return (← Call.input, ['-'], [])
    | ['-'] :: rest => return (← Call.input, ['-'], rest)
    | path :: rest =>
      if ← Paths.isDirectory path then
        wrongWords ("Can't open perl script \"".toList ++ path ++ "\": Is a directory\n".toList) 21
      else
        match ← Call.contents path with
        | .error e =>
          wrongWords ("Can't open perl script \"".toList ++ path ++ "\": ".toList ++ e.message.toList ++ ['\n'])
            (UInt8.ofNat e.number.toNatClampNeg)
        | .ok r => return (r, path, rest)

/-- Gives variables the values of words like switches. -/
def setWords : (fuel : Nat) → List Raw → List (Raw × Value) × List Raw
  | 0, ws => ([], ws)
  | fuel + 1, ws =>
    match ws with
    | ['-', '-'] :: rest => ([], rest)
    | ('-' :: w@(_ :: _)) :: rest =>
      let name := w.takeWhile (· != '=')
      let value : Value := if name.length < w.length then .text (w.drop (name.length + 1)) else .int 1
      let (more, left) := setWords fuel rest
      ((name, value) :: more, left)
    | ws => ([], ws)

/-- The microseconds that pass before a program's first statement. -/
def startTime : Nat := 2000

/-- Tells what is wrong with a text; gives the exit code. -/
def tellFault (file : Raw) (f : Fault) : Act UInt8 := do
  let _ ← Act.write 2 (f.message ++ (if f.alone then [] else "Execution of ".toList ++ file ++
    " aborted due to compilation errors.\n".toList))
  return if f.alone && "Can't locate".toList.isPrefixOf f.message then 2 else 255

/-- Carries out Perl programs. -/
def interpreter : Utility := fun c => do
  let (s, words) ← Switching.read (c.args.length + 1) Switching.nothing c.args
  Act.choose SignalNumber.arithmetic .ignore
  let _ ← Act.sleep startTime
  let (text, file, words) ← textOfStart s words
  let (text, data) := withoutData (text.length + 1) [] text
  let (settings, words) := if s.sets then setWords (words.length + 1) words else ([], words)
  match statementsOf (Place.start file (s.around text) s.speaks) with
  | .error f => tellFault file f
  | .ok (ss, p) =>
    if s.checks then
      let _ ← Act.write 2 (file ++ " syntax OK\n".toList)
      return 0
    else
      let last := endings 20 ss
      let work : Running Ended := do
        let how : Ended ← (do
          for (name, v) in settings do setPlain (Raw.text name) v
          match data with
          | some r =>
            let n ← newCell (.stream { Stream.closed "DATA".toList with reads := true, ahead := r, atEnd := true })
            setGlobal .handle "DATA".toList n
          | none => pure ()
          for (name, body) in definitions 20 ss do define name body none
          for body in beginnings 20 ss do
            let _ ← execAll c evaluationBound false body
          let _ ← execAll c evaluationBound false ss
          return Ended.code 0) |> tryCatchThe Jump <| concluded
        finished c last how
      let now ← Act.now
      let (result, _) ← work.run.run (State.start c s file words p now)
      match result with
      | .ok (.code n) => return n
      | .ok (.signal n) => Act.die n
      | .error (.halt (.code n)) => return n
      | .error (.halt (.signal n)) => Act.die n
      | .error _ => return 255

/-- The programs by name. -/
def programs : List (String × Utility) := [("perl", interpreter), ("perl5.36.0", interpreter)]

end RunMeter.Machine.Perl
