import RunMeter.Machine.Shell.Commands
import RunMeter.Machine.Shell.Conditional

/-!
# RunMeter.Machine.Shell.Evaluation — running statements

* `step`: runs one statement, given how to run the statements inside of it.
* `evaluate`: statements nested to any depth up to a bound.

A shell that is there for one part of a script alone (parentheses, a substitution, a side of a pipe) gives its
place to its last command, so that a signal that ends the command ends that shell.

Nothing that is proved depends on this module.
-/

namespace RunMeter.Machine.Shell.Evaluation

open Sh

/-- How often a loop runs at most. -/
def loopBound : Nat := 100000000

/-- How deep statements nest. -/
def depthBound : Nat := 200000

/-- The text of a statement, as it is told of jobs; empty for one that is not told.  Statements in order are put
between braces, unless they are `inside` of brackets of their own. -/
def told : (depth : Nat) → (inside : Bool) → Statement → Raw
  | 0, _, _ => []
  | depth + 1, inside, n =>
    match n with
    | .simple _ as ws _ => Raw.joined [' '] (as.map (fun a => a.name ++ '=' :: a.value) ++ ws)
    | .pipe cs => Raw.joined " | ".toList (cs.map (told depth false))
    | .both a b => told depth false a ++ " && ".toList ++ told depth false b
    | .either a b => told depth false a ++ " || ".toList ++ told depth false b
    | .inOrder a b =>
      let text := told depth true a ++ "; ".toList ++ told depth true b
      if inside then text else "\x7b ".toList ++ text ++ "; \x7d".toList
    | .negate a => "! ".toList ++ told depth false a
    | .subshell a => "( ".toList ++ told depth true a ++ " )".toList
    | .redirected a _ => told depth false a
    | _ => []

/-- How deep the text of a statement goes. -/
def toldDepth : Nat := 20

/-- Starts the commands of a pipe from left to right, each in a copy of the shell.  `source` is what the first of
them reads from, and `background` says that nobody waits for them. -/
def startPipe (run : Runner) (background : Bool) : (first : Bool) → (source : Option Nat) → List Statement → Sh (List Pid)
  | _, _, [] => return []
  | first, source, c :: cs => do
    let prepare : Sh Unit := do
      if background then Copies.goBack first
      match source with
      | some s => moveFd s 0
      | none => pure ()
    match cs with
    | [] =>
      let pid ← Copies.copy run c.isSimple do
        prepare
        run true c
      match source with
      | some s => act (Act.close s)
      | none => pure ()
      return [pid]
    | _ =>
      let (next, sink) ← act Act.pipe
      let pid ← Copies.copy run c.isSimple do
        prepare
        act (Act.close next)
        moveFd sink 1
        run true c
      act (Act.close sink)
      match source with
      | some s => act (Act.close s)
      | none => pure ()
      return pid :: (← startPipe run background false (some next) cs)

/-- Runs something whose failure does not end the shell. -/
def whileTested (body : Sh Unit) : Sh Unit := do
  let before := (← shell).tested
  update fun p => { p with tested := true }
  always body (update fun p => { p with tested := before })

/-- Runs the body of a loop once; false if the loop is to end. -/
def loopBody (body : Sh Unit) : Sh Bool := do
  let outer := (← shell).loops
  update fun p => { p with loops := outer + 1 }
  always (tryCatch (do
    body
    return true) fun
      | .leave n => do
        if n > 1 then throw (.leave (n - 1))
        setStatus 0
        return false
      | .resume n => do
        if n > 1 then throw (.resume (n - 1))
        setStatus 0
        return true
      | e => throw e) (update fun p => { p with loops := outer })

/-- Runs a loop with a test. -/
def cycle (run : Runner) (stopWhen : Bool) (test body : Statement) : (fuel : Nat) → (status : Nat) → Sh Unit
  | 0, status => setStatus status
  | fuel + 1, status => do
    let goesOn ← loopBody (whileTested (run false test))
    if goesOn && ((← shell).status == 0) != stopWhen then
      if ← loopBody (run false body) then cycle run stopWhen test body fuel (← shell).status
      else setStatus 0
    else setStatus status

/-- Runs a loop over words. -/
def each (run : Runner) (name : Raw) (body : Statement) : List Raw → Sh Unit
  | [] => pure ()
  | w :: ws => do
    assign name w
    if ← loopBody (run false body) then each run name body ws

/-- Runs a counting loop. -/
def count (run : Runner) (test next : Raw) (body : Statement) : (fuel : Nat) → Sh Unit
  | 0 => pure ()
  | fuel + 1 => do
    let goesOn ← if test.isEmpty then pure true else do pure ((← Arithmetic.value test) != 0)
    if goesOn then
      if ← loopBody (run false body) then
        let _ ← Arithmetic.value next
        count run test next body fuel

/-- Runs the first arm whose pattern matches, and those that it goes on with; `ran` says that one was run before. -/
def select (run : Runner) (last : Bool) (subject : Raw) :
    (ran falls : Bool) → List (List Raw × Statement × ArmEnd) → Sh Unit
  | ran, _, [] => if ran then pure () else setStatus 0
  | ran, falls, (patterns, body, ending) :: rest => do
    let sub := Copies.substitution run
    let ps ← if falls then pure [] else patterns.mapM (Expansion.asPattern sub)
    if falls || ps.any fun p => p.isMatch subject then
      match body with
      | .nothing => setStatus 0
      | body => run (last && ending = .atEnd) body
      match ending with
      | .atEnd => pure ()
      | .falls => select run last subject true true rest
      | .tries => select run last subject true false rest
    else select run last subject ran false rest

/-- Ends the shell if it is to end at a failure. -/
def checkFailure (run : Runner) : Sh Unit := do
  let p ← shell
  if p.status != 0 && !p.tested then
    match p.occasions.find? fun o => o.1 = "ERR" with
    | some (_, action) =>
      update fun p => { p with occasions := p.occasions.filter fun o => o.1 != "ERR" }
      Copies.script run action
      update fun q => { q with occasions := p.occasions, status := p.status }
    | none => pure ()
    if p.switches.contains "errexit" then throw (.exit p.status)

/-- What follows a command: signals are taken, and a failure may end the shell. -/
def after (run : Runner) : Sh Unit := do
  Copies.takeSignals run Copies.signalBound
  checkFailure run

/-- Milliseconds as seconds, with so many digits after the point, up to three. -/
def seconds (digits milliseconds : Nat) : Raw :=
  Raw.ofNat (milliseconds / 1000) ++ '.' :: (Raw.ofNat (1000 + milliseconds % 1000)).tail.take digits

/-- Runs one statement, given how to run those inside of it. -/
def step (run : Runner) : Runner := fun last statement => do
  if !(← isOn "noexec") then match statement with
  | .nothing => pure ()
  | .simple line assignments words rs =>
    Commands.simple run last line assignments words rs
    after run
  | .pipe cs =>
    let pids ← startPipe run false true none cs
    Jobs.conclude pids (told toldDepth false statement)
    after run
  | .negate c =>
    whileTested (run false c)
    setStatus (if (← shell).status = 0 then 1 else 0)
  | .timed brief c =>
    let start ← act Act.now
    run false c
    let spent := ((← act Act.now) - start) / 1000
    let status := (← shell).status
    warn (if brief then Raw.ofText "real " ++ seconds 2 spent ++ Raw.ofText "\nuser 0.00\nsys 0.00\n"
      else Raw.ofText "\nreal\t" ++ Raw.ofNat (spent / 60000) ++ 'm' :: seconds 3 (spent % 60000) ++
        Raw.ofText "s\nuser\t0m0.000s\nsys\t0m0.000s\n")
    setStatus status
  | .both a b =>
    whileTested (run false a)
    if (← shell).status = 0 then run last b
  | .either a b =>
    whileTested (run false a)
    if (← shell).status != 0 then run last b
  | .inOrder a b =>
    run false a
    run last b
  | .background c =>
    let pids ← match c with
      | .pipe cs => startPipe run true true none cs
      | c => do
        let pid ← Copies.copy run false do
          Copies.goBack true
          run true c
        pure [pid]
    Jobs.leave pids (told toldDepth false c)
  | .subshell body =>
    let trapped := (← shell).traps.any fun t => !t.2.isEmpty
    if last && !trapped && (← shell).dialect = .plain then
      Copies.becomeCopy false
      run true body
    else
      let pid ← Copies.copy run false (run true body)
      Jobs.conclude [pid] (told toldDepth false statement)
      after run
  | .redirected body rs =>
    Redirect.during (Copies.substitution run) rs Redirect.failed fun _ => run false body
    checkFailure run
  | .branch test yes no =>
    whileTested (run false test)
    if (← shell).status = 0 then run last yes
    else match no with
      | .nothing => setStatus 0
      | no => run last no
  | .cycle stopWhen test body => cycle run stopWhen test body loopBound 0
  | .each line name words body =>
    update fun p => { p with line := line, wordLine := line }
    let ws ← match words with
      | some ws => Expansion.allFields (Copies.substitution run) ws
      | none => do pure (← shell).words
    if ws.isEmpty then setStatus 0
    each run name body ws
  | .count line first test next body =>
    update fun p => { p with line := line, wordLine := line }
    let _ ← Arithmetic.value first
    setStatus 0
    count run test next body loopBound
  | .select line subject arms =>
    update fun p => { p with line := line, wordLine := line }
    let text ← Expansion.single (Copies.substitution run) subject
    select run last text false false arms
  | .condition line text =>
    update fun p => { p with line := line, wordLine := line }
    let holds ← Commands.forgivingly (Conditional.holds (Copies.substitution run) text)
    match holds with
    | some v => setStatus (if v then 0 else 1)
    | none => pure ()
    after run
  | .compute line text =>
    update fun p => { p with line := line, wordLine := line, within := some "((".toList }
    let value ← Commands.forgivingly do
      Arithmetic.value (Expansion.flat (← Expansion.glyphs (Copies.substitution run) true text))
    update fun p => { p with within := none }
    match value with
    | some v => setStatus (if v = 0 then 1 else 0)
    | none => pure ()
    after run
  | .define name body =>
    update fun p => { p with functions := (name, body) :: p.functions.filter fun f => f.1 != name }
    setStatus 0

/-- Runs statements nested at most so deep. -/
def evaluate : (depth : Nat) → Runner
  | 0 => fun _ _ => throw (.exit 2)
  | depth + 1 => step (evaluate depth)

/-- Runs statements. -/
def run : Runner := evaluate depthBound

end RunMeter.Machine.Shell.Evaluation
