import RunMeter.Machine.Shell.Copies

/-!
# RunMeter.Machine.Shell.Source — scripts that are read while they run

A shell that reads its script from standard input takes no more of it than it has to, since the commands of the
script may read from there as well: the plain dialect takes blocks, the extended one lines.  The lines are shown
as they are read if the shell is to do so.

Nothing that is proved depends on this module.
-/

namespace RunMeter.Machine.Shell

/-- Where a script comes from: what has been read of it and not yet run, the number of its next line, and whether
there is more. -/
structure Source where
  ahead : Raw
  line : Nat
  more : Bool

namespace Source

open Sh

/-- How many octets the plain dialect reads at once. -/
def blockSize : Nat := 8192

/-- How many blocks are read of one line at most. -/
def blockBound : Nat := 100000

/-- Reads more of the script; nothing at its end. -/
def readMore : Sh Raw := do
  let more ← if ← extended then act (Act.readLineWithin 0 Act.blockSize []) else act (Act.read 0 blockSize)
  return more.toOption.getD []

/-- Takes the next line, with its end if it has one; nothing if there is none. -/
def takeLine : (fuel : Nat) → Source → Sh (Raw × Source)
  | 0, s => return ([], s)
  | fuel + 1, s => do
    match Raw.firstLine? s.ahead with
    | some (line, rest) => return (line ++ ['\n'], { s with ahead := rest })
    | none =>
      if !s.more then return (s.ahead, { s with ahead := [] })
      else
        let more ← readMore
        takeLine fuel { s with ahead := s.ahead ++ more, more := !more.isEmpty }

/-- Takes the next line, and shows it if the shell is to do so. -/
def showLine (s : Source) : Sh (Raw × Source) := do
  let (line, s) ← takeLine blockBound s
  if (← isOn "verbose") && !line.isEmpty then warn line
  return (line, s)

/-- What comes next in a script. -/
inductive Next where
  | done
  | command (n : Statement) (rest : List Token) (short : List Token.CutShort)
  | wrong (text : Raw) (e : SyntaxError)

/-- The next command, of which some lines have been taken. -/
def next : (fuel : Nat) → (taken : Raw) → Source → Sh (Next × Source)
  | 0, _, s => return (.done, s)
  | fuel + 1, taken, s => do
    let (line, s) ← showLine s
    let text := taken ++ line
    let atEnd := line.getLast? != some '\n'
    let now ← Copies.rules
    let cut := Token.ofScript now s.line text
    let tokens := cut.tokens.toList
    let passed : Source := { s with line := s.line + text.count '\n' }
    if cut.unfinished && !atEnd then next fuel text s
    else match Reader.next.run ⟨tokens, now, Copies.lineAfter tokens, ← Copies.aliasesInUse⟩ with
      | .ok (some n, r) => return (.command n r.tokens cut.short, passed)
      | .ok (none, _) => if atEnd then return (.done, passed) else next fuel [] passed
      | .error e =>
        if e.isOpen && !atEnd then next fuel text s
        else return (.wrong text e, passed)

/-- Runs the commands of a script to its end, at most `fuel`. -/
def runAll (run : Runner) : (fuel : Nat) → Source → Sh Unit
  | 0, _ => pure ()
  | fuel + 1, s => do
    let start := s.line
    let (found, s) ← next blockBound [] s
    match found with
    | .done => pure ()
    | .wrong text e => Copies.refuse start text e
    | .command n rest short =>
      Copies.tellShort short
      run false n
      Copies.commands run false start [] (rest.length + 1) (← Copies.rules) [] rest
      runAll run fuel s

/-- How many commands a script has at most. -/
def commandBound : Nat := 100000000

end Source
end RunMeter.Machine.Shell
