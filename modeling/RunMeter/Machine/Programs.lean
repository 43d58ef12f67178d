import RunMeter.Machine.Shell.Start
import RunMeter.Machine.Utility.Amounts
import RunMeter.Machine.Utility.Awk
import RunMeter.Machine.Utility.Bases
import RunMeter.Machine.Utility.Blocks
import RunMeter.Machine.Utility.CharacterSets
import RunMeter.Machine.Utility.Columns
import RunMeter.Machine.Utility.Copying
import RunMeter.Machine.Utility.Digests
import RunMeter.Machine.Utility.Editing
import RunMeter.Machine.Utility.Expression
import RunMeter.Machine.Utility.Filing
import RunMeter.Machine.Utility.Finding
import RunMeter.Machine.Utility.Joining
import RunMeter.Machine.Utility.Listing
import RunMeter.Machine.Utility.Measuring
import RunMeter.Machine.Utility.Owning
import RunMeter.Machine.Utility.Paragraphs
import RunMeter.Machine.Utility.Perl
import RunMeter.Machine.Utility.Python
import RunMeter.Machine.Utility.Searching
import RunMeter.Machine.Utility.Sorting
import RunMeter.Machine.Utility.Splitting
import RunMeter.Machine.Utility.Starting
import RunMeter.Machine.Utility.Switching
import RunMeter.Machine.Utility.System
import RunMeter.Machine.Utility.Words

/-!
# RunMeter.Machine.Programs — the programs of the machine by name

* `names`: all of them.
* `start`: a program takes the place of the one that a process has carried out so far.

Nothing that is proved depends on this module.
-/

namespace RunMeter.Machine.Programs

/-- The shells by name. -/
def shells : List (String × Shell.Dialect) :=
  [("dash", .plain), ("bash", .extended)]

/-- The programs that are no shells, by name. -/
def utilities : List (String × Utility) :=
  Words.programs ++ Copying.programs ++ Blocks.programs ++ Columns.programs ++ CharacterSets.programs ++
    Sorting.programs ++ Joining.programs ++ Amounts.programs ++ Paragraphs.programs ++ Splitting.programs ++
    Measuring.programs ++ Bases.programs ++ Digests.programs ++ Expression.programs ++ Searching.programs ++
    Editing.programs ++ Finding.programs ++ Python.programs ++ Awk.programs ++ Perl.programs ++ Filing.programs ++
    Owning.programs ++ Switching.programs ++ Listing.programs ++ Starting.programs ++ System.programs

/-- The names of all programs. -/
def names : List String :=
  shells.map Prod.fst ++ utilities.map Prod.fst

/-- What a program does, by its name. -/
def program (name : String) (c : Call) : Act Ended := do
  match shells.find? fun s => s.1 == name with
  | some (_, dialect) => Shell.Start.shell dialect c
  | none =>
    match utilities.find? fun u => u.1 == name with
    | some (_, utility) => return .code (← utility c)
    | none => return .code 127

/-- How many microseconds pass before a program does its first step. -/
def loadTime : Nat := 700

/-- A process in which another program begins: descriptors that are meant to be are closed, and signals that it took
itself do what is usual again. -/
def renewed (t : Task) : Task :=
  { t with fds := t.fds.filter fun e => !e.2.closing, caught := [], arrived := [] }

/-- How many programs can take one another's places. -/
def startBound : Nat := 100000

/-- Starts a program in the place of another one, of which there can be `fuel` more. -/
def startWithin : (fuel : Nat) → Image → List (Raw × Raw) → Act Ended
  | 0, _, _ => Act.die SignalNumber.kill
  | fuel + 1, image, env => do
    Act.change fun pid k => k.onTask pid renewed
    let _ ← Act.sleep loadTime
    program image.program ⟨image.words, env, startWithin fuel⟩

/-- Starts a program in the place of another one. -/
def start : Image → List (Raw × Raw) → Act Ended :=
  startWithin startBound

end RunMeter.Machine.Programs
