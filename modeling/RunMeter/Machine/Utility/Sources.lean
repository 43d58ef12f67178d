import RunMeter.Machine.Utility.Call

/-!
# RunMeter.Machine.Utility.Sources — what programs read

Many programs read the files that their words name, or standard input if they name none, and go on after a file
that can not be read.

* `texts`: the contents of files.
* `filter`: what comes of the lines of files, which may have no end.
* `amount?`: a count with a letter for its unit.

Nothing that is proved depends on this module.
-/

namespace RunMeter.Machine.Sources

/-- The files that words name; standard input if there are none. -/
def orInput (paths : List Raw) : List Raw :=
  if paths.isEmpty then [['-']] else paths

/-- The contents of files in order.  What is wrong with one is told at once. -/
def texts (c : Call) (paths : List Raw) (message : Raw → Errno → Raw) : Act (List (Raw × Option Raw)) :=
  (orInput paths).mapM fun path => do
    match ← Call.contents path with
    | .ok text => return (path, some text)
    | .error e =>
      c.complain (message path e)
      return (path, none)

/-- The exit code of a program that read files. -/
def code (found : List (Raw × Option Raw)) : UInt8 :=
  if found.all fun f => f.2.isSome then 0 else 1

/-- The power of a unit's letter. -/
def power? (c : Char) : Option Nat :=
  match c with
  | 'k' | 'K' => some 1
  | 'm' | 'M' => some 2
  | 'G' => some 3
  | 'T' => some 4
  | 'P' => some 5
  | 'E' => some 6
  | 'Z' => some 7
  | 'Y' => some 8
  | _ => none

/-- The factor of a unit: powers of 1024, or of 1000 with a letter for octets. -/
def unit? (w : Raw) : Option Nat :=
  match w with
  | [] => some 1
  | ['b'] => some 512
  | ['c'] => some 1
  | [c] | [c, 'i', 'B'] => (power? c).map (Nat.pow 1024)
  | [c, 'B'] => (power? c).map (Nat.pow 1000)
  | _ => none

/-- The number that digits with a unit mean. -/
def amount? (w : Raw) : Option Nat :=
  let digits := w.takeWhile Char.isDigit
  if digits.isEmpty then none
  else (unit? (w.drop digits.length)).map (· * Raw.valueIn 10 digits)

/-- A file that can not be opened or read, for the programs that say which of the two. -/
def unopened (path : Raw) (e : Errno) : Raw :=
  if e = .isDirectory then Raw.ofText "error reading " ++ Raw.quoted path ++ Raw.ofText (": " ++ e.message)
  else Raw.ofText "cannot open " ++ Raw.quoted path ++ Raw.ofText (" for reading: " ++ e.message)

/-- Pieces of a text that each end with a mark; the last may not. -/
def pieces (mark : Char) (text : Raw) : List Raw :=
  let parts := Raw.splitAt mark text
  match parts.getLast? with
  | some [] => parts.dropLast.map (· ++ [mark])
  | some last => parts.dropLast.map (· ++ [mark]) ++ [last]
  | none => []

/-- The parts of a text that a mark ends; the last need not have it. -/
def records (mark : Char) (text : Raw) : List Raw :=
  let parts := Raw.splitAt mark text
  if parts.getLast? = some [] then parts.dropLast else parts

/-! ## Lines -/

/-- What a program makes of lines, with what it has to remember. -/
structure LineFilter (σ : Type) where
  /-- A file begins. -/
  opened : σ → Raw → σ
  /-- A line, and whether it has its end. -/
  line : σ → Raw → Bool → Raw × σ
  /-- A file has ended. -/
  closed : σ → Raw × σ
  /-- Whether nothing more is to be read. -/
  atEnd : σ → Bool

namespace LineFilter

/-- A filter that makes something of each line by itself, which ends as the line does. -/
def plain (mark : Char) (f : Raw → Raw) : LineFilter Unit :=
  ⟨fun _ _ => (), fun _ line ended => (if ended then f line ++ [mark] else f line, ()), fun _ => ([], ()), fun _ => false⟩

end LineFilter

/-- Output that has not been written yet, the last first. -/
structure Kept where
  parts : List Raw
  size : Nat

namespace Kept

/-- Nothing. -/
def nothing : Kept := ⟨[], 0⟩

/-- How much is kept at most. -/
def most : Nat := 4096

/-- What is kept with more behind it. -/
def put (k : Kept) (octets : Raw) : Kept :=
  if octets.isEmpty then k else ⟨octets :: k.parts, k.size + octets.length⟩

/-- All that is kept. -/
def all (k : Kept) : Raw := k.parts.reverse.flatten

/-- Writes what is kept if that is much, or if it must be. -/
def flush (c : Call) (must : Bool) (k : Kept) : Act Kept := do
  if k.size ≥ most || (must && k.size > 0) then
    c.emit k.all 1
    return nothing
  else return k

end Kept

/-- Passes whole lines to a filter. -/
def passLines {σ : Type} (f : LineFilter σ) : List Raw → σ → Kept → σ × Kept
  | [], s, kept => (s, kept)
  | line :: rest, s, kept =>
    if f.atEnd s then (s, kept)
    else
      let (out, s) := f.line s line true
      passLines f rest s (kept.put out)

/-- Passes what a descriptor gives to a filter; `start` is the start of a line that has been read. -/
def passSource {σ : Type} (c : Call) (f : LineFilter σ) (mark : Char) (fd : Nat) :
    (fuel : Nat) → (start : Raw) → σ → Kept → Act (Except Errno (σ × Kept))
  | 0, _, s, kept => return .ok (s, kept)
  | fuel + 1, start, s, kept => do
    if f.atEnd s then return .ok (s, kept)
    else match ← Act.read fd Act.blockSize with
      | .error e => return .error e
      | .ok [] =>
        if start.isEmpty then return .ok (s, kept)
        else
          let (out, s) := f.line s start false
          return .ok (s, kept.put out)
      | .ok block =>
        let parts := Raw.splitAt mark (start ++ block)
        let (s, kept) := passLines f parts.dropLast s kept
        passSource c f mark fd fuel ((parts.getLast?).getD []) s (← kept.flush c false)

/-- Passes the lines of files to a filter and writes what comes of them.  Gives what the filter remembers in the end,
and whether all files could be read. -/
def filter {σ : Type} (c : Call) (f : LineFilter σ) (mark : Char) (message : Raw → Errno → Raw) (paths : List Raw)
    (start : σ) : Act (σ × Bool) := do
  let mut s := start
  let mut kept := Kept.nothing
  let mut good := true
  for path in orInput paths do
    if !f.atEnd s then
      let before := f.opened s path
      let held := kept
      match ← Call.withFile path fun fd => passSource c f mark fd Act.blockBound [] before held with
      | .ok (after, more) =>
        let (out, after) := f.closed after
        s := after
        kept := more.put out
      | .error e =>
        kept ← held.flush c true
        c.complain (message path e)
        good := false
  let _ ← kept.flush c true
  return (s, good)

/-- Writes what comes of each line by itself. -/
def eachLine (c : Call) (paths : List Raw) (f : Raw → Raw) : Act UInt8 := do
  let (_, good) ← filter c (LineFilter.plain '\n' f) '\n' Call.about paths ()
  return if good then 0 else 1

end RunMeter.Machine.Sources
