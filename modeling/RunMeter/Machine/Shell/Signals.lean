import RunMeter.Machine.Shell.State

/-!
# RunMeter.Machine.Shell.Signals — signals by the names that scripts use

A shell knows signals by name and by number, and the end of a shell as signal 0.  What a shell does about a signal
is what its traps say, except for signals that did nothing to it when it started.

Nothing that is proved depends on this module.
-/

namespace RunMeter.Machine.Shell.Signals

open Sh

/-- The name by which a shell knows a signal.  The plain dialect has none for signal 16. -/
def shownName (d : Dialect) (n : Nat) : Raw :=
  if n = 0 then "EXIT".toList
  else if n = 16 && d = .plain then "16".toList
  else Raw.ofText ((SignalNumber.name? n).getD (toString n))

/-- The name of a signal in the list of traps. -/
def trapName (d : Dialect) (n : Nat) : Raw :=
  if n = 0 || d = .plain then shownName d n else "SIG".toList ++ shownName d n

/-- The signal among those from `least` that a word of a script names or numbers. -/
def ofWord? (d : Dialect) (least : Nat) (w : Raw) : Option Nat :=
  match Raw.natural? w with
  | some n => if n ≤ SignalNumber.greatest then some n else none
  | none =>
    let upper := Raw.toUpper w
    let name := if d = .extended && "SIG".toList.isPrefixOf upper then upper.drop 3 else upper
    if name = "EXIT".toList then (if least = 0 then some 0 else none)
    else if d = .extended then SignalNumber.named? (Raw.text name)
    else (List.range (SignalNumber.greatest + 1)).find? fun n =>
      0 < n && n != 16 && SignalNumber.name? n == some (Raw.text name)

/-- Other occasions for which the extended dialect has traps. -/
def occasions : List String := ["ERR", "DEBUG", "RETURN"]

/-- Signals that end a shell of the extended dialect only after what it has to do at its end. -/
def deadly : List Nat := [1, 2, 4, 5, 6, 7, 8, 10, 11, 12, 13, 14, 15, 24, 25, 26, 31]

/-- Chooses about a signal as the traps say.  The ends of children are never ignored. -/
def settle (n : Nat) : Sh Unit := do
  let p ← shell
  let atEnd := p.traps.any fun t => t.1 = 0 && !t.2.isEmpty
  if n != 0 && !p.ignored.contains n then
    let choice : Act.Choice := match p.traps.find? fun t => t.1 = n with
      | some (_, []) => if n = SignalNumber.child then .usual else .ignore
      | some _ => .take
      | none => if p.dialect = .extended && atEnd && deadly.contains n then .take else .usual
    act (Act.choose n choice)

/-- Chooses about all signals as the traps say. -/
def settleAll : Sh Unit := do
  for n in (List.range SignalNumber.greatest).map (· + 1) do settle n

/-- Sets or forgets what is done at a signal. -/
def setTrap (n : Nat) (action : Option Raw) : Sh Unit := do
  update fun p =>
    let others := p.traps.filter fun t => t.1 != n
    { p with traps := match action with
        | some text => others ++ [(n, text)]
        | none => others }
  if n = 0 && (← shell).dialect = .extended then settleAll else settle n

end RunMeter.Machine.Shell.Signals
