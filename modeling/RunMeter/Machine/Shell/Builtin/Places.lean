import RunMeter.Machine.Shell.Builtin.Basic

/-!
# RunMeter.Machine.Shell.Builtin.Places — the working directory

A shell knows its working directory by the names that led there: going up takes the last name away, whatever the
links on the way lead to.

Nothing that is proved depends on this module.
-/

namespace RunMeter.Machine.Shell.Builtin

open Sh

/-- A path from the root without dots: two dots take the name before them away. -/
def normalized (path : Raw) : Raw :=
  let names := (Raw.splitAt '/' path).foldl (fun done name =>
    if name.isEmpty || name = ['.'] then done
    else if name = ['.', '.'] then done.drop 1
    else name :: done) ([] : List Raw)
  '/' :: Raw.joined ['/'] names.reverse

/-- A path as seen from a directory. -/
def seenFrom (place path : Raw) : Raw :=
  if path.head? = some '/' then normalized path else normalized (place ++ '/' :: path)

/-- Goes to a directory by its path.  Gives the path that leads there, or why not. -/
def enter (path : Raw) (physical : Bool) : Sh (Except Errno Raw) := do
  let here := (← shell).place
  let target := if physical then path else seenFrom here path
  match ← act (Act.tryChange fun pid k => k.enter pid target) with
  | some e => return .error e
  | none =>
    let place ← if physical then act Act.workingDirectory else pure target
    assign "OLDPWD".toList here
    update fun p => { p with place := place }
    assign "PWD".toList place
    return .ok place

/-- Directories in which a relative path is looked for. -/
def searched (path : Raw) : Sh (List Raw) := do
  let direct := path.head? = some '/' || path = ['.'] || path = ['.', '.'] || "./".toList.isPrefixOf path ||
    "../".toList.isPrefixOf path
  match ← value? "CDPATH".toList with
  | some ds => return if direct || ds.isEmpty then [[]] else Raw.splitAt ':' ds ++ [[]]
  | none => return [[]]

/-- Goes to the first place where a path leads to a directory.  Gives the path if it is to be told. -/
def enterFirst (path : Raw) (physical : Bool) : List Raw → Sh (Except Errno (Option Raw))
  | [] => return .error .noEntry
  | d :: ds => do
    let full := if d.isEmpty then path else d ++ '/' :: path
    match ← enter full physical with
    | .ok place => return .ok (if d.isEmpty then none else some place)
    | .error e => if ds.isEmpty then return .error e else enterFirst path physical ds

/-- Changes the directory. -/
def cd : Command := fun args => do
  let (chosen, words) ← optionsOf (if ← extended then "LPe@" else "LP") args
  let physical := ((chosen.getLast?).map Prod.fst) = some 'P'
  let isExtended ← extended
  let back := words.head? = some ['-']
  let fallback (name : String) : Sh (Option Raw) := do
    match ← value? name.toList with
    | some v => return some v
    | none =>
      if isExtended then
        failed (Raw.ofText (name ++ " not set")) 1
        return none
      else return some []
  let target ← match words with
    | [] => fallback "HOME"
    | w :: more =>
      if isExtended && !more.isEmpty then do
        failed (Raw.ofText "too many arguments") 1
        pure none
      else if back then fallback "OLDPWD"
      else pure (some w)
  match target with
  | none => pure ()
  | some path =>
    let here := (← shell).place
    match ← enterFirst (if path.isEmpty then here else path) physical (← searched path) with
    | .ok found =>
      setStatus 0
      if back then put ((← shell).place ++ ['\n'])
      else match found with
        | some place => put (place ++ ['\n'])
        | none => pure ()
    | .error e =>
      if isExtended then failed (path ++ Raw.ofText (": " ++ e.message)) 1
      else wrong (Raw.ofText "can't cd to " ++ path)

/-- Shows the directory. -/
def pwd : Command := fun args => do
  let (chosen, _) ← optionsOf "LP" args
  let place ← if ((chosen.getLast?).map Prod.fst) = some 'P' then act Act.workingDirectory else do pure (← shell).place
  put (place ++ ['\n'])

/-- Shows the directories that the shell can go back to, the working directory first. -/
def dirs : Command := fun args => do
  let (chosen, _) ← optionsOf "clpv" args
  let p ← shell
  if given chosen 'c' then
    update fun p => { p with directories := [] }
    setStatus 0
  else
    let all := p.place :: p.directories
    if given chosen 'v' then
      put (all.zipIdx.flatMap fun (d, i) => Raw.padStart 2 (Raw.ofNat i) ++ ' ' :: ' ' :: d ++ ['\n'])
    else if given chosen 'p' then put (all.flatMap (· ++ ['\n']))
    else put (Raw.joined [' '] all ++ ['\n'])

/-- Goes to a directory and remembers the one before it; without a word it exchanges the last two. -/
def pushd : Command := fun args => do
  let p ← shell
  match args with
  | [] =>
    match p.directories with
    | [] => failed (Raw.ofText "no other directory") 1
    | d :: rest =>
      match ← enter d false with
      | .ok _ =>
        update fun q => { q with directories := p.place :: rest }
        dirs []
      | .error e => failed (d ++ Raw.ofText (": " ++ e.message)) 1
  | d :: _ =>
    match ← enter d false with
    | .ok _ =>
      update fun q => { q with directories := p.place :: q.directories }
      dirs []
    | .error e => failed (d ++ Raw.ofText (": " ++ e.message)) 1

/-- Goes back to the directory that was remembered last. -/
def popd : Command := fun _ => do
  match (← shell).directories with
  | [] => failed (Raw.ofText "directory stack empty") 1
  | d :: rest =>
    match ← enter d false with
    | .ok _ =>
      update fun p => { p with directories := rest }
      dirs []
    | .error e => failed (d ++ Raw.ofText (": " ++ e.message)) 1

end RunMeter.Machine.Shell.Builtin
