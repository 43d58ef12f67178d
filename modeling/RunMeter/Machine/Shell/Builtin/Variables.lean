import RunMeter.Machine.Shell.Arithmetic
import RunMeter.Machine.Shell.Builtin.Basic

/-!
# RunMeter.Machine.Shell.Builtin.Variables — variables, switches and names for words

Commands that mark, list and forget variables, and that set the switches of the shell.

Nothing that is proved depends on this module.
-/

namespace RunMeter.Machine.Shell.Builtin

open Sh

/-- Whether a name can be that of a variable; says so if not. -/
def mustBeName (name : Raw) : Sh Bool := do
  if Raw.isName name then return true
  if ← extended then
    failed ('`' :: name ++ Raw.ofText "': not a valid identifier") 1
    return false
  else wrong (name ++ Raw.ofText ": bad variable name")

/-- The letters of a variable's marks. -/
def marks (v : Variable) : Raw :=
  let shape := match v.value with
    | some (.list _) => ['a']
    | some (.map _) => ['A']
    | _ => []
  let letters := shape ++ (if v.integer then ['i'] else []) ++ (if v.lower then ['l'] else []) ++
    (if v.fixed then ['r'] else []) ++ (if v.upper then ['u'] else []) ++ if v.exported then ['x'] else []
  if letters.isEmpty then ['-', '-'] else '-' :: letters

/-- A variable as a declaration. -/
def declaration (name : Raw) (v : Variable) : Raw :=
  let items (parts : List (Raw × Raw)) : Raw :=
    Raw.joined [' '] (parts.map fun i => '[' :: i.1 ++ [']', '='] ++ declared i.2)
  "declare ".toList ++ marks v ++ ' ' :: name ++ (match v.value with
    | none => []
    | some (.text r) => '=' :: declared r
    | some (.list l) => "=(".toList ++ items (l.map fun i => (Raw.ofNat i.1, i.2)) ++ [')']
    | some (.map l) => "=(".toList ++ items l ++ (if l.isEmpty then [')'] else [' ', ')'])) ++ ['\n']

/-- Lines for variables that satisfy a test, in order. -/
def declarations (word : String) (isMarked : Variable → Bool) : Sh Raw := do
  let p ← shell
  let chosen := p.bindings.filter fun e => isMarked e.2
  let lines := chosen.map fun (name, v) =>
    if p.dialect = .extended then declaration name v
    else Raw.ofText (word ++ " ") ++ name ++
      (((v.value.bind single).map fun v => '=' :: requoted v).getD []) ++ ['\n']
  return (lines.mergeSort Raw.atMost).flatten

/-- Marks variables, which may be given values; without any it shows those that are marked. -/
def marking (word : String) (isMarked : Variable → Bool) (mark : Bool → Variable → Variable) : Command := fun args => do
  let (chosen, names) ← optionsOf (if ← extended then "pnfaA" else "p") args
  let on := !given chosen 'n'
  match names with
  | [] => put (← declarations word isMarked)
  | names =>
    setStatus 0
    for w in names do
      let (name, value) := nameAndValue w
      if ← mustBeName name then
        match value with
        | some v => assign name v
        | none => pure ()
        setVariable name fun old => mark on (old.getD Variable.unset)

/-- Gives variables to programs. -/
def publish : Command :=
  marking "export" Variable.exported fun on v => { v with exported := on }

/-- Keeps variables from being changed. -/
def readonly : Command :=
  marking "readonly" Variable.fixed fun _ v => { v with fixed := true }

/-- Forgets an item of a list or a map. -/
def unsetItem (name index : Raw) : Sh Unit := do
  match (← binding? name).bind Variable.value with
  | some (.map items) =>
    setVariable name fun old =>
      { old.getD Variable.unset with value := some (.map (items.filter fun i => i.1 != index)) }
  | some (.list items) =>
    let n := (← Arithmetic.value index).toInt
    let n := if n < 0 then (((items.getLast?.map Prod.fst).getD 0 : Nat) : Int) + 1 + n else n
    setVariable name fun old =>
      { old.getD Variable.unset with value := some (.list (items.filter fun i => (i.1 : Int) != n)) }
  | _ => dropVariable name

/-- Forgets variables and functions. -/
def unset : Command := fun args => do
  let (chosen, names) ← optionsOf (if ← extended then "vfn" else "vf") args
  setStatus 0
  for name in names do
    let bare := name.takeWhile (· != '[')
    if given chosen 'f' then update fun p => { p with functions := p.functions.filter fun f => f.1 != name }
    else if ← extended then
      if bare.length < name.length then unsetItem bare ((name.drop (bare.length + 1)).dropLast)
      else if ← isFixed name then failed (name ++ Raw.ofText ": cannot unset: readonly variable") 1
      else if (← binding? name).isSome then dropVariable name
      else if !given chosen 'v' then
        update fun p => { p with functions := p.functions.filter fun f => f.1 != name }
    else
      if !Raw.isName name then wrong (name ++ Raw.ofText ": bad variable name")
      if ← isFixed name then wrong (name ++ Raw.ofText ": is read only")
      dropVariable name

/-- Remembers what a variable is before the function at hand makes it its own. -/
def remember (name : Raw) : Sh Unit := do
  let old ← binding? name
  if !(← shell).locals.any fun l => l.1 == name then
    update fun p => { p with locals := (name, old) :: p.locals }

/-- Makes variables belong to a function. -/
def own : Command := fun args => do
  if (← shell).calls.isEmpty then refused (Raw.ofText "not in a function") (Raw.ofText "can only be used in a function") 1
  else
    setStatus 0
    for w in args do
      let (name, value) := nameAndValue w
      if ← mustBeName name then
        remember name
        if ← extended then dropVariable name
        match value with
        | some v => assign name v
        | none => if ← extended then setVariable name fun _ => Variable.unset

/-- Changes a variable by the letters of a declaration. -/
def declareAs (letters : Raw) (on : Bool) (v : Variable) : Variable :=
  letters.foldl (fun v c =>
    match c with
    | 'x' => { v with exported := on }
    | 'r' => { v with fixed := on || v.fixed }
    | 'i' => { v with integer := on }
    | 'l' => { v with lower := on, upper := v.upper && !on }
    | 'u' => { v with upper := on, lower := v.lower && !on }
    | 'a' => { v with value := match v.value with
        | some (.text r) => some (.list [(0, r)])
        | none => some (.list [])
        | other => other }
    | 'A' => { v with value := match v.value with
        | none => some (.map [])
        | other => other }
    | _ => v) v

/-- The options of a declaration: the letters to be set, those to be taken away, and the names. -/
def declareOptions : List Raw → Raw × Raw × List Raw
  | w :: rest =>
    match w with
    | ['-', '-'] => ([], [], rest)
    | '-' :: cs@(_ :: _) =>
      let (on, off, names) := declareOptions rest
      (cs ++ on, off, names)
    | '+' :: cs@(_ :: _) =>
      let (on, off, names) := declareOptions rest
      (on, cs ++ off, names)
    | _ => ([], [], w :: rest)
  | [] => ([], [], [])

/-- Marks variables in the extended dialect, or shows them; values are given by the evaluation. -/
def declareNames : Command := fun args => do
  let (on, off, names) := declareOptions args
  setStatus 0
  if on.contains 'p' || names.isEmpty then
    if names.isEmpty then
      let wanted := on.filter (· != 'p')
      put (← declarations "declare" fun v => wanted.all fun c => (marks v).contains c)
    else for name in names do
      match ← binding? name with
      | some v => put (declaration name v)
      | none => failed (name ++ Raw.ofText ": not found") 1
  else if on.contains 'f' || on.contains 'F' then
    for name in names do
      if (← shell).functions.any fun f => f.1 == name then
        if on.contains 'F' then put (name ++ ['\n'])
      else setStatus 1
  else for name in names do
    if ← mustBeName name then
      if !(← shell).calls.isEmpty && !on.contains 'g' then
        if !(← shell).locals.any fun l => l.1 == name then
          remember name
          dropVariable name
      setVariable name fun old => declareAs off false (declareAs (on.filter (· != 'r')) true (old.getD Variable.unset))

/-! ## Switches -/

/-- The switches of the plain dialect in the order in which they are listed. -/
def plainSwitches : List String :=
  ["errexit", "noglob", "ignoreeof", "interactive", "monitor", "noexec", "stdin", "xtrace", "verbose", "vi", "emacs",
   "noclobber", "allexport", "notify", "nounset", "privileged", "nolog", "debug"]

/-- The switches of the extended dialect in the order in which they are listed. -/
def extendedSwitches : List String :=
  ["allexport", "braceexpand", "emacs", "errexit", "errtrace", "functrace", "hashall", "histexpand", "history",
   "ignoreeof", "interactive-comments", "keyword", "monitor", "noclobber", "noexec", "noglob", "nolog", "notify",
   "nounset", "onecmd", "physical", "pipefail", "posix", "privileged", "verbose", "vi", "xtrace"]

/-- Turns a switch on or off. -/
def turn (on : Bool) (name : String) : Sh Unit :=
  update fun p =>
    let others := p.switches.filter (· != name)
    { p with switches := if on then name :: others else others }

/-- Turns the switch of a letter; false if there is none. -/
def turnLetter (on : Bool) (c : Char) : Sh Bool := do
  let table := if ← extended then Parameter.extendedLetters else Parameter.switchLetters
  match table.find? fun s => s.2 = c with
  | some (name, _) =>
    turn on name
    return true
  | none => return false

/-- Turns the switch of a name; false if there is none. -/
def turnName (on : Bool) (name : Raw) : Sh Bool := do
  let known := if ← extended then extendedSwitches else plainSwitches
  if known.contains (Raw.text name) then
    turn on (Raw.text name)
    return true
  else return false

/-- The list of the switches; `asCommands` shows them as commands that set them. -/
def switchList (asCommands : Bool) : Sh Raw := do
  let p ← shell
  let isExtended := p.dialect = .extended
  let line (name : String) : Raw :=
    let on := p.switches.contains name
    if asCommands then Raw.ofText ("set " ++ (if on then "-o " else "+o ") ++ name ++ "\n")
    else if isExtended then Raw.padEnd 15 (Raw.ofText name) ++ '\t' :: Raw.ofText (if on then "on\n" else "off\n")
    else Raw.padEnd 16 (Raw.ofText name) ++ Raw.ofText (if on then "on\n" else "off\n")
  let head := if isExtended || asCommands then [] else Raw.ofText "Current option settings\n"
  return head ++ ((if isExtended then extendedSwitches else plainSwitches).flatMap line)

/-- Sets switches from words; gives the words after them, and whether there was an end of switches. -/
def switches : (fuel : Nat) → List Raw → Sh (List Raw × Bool)
  | 0, ws => return (ws, false)
  | _, [] => return ([], false)
  | fuel + 1, w :: rest =>
    match w with
    | ['-', '-'] => return (rest, true)
    | ['-'] => do
      turn false "xtrace"
      turn false "verbose"
      return (rest, !rest.isEmpty)
    | [sign, 'o'] => do
      if sign != '-' && sign != '+' then return (w :: rest, false)
      match rest with
      | long :: rest =>
        if !(← turnName (sign == '-') long) then
          if ← extended then
            complain (long ++ Raw.ofText ": invalid option name")
            throw (.fault 2)
          else wrong (Raw.ofText "Illegal option -o " ++ long)
        switches fuel rest
      | [] =>
        put (← switchList (sign = '+'))
        return ([], false)
    | sign :: cs@(_ :: _) => do
      if sign != '-' && sign != '+' then return (w :: rest, false)
      for c in cs do
        if !(← turnLetter (sign == '-') c) then
          if ← extended then
            complain ([sign, c] ++ Raw.ofText ": invalid option")
            warn (Raw.ofText "set: usage: set [-abefhkmnptuvxBCEHPT] [-o option-name] [--] [-] [arg ...]\n")
            throw (.fault 2)
          else wrong (Raw.ofText "Illegal option " ++ [sign, c])
      switches fuel rest
    | _ => return (w :: rest, false)

/-- Gives up the control of jobs, for which the plain dialect needs a terminal. -/
def withoutControl : Sh Unit := do
  if !(← extended) && (← isOn "monitor") then
    complain (Raw.ofText "can't access tty; job control turned off")
    turn false "monitor"

/-- Sets switches and words. -/
def configure : Command := fun args => do
  match args with
  | [] =>
    let p ← shell
    let lines := p.bindings.filterMap fun e =>
      e.2.value.bind fun v =>
        match v with
        | .text r => some (e.1 ++ '=' :: (if p.dialect = .extended then told r else requoted r) ++ ['\n'])
        | _ => some ((declaration e.1 e.2).drop ("declare -a ".length))
    put (lines.mergeSort Raw.atMost).flatten
  | _ =>
    let (words, ended) ← switches (args.length + 1) args
    withoutControl
    if ended || !words.isEmpty then update fun p => { p with words := words }
    setStatus 0

/-! ## Options of a script -/

/-- The words of a script's options, and where its reading stands: the word, and the letters of it that are done. -/
structure OptionScan where
  words : List Raw
  index : Nat
  place : Nat

/-- Reads the next option of a script into a variable. -/
def nextOption (letters name : Raw) (s : OptionScan) : Sh Unit := do
  let isExtended ← extended
  let quiet := letters.head? = some ':'
  let store (index place : Nat) (letter : Char) (argument : Option Raw) (status : Nat) : Sh Unit := do
    match argument with
    | some a => assign "OPTARG".toList a
    | none => if isExtended then dropVariable "OPTARG".toList
    assign "OPTIND".toList (Raw.ofNat index)
    assign name [letter]
    update fun p => { p with optionPlace := place }
    setStatus status
  let said (plain extended : String) (c : Char) (tail : String) : Sh Unit := do
    if isExtended then warn ((← shell).name ++ Raw.ofText (": " ++ extended ++ " -- ") ++ [c, '\n'])
    else warn (Raw.ofText plain ++ c :: Raw.ofText (tail ++ "\n"))
  let fresh := s.place = 0
  let current := if fresh || isExtended then s.words[s.index - 1]? else s.words[s.index - 2]?
  let after := if fresh || isExtended then s.index + 1 else s.index
  let finished (index : Nat) : Sh Unit := store index 0 '?' none 1
  match current with
  | none => finished s.index
  | some w =>
    if fresh && (w.head? != some '-' || w.length < 2) then finished s.index
    else if fresh && w = ['-', '-'] then finished (s.index + 1)
    else
      let place := if fresh then 1 else s.place
      let c := w.getD place '?'
      let more := place + 1 < w.length
      let index := if more && isExtended then s.index else after
      let place := if more then place + 1 else 0
      match if c = ':' then [] else letters.dropWhile (· != c) with
      | [] =>
        if !quiet then said "Illegal option -" "illegal option" c ""
        store index place '?' (if quiet then some [c] else none) 0
        if !quiet then dropVariable "OPTARG".toList
      | _ :: ':' :: _ =>
        if more then store after 0 c (some (w.drop place)) 0
        else match s.words[after - 1]? with
          | some value => store (after + 1) 0 c (some value) 0
          | none =>
            if quiet then store after 0 ':' (some [c]) 0
            else
              said "No arg for -" "option requires an argument" c " option"
              store after 0 '?' none 0
              dropVariable "OPTARG".toList
      | _ => store index place c (if isExtended then none else some []) 0

/-- Reads the next option of a script, or of other words. -/
def getopts : Command := fun args => do
  match args with
  | letters :: name :: words =>
    let p ← shell
    let index := ((← value? "OPTIND".toList).bind Raw.natural?).getD 1
    nextOption letters name ⟨if words.isEmpty then p.words else words, max index 1, p.optionPlace⟩
  | _ =>
    if ← extended then
      warn (Raw.ofText "getopts: usage: getopts optstring name [arg ...]\n")
      setStatus 2
    else wrong (Raw.ofText "Usage: getopts optstring var [arg]")

/-! ## Names for words -/

/-- Gives names to words, or shows them. -/
def aliasing : Command := fun args => do
  let shown (a : Raw × Raw) : Sh Raw := do
    return (if ← extended then "alias ".toList ++ a.1 ++ '=' :: Parameter.requoted a.2
      else a.1 ++ '=' :: requoted a.2) ++ ['\n']
  setStatus 0
  if args.isEmpty then
    let all := (← shell).aliases.mergeSort fun a b => Raw.atMost a.1 b.1
    put (← all.mapM shown).flatten
  else for w in args do
    match nameAndValue w with
    | (name, some text) =>
      update fun p => { p with aliases := (p.aliases.filter fun a => a.1 != name) ++ [(name, text)] }
    | (name, none) =>
      match (← shell).aliases.find? fun a => a.1 == name with
      | some a => put (← shown a)
      | none =>
        if ← extended then failed (name ++ Raw.ofText ": not found") 1
        else
          warn (Raw.ofText "alias: " ++ name ++ Raw.ofText " not found\n")
          setStatus 1

/-- Forgets names for words. -/
def unalias : Command := fun args => do
  let (chosen, names) ← optionsOf "a" args
  setStatus 0
  if given chosen 'a' then update fun p => { p with aliases := [] }
  for name in names do
    if (← shell).aliases.any fun a => a.1 == name then
      update fun p => { p with aliases := p.aliases.filter fun a => a.1 != name }
    else if ← extended then failed (name ++ Raw.ofText ": not found") 1
    else
      warn (Raw.ofText "unalias: " ++ name ++ Raw.ofText " not found\n")
      setStatus 1

/-- Computes expressions; the status says whether the last of them is other than zero. -/
def compute : Command := fun args => do
  if args.isEmpty then failed (Raw.ofText "expression expected") 1
  else for w in args do
    setStatus (if (← Arithmetic.value w) = 0 then 1 else 0)

/-- Switches of the extended dialect that have no letters, with their usual settings. -/
def shellOptions : List (String × Bool) :=
  [("autocd", false), ("cdspell", false), ("checkhash", false), ("checkwinsize", true), ("cmdhist", true),
   ("dotglob", false), ("expand_aliases", false), ("extglob", false), ("failglob", false), ("globstar", false),
   ("inherit_errexit", false), ("lastpipe", false), ("nocaseglob", false), ("nocasematch", false),
   ("nullglob", false), ("sourcepath", true), ("xpg_echo", false)]

/-- Shows and sets the switches of the extended dialect that have no letters. -/
def shopt : Command := fun args => do
  let (chosen, names) ← optionsOf "squpo" args
  setStatus 0
  for name in names do
    let known := shellOptions.any (fun o => o.1.toList == name) || extendedSwitches.contains (Raw.text name)
    if !known then failed (name ++ Raw.ofText ": invalid shell option name") 1
    else if given chosen 's' then turn true (Raw.text name)
    else if given chosen 'u' then turn false (Raw.text name)
    else
      let on ← isOn (Raw.text name)
      if !given chosen 'q' then
        put (Raw.padEnd 15 name ++ '\t' :: Raw.ofText (if on then "on\n" else "off\n"))
      if !on then setStatus 1

end RunMeter.Machine.Shell.Builtin
