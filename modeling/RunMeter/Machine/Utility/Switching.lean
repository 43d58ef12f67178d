import RunMeter.Machine.Utility.Call

/-!
# RunMeter.Machine.Utility.Switching — a program that sorts words for scripts

The switches among the words of a script are put before the other words, each with its value behind it, in a form
that the script can read.

* `Sorter.sorted`: words sorted.
* `getopt`: the program.

Nothing that is proved depends on this module.
-/

namespace RunMeter.Machine.Switching

/-- How words are sorted and written. -/
structure Sorter where
  switches : Switches
  /-- Whether other words stay where they are. -/
  inPlace : Bool
  /-- Whether long names may have one dash. -/
  single : Bool
  quoting : Bool

/-- What comes of sorting: switches, the last first, other words, the last first, and complaints, the last first. -/
structure Sorted where
  found : List Raw := []
  others : List Raw := []
  wrong : List Raw := []

namespace Sorter

/-- A word as it is written. -/
def shown (s : Sorter) (w : Raw) : Raw :=
  if s.quoting then '\'' :: w.flatMap (fun ch => if ch = '\'' then "'\\''".toList else [ch]) ++ ['\''] else w

/-- A switch with its value, if it has one. -/
def withValue (s : Sorter) (name : Raw) (value : Option Raw) : Raw :=
  match value with
  | some v => name ++ ' ' :: s.shown v
  | none => name

/-- The switches in a word of letters, what is wrong with them, and whether the next word was taken. -/
def letters (s : Sorter) : Raw → Option Raw → List Raw × List Raw × Bool
  | [], _ => ([], [], false)
  | ch :: rest, next =>
    match if ch = ':' then none else Switches.letter? s.switches.letters.toList ch with
    | none =>
      let (found, wrong, taken) := s.letters rest next
      (found, (Raw.ofText "invalid option -- '" ++ [ch, '\'']) :: wrong, taken)
    | some .none =>
      let (found, wrong, taken) := s.letters rest next
      (['-', ch] :: found, wrong, taken)
    | some .optional => ([s.withValue ['-', ch] (some rest)], [], false)
    | some .required =>
      if !rest.isEmpty then ([s.withValue ['-', ch] (some rest)], [], false)
      else match next with
        | some value => ([s.withValue ['-', ch] (some value)], [], true)
        | none => ([], [Raw.ofText "option requires an argument -- '" ++ [ch, '\'']], false)

/-- The switch of a long word without its dashes, what is wrong with it, and whether the next word was taken. -/
def long (s : Sorter) (w : Raw) (next : Option Raw) : List Raw × List Raw × Bool :=
  match s.switches.longWord w next with
  | .error message => ([], [message], false)
  | .ok ((name, value), taken) =>
    let takes := (s.switches.long.find? fun l => l.name == name).map LongSwitch.argument
    ([s.withValue ("--" ++ name).toList (if takes = some .none then none else some value)], [], taken)

/-- Whether a word with one dash is meant as a long name. -/
def isLong (s : Sorter) (w : Raw) : Bool :=
  let name := w.takeWhile (· != '=')
  s.single && w.length > 1 && s.switches.long.any fun l => name.isPrefixOf l.name.toList

/-- Sorts words. -/
def sorted (s : Sorter) : (fuel : Nat) → List Raw → Sorted → Sorted
  | 0, _, t => t
  | _, [], t => t
  | fuel + 1, w :: rest, t =>
    let add (r : List Raw × List Raw × Bool) : Sorted :=
      s.sorted fuel (if r.2.2 then rest.drop 1 else rest)
        { t with found := r.1.reverse ++ t.found, wrong := r.2.1.reverse ++ t.wrong }
    match w with
    | ['-', '-'] => { t with others := rest.reverse ++ t.others }
    | '-' :: '-' :: name => add (s.long name rest.head?)
    | '-' :: cs@(_ :: _) => if s.isLong cs then add (s.long cs rest.head?) else add (s.letters cs rest.head?)
    | w =>
      if s.switches.ordered then { t with others := (w :: rest).reverse ++ t.others }
      else if s.inPlace then s.sorted fuel rest { t with found := s.shown w :: t.found }
      else s.sorted fuel rest { t with others := w :: t.others }

end Sorter

/-- The long switches that a word lists. -/
def longOf (w : Raw) : List LongSwitch :=
  ((Raw.splitBy (fun ch => ch == ',' || Raw.isSpace ch) w).filter (!·.isEmpty)).map fun name =>
    let bare := Raw.dropEndWhile (· == ':') name
    let marks := name.length - bare.length
    ⟨Raw.text bare, Raw.text bare, if marks = 0 then .none else if marks = 1 then .required else .optional⟩

/-- Writes words sorted; the code says whether something was wrong with them. -/
def finish (name : Raw) (g : Given) (letters : Raw) (quoting : Bool) (words : List Raw) : Act UInt8 := do
  let marks := letters.takeWhile fun ch => ch == '+' || ch == '-'
  let long := (g.switches.filter fun s => s.1 == "l").flatMap fun s => longOf s.2
  let s : Sorter :=
    ⟨⟨String.ofList (letters.drop marks.length), long, marks.contains '+'⟩, marks.contains '-' && quoting, g.has "a",
      quoting⟩
  let t := s.sorted (words.length + 1) words {}
  if !g.has "q" then
    for message in t.wrong.reverse do
      let _ ← Act.write 2 (name ++ Raw.ofText ": " ++ message ++ ['\n'])
  if !g.has "Q" then
    let parts := t.found.reverse ++ ['-', '-'] :: t.others.reverse.map s.shown
    let _ ← Act.write 1 (parts.flatMap (' ' :: ·) ++ ['\n'])
  return if t.wrong.isEmpty then 0 else 1

/-- Sorts the words of a script. -/
def getopt : Utility := fun c => do
  match c.args with
  | [] => c.misused (Raw.ofText "missing optstring argument") 2
  | first :: rest =>
    if first.head? != some '-' then
      finish c.baseName ⟨[], []⟩ (first.dropWhile fun ch => ch == '-' || ch == '+') false rest
    else
      let g ← c.options ⟨"ao:l:n:qQs:Tu", [⟨"alternative", "a", .none⟩, ⟨"options", "o", .required⟩,
        ⟨"longoptions", "l", .required⟩, ⟨"name", "n", .required⟩, ⟨"quiet", "q", .none⟩, ⟨"quiet-output", "Q", .none⟩,
        ⟨"shell", "s", .required⟩, ⟨"test", "T", .none⟩, ⟨"unquoted", "u", .none⟩], true⟩ 2
      if g.has "T" then return 4
      let name := (g.value? "n").getD c.baseName
      match g.value? "o", g.operands with
      | some letters, words => finish name g letters (!g.has "u") words
      | none, letters :: words => finish name g letters (!g.has "u") words
      | none, [] => c.misused (Raw.ofText "missing optstring argument") 2

/-- The programs by name. -/
def programs : List (String × Utility) := [("getopt", getopt)]

end RunMeter.Machine.Switching
