import RunMeter.Machine.Shell.Arithmetic
import RunMeter.Machine.Shell.Pattern

/-!
# RunMeter.Machine.Shell.Parameter — the values that a dollar sign stands for

A parameter is a variable, an item of a list, a word of the shell, or one of the marks for what the shell knows
of itself.  Some variables of the extended dialect are made up when they are asked for.

Nothing that is proved depends on this module.
-/

namespace RunMeter.Machine.Shell

/-- A parameter as it is written: its name, and what stands in brackets after it. -/
structure Parameter where
  name : Raw
  index : Option Raw

/-- What a parameter stands for: one value, or a list of values, which make one word where `joined`. -/
inductive Content where
  | one (value : Option Raw)
  | many (joined : Bool) (values : List Raw)

namespace Parameter

/-- The characters that end fields. -/
def separators : Sh Raw := do
  return (← Sh.value? "IFS".toList).getD [' ', '\t', '\n']

/-- The switches of a shell in the order in which they are told, with their letters. -/
def switchLetters : List (String × Char) :=
  [("privileged", 'p'), ("nounset", 'u'), ("notify", 'b'), ("allexport", 'a'), ("noclobber", 'C'), ("emacs", 'E'),
   ("vi", 'V'), ("verbose", 'v'), ("xtrace", 'x'), ("stdin", 's'), ("noexec", 'n'), ("monitor", 'm'),
   ("interactive", 'i'), ("ignoreeof", 'I'), ("noglob", 'f'), ("errexit", 'e')]

/-- The switches of the extended dialect that have letters, in the order in which they are told. -/
def extendedLetters : List (String × Char) :=
  [("allexport", 'a'), ("notify", 'b'), ("errexit", 'e'), ("noglob", 'f'), ("hashall", 'h'), ("interactive", 'i'),
   ("keyword", 'k'), ("monitor", 'm'), ("noexec", 'n'), ("privileged", 'p'), ("onecmd", 't'), ("nounset", 'u'),
   ("verbose", 'v'), ("xtrace", 'x'), ("braceexpand", 'B'), ("noclobber", 'C'), ("errtrace", 'E'),
   ("histexpand", 'H'), ("physical", 'P'), ("functrace", 'T')]

/-- The letters of the switches that are on. -/
def switchesOn (p : Process) : Raw :=
  let table := if p.dialect = .extended then extendedLetters else switchLetters
  ((table.filter fun s => p.switches.contains s.1).map Prod.snd) ++
    if p.dialect = .extended then (if p.scripted then ['c'] else []) ++
      (if p.switches.contains "stdin" then ['s'] else [])
    else []

/-- The version of the extended dialect, part by part. -/
def version : List Raw :=
  ["5", "2", "15", "1", "release", "x86_64-pc-linux-gnu"].map String.toList

/-- A number without order from the one before it, as a variable tells it. -/
def nextSeed (seed : Nat) : Nat :=
  (seed * 1103515245 + 12345) % 2147483648

/-- The values of variables that are made up when they are asked for. -/
def dynamic? (name : Raw) : Sh (Option Value) := do
  let p ← Sh.shell
  let number (n : Nat) : Option Value := some (.text (Raw.ofNat n))
  if p.dialect = .plain then return none
  else match Raw.text name with
      | "LINENO" => return number p.line
      | "RANDOM" =>
        let seed := nextSeed p.seed
        Sh.update fun p => { p with seed := seed }
        return number (seed / 65536 % 32768)
      | "SECONDS" => return number (((← Sh.act Act.now) - p.born) / 1000000)
      | "BASHPID" => return number (← Sh.act Act.ownPid)
      | "BASH_SUBSHELL" => return number p.copies
      | "FUNCNAME" =>
        let names := p.calls ++ if p.calls.isEmpty then [] else ["main".toList]
        return if names.isEmpty then none else some (.list (names.zipIdx.map fun (n, i) => (i, n)))
      | "PIPESTATUS" => return some (.list (p.pipeStatuses.zipIdx.map fun (s, i) => (i, Raw.ofNat s)))
      | "BASH_VERSINFO" => return some (.list (version.zipIdx.map fun (v, i) => (i, v)))
      | "BASH_VERSION" => return some (.text "5.2.15(1)-release".toList)
      | "DIRSTACK" =>
        let all := (← Sh.act Act.workingDirectory) :: p.directories
        return some (.list (all.zipIdx.map fun (v, i) => (i, v)))
      | "UID" | "EUID" => return number 1000
      | "HOSTTYPE" => return some (.text "x86_64".toList)
      | "OSTYPE" => return some (.text "linux-gnu".toList)
      | "MACHTYPE" => return some (.text "x86_64-pc-linux-gnu".toList)
      | "BASH" => return some (.text "/usr/bin/bash".toList)
      | "BASHOPTS" => return some (.text
          ("checkwinsize:cmdhist:complete_fullquote:extquote:force_fignore:globasciiranges:globskipdots:" ++
            "hostcomplete:interactive_comments:patsub_replacement:progcomp:promptvars:sourcepath").toList)
      | _ => return none

/-- The value of a variable, made up or held. -/
def variableValue (name : Raw) : Sh (Option Value) := do
  match ← dynamic? name with
  | some v => return some v
  | none => return (← Sh.binding? name).bind Variable.value

/-- The values of a list or a map, or a text alone. -/
def all : Value → List Raw
  | .text r => [r]
  | .list items => items.map Prod.snd
  | .map items => items.map Prod.snd

/-- The keys of a list or a map. -/
def keys : Value → List Raw
  | .text _ => [['0']]
  | .list items => items.map fun i => Raw.ofNat i.1
  | .map items => items.map Prod.fst

/-- The value of a parameter whose name is a mark, a number or a name. -/
def plainValue (name : Raw) : Sh (Option Raw) := do
  let p ← Sh.shell
  match name with
  | ['?'] => return some (Raw.ofNat p.status)
  | ['$'] => return some (Raw.ofNat p.shownPid)
  | ['#'] => return some (Raw.ofNat p.words.length)
  | ['-'] => return some (switchesOn p)
  | ['!'] => return p.lastJob.map Raw.ofNat
  | _ =>
    if name.all Char.isDigit then
      let n := Raw.valueIn 10 name
      if n = 0 then return some p.name else return p.words[n - 1]?
    else return (← variableValue name).bind Sh.single

/-- The item of a value that an index means; `compute` gives the number that a text stands for. -/
def item (compute : Raw → Sh Int64) (index : Raw) : Value → Sh (Option Raw)
  | .map items => do return (items.find? fun i => i.1 == index).map Prod.snd
  | .list items => do
    let n := (← compute index).toInt
    let n := if n < 0 then (((items.getLast?.map Prod.fst).getD 0 : Nat) : Int) + 1 + n else n
    return (items.find? fun i => (i.1 : Int) = n).map Prod.snd
  | .text r => do
    let n := (← compute index).toInt
    return if n = 0 || n = -1 then some r else none

/-- What a parameter stands for. -/
def content (compute : Raw → Sh Int64) (p : Parameter) : Sh Content := do
  match p.name, p.index with
  | ['@'], _ => return .many false (← Sh.shell).words
  | ['*'], _ => return .many true (← Sh.shell).words
  | name, none => return .one (← plainValue name)
  | name, some ['@'] => return .many false (((← variableValue name).map all).getD [])
  | name, some ['*'] => return .many true (((← variableValue name).map all).getD [])
  | name, some index =>
    match ← variableValue name with
    | some v => return .one (← item compute index v)
    | none => return .one none

/-- The name of a parameter at the start of a text, and the rest. -/
def atStart? (cs : Raw) : Option (Raw × Raw) :=
  match cs with
  | [] => none
  | c :: rest =>
    if c.isDigit then some ([c], rest)
    else if "@*#?-$!".toList.contains c then some ([c], rest)
    else
      let name := Raw.nameAtStart cs
      if name.isEmpty then none else some (name, cs.drop name.length)

/-- The parameter at the start of what stands in braces, where a number may have several digits, and the rest. -/
def inBraces? (d : Dialect) (cs : Raw) : Option (Parameter × Raw) :=
  match cs with
  | c :: _ =>
    if c.isDigit then
      let name := cs.takeWhile Char.isDigit
      some (⟨name, none⟩, cs.drop name.length)
    else match atStart? cs with
      | none => none
      | some (name, rest) =>
        match d, rest with
        | .extended, '[' :: more =>
          if Raw.isName name then
            let (index, after) := Arithmetic.untilBracket more
            some (⟨name, some index⟩, after)
          else some (⟨name, none⟩, rest)
        | _, _ => some (⟨name, none⟩, rest)
  | [] => none

/-- A value without its shortest or longest start that matches. -/
def withoutStart (longest : Bool) (p : Pattern) (value : Raw) : Raw :=
  let cuts := List.range (value.length + 1)
  let cuts := if longest then cuts.reverse else cuts
  match cuts.find? fun n => p.isMatch (value.take n) with
  | some n => value.drop n
  | none => value

/-- A value without its shortest or longest end that matches. -/
def withoutEnd (longest : Bool) (p : Pattern) (value : Raw) : Raw :=
  let cuts := List.range (value.length + 1)
  let cuts := if longest then cuts else cuts.reverse
  match cuts.find? fun n => p.isMatch (value.drop n) with
  | some n => value.take n
  | none => value

/-- How much of the start of a value the longest match takes. -/
def longestMatch? (p : Pattern) (value : Raw) : Option Nat :=
  (List.range (value.length + 1)).reverse.find? fun n => p.isMatch (value.take n)

/-- A value with matches replaced, from left to right: the first one only, or all. -/
def replaced (every : Bool) (p : Pattern) (by_ : Raw) : (fuel : Nat) → Raw → Raw
  | 0, value => value
  | fuel + 1, value =>
    match longestMatch? p value, value with
    | some n@(_ + 1), _ =>
      by_ ++ (if every then replaced every p by_ fuel (value.drop n) else value.drop n)
    | _, c :: rest => c :: replaced every p by_ fuel rest
    | _, [] => []

/-- A value that starts with a match with that replaced. -/
def replacedAtStart (p : Pattern) (by_ value : Raw) : Raw :=
  match longestMatch? p value with
  | some n => by_ ++ value.drop n
  | none => value

/-- A value that ends with a match with that replaced. -/
def replacedAtEnd (p : Pattern) (by_ value : Raw) : Raw :=
  match (List.range (value.length + 1)).find? fun n => p.isMatch (value.drop n) with
  | some n => value.take n ++ by_
  | none => value

/-- A value in quotes, as the shell reads it. -/
def requoted (v : Raw) : Raw :=
  '\'' :: (v.flatMap fun c => if c = '\'' then "'\\''".toList else [c]) ++ ['\'']

/-- Characters that mean something to the shell. -/
def isSpecialChar (c : Char) : Bool :=
  " \t\n'\"\\|&;<>(){}*?[]^!#$`~=%".toList.contains c

/-- The text that escapes stand for in a text in dollar quotes. -/
def unescaped : (fuel : Nat) → Raw → Raw
  | 0, cs => cs
  | _, [] => []
  | fuel + 1, '\\' :: c :: rest =>
    match c with
    | 'x' =>
      let ds := (rest.takeWhile Raw.isHex).take 2
      if ds.isEmpty then '\\' :: 'x' :: unescaped fuel rest
      else Char.ofNat (Raw.valueIn 16 ds) :: unescaped fuel (rest.drop ds.length)
    | 'u' =>
      let ds := (rest.takeWhile Raw.isHex).take 4
      Raw.ofText (String.singleton (Char.ofNat (Raw.valueIn 16 ds))) ++ unescaped fuel (rest.drop ds.length)
    | 'c' =>
      match rest with
      | e :: rest => Char.ofNat (e.toNat % 32) :: unescaped fuel rest
      | [] => ['\\', 'c']
    | c =>
      if Raw.isOctal c then
        let ds := ((c :: rest).takeWhile Raw.isOctal).take 3
        Char.ofNat (Raw.valueIn 8 ds % 256) :: unescaped fuel ((c :: rest).drop ds.length)
      else match "abtnvfreE'\"?\\".toList.findIdx? (· == c) with
        | some i => "\x07\x08\t\n\x0b\x0c\r\x1b\x1b'\"?\\".toList.getD i c :: unescaped fuel rest
        | none => '\\' :: c :: unescaped fuel rest
  | fuel + 1, c :: rest => c :: unescaped fuel rest

end Parameter
end RunMeter.Machine.Shell
