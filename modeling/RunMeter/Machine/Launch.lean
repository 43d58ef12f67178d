import RunMeter.Machine.FileTree

/-!
# RunMeter.Machine.Launch — from the words of a command to a program

* `image`: the program that a path starts, after following the first lines that name interpreters.
* `search`: the same for a name without a slash, through the directories of a search path.  A directory that
  denies access is remembered while the search goes on; an error that says more than that the file is not there
  ends it.

Nothing that is proved depends on this module.
-/

namespace RunMeter.Machine

/-- A program of the machine and the words that it is started with. -/
structure Image where
  program : String
  words : List Raw

namespace Launch

/-- How many octets of a file's start can name an interpreter. -/
def firstLine : Nat := 256

/-- How many interpreters can stand before a program. -/
def maxInterpreters : Nat := 5

/-- The longest word that a program can be started with, its end included. -/
def maxWord : Nat := 131072

/-- The most octets that all words together can take, their ends and references included. -/
def maxWords : Nat := 2097152

/-- Blanks of a first line. -/
def isGap (c : Char) : Bool :=
  c == ' ' || c == '\t'

/-- The character that fills up the start of a shorter file and ends words in it. -/
def filler : Char := Char.ofNat 0

/-- The part of a file's start after its mark that can name an interpreter: up to the end of line, or nearly all
of it if a word ends in it. -/
def namingPart? (rest : Raw) : Option Raw :=
  let start := (rest ++ List.replicate firstLine filler).take (firstLine - 2)
  if start.contains '\n' then some (start.takeWhile (· != '\n'))
  else
    let words := start.dropWhile isGap
    if words.any fun c => isGap c || c == filler then some start.dropLast else none

/-- The interpreter that a file's contents name, and its one argument. -/
def interpreter? (contents : Raw) : Option (Raw × Option Raw) :=
  match contents with
  | '#' :: '!' :: rest =>
    match (namingPart? rest).map fun line => ((line.reverse.dropWhile isGap).reverse).dropWhile isGap with
    | none | some [] => none
    | some line =>
      let name := line.takeWhile fun c => !isGap c && c != filler
      match line.drop name.length with
      | c :: argument =>
        if c = filler then some (name, none)
        else some (name, some ((argument.dropWhile isGap).takeWhile (· != filler)))
      | [] => some (name, none)
  | _ => none

/-- The node of the program that a path leads to.  An empty one leads to a directory. -/
def found (t : FileTree) (cwd : Nat) (inner : Bool) (path : Raw) : Except Errno Node :=
  if inner && path.isEmpty then .ok (t.node cwd) else (t.find cwd path true).map t.node

/-- Whether a file's first line holds characters that no text has. -/
def isBinary (contents : Raw) : Bool :=
  ((contents.take firstLine).takeWhile (· != '\n')).any fun c => c.toNat < 9 || c.toNat = 127

/-- Whether the words are more than a program can be started with. -/
def tooMany (words : List Raw) : Bool :=
  words.any (fun w => w.length + 1 > maxWord) || words.foldl (fun n w => n + w.length + 9) 0 > maxWords

/-- The program that a path starts with some words, with at most `more` interpreters before it.  `inner` says that
the path is that of an interpreter. -/
def image (t : FileTree) (cwd : Nat) :
    (more : Nat) → (inner : Bool) → (path : Raw) → (words : List Raw) → Except Errno Image
  | 0, _, _, _ => .error .loop
  | more + 1, inner, path, words =>
    match found t cwd inner path with
    | .error e => .error e
    | .ok node =>
      if !node.isRegular || !node.allows 1 then .error .access
      else if tooMany words then .error .tooBig
      else match node.body with
        | .program name => .ok ⟨name, words⟩
        | .file contents =>
          match interpreter? contents with
          | none => .error .execFormat
          | some (name, argument) => image t cwd more true name (name :: argument.toList ++ path :: words.tail)
        | _ => .error .access

/-- The program that a path starts. -/
def ofPath (t : FileTree) (cwd : Nat) (path : Raw) (words : List Raw) : Except Errno Image :=
  image t cwd (maxInterpreters + 1) false path words

/-- Whether a search goes on after an error. -/
def passes (e : Errno) : Bool :=
  e = .access || e = .noEntry || e = .notDirectory

/-- A directory of the search path joined with a name.  An empty one is the working directory. -/
def join (directory name : Raw) : Raw :=
  if directory.isEmpty then name else directory ++ '/' :: name

/-- Tries the directories in turn.  `denied` says whether one has denied access.  A directory whose name is longer
than a path can be counts as the working directory, and as none at all in the last place. -/
def through (t : FileTree) (cwd : Nat) (name : Raw) (words : List Raw) :
    (denied : Bool) → (last : Errno) → (directories : List Raw) → Except Errno Image
  | denied, last, [] => .error (if denied then .access else last)
  | denied, last, d :: ds =>
    if d.length > FileTree.maxPath ∧ ds.isEmpty then .error (if denied then .access else last)
    else match ofPath t cwd (join (if d.length > FileTree.maxPath then [] else d) name) words with
    | .ok found => .ok found
    | .error e => if passes e then through t cwd name words (denied || e = .access) e ds else .error e

/-- The program that a name starts: a path if it has a slash, and searched for otherwise. -/
def search (t : FileTree) (cwd : Nat) (path : Raw) (name : Raw) (words : List Raw) : Except Errno Image :=
  if name.isEmpty then .error .noEntry
  else if name.contains '/' then ofPath t cwd name words
  else through t cwd name words false .noEntry (Raw.splitAt ':' path)

end Launch
end RunMeter.Machine
