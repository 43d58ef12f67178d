import RunMeter.Machine.Regex
import RunMeter.Machine.Shell.Pattern
import RunMeter.Machine.Utility.Listing
import RunMeter.Machine.Utility.Sources
import RunMeter.Machine.Utility.Starting

/-!
# RunMeter.Machine.Utility.Finding — files in directories that satisfy conditions

A walk goes from some paths down through directories.  For every file on the way an expression of tests and actions
is evaluated, from left to right as far as its value needs it.

Nothing that is proved depends on this module.
-/

namespace RunMeter.Machine.Finding

open Paths Sources

/-! ## Expressions -/

/-- A number that a property is compared with. -/
inductive Bound where
  | exactly (n : Nat)
  | above (n : Nat)
  | below (n : Nat)

/-- Whether a number is as a bound says. -/
def Bound.admits : Bound → Nat → Bool
  | exactly n, k => k == n
  | above n, k => k > n
  | below n, k => k < n

/-- A test or an action. -/
inductive Step where
  | always (value : Bool)
  | name (p : Shell.Pattern) (folds : Bool)
  | path (p : Shell.Pattern) (folds : Bool)
  | target (p : Shell.Pattern) (folds : Bool)
  | regex (e : Regex)
  | kind (letters : List Char)
  | kindOfTarget (letters : List Char)
  | empty
  | size (unit : Nat) (b : Bound)
  | permissions (sign : Option Char) (bits : Nat)
  | access (bit : Nat)
  | newer (than : Instant)
  | age (unit : Nat) (b : Bound)
  | owner (ours : Bool) (known : Bool)
  | links (b : Bound)
  | node (number : Nat)
  | prune
  | quit
  | print (ending : Char)
  | printf (format : Raw)
  | details
  | delete
  /-- A command for each file, perhaps in the file's directory, perhaps only after a question. -/
  | command (words : List Raw) (inPlace asks : Bool)
  /-- A command for many files at once. -/
  | commandForAll (index : Nat) (words : List Raw)

/-- An expression. -/
inductive Expression where
  | step (s : Step)
  | not (e : Expression)
  | both (a b : Expression)
  | either (a b : Expression)
  | inOrder (a b : Expression)

/-- What holds for the whole walk. -/
structure Manner where
  least : Nat
  most : Option Nat
  /-- Whether what is in a directory comes before the directory. -/
  inner : Bool
  /-- Whether links are followed: those among the first paths, and all. -/
  followsFirst : Bool
  followsAll : Bool
  extended : Bool
  /-- How many commands for many files there are. -/
  commands : Nat
  /-- Whether an action shows files. -/
  shows : Bool

/-- Reads an expression: the words that are left, with the word before them, and what holds for the whole walk. -/
structure Place where
  words : List Raw
  previous : Raw
  manner : Manner

/-- A part of reading an expression. -/
abbrev Reader := StateT Place Act

/-- Ends the program with a message. -/
def fail {α : Type} (c : Call) (message : Raw) : Reader α := (c.fail message 1 : Act α)

/-- The value after a word. -/
def value (c : Call) (word : Raw) : Reader Raw := do
  let p ← get
  match p.words with
  | v :: rest =>
    set { p with words := rest }
    return v
  | [] => fail c (Raw.ofText "missing argument to `" ++ word ++ ['\''])

/-- The number that a word asks for. -/
def bound (c : Call) (word w : Raw) : Reader Bound := do
  let wrong : Reader Bound := fail c (Raw.ofText "invalid argument `" ++ w ++ Raw.ofText "' to `" ++ word ++ ['\''])
  match w with
  | '+' :: ds => match Raw.natural? ds with
    | some n => return .above n
    | none => wrong
  | '-' :: ds => match Raw.natural? ds with
    | some n => return .below n
    | none => wrong
  | ds => match Raw.natural? ds with
    | some n => return .exactly n
    | none => wrong

/-- A size with its unit. -/
def sizeStep (c : Call) (w : Raw) : Reader Step := do
  let units : List (Char × Nat) := [('b', 512), ('c', 1), ('w', 2), ('k', 1024), ('M', 1048576), ('G', 1073741824)]
  match w.getLast? with
  | none => fail c (Raw.ofText "invalid null argument to -size")
  | some letter =>
    let (unit, digits) : Option Nat × Raw :=
      if letter.isDigit then (some 512, w) else (units.lookup letter, w.dropLast)
    match unit with
    | none => fail c (Raw.ofText "invalid -size type `" ++ letter :: ['\''])
    | some n =>
      let number := digits.dropWhile fun ch => ch = '+' || ch = '-'
      if (Raw.natural? number).isNone then
        fail c (Raw.ofText "Invalid argument `" ++ w ++ Raw.ofText "' to -size")
      else return .size n (← bound c "-size".toList digits)

/-- The letters of kinds. -/
def kinds (c : Call) (word w : Raw) : Reader (List Char) := do
  if w.isEmpty then fail c (Raw.ofText "Arguments to " ++ word ++ Raw.ofText " should contain at least one letter")
  let parts := Raw.splitAt ',' w
  for part in parts do
    match part with
    | [ch] =>
      if !"bcdpflsD".toList.contains ch then fail c (Raw.ofText "Unknown argument to " ++ word ++ Raw.ofText ": " ++ [ch])
    | [] => fail c (Raw.ofText "Last file type in list argument to " ++ word ++
        Raw.ofText " is missing, i.e., list is ending on: ','")
    | ch :: _ =>
      if !"bcdpflsD".toList.contains ch then fail c (Raw.ofText "Unknown argument to " ++ word ++ Raw.ofText ": " ++ [ch])
      else fail c (Raw.ofText "Must separate multiple arguments to " ++ word ++ Raw.ofText " using: ','")
  return parts.flatten

/-- Permissions to compare with. -/
def permissionsStep (c : Call) (w : Raw) : Reader Step := do
  let (sign, mode) : Option Char × Raw := match w with
    | '-' :: rest => (some '-', rest)
    | '/' :: rest => (some '/', rest)
    | rest => (none, rest)
  match Permissions.changed? 0 0 false mode with
  | some bits => return .permissions sign bits
  | none => fail c (Raw.ofText "invalid mode " ++ Raw.quoted w)

/-- An expression in the usual style, where a plus and a question mark repeat: the same one in the basic style. -/
def basicText : Raw → Raw
  | [] => []
  | '\\' :: ch :: rest =>
    if ch = '+' || ch = '?' || ch = '\x7b' then ch :: basicText rest else '\\' :: ch :: basicText rest
  | ch :: rest => if ch = '+' || ch = '?' then '\\' :: ch :: basicText rest else ch :: basicText rest

/-- An expression that a whole path has to match. -/
def regexStep (c : Call) (folds : Bool) (w : Raw) : Reader Step := do
  let extended := (← get).manner.extended
  let style : Regex.Style := ⟨extended, folds, false, true, false⟩
  match Regex.ofText style (if extended then w else basicText w) with
  | .ok e => return .regex (e.within .start .finish)
  | .error f => fail c (Raw.ofText ("failed to compile regular expression '" ++ Raw.text w ++ "': " ++ f.message))

/-- The node that a word names. -/
def reference (c : Call) (w : Raw) : Reader (Nat × Node) := do
  let follow := (← get).manner.followsFirst
  match ← (Act.node? w follow : Act _) with
  | .ok found => return found
  | .error e => fail c (Raw.quoted w ++ Raw.ofText (": " ++ e.message))

/-- The words of a command up to its end, and whether it is for many files. -/
def commandWords (c : Call) (word : Raw) (many : Bool) : (before : List Raw) → List Raw → Reader (List Raw × Bool)
  | _, [] => fail c (Raw.ofText "missing argument to `" ++ word ++ ['\''])
  | before, w :: rest => do
    if w = [';'] then
      modify fun p => { p with words := rest }
      if before.isEmpty then fail c (Raw.ofText "missing argument to `" ++ word ++ ['\''])
      else return (before.reverse, false)
    else if many && w = ['+'] && before.head? = some "\x7b\x7d".toList then
      modify fun p => { p with words := rest }
      if before.length < 2 then fail c (Raw.ofText "missing argument to `" ++ word ++ ['\''])
      else return (before.tail.reverse, true)
    else commandWords c word many (w :: before) rest

/-- Notes that files are shown by an action. -/
def shown (s : Step) : Reader Step := do
  modify fun p => { p with manner := { p.manner with shows := true } }
  return s

/-- A pattern, perhaps in small letters. -/
def patternOf (folds : Bool) (w : Raw) : Shell.Pattern :=
  Shell.Pattern.ofEscaped (if folds then Raw.toLower w else w)

/-- Reads a test, an action or an option. -/
def step (c : Call) (word : Raw) : Reader Step := do
  let owned (w : Raw) : Reader Step :=
    if w = "root".toList || w = ['0'] then return .owner false true
    else if w = "1000".toList then return .owner true true
    else if (Raw.natural? w).isSome then return .owner false false
    else fail c (Raw.quoted w ++ Raw.ofText " is not the name of a known " ++
      (if word = "-user".toList then Raw.ofText "user" else Raw.ofText "group"))
  let option (f : Manner → Manner) : Reader Step := do
    modify fun p => { p with manner := f p.manner }
    return .always true
  let level : Reader Nat := do
    let w ← value c word
    match Raw.natural? w with
    | some n => return n
    | none =>
      fail c (Raw.ofText "Expected a positive decimal integer argument to " ++ word ++ Raw.ofText ", but got " ++ Raw.quoted w)
  let command (inPlace asks : Bool) : Reader Step := do
    let (words, isForAll) ← commandWords c word (!asks) [] (← get).words
    if isForAll then
      let n := (← get).manner.commands
      modify fun p => { p with manner := { p.manner with commands := n + 1 } }
      shown (.commandForAll n words)
    else shown (.command words inPlace asks)
  let text : Reader Raw := value c word
  match Raw.text word with
  | "-name" => return .name (patternOf false (← text)) false
  | "-iname" => return .name (patternOf true (← text)) true
  | "-path" | "-wholename" => return .path (patternOf false (← text)) false
  | "-ipath" | "-iwholename" => return .path (patternOf true (← text)) true
  | "-lname" => return .target (patternOf false (← text)) false
  | "-ilname" => return .target (patternOf true (← text)) true
  | "-regex" => regexStep c false (← text)
  | "-iregex" => regexStep c true (← text)
  | "-regextype" =>
    let kind ← text
    let extended := ["posix-extended", "egrep", "posix-egrep", "awk", "posix-awk", "gnu-awk"].contains (Raw.text kind)
    option fun m => { m with extended }
  | "-type" => return .kind (← kinds c word (← text))
  | "-xtype" => return .kindOfTarget (← kinds c word (← text))
  | "-empty" => return .empty
  | "-size" => sizeStep c (← text)
  | "-perm" => permissionsStep c (← text)
  | "-readable" => return .access 4
  | "-writable" => return .access 2
  | "-executable" => return .access 1
  | "-newer" | "-anewer" | "-cnewer" => return .newer (← reference c (← text)).2.changed
  | "-samefile" => return .node (← reference c (← text)).1
  | "-mtime" | "-atime" | "-ctime" => return .age 86400 (← bound c word (← text))
  | "-mmin" | "-amin" | "-cmin" => return .age 60 (← bound c word (← text))
  | "-user" | "-group" | "-uid" | "-gid" => owned (← text)
  | "-nouser" | "-nogroup" => return .owner true true
  | "-links" => return .links (← bound c word (← text))
  | "-true" => return .always true
  | "-false" => return .always false
  | "-prune" => return .prune
  | "-quit" => return .quit
  | "-print" => shown (.print '\n')
  | "-print0" => shown (.print '\x00')
  | "-printf" => shown (.printf (← text))
  | "-ls" => shown .details
  | "-delete" =>
    modify fun p => { p with manner := { p.manner with inner := true } }
    shown .delete
  | "-exec" => command false false
  | "-execdir" => command true false
  | "-ok" => command false true
  | "-okdir" => command true true
  | "-maxdepth" =>
    let n ← level
    option fun m => { m with most := some n }
  | "-mindepth" =>
    let n ← level
    option fun m => { m with least := n }
  | "-depth" | "-d" => option fun m => { m with inner := true }
  | "-follow" => option fun m => { m with followsFirst := true, followsAll := true }
  | "-xdev" | "-mount" | "-noleaf" | "-daystart" | "-warn" | "-nowarn" | "-ignore_readdir_race" => option id
  | _ =>
    if word.head? = some '-' then fail c (Raw.ofText "unknown predicate `" ++ word ++ ['\''])
    else
      (c.complain (Raw.ofText "paths must precede expression: `" ++ word ++ ['\'']) : Act Unit)
      let before := (← get).previous
      if before.head? = some '-' && ["-name", "-iname", "-path", "-ipath", "-wholename", "-lname"].contains (Raw.text before) then
        (c.complain (Raw.ofText "possible unquoted pattern after predicate `" ++ before ++ Raw.ofText "'?") : Act Unit)
      (Act.exit 1 : Act Step)

/-- The operators that join expressions, by how closely they bind. -/
inductive Level where
  | list
  | choice
  | sequence
  | single
  deriving DecidableEq

/-- Whether an expression begins with a word. -/
def begins (w : Raw) : Bool :=
  !(["-a", "-and", "-o", "-or", ",", ")"].contains (Raw.text w))

/-- Reads an expression; `opener` is the word that asks for one. -/
def expression (c : Call) : (fuel : Nat) → Level → (opener : Raw) → Reader Expression
  | 0, _, _ => return .step (.always true)
  | fuel + 1, .list, opener => do
    let a ← expression c fuel .choice opener
    match (← get).words with
    | [','] :: rest =>
      modify fun p => { p with words := rest }
      return .inOrder a (← expression c fuel .list [','])
    | _ => return a
  | fuel + 1, .choice, opener => do
    let a ← expression c fuel .sequence opener
    match (← get).words with
    | w :: rest =>
      if w = "-o".toList || w = "-or".toList then
        modify fun p => { p with words := rest }
        return .either a (← expression c fuel .choice w)
      else return a
    | [] => return a
  | fuel + 1, .sequence, opener => do
    let a ← expression c fuel .single opener
    match (← get).words with
    | w :: rest =>
      if w = "-a".toList || w = "-and".toList then
        modify fun p => { p with words := rest }
        return .both a (← expression c fuel .sequence w)
      else if begins w then return .both a (← expression c fuel .sequence [])
      else return a
    | [] => return a
  | fuel + 1, .single, opener => do
    let p ← get
    match p.words with
    | [] =>
      if opener = ['('] then
        fail c (Raw.ofText "invalid expression; expected to find a ')' but didn't see one. " ++
          Raw.ofText "Perhaps you need an extra predicate after '('")
      else fail c (Raw.ofText "expected an expression after " ++ Raw.quoted opener)
    | w :: rest =>
      set { p with words := rest }
      match Raw.text w with
      | "!" | "-not" => return .not (← expression c fuel .single w)
      | "(" =>
        if rest.head? = some [')'] then
          fail c (Raw.ofText "invalid expression; empty parentheses are not allowed.")
        else
          let e ← expression c fuel .list ['(']
          let p ← get
          match p.words with
          | [')'] :: rest =>
            set { p with words := rest }
            return e
          | _ => fail c (Raw.ofText "invalid expression; I was expecting to find a ')' somewhere but did not see one.")
      | ")" => fail c (Raw.ofText "invalid expression; you have too many ')'")
      | "-a" | "-and" | "-o" | "-or" | "," =>
        fail c (Raw.ofText "invalid expression; you have used a binary operator " ++ Raw.quoted w ++
          Raw.ofText " with nothing before it.")
      | _ =>
        let s ← step c w
        modify fun p => { p with previous := w }
        return .step s

/-! ## The walk -/

/-- A file on the way. -/
structure Spotted where
  path : Raw
  /-- The path that the walk started from. -/
  start : Raw
  depth : Nat
  number : Nat
  node : Node

/-- What has come of the walk. -/
structure Walk where
  kept : Kept
  failed : Bool
  ended : Bool
  pruned : Bool
  /-- The files that wait for commands, the last first, by the command's number. -/
  waiting : List (Nat × List Raw × List Raw)

/-- An action with what has come of the walk. -/
abbrev Search := StateT Walk Act

/-- Shows all output. -/
def flush (c : Call) : Search Unit := do
  let w ← get
  let kept ← (w.kept.flush c true : Act Kept)
  set { w with kept }

/-- Complains about something. -/
def complain (c : Call) (message : Raw) : Search Unit := do
  flush c
  (c.complain message : Act Unit)
  modify fun w => { w with failed := true }

/-- Shows octets. -/
def put (octets : Raw) : Search Unit := modify fun w => { w with kept := w.kept.put octets }

/-- Carries out a command and tells if it succeeded. -/
def carryOut (c : Call) (directory : Option Raw) (words : List Raw) : Search Bool := do
  flush c
  let how ← (do
    let prepare : Act Unit := match directory with
      | some d => do
        let _ ← Act.tryChange fun pid k => k.enter pid d
      | none => pure ()
    let pid ← c.spawn prepare words fun e => do
      c.complain (Raw.quoted (words.headD []) ++ Raw.ofText (": " ++ e.message))
      return .code 1
    Starting.endOf pid : Act Ended)
  return how = .code 0

/-- A path's part above its last name. -/
def above (path : Raw) : Raw :=
  let parts := Raw.splitAt '/' path
  if parts.length ≤ 1 then ['.'] else Raw.joined ['/'] parts.dropLast

/-- The last name in a path. -/
def baseName (path : Raw) : Raw := lastName path

/-- The letter of a file's kind. -/
def kindLetter (n : Node) : Char :=
  match Permissions.kindLetter n.body with
  | '-' => 'f'
  | ch => ch

/-- What a letter in a format stands for. -/
def fact? (s : Spotted) (letter : Char) (target : Option Node) : Option Raw :=
  let n := s.node
  match letter with
  | '%' => some ['%']
  | 'p' => some s.path
  | 'f' => some (baseName s.path)
  | 'h' => some (above s.path)
  | 'H' => some s.start
  | 'P' => some ((s.path.drop s.start.length).dropWhile (· == '/'))
  | 's' => some (Raw.ofNat n.size)
  | 'k' => some (Raw.ofNat ((Listing.blocks n + 1) / 2))
  | 'b' => some (Raw.ofNat (Listing.blocks n))
  | 'y' => some [kindLetter n]
  | 'Y' => some [match target with
      | some t => kindLetter t
      | none => 'N']
  | 'm' => some (Raw.digits 8 n.mode)
  | 'M' => some (Permissions.letters n)
  | 'u' | 'g' => some (Listing.ownerName n)
  | 'U' | 'G' => some (Raw.ofNat (Listing.ownerNumber n))
  | 'i' => some (Raw.ofNat s.number)
  | 'd' => some (Raw.ofNat s.depth)
  | 'l' => some (match n.body with
      | .link pointee => pointee
      | _ => [])
  | _ => none

/-- A file in a format. -/
def inFormat (c : Call) (s : Spotted) (names : Nat) (target : Option Node) : (fuel : Nat) → Raw → Raw
  | 0, _ => []
  | _, [] => []
  | fuel + 1, '\\' :: ch :: rest =>
    match "abfnrtv0\\".toList.findIdx? (· == ch) with
    | some i =>
      let octal := (ch :: rest).takeWhile Raw.isOctal
      if ch = '0' && octal.length > 1 then
        Char.ofNat (Raw.valueIn 8 (octal.take 3) % 256) :: inFormat c s names target fuel ((ch :: rest).drop (octal.take 3).length)
      else "\x07\x08\x0c\n\r\t\x0b\x00\\".toList.getD i ' ' :: inFormat c s names target fuel rest
    | none =>
      if ch = 'c' then []
      else if Raw.isOctal ch then
        let octal := ((ch :: rest).take 3).takeWhile Raw.isOctal
        Char.ofNat (Raw.valueIn 8 octal % 256) :: inFormat c s names target fuel ((ch :: rest).drop octal.length)
      else '\\' :: ch :: inFormat c s names target fuel rest
  | fuel + 1, '%' :: spec =>
    let flags := spec.takeWhile "-+ 0#".toList.contains
    let digits := (spec.drop flags.length).takeWhile fun ch => ch.isDigit || ch = '.'
    let width := Raw.valueIn 10 (digits.takeWhile Char.isDigit)
    let field (r : Raw) : Raw := if flags.contains '-' then Raw.padEnd width r
      else if flags.contains '0' then Raw.padZeros width r else Raw.padStart width r
    match spec.drop (flags.length + digits.length) with
    | [] => ['%']
    | letter :: rest =>
      match letter, rest with
      | 'n', _ => field (Raw.ofNat names) ++ inFormat c s names target fuel rest
      | 'T', form :: rest | 'A', form :: rest | 'C', form :: rest =>
        let shown :=
          Calendar.Shown.at (Listing.zoneOf c) (Listing.secondsOf s.node.changed) (s.node.changed % 1000000 * 1000)
        let text := if form = '@' then Raw.ofInt (Listing.secondsOf s.node.changed) ++
            '.' :: Raw.padZeros 10 (Raw.ofNat (s.node.changed % 1000000 * 10000))
          else Calendar.formatted shown ['%', form]
        field text ++ inFormat c s names target fuel rest
      | 't', _ | 'a', _ | 'c', _ =>
        let shown :=
          Calendar.Shown.at (Listing.zoneOf c) (Listing.secondsOf s.node.changed) (s.node.changed % 1000000 * 1000)
        field (Calendar.formatted shown "%a %b %e %H:%M:%S.%N0 %Y".toList) ++ inFormat c s names target fuel rest
      | _, _ =>
        match fact? s letter target with
        | some text => field text ++ inFormat c s names target fuel rest
        | none => '%' :: letter :: inFormat c s names target fuel rest
  | fuel + 1, ch :: rest => ch :: inFormat c s names target fuel rest

/-- Carries out a test or an action. -/
def perform (c : Call) (s : Spotted) : Step → Search Bool
  | .always v => return v
  | .name p folds => return p.isMatch (if folds then Raw.toLower (baseName s.path) else baseName s.path)
  | .path p folds => return p.isMatch (if folds then Raw.toLower s.path else s.path)
  | .target p folds => return match s.node.body with
      | .link pointee => p.isMatch (if folds then Raw.toLower pointee else pointee)
      | _ => false
  | .regex e => return e.isIn s.path
  | .kind letters => return letters.contains (kindLetter s.node)
  | .kindOfTarget letters => do
    match ← (found? s.path true : Act _) with
    | some n => return letters.contains (kindLetter n)
    | none => return letters.contains 'l'
  | .empty => do
    if s.node.isDirectory then
      match ← (namesIn s.path : Act _) with
      | .ok names => return names.isEmpty
      | .error _ => return false
    else return s.node.isRegular && s.node.size = 0
  | .size unit b => return b.admits ((s.node.size + unit - 1) / unit)
  | .permissions sign bits => return match sign with
      | none => s.node.mode &&& 0o7777 = bits
      | some '-' => s.node.mode &&& bits = bits
      | some _ => bits = 0 || s.node.mode &&& bits != 0
  | .access bit => return s.node.isLink || s.node.allows bit
  | .newer than => return s.node.changed > than
  | .age unit b => do
    let now ← (Act.now : Act _)
    return b.admits ((now - s.node.changed) / 1000000 / unit)
  | .owner ours known => return known && s.node.ours = ours
  | .links b => do
    let n ← (Act.ask fun _ k => k.files.linkCount s.number : Act Nat)
    return b.admits n
  | .node number => return s.number = number
  | .prune => do
    modify fun w => { w with pruned := true }
    return true
  | .quit => do
    modify fun w => { w with ended := true }
    return true
  | .print ending => do
    put (s.path ++ [ending])
    return true
  | .printf format => do
    let n ← (Act.ask fun _ k => k.files.linkCount s.number : Act Nat)
    let target ← (found? s.path true : Act _)
    put (inFormat c s n target (format.length + 1) format)
    return true
  | .details => do
    let n ← (Act.ask fun _ k => k.files.linkCount s.number : Act Nat)
    let now ← (Act.now : Act _)
    let recent := s.node.changed ≤ now && now - s.node.changed < 15778476000000
    let date := Calendar.formatted (.at (Listing.zoneOf c) (Listing.secondsOf s.node.changed) 0)
      (if recent then "%b %e %H:%M" else "%b %e  %Y").toList
    let owner := Raw.padEnd 8 (Listing.ownerName s.node)
    let target : Raw := match s.node.body with
      | .link pointee => Raw.ofText " -> " ++ pointee
      | _ => []
    let columns := [Raw.padStart 9 (Raw.ofNat s.number), Raw.padStart 6 (Raw.ofNat ((Listing.blocks s.node + 1) / 2)),
      Permissions.letters s.node, Raw.padStart 3 (Raw.ofNat n), owner, owner, Raw.padStart 8 (Raw.ofNat s.node.size), date]
    put (Raw.joined [' '] columns ++ ' ' :: s.path ++ target ++ ['\n'])
    return true
  | .delete => do
    if s.path = ['.'] then return true
    else
      let failed ← (Act.tryChange fun pid k =>
        if s.node.isDirectory then k.removeDirectory pid s.path else k.removeName pid s.path : Act _)
      match failed with
      | none => return true
      | some e =>
        complain c (Raw.ofText "cannot delete " ++ Raw.quoted s.path ++ Raw.ofText (": " ++ e.message))
        return false
  | .command words inPlace asks => do
    let shown := if inPlace then "./".toList ++ baseName s.path else s.path
    let filled := words.map fun w => Starting.substituted "\x7b\x7d".toList shown (w.length + 1) w
    let agreed ← if asks then do
        flush c
        let _ ← (Act.write 2 (Raw.ofText "< " ++ words.headD [] ++ Raw.ofText " ... " ++ s.path ++ Raw.ofText " > ? ") : Act _)
        match ← (Act.readLineWithin 0 100000 [] : Act _) with
        | .ok (a :: _) => pure (a = 'y' || a = 'Y')
        | _ => pure false
      else pure true
    if agreed then carryOut c (if inPlace then some (above s.path) else none) filled else return false
  | .commandForAll index words => do
    modify fun w =>
      let before := ((w.waiting.find? fun e => e.1 = index).map fun e => e.2.2).getD []
      { w with waiting := (w.waiting.filter fun e => e.1 != index) ++ [(index, words, s.path :: before)] }
    return true

/-- The value of an expression for a file. -/
def evaluate (c : Call) (s : Spotted) : Expression → Search Bool
  | .step a => perform c s a
  | .not e => return !(← evaluate c s e)
  | .both a b => do if ← evaluate c s a then (if (← get).ended then return true else evaluate c s b) else return false
  | .either a b => do if ← evaluate c s a then return true else evaluate c s b
  | .inOrder a b => do
    let _ ← evaluate c s a
    evaluate c s b

/-- Walks down from a path.  `outer` are the directories that it is in. -/
def walk (c : Call) (m : Manner) (e : Expression) (start : Raw) :
    (fuel : Nat) → (depth : Nat) → (outer : List Nat) → (path : Raw) → Search Unit
  | 0, _, _, _ => return
  | fuel + 1, depth, outer, path => do
    if (← get).ended then return
    let follow := m.followsAll || (depth = 0 && m.followsFirst)
    let plain ← (Act.node? path false : Act _)
    let led ← if follow then (Act.node? path true : Act _) else pure plain
    let found : Except Errno (Nat × Node) := match led with
      | .ok n => .ok n
      | .error _ => plain
    match found with
    | .error err => complain c (Raw.quoted path ++ Raw.ofText (": " ++ err.message))
    | .ok (number, node) =>
      if outer.contains number then
        complain c (Raw.ofText "File system loop detected; " ++ Raw.quoted path ++
          Raw.ofText " is part of the same file system loop as " ++ Raw.quoted start ++ ['.'])
      else
        let s : Spotted := ⟨path, start, depth, number, node⟩
        let visit : Search Unit := do
          if depth ≥ m.least then
            let _ ← evaluate c s e
        modify fun w => { w with pruned := false }
        if !m.inner then visit
        let w ← get
        if node.isDirectory && !w.ended && !(w.pruned && !m.inner) && m.most.all (depth < ·) then
          match ← (namesIn path : Act _) with
          | .error err => complain c (Raw.quoted path ++ Raw.ofText (": " ++ err.message))
          | .ok names => names.forM fun n => walk c m e start fuel (depth + 1) (number :: outer) (inside path n)
        if m.inner && !(← get).ended then visit

/-- Carries out the commands that files wait for. -/
def finishCommands (c : Call) : Search Unit := do
  let w ← get
  for (_, words, files) in w.waiting do
    let done ← carryOut c none (words ++ files.reverse)
    if !done then modify fun w => { w with failed := true }

/-- Whether a word can not be a path at the start. -/
def beginsExpression (w : Raw) : Bool :=
  match w with
  | '-' :: _ :: _ => true
  | ['('] | ['!'] => true
  | _ => false

/-- Finds files. -/
def find : Utility := fun c => do
  let options := c.args.takeWhile fun w => ["-H", "-L", "-P"].contains (Raw.text w)
  let words := c.args.drop options.length
  let paths := words.takeWhile fun w => !beginsExpression w
  let words := words.drop paths.length
  let follow := (options.getLast?).getD []
  let manner : Manner :=
    ⟨0, none, false, follow = "-H".toList || follow = "-L".toList, follow = "-L".toList, false, 0, false⟩
  let read : Reader Expression :=
    if words.isEmpty then return .step (.always true) else expression c (4 * words.length + 8) .list []
  let (e, p) ← read.run ⟨words, [], manner⟩
  match p.words with
  | [')'] :: _ => c.fail (Raw.ofText "invalid expression; you have too many ')'") 1
  | _ => pure ()
  let e := if p.manner.shows then e else .both e (.step (.print '\n'))
  let all : Search Unit := do
    for path in (if paths.isEmpty then [['.']] else paths) do
      walk c p.manner e path FileTree.maxPath 0 [] path
    finishCommands c
    flush c
  let (_, w) ← all.run ⟨Kept.nothing, false, false, false, []⟩
  return if w.failed then 1 else 0

/-- The programs by name. -/
def programs : List (String × Utility) := [("find", find)]

end RunMeter.Machine.Finding
