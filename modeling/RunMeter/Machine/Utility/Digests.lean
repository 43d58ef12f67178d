import RunMeter.Machine.Digest
import RunMeter.Machine.Utility.Sources

/-!
# RunMeter.Machine.Utility.Digests — programs that show and check digests

A line of output holds a digest and the name of its file, and a list of such lines can be checked against the files.

* `Kind`: a digest with its name.
* `Line.read?`: a line of a list.
* `verify`: the files of lists checked.
* `sums`, `checksum`, `sum`: the programs.

Nothing that is proved depends on this module.
-/

namespace RunMeter.Machine.Digests

/-- A digest: its name in lists, the octets of its usual size, and how it is made in a given size. -/
structure Kind where
  name : String
  size : Nat
  make : (size : Nat) → Raw → Raw

namespace Kind

/-- A digest that has one size only. -/
def fixed (name : String) (size : Nat) (make : Raw → Raw) : Kind := ⟨name, size, fun _ => make⟩

/-- The digests, each with the end of its program's name and the word that chooses it. -/
def all : List (String × String × Kind) :=
  [("md5sum", "md5", fixed "MD5" 16 Digest.md5), ("sha1sum", "sha1", fixed "SHA1" 20 Digest.sha1),
   ("sha224sum", "sha224", fixed "SHA224" 28 Digest.Sha2.of224.digest),
   ("sha256sum", "sha256", fixed "SHA256" 32 Digest.Sha2.of256.digest),
   ("sha384sum", "sha384", fixed "SHA384" 48 Digest.Sha2.of384.digest),
   ("sha512sum", "sha512", fixed "SHA512" 64 Digest.Sha2.of512.digest),
   ("b2sum", "blake2b", ⟨"BLAKE2b", 64, Digest.blake⟩)]

/-- Whether the size of a digest can be chosen. -/
def sizable (k : Kind) : Bool := k.name == "BLAKE2b"

end Kind

/-- A name with escapes for what ends a line, and whether there are any. -/
def escapedName (name : Raw) : Raw × Bool :=
  (name.flatMap fun ch => match ch with
    | '\\' => ['\\', '\\']
    | '\n' => ['\\', 'n']
    | '\r' => ['\\', 'r']
    | ch => [ch],
   name.any fun ch => ch == '\\' || ch == '\n' || ch == '\r')

/-- A name whose escapes are undone, if they are right. -/
def unescapedName : Raw → Option Raw
  | [] => some []
  | '\\' :: '\\' :: rest => (unescapedName rest).map ('\\' :: ·)
  | '\\' :: 'n' :: rest => (unescapedName rest).map ('\n' :: ·)
  | '\\' :: 'r' :: rest => (unescapedName rest).map ('\r' :: ·)
  | '\\' :: _ => none
  | ch :: rest => (unescapedName rest).map (ch :: ·)

/-- How the lines of output look. -/
structure Layout where
  /-- Whether a line begins with the name of the digest. -/
  tagged : Bool
  binary : Bool
  /-- What ends a line. -/
  mark : Char

/-- A line of output for a digest and a file. -/
def Layout.line (l : Layout) (k : Kind) (size : Nat) (digest path : Raw) : Raw :=
  let (name, strange) := if l.mark = '\n' then escapedName path else (path, false)
  (if strange then ['\\'] else []) ++
  (if l.tagged then
    Raw.ofText (k.name ++ (if size ≠ k.size then "-" ++ toString (8 * size) else "") ++ " (") ++ name ++
        Raw.ofText ") = " ++
      Digest.inHex digest
  else Digest.inHex digest ++ (if l.binary then [' ', '*'] else [' ', ' ']) ++ name) ++ [l.mark]

/-! ## Lists -/

/-- A line of a list: the digest in digits, its kind if the line names it, the size in octets and the file. -/
structure Line where
  digits : Raw
  kind : Option Kind
  size : Nat
  path : Raw

namespace Line

/-- A line that names its digest. -/
def tagged? (kinds : List Kind) (r : Raw) : Option Line :=
  kinds.findSome? fun k => do
    let rest ← Raw.after? k.name.toList r
    let (size, rest) ← match rest with
      | '-' :: more =>
        let bits := Raw.valueIn 10 (more.takeWhile Char.isDigit)
        if k.sizable && bits % 8 = 0 && 0 < bits && bits ≤ 512 then some (bits / 8, more.dropWhile Char.isDigit)
        else none
      | more => some (k.size, more)
    match rest.dropWhile (· == ' ') with
    | '(' :: inner =>
      let back := inner.reverse
      let digits := (back.takeWhile Raw.isHex).reverse
      let before := (back.drop digits.length).dropWhile fun ch => ch == ' ' || ch == '\t'
      match before with
      | '=' :: before =>
        match before.dropWhile fun ch => ch == ' ' || ch == '\t' with
        | ')' :: name => if digits.length = 2 * size then some ⟨digits, some k, size, name.reverse⟩ else none
        | _ => none
      | _ => none
    | _ => none

/-- A line that begins with a digest of a kind. -/
def plain? (k : Kind) (r : Raw) : Option Line :=
  let digits := r.takeWhile Raw.isHex
  let size := digits.length / 2
  let fine :=
    if k.sizable then digits.length % 2 = 0 && 0 < size && size ≤ k.size else size = k.size && digits.length = 2 * size
  if !fine then none
  else match r.drop digits.length with
    | ' ' :: ' ' :: name | ' ' :: '*' :: name | ' ' :: name | '\t' :: name =>
      if name.isEmpty then none else some ⟨digits, none, size, name⟩
    | _ => none

/-- A line of a list for a kind of digest; without one, for any that it names. -/
def read? (kind : Option Kind) (r : Raw) : Option Line := do
  let r := r.dropWhile fun ch => ch == ' ' || ch == '\t'
  let (strange, r) := match r with
    | '\\' :: rest => (true, rest)
    | r => (false, r)
  let kinds := match kind with
    | some k => [k]
    | none => Kind.all.map fun k => k.2.2
  let found ← match tagged? kinds r with
    | some l => some l
    | none => kind.bind (plain? · r)
  if strange then (unescapedName found.path).map ({ found with path := · }) else some found

end Line

/-- What has come of the lines of a list. -/
structure Tally where
  read : Nat := 0
  misread : Nat := 0
  unopened : Nat := 0
  different : Nat := 0
  same : Nat := 0

/-- How a check is done. -/
structure Manner where
  status : Bool
  quiet : Bool
  warn : Bool
  strict : Bool
  ignoring : Bool

/-- Checks one line of a list. -/
def verifyLine (c : Call) (m : Manner) (kind : Option Kind) (list : Raw) (number : Nat) (line : Raw) (t : Tally) : Act Tally := do
  let line := if line.getLast? = some '\r' then line.dropLast else line
  if line.head? = some '#' || line.isEmpty then return t
  match Line.read? kind line with
  | none =>
    if m.warn then
      let what := match kind with
        | some k => k.name
        | none => "CRC"
      c.complain (Raw.displayed list ++ Raw.ofText (": " ++ toString number ++ ": improperly formatted " ++ what ++ " checksum line"))
    return { t with misread := t.misread + 1 }
  | some l =>
    let t := { t with read := t.read + 1 }
    let (name, strange) := escapedName l.path
    let shown := (if strange then ['\\'] else []) ++ name
    match ← Call.contents l.path with
    | .error e =>
      if e = .noEntry && m.ignoring then return t
      c.complain (Call.about l.path e)
      if !m.status then c.emit (shown ++ Raw.ofText ": FAILED open or read\n") 1
      return { t with unopened := t.unopened + 1 }
    | .ok text =>
      let make := (l.kind.or kind).map Kind.make
      let digest := ((make.map fun f => f l.size text).getD [])
      if Digest.inHex digest == Raw.toLower l.digits then
        if !m.status && !m.quiet then c.emit (shown ++ Raw.ofText ": OK\n") 1
        return { t with same := t.same + 1 }
      else
        if !m.status then c.emit (shown ++ Raw.ofText ": FAILED\n") 1
        return { t with different := t.different + 1 }

/-- Tells of a count with a word in the singular or in the plural. -/
def warning (c : Call) (n : Nat) (one many : String) : Act Unit := do
  if n > 0 then c.complain (Raw.ofText ("WARNING: " ++ toString n ++ " " ++ (if n = 1 then one else many)))

/-- Checks the files of a list; tells whether all is well. -/
def verify (c : Call) (m : Manner) (kind : Option Kind) (list : Raw) : Act Bool := do
  let title := if list = ['-'] then Raw.ofText "standard input" else list
  match ← Call.contents list with
  | .error e =>
    c.complain (if e = .isDirectory then Raw.displayed title ++ Raw.ofText ": read error" else Call.about title e)
    return false
  | .ok text =>
    let mut t : Tally := {}
    for (line, i) in (Raw.lines text).zipIdx do
      t ← verifyLine c m kind title (i + 1) line t
    if t.read = 0 then c.complain (Raw.displayed title ++ Raw.ofText ": no properly formatted checksum lines found")
    else if !m.status then
      warning c t.misread "line is improperly formatted" "lines are improperly formatted"
      warning c t.unopened "listed file could not be read" "listed files could not be read"
      warning c t.different "computed checksum did NOT match" "computed checksums did NOT match"
      if m.ignoring && t.same = 0 then c.complain (Raw.displayed title ++ Raw.ofText ": no file was verified")
    return t.read > 0 && t.same > 0 && t.different = 0 && t.unopened = 0 && (!m.strict || t.misread = 0)

/-- The switches that all programs for digests know. -/
def longSwitches : List LongSwitch :=
  [⟨"check", "c", .none⟩, ⟨"ignore-missing", "ignore-missing", .none⟩, ⟨"quiet", "quiet", .none⟩,
   ⟨"status", "status", .none⟩, ⟨"strict", "strict", .none⟩, ⟨"warn", "w", .none⟩, ⟨"zero", "z", .none⟩,
   ⟨"tag", "tag", .none⟩]

/-- The manner that switches ask for. -/
def mannerOf (g : Given) : Manner :=
  let loudness := g.last? ["status", "quiet", "w"]
  ⟨loudness = some "status", loudness = some "quiet", loudness = some "w", g.has "strict", g.has "ignore-missing"⟩

/-- The size that a word asks for; the program ends if a digest can not have it. -/
def sizeOf (c : Call) (k : Kind) (w : Raw) : Act Nat := do
  match Raw.natural? w with
  | none => c.fail (Raw.ofText "invalid length: " ++ Raw.quoted w) 1
  | some bits =>
    if bits > 8 * k.size then
      c.complain (Raw.ofText "invalid length: " ++ Raw.quoted w)
      c.fail (Raw.ofText "maximum digest length for " ++ Raw.quoted k.name.toList ++
        Raw.ofText (" is " ++ toString (8 * k.size) ++ " bits")) 1
    else if bits % 8 ≠ 0 then
      c.complain (Raw.ofText "invalid length: " ++ Raw.quoted w)
      c.fail (Raw.ofText "length is not a multiple of 8") 1
    else return if bits = 0 then k.size else bits / 8

/-- Ends the program if switches do not go together. -/
def agree (c : Call) (g : Given) : Act Unit := do
  let checking := g.has "c"
  let manner := g.last? ["b", "t"]
  if g.has "tag" && manner = some "t" then c.misused (Raw.ofText "--tag does not support --text mode") 1
  if checking && g.has "z" then
    c.misused (Raw.ofText "the --zero option is not supported when verifying checksums") 1
  if checking && g.has "tag" then
    c.misused (Raw.ofText "the --tag option is meaningless when verifying checksums") 1
  if checking && manner.isSome then
    c.misused (Raw.ofText "the --binary and --text options are meaningless when verifying checksums") 1
  if !checking then
    let loudness := (g.last? ["status", "quiet", "w"]).map fun key => if key == "w" then "warn" else key
    let alone := (if g.has "ignore-missing" then ["ignore-missing"] else []) ++
      loudness.toList ++ (if g.has "strict" then ["strict"] else [])
    match alone with
    | name :: _ => c.misused (Raw.ofText ("the --" ++ name ++ " option is meaningful only when verifying checksums")) 1
    | [] => pure ()

/-- Shows the digests of files. -/
def listed (c : Call) (l : Layout) (k : Kind) (size : Nat) (paths : List Raw) : Act UInt8 := do
  let mut code : UInt8 := 0
  for path in Sources.orInput paths do
    match ← Call.contents path with
    | .error e =>
      c.complain (Call.about path e)
      code := 1
    | .ok text => c.emit (l.line k size (k.make size text) path) 1
  return code

/-- Checks the lists that words name. -/
def verifyAll (c : Call) (g : Given) (kind : Option Kind) : Act UInt8 := do
  let mut good := true
  for list in Sources.orInput g.operands do
    let fine ← verify c (mannerOf g) kind list
    good := good && fine
  return if good then 0 else 1

/-- Shows and checks digests of one kind. -/
def sums (k : Kind) : Utility := fun c => do
  let letters := if k.sizable then "bctwzl:" else "bctwz"
  let long := longSwitches ++ [⟨"binary", "b", .none⟩, ⟨"text", "t", .none⟩] ++
    (if k.sizable then [⟨"length", "l", .required⟩] else [])
  let g ← c.options ⟨letters, long, false⟩ 1
  let size ← match g.value? "l" with
    | none => pure k.size
    | some w => sizeOf c k w
  agree c g
  if g.has "c" then verifyAll c g (some k)
  else
    listed c ⟨g.has "tag", g.last? ["b", "t"] = some "b", if g.has "z" then '\x00' else '\n'⟩ k size g.operands

/-! ## Sums and remainders -/

/-- A number with a count of octets or blocks: what is shown of a text. -/
inductive Check where
  | rotated
  | folded
  | divided

namespace Check

/-- What is shown of a text before its name. -/
def shown (check : Check) (text : Raw) : Raw :=
  match check with
  | .rotated => Raw.padZeros 5 (Raw.ofNat (Digest.rotatedSum text)) ++ [' '] ++
      Raw.padStart 5 (Raw.ofNat ((text.length + 1023) / 1024))
  | .folded => Raw.ofNat (Digest.foldedSum text) ++ [' '] ++ Raw.ofNat ((text.length + 511) / 512)
  | .divided => Raw.ofNat (Digest.remainder text) ++ [' '] ++ Raw.ofNat text.length

/-- Shows the checks of files, with their names if words name them. -/
def listed (check : Check) (c : Call) (mark : Char) (paths : List Raw) : Act UInt8 := do
  let mut code : UInt8 := 0
  for path in Sources.orInput paths do
    match ← Call.contents path with
    | .error e =>
      c.complain (Call.about path e)
      code := 1
    | .ok text => c.emit (check.shown text ++ (if paths.isEmpty then [] else ' ' :: path) ++ [mark]) 1
  return code

end Check

/-- Shows sums in 16 bits. -/
def sum : Utility := fun c => do
  let g ← c.options ⟨"rs", [⟨"sysv", "s", .none⟩], false⟩ 1
  let check : Check := if g.last? ["r", "s"] = some "s" then .folded else .rotated
  check.listed c '\n' g.operands

/-- What a word chooses: a check or a digest. -/
inductive Choice where
  | check (check : Check)
  | digest (kind : Kind)

/-- The choices by their words. -/
def choices : List (String × Choice) :=
  [("bsd", .check .rotated), ("sysv", .check .folded), ("crc", .check .divided)] ++
    Kind.all.map fun k => (k.2.1, .digest k.2.2)

/-- What a word chooses. -/
def choiceOf (c : Call) (w : Raw) : Act Choice := do
  match choices.find? fun choice => choice.1.toList == w with
  | some (_, choice) => return choice
  | none =>
    c.complain (Raw.ofText "invalid argument " ++ Raw.quoted w ++ Raw.ofText " for '--algorithm'\nValid arguments are:" ++
      (choices.map Prod.fst ++ ["sm3"]).flatMap fun name => Raw.ofText ("\n  - '" ++ name ++ "'"))
    c.hint 1

/-- Shows and checks sums, remainders and digests. -/
def checksum : Utility := fun c => do
  let g ← c.options ⟨"a:cl:wz", longSwitches ++ [⟨"algorithm", "a", .required⟩, ⟨"length", "l", .required⟩,
    ⟨"untagged", "untagged", .none⟩, ⟨"debug", "debug", .none⟩], false⟩ 1
  let choice ← match g.value? "a" with
    | none => pure (Choice.check .divided)
    | some w => choiceOf c w
  match choice with
  | .check check =>
    if (g.value? "l").isSome then c.fail (Raw.ofText "--length is only supported with --algorithm=blake2b") 1
    if g.has "c" then
      if g.has "a" then c.fail (Raw.ofText "--check is not supported with --algorithm=\x7bbsd,sysv,crc\x7d") 1
      agree c { g with switches := g.switches.filter fun s => s.1 != "tag" }
      verifyAll c g none
    else
      agree c { g with switches := g.switches.filter fun s => s.1 != "tag" }
      check.listed c (if g.has "z" then '\x00' else '\n') g.operands
  | .digest k =>
    let size ← match g.value? "l" with
      | none => pure k.size
      | some w =>
        if k.sizable then sizeOf c k w
        else c.fail (Raw.ofText "--length is only supported with --algorithm=blake2b") 1
    let tagged := g.last? ["tag", "untagged"] != some "untagged"
    agree c { g with switches := g.switches.filter fun s => s.1 != "tag" }
    if g.has "c" then verifyAll c g (some k)
    else listed c ⟨tagged, false, if g.has "z" then '\x00' else '\n'⟩ k size g.operands

/-- The programs by name. -/
def programs : List (String × Utility) :=
  (Kind.all.map fun k => (k.1, sums k.2.2)) ++ [("sum", sum), ("cksum", checksum)]

end RunMeter.Machine.Digests
