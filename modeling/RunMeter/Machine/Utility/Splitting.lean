import RunMeter.Machine.Format
import RunMeter.Machine.Regex
import RunMeter.Machine.Utility.Starting

/-!
# RunMeter.Machine.Utility.Splitting — programs that divide files

* `Shares`: how much goes into each of the new files.
* `split`: files of equal size.
* `csplit`: files that end where patterns say.

Nothing that is proved depends on this module.
-/

namespace RunMeter.Machine.Splitting

/-! ## Equal shares -/

/-- How a text is divided. -/
inductive Shares where
  | lines (count : Nat)
  | octets (count : Nat)
  /-- As many lines as so many octets hold. -/
  | lineOctets (count : Nat)
  /-- So many shares, or one of them only: of octets, of lines, or of lines in turn. -/
  | parts (count : Nat) (only : Option Nat)
  | lineParts (count : Nat) (only : Option Nat)
  | turns (count : Nat) (only : Option Nat)

/-- Parts of a list of so many members. -/
def portions {α : Type} (count : Nat) : (fuel : Nat) → List α → List (List α)
  | 0, _ => []
  | _, [] => []
  | fuel + 1, xs => xs.take count :: portions count fuel (xs.drop count)

/-- Lines gathered as long as they fit; a line that is too long by itself is cut. -/
def fitted (most : Nat) : (fuel : Nat) → (held : Raw) → List Raw → List Raw
  | 0, held, _ => [held]
  | _, held, [] => if held.isEmpty then [] else [held]
  | fuel + 1, held, line :: rest =>
    if held.length + line.length ≤ most then fitted most fuel (held ++ line) rest
    else if held.isEmpty then line.take most :: fitted most fuel [] (line.drop most :: rest)
    else held :: fitted most fuel [] (line :: rest)

/-- The shares that lines fall into by the place of their first octets. -/
def byPlace (size count : Nat) (lines : List Raw) : List Raw :=
  let placed := (lines.foldl (fun (found, place) line =>
    ((min (place / size) (count - 1), line) :: found, place + line.length)) (([] : List (Nat × Raw)), 0)).1.reverse
  (List.range count).map fun i => (placed.filter fun p => p.1 = i).flatMap Prod.snd

/-- The shares of a text. -/
def Shares.divide (s : Shares) (mark : Char) (text : Raw) : List Raw :=
  let lines := Sources.pieces mark text
  match s with
  | .lines n => (portions n (lines.length + 1) lines).map List.flatten
  | .octets n => portions n (text.length + 1) text
  | .lineOctets n => fitted n (text.length + lines.length + 1) [] lines
  | .parts n _ =>
    let size := max (text.length / n) 1
    (List.range n).map fun i =>
      if i + 1 = n then text.drop (i * size) else (text.drop (i * size)).take size
  | .lineParts n _ => byPlace (max (text.length / n) 1) n lines
  | .turns n _ => (List.range n).map fun i => (lines.zipIdx.filter fun p => p.2 % n = i).flatMap Prod.fst

/-- The only share that is wanted. -/
def Shares.only? : Shares → Option Nat
  | .parts _ only | .lineParts _ only | .turns _ only => only
  | _ => none

/-- How many shares are asked for. -/
def Shares.count? : Shares → Option Nat
  | .parts n _ | .lineParts n _ | .turns n _ => some n
  | _ => none

/-- What the names of new files are made of. -/
structure Naming where
  start : Raw
  /-- The digits or letters of the changing part, how many there are, and whether there may be more. -/
  digits : Raw
  width : Nat
  grows : Bool
  first : Nat
  ending : Raw

/-- A number in the digits of a naming. -/
def Naming.number (n : Naming) (width i : Nat) : Raw :=
  let base := n.digits.length
  ((List.range width).map fun place => n.digits.getD (i / Nat.pow base place % base) 'a').reverse

/-- The name with a number, if there are enough.  Names that grow begin with the last digit, once for each turn. -/
def Naming.name? (n : Naming) (i : Nat) : Option Raw :=
  let base := n.digits.length
  let last := n.digits.getLast?.getD 'z'
  let rec grown : (fuel : Nat) → (turns i : Nat) → Option Raw
    | 0, _, _ => none
    | fuel + 1, turns, i =>
      let width := n.width + turns
      let room := (base - 1) * Nat.pow base (width - 1)
      if i < room then some (List.replicate turns last ++ n.number width i) else grown fuel (turns + 1) (i - room)
  let part := if n.grows then grown 20 0 i
    else if n.first + i < Nat.pow base n.width then some (n.number n.width (n.first + i)) else none
  part.map fun p => n.start ++ p ++ n.ending

/-- The shares that words ask for. -/
def sharesOf (c : Call) (g : Given) : Act Shares := do
  let ways := g.switches.filter fun s => ["l", "b", "C", "n"].contains s.1
  let size (what : String) (w : Raw) : Act Nat := do
    match Sources.amount? w with
    | some (n + 1) => return n + 1
    | _ => c.fail (Raw.ofText ("invalid number of " ++ what ++ ": ") ++ Raw.quoted w) 1
  match ways with
  | [] => return .lines 1000
  | [("l", w)] => return .lines (← size "lines" w)
  | [("b", w)] => return .octets (← size "bytes" w)
  | [("C", w)] => return .lineOctets (← size "bytes" w)
  | [(_, w)] =>
    let fields := Raw.splitAt '/' w
    let (kind, numbers) := match fields with
      | [k] :: rest => if k = 'l' || k = 'r' then (some k, rest) else (none, fields)
      | fields => (none, fields)
    let (only, count) ← match numbers with
      | [n] => pure ((none : Option Nat), ← size "chunks" n)
      | [k, n] => do
        let count ← size "chunks" n
        match Raw.natural? k with
        | some k =>
          if k = 0 || k > count then c.fail (Raw.ofText "invalid chunk number: " ++ Raw.quoted (Raw.ofNat k)) 1
          else pure (some (k - 1), count)
        | none => c.fail (Raw.ofText "invalid chunk number: " ++ Raw.quoted k) 1
      | _ => c.fail (Raw.ofText "invalid number of chunks: " ++ Raw.quoted w) 1
    return match kind with
      | some 'l' => .lineParts count only
      | some _ => .turns count only
      | none => .parts count only
  | _ => c.misused (Raw.ofText "cannot split in more than one way") 1

/-- Words in which a number behind a dash is a number of lines. -/
def modern (ws : List Raw) : List Raw :=
  ws.map fun w =>
    match w with
    | '-' :: ds => if !ds.isEmpty && ds.all Char.isDigit then "-l".toList ++ ds else w
    | w => w

/-- Writes a share to a new file, or to a program that gets the file's name as a variable. -/
def writeShare (c : Call) (filter : Option Raw) (name share : Raw) : Act Unit := do
  match filter with
  | some command =>
    let (readFd, writeFd) ← Act.pipe
    let c' := { c with env := Starting.withVariable c.env "FILE".toList name }
    let child ← c'.spawn (do
      let _ ← Act.duplicate readFd 0
      Act.close readFd
      Act.close writeFd) ["/bin/sh".toList, "-c".toList, command] fun e => do
        c.complain (Raw.ofText ("failed to run command: " ++ e.message))
        return .code 1
    Act.close readFd
    let _ ← Act.write writeFd share
    Act.close writeFd
    match ← Act.waitChild (some child) true true with
    | .ended _ (.code 0) => pure ()
    | .ended _ (.code n) =>
      c.fail (Raw.ofText ("with FILE=" ++ Raw.text name ++ ", exit " ++ toString n.toNat ++ " from command: ") ++ command) 1
    | .ended _ (.signal n) =>
      c.fail (Raw.ofText ("with FILE=" ++ Raw.text name ++ ", signal " ++ toString n ++ " from command: ") ++ command) 1
    | _ => pure ()
  | none =>
    match ← Act.openFile name .writing with
    | .error e => c.fail (Raw.displayed name ++ Raw.ofText (": " ++ e.message)) 1
    | .ok fd =>
      match ← Act.write fd share with
      | none => Act.close fd
      | some e => c.fail (Raw.displayed name ++ Raw.ofText (": " ++ e.message)) 1

/-- The naming that switches ask for. -/
def namingOf (c : Call) (g : Given) (s : Shares) (start : Raw) : Act Naming := do
  let kind := g.last? ["d", "x", "numeric", "hex"]
  let digits : Raw := match kind with
    | some "d" | some "numeric" => "0123456789".toList
    | some _ => "0123456789abcdef".toList
    | none => "abcdefghijklmnopqrstuvwxyz".toList
  let from? := match kind with
    | some "numeric" | some "hex" => (g.value? (kind.getD "")).filter (!·.isEmpty)
    | _ => none
  let first ← match from? with
    | none => pure 0
    | some w =>
      match Raw.natural? w with
      | some n => pure n
      | none => c.misused (Raw.ofText "invalid start value for " ++
          Raw.ofText (if kind = some "hex" then "hexadecimal" else "numerical") ++ Raw.ofText " suffix: " ++
              Raw.quoted w) 1
  let asked ← match g.value? "a" with
    | none => pure none
    | some w =>
      match Raw.natural? w with
      | some n => pure (some n)
      | none => c.fail (Raw.ofText "invalid suffix length: " ++ Raw.quoted w) 1
  let ending := (g.value? "suffix").getD []
  if ending.contains '/' then
    let fault := Raw.ofText "invalid suffix " ++ Raw.quoted ending ++ Raw.ofText ", contains directory separator"
    c.misused fault 1
  let rec needed : (fuel : Nat) → Nat → Nat
    | 0, _ => 1
    | fuel + 1, n => if n < digits.length then 1 else 1 + needed fuel (n / digits.length)
  let need := match s.count? with
    | some n => needed 64 (n - 1 + first)
    | none => 0
  match asked with
  | some (n + 1) =>
    if n + 1 < need then c.fail (Raw.ofText ("the suffix length needs to be at least " ++ toString need)) 1
    return ⟨start, digits, n + 1, false, first, ending⟩
  | _ => return ⟨start, digits, max 2 need, s.count?.isNone && first = 0, first, ending⟩

/-- Divides a file into equal shares. -/
def split : Utility := fun c => do
  let g ← ({ c with words := c.name :: modern c.args }).options ⟨"a:b:C:del:n:t:ux", [⟨"bytes", "b", .required⟩,
    ⟨"lines", "l", .required⟩, ⟨"line-bytes", "C", .required⟩, ⟨"number", "n", .required⟩,
    ⟨"elide-empty-files", "e", .none⟩, ⟨"unbuffered", "u", .none⟩, ⟨"suffix-length", "a", .required⟩,
    ⟨"additional-suffix", "suffix", .required⟩, ⟨"numeric-suffixes", "numeric", .optional⟩,
    ⟨"hex-suffixes", "hex", .optional⟩, ⟨"filter", "filter", .required⟩, ⟨"verbose", "verbose", .none⟩,
    ⟨"separator", "t", .required⟩], false⟩ 1
  let shares ← sharesOf c g
  let mark ← match g.value? "t" with
    | none => pure '\n'
    | some [ch] => pure ch
    | some ['\\', '0'] => pure '\x00'
    | some [] => c.fail (Raw.ofText "empty record separator") 1
    | some w => c.fail (Raw.ofText "multi-character separator " ++ Raw.quoted w) 1
  match g.operands with
  | _ :: _ :: extra :: _ => c.misused (Raw.ofText "extra operand " ++ Raw.quoted extra) 1
  | operands =>
    let naming ← namingOf c g shares ((operands.drop 1).headD ['x'])
    let path := operands.headD ['-']
    match ← Call.contents path with
    | .error e =>
      c.fail (if e = .isDirectory then Raw.displayed path ++ Raw.ofText (": read error: " ++ e.message)
        else Raw.ofText "cannot open " ++ Raw.quoted path ++ Raw.ofText (" for reading: " ++ e.message)) 1
    | .ok text =>
      let parts := shares.divide mark text
      match shares.only? with
      | some i => c.put (parts.getD i [])
      | none =>
        let parts := if g.has "e" then parts.filter (!·.isEmpty) else parts
        for (share, i) in parts.zipIdx do
          match naming.name? i with
          | none => c.fail (Raw.ofText "output file suffixes exhausted") 1
          | some name =>
            if g.has "verbose" then
              c.emit (Raw.ofText (if g.has "filter" then "executing with FILE=" else "creating file ") ++ Raw.quoted name ++ ['\n']) 1
            writeShare c (g.value? "filter") name share
        return 0

/-! ## Shares between patterns -/

/-- Where a share ends. -/
inductive Border where
  | line (number : Nat)
  /-- A line that matches, and how far from it; what is before is dropped if nothing is to be kept. -/
  | matching (e : Regex) (offset : Int) (dropped : Bool)

/-- A border with the word that asks for it and how many times more it is asked for; nothing for as often as may be. -/
structure Bordered where
  border : Border
  word : Raw
  again : Option Nat

/-- How new files are named and what is told of them. -/
structure Sheaf where
  call : Call
  lines : Array Raw
  naming : Nat → Raw
  quiet : Bool
  elides : Bool
  keeps : Bool
  /-- Whether the lines that match are dropped. -/
  suppresses : Bool

/-- What has been done: the first line that is left, the line at hand, and the files made. -/
structure Progress where
  first : Nat := 0
  current : Nat := 0
  made : List Raw := []

namespace Sheaf

/-- Removes the new files unless they are kept, and ends the program. -/
def abandon {α : Type} (s : Sheaf) (p : Progress) : Act α := do
  if !s.keeps then
    for name in p.made do
      let _ ← Act.tryChange fun pid k => k.removeName pid name
  Act.exit 1

/-- Writes a new file and tells its size. -/
def write (s : Sheaf) (p : Progress) (octets : Raw) : Act Progress := do
  let name := s.naming p.made.length
  if s.elides && octets.isEmpty then
    let _ ← Act.tryChange fun pid k => k.removeName pid name
    return p
  match ← Act.openFile name .writing with
  | .error e =>
    s.call.complain (Raw.displayed name ++ Raw.ofText (": " ++ e.message))
    s.abandon p
  | .ok fd =>
    let _ ← Act.write fd octets
    Act.close fd
    if !s.quiet then s.call.emit (Raw.ofNat octets.length ++ ['\n']) 1
    return { p with made := name :: p.made }

/-- The lines from one to before another. -/
def between (s : Sheaf) (first last : Nat) : Raw :=
  (s.lines.extract first last).toList.flatten

/-- Goes past lines up to one. -/
def past (p : Progress) (line : Nat) : Progress :=
  { p with first := line, current := max p.current line }

/-- A border that can not be reached: what is left is written, and the program ends. -/
def unreached {α : Type} (s : Sheaf) (p : Progress) (message : Raw) (round : Nat) (written : Bool) : Act α := do
  let p ← if written then s.write p (s.between p.first s.lines.size) else pure p
  s.call.complain (message ++ (if round = 0 then [] else Raw.ofText (" on repetition " ++ toString round)))
  s.abandon p

/-- A share up to a line with a number. -/
def upToLine (s : Sheaf) (p : Progress) (word : Raw) (number round : Nat) : Act Progress := do
  let last := number * (round + 1) - 1
  let outside := Raw.quoted word ++ Raw.ofText ": line number out of range"
  if last > s.lines.size then s.unreached p outside round true
  else
    let q ← s.write p (s.between p.first last)
    let q := past q last
    if q.first ≥ s.lines.size && !s.suppresses then s.unreached q outside round false
    else return if s.suppresses then past q (last + 1) else q

/-- A share up to a line that matches; nothing if the file ends first and the border is asked for as often as may be. -/
def upToMatch (s : Sheaf) (p : Progress) (b : Bordered) (e : Regex) (offset : Int) (dropped : Bool) (round : Nat) :
    Act (Option Progress) := do
  let start := p.current
  let found := ((List.range (s.lines.size - start)).find? fun i =>
    let line := s.lines.getD (start + i) []
    e.isIn (if line.getLast? = some '\n' then line.dropLast else line)).map (start + ·)
  match found with
  | none =>
    if b.again.isNone then
      let _ ← if dropped then pure p else s.write p (s.between p.first s.lines.size)
      return none
    else s.unreached p (Raw.quoted b.word ++ Raw.ofText ": match not found") round (!dropped)
  | some i =>
    let last := (i : Int) + offset
    let outside := Raw.quoted b.word ++ Raw.ofText ": line number out of range"
    if last < p.first || last > s.lines.size then
      let p ← if last > s.lines.size && !dropped then s.write p (s.between p.first s.lines.size)
        else if dropped then pure p else s.write p []
      s.call.complain outside
      s.abandon p
    else
      let last := last.toNat
      let q ← if dropped then pure p else s.write p (s.between p.first last)
      let q := { q with first := last, current := max last (if offset > 0 then last + 1 else i + 1) }
      return some (if s.suppresses then { q with first := last + 1 } else q)

/-- A border and its repetitions; nothing if the file has ended. -/
def follow (s : Sheaf) (b : Bordered) : (fuel : Nat) → (round : Nat) → Progress → Act (Option Progress)
  | 0, _, p => return some p
  | fuel + 1, round, p => do
    if b.again.any (· < round) then return some p
    match b.border with
    | .line n => do
      let q ← s.upToLine p b.word n round
      s.follow b fuel (round + 1) q
    | .matching e offset dropped => do
      match ← s.upToMatch p b e offset dropped round with
      | none => return none
      | some q => s.follow b fuel (round + 1) q

/-- All borders in order, and the rest of the file. -/
def followAll (s : Sheaf) : List Bordered → Progress → Act UInt8
  | [], p => do
    let _ ← s.write p (s.between p.first s.lines.size)
    return 0
  | b :: rest, p => do
    match ← s.follow b (s.lines.size + 2 + b.again.getD 0) 0 p with
    | none => return 0
    | some p => s.followAll rest p

end Sheaf

/-- How many times more a word asks for a border. -/
def repetition (c : Call) (w : Raw) : Act (Option Nat) := do
  if w.getLast? != some '}' then c.fail (Raw.quoted w ++ Raw.ofText ": '\x7d' is required in repeat count") 1
  else
    let inner := (w.drop 1).dropLast
    if inner = ['*'] then return none
    else match Raw.natural? inner with
    | some n => return some n
    | none =>
      c.fail (Raw.ofText "\x7b" ++ inner ++ Raw.ofText "'\x7d: integer required between '\x7b' and '\x7d'") 1

/-- The border that a word asks for. -/
def borderOf (c : Call) (w : Raw) : Act Border := do
  match w with
  | [] => c.fail (Raw.quoted w ++ Raw.ofText ": invalid pattern") 1
  | d :: rest =>
    if d = '/' || d = '%' then
      let back := rest.reverse
      let after := (back.takeWhile (· != d)).reverse
      if after.length = rest.length then
        c.fail (Raw.displayed w ++ Raw.ofText (": closing delimiter '" ++ String.singleton d ++ "' missing")) 1
      else
        let text := rest.take (rest.length - after.length - 1)
        let offset ← if after.isEmpty then pure (0 : Int) else match Raw.integer? after with
          | some n => pure n
          | none => c.fail (Raw.quoted w ++ Raw.ofText ": integer expected after delimiter") 1
        match Regex.ofText .basic text with
        | .ok e => return .matching e offset (d = '%')
        | .error f => c.fail (Raw.quoted w ++ Raw.ofText (": invalid regular expression: " ++ f.message)) 1
    else match Raw.natural? w with
    | some 0 => c.fail (Raw.displayed w ++ Raw.ofText ": line number must be greater than zero") 1
    | some n => return .line n
    | none => c.fail (Raw.quoted w ++ Raw.ofText ": invalid pattern") 1

/-- The borders that words ask for, with the number of the last line asked for. -/
def bordersOf (c : Call) : (fuel : Nat) → (last : Nat) → List Raw → Act (List Bordered)
  | 0, _, _ => return []
  | _, _, [] => return []
  | fuel + 1, last, w :: rest => do
    let border ← borderOf c w
    let last ← match border with
      | .line n => do
        if n < last then
          c.fail (Raw.ofText "line number " ++ Raw.quoted (Raw.ofNat n) ++
            Raw.ofText (" is smaller than preceding line number, " ++ toString last)) 1
        if n = last then
          c.complain (Raw.ofText "warning: line number " ++ Raw.quoted (Raw.ofNat n) ++
            Raw.ofText " is the same as preceding line number")
        pure n
      | .matching .. => pure last
    let (again, rest) ← match rest with
      | w :: more =>
        if w.head? = some '\x7b' then pure (← repetition c w, more) else pure (some 0, rest)
      | [] => pure (some 0, rest)
    return ⟨border, w, again⟩ :: (← bordersOf c fuel last rest)

/-- How the changing part of a name is written: a text with one conversion. -/
def conversionOf (c : Call) (w : Raw) : Act (Nat → Raw) := do
  let rec parts : (fuel : Nat) → Raw → List (Raw ⊕ Conversion)
    | 0, _ => []
    | _, [] => []
    | fuel + 1, '%' :: '%' :: rest => .inl ['%'] :: parts fuel rest
    | fuel + 1, '%' :: rest =>
      let (conversion, rest) := Conversion.ofText rest
      .inr conversion :: parts fuel rest
    | fuel + 1, ch :: rest => .inl [ch] :: parts fuel rest
  let found := parts (w.length + 1) w
  match found.filterMap Sum.getRight? with
  | [] => c.fail (Raw.ofText "missing % conversion specification in suffix") 1
  | _ :: _ :: _ => c.fail (Raw.ofText "too many % conversion specifications in suffix") 1
  | [one] =>
    if !"diuoxX".toList.contains one.letter then
      c.fail (Raw.ofText "invalid conversion specifier in suffix: " ++ [one.letter]) 1
    return fun n => found.flatMap fun p => match p with
      | .inl text => text
      | .inr conversion => conversion.unsigned n

/-- Divides a file where patterns say. -/
def csplit : Utility := fun c => do
  let g ← c.options ⟨"f:b:kn:sqz", [⟨"digits", "n", .required⟩, ⟨"quiet", "q", .none⟩, ⟨"silent", "q", .none⟩,
    ⟨"keep-files", "k", .none⟩, ⟨"elide-empty-files", "z", .none⟩, ⟨"prefix", "f", .required⟩,
    ⟨"suffix-format", "b", .required⟩, ⟨"suppress-matched", "m", .none⟩], false⟩ 1
  let width ← match g.value? "n" with
    | none => pure 2
    | some w =>
      match Raw.natural? w with
      | some n => pure n
      | none => c.fail (Raw.ofText "invalid number: " ++ Raw.quoted w) 1
  match g.operands with
  | [] => c.misused (Raw.ofText "missing operand") 1
  | [path] => c.misused (Raw.ofText "missing operand after " ++ Raw.quoted path) 1
  | path :: patterns =>
    let start := (g.value? "f").getD "xx".toList
    let suffix ← match g.value? "b" with
      | some w => conversionOf c w
      | none => pure fun n => Raw.padZeros width (Raw.ofNat n)
    let borders ← bordersOf c (patterns.length + 1) 0 patterns
    match ← Call.contents path with
    | .error e => c.fail (if e = .isDirectory then Raw.ofText ("read error: " ++ e.message)
        else Raw.ofText "cannot open " ++ Raw.quoted path ++ Raw.ofText (" for reading: " ++ e.message)) 1
    | .ok text =>
      let s : Sheaf :=
        ⟨c, (Sources.pieces '\n' text).toArray, fun n => start ++ suffix n, g.has "q" || g.has "s", g.has "z",
        g.has "k", g.has "m"⟩
      s.followAll borders {}

/-- The programs by name. -/
def programs : List (String × Utility) := [("split", split), ("csplit", csplit)]

end RunMeter.Machine.Splitting
