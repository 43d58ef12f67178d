import RunMeter.Machine.Utility.Sources

/-!
# RunMeter.Machine.Utility.CharacterSets — replacing and deleting characters

A set is written as characters, escapes, ranges, named classes and repetitions.  Two sets of one size say what
each character becomes.

Nothing that is proved depends on this module.
-/

namespace RunMeter.Machine.CharacterSets

open Sources

/-- A part of a set. -/
inductive Part where
  | one (c : Char)
  | span (first last : Char)
  | named (name : String)
  /-- A character so many times; as often as it takes if the number is 0. -/
  | many (c : Char) (count : Nat)

/-- What is wrong with a set. -/
inductive Fault where
  | reversed (first last : Char)
  | unknownClass (name : Raw)
  | badCount (w : Raw)
  | notSingle (w : Raw)

/-- A character as a message shows it. -/
def shownChar (c : Char) : Raw :=
  if Raw.isShown c then [c] else Raw.escaped c

/-- What is said about a fault. -/
def Fault.message : Fault → Raw
  | reversed a b => Raw.ofText "range-endpoints of '" ++ shownChar a ++ '-' :: shownChar b ++
      Raw.ofText "' are in reverse collating sequence order"
  | unknownClass name => Raw.ofText "invalid character class " ++ Raw.quoted name
  | badCount w => Raw.ofText "invalid repeat count " ++ Raw.quoted w ++ Raw.ofText " in [c*n] construct"
  | notSingle w => w ++ Raw.ofText ": equivalence class operand must be a single character"

/-- A character of a set as it is written: the character, and whether an escape stands for it. -/
abbrev Written := Char × Bool

/-- The characters of a word with the escapes replaced. -/
def unescaped : (fuel : Nat) → Raw → List Written
  | 0, _ => []
  | _, [] => []
  | _, ['\\'] => [('\\', false)]
  | fuel + 1, '\\' :: c :: rest =>
    let octal := ((c :: rest).take 3).takeWhile Raw.isOctal
    if !octal.isEmpty then
      let octal := if Raw.valueIn 8 octal > 255 then octal.take 2 else octal
      (Char.ofNat (Raw.valueIn 8 octal), true) :: unescaped fuel ((c :: rest).drop octal.length)
    else
      let ch := match c with
        | 'a' => '\x07'
        | 'b' => '\x08'
        | 'f' => '\x0c'
        | 'n' => '\n'
        | 'r' => '\r'
        | 't' => '\t'
        | 'v' => '\x0b'
        | c => c
      (ch, true) :: unescaped fuel rest
  | fuel + 1, c :: rest => (c, false) :: unescaped fuel rest

/-- The text up to a mark with a bracket behind it, and what follows. -/
def bracketed? (mark : Char) : (taken : Raw) → List Written → Option (Raw × List Written)
  | taken, (c, _) :: (d, e) :: rest =>
    if c = mark && d = ']' then some (taken.reverse, rest) else bracketed? mark (c :: taken) ((d, e) :: rest)
  | _, _ => none

/-- The parts of a set. -/
def parts : (fuel : Nat) → List Written → Except Fault (List Part)
  | 0, _ => .ok []
  | _, [] => .ok []
  | fuel + 1, (c, e) :: rest => do
    let single : Except Fault (List Part) :=
      match rest with
      | ('-', false) :: (d, _) :: more =>
        if d.toNat < c.toNat then .error (.reversed c d) else (parts fuel more).map (.span c d :: ·)
      | _ => (parts fuel rest).map (.one c :: ·)
    if c != '[' || e then single
    else match rest with
      | (':', false) :: more =>
        match bracketed? ':' [] more with
        | some (name, after) =>
          let classes := ["alnum", "alpha", "blank", "cntrl", "digit", "graph", "lower", "print", "punct", "space",
            "upper", "xdigit"]
          if classes.contains (Raw.text name) then return .named (Raw.text name) :: (← parts fuel after)
          else .error (.unknownClass name)
        | none => single
      | ('=', false) :: more =>
        match bracketed? '=' [] more with
        | some ([d], after) => return .one d :: (← parts fuel after)
        | some (w, _) => .error (.notSingle w)
        | none => single
      | (d, _) :: ('*', false) :: more =>
        let digits := (more.takeWhile fun w => w.1 != ']').map Prod.fst
        match more.drop digits.length with
        | _ :: after =>
          let base := if digits.head? = some '0' then 8 else 10
          if digits.all fun ch => ch.isDigit && ch.toNat < 48 + base then
            return .many d (Raw.valueIn base digits) :: (← parts fuel after)
          else .error (.badCount digits)
        | [] => single
      | _ => single

/-- The parts of the set that a word writes. -/
def ofWord (w : Raw) : Except Fault (List Part) :=
  parts (w.length + 1) (unescaped (w.length + 1) w)

/-- All octets. -/
def allOctets : Raw := (List.range 256).map Char.ofNat

/-- The characters of a part; `fill` is how many a repetition without a number has. -/
def expandPart (fill : Nat) : Part → Raw
  | .one c => [c]
  | .span a b => (List.range (b.toNat + 1 - a.toNat)).map fun i => Char.ofNat (a.toNat + i)
  | .named name => allOctets.filter (Raw.inClass name)
  | .many c 0 => List.replicate fill c
  | .many c n => List.replicate n c

/-- The characters of a set that is to have a size, if it can be filled up. -/
def expand (size : Nat) (ps : List Part) : Raw :=
  let fixed := (ps.flatMap (expandPart 0)).length
  ps.flatMap (expandPart (size - fixed))

/-- What each character becomes. -/
def mapped (source target : Raw) (c : Char) : Char :=
  match (source.zipIdx.reverse.find? fun s => s.1 == c) with
  | some (_, i) => target.getD i ((target.getLast?).getD c)
  | none => c

/-- A table of what each octet becomes. -/
def tableOf (f : Char → Option Char) : Array (Option Char) :=
  (allOctets.map f).toArray

/-- A text without characters of a set that follow the same one; the last before it is given. -/
def squeezed (set : Array Bool) : (last : Option Char) → (taken : Raw) → Raw → Raw × Option Char
  | last, taken, [] => (taken.reverse, last)
  | last, taken, c :: rest =>
    if last = some c && set.getD c.toNat false then squeezed set last taken rest
    else squeezed set (some c) (c :: taken) rest

/-- Replaces, deletes or squeezes what is read, block by block. -/
def pass (c : Call) (table : Array (Option Char)) (squeeze : Array Bool) :
    (fuel : Nat) → (last : Option Char) → Act UInt8
  | 0, _ => return 0
  | fuel + 1, last => do
    match ← Act.read 0 Act.blockSize with
    | .error e => c.fail (Raw.ofText ("read error: " ++ e.message)) 1
    | .ok [] => return 0
    | .ok block =>
      let (out, last) := squeezed squeeze last [] (block.filterMap fun ch => table.getD ch.toNat (some ch))
      c.emit out 1
      pass c table squeeze fuel last

/-- Replaces or deletes characters. -/
def tr : Utility := fun c => do
  let g ← c.options ⟨"cCdst", [⟨"complement", "c", .none⟩, ⟨"delete", "d", .none⟩, ⟨"squeeze-repeats", "s", .none⟩,
    ⟨"truncate-set1", "t", .none⟩], true⟩ 1
  let deleting := g.has "d"
  let squeezing := g.has "s"
  let most := if deleting && !squeezing then 1 else 2
  let least := if deleting == squeezing then 2 else 1
  match g.operands with
  | [] => c.misused (Raw.ofText "missing operand") 1
  | first :: rest =>
    if g.operands.length < least then
      c.complain (Raw.ofText "missing operand after " ++ Raw.quoted first)
      let _ ← Act.write 2 (Raw.ofText (if deleting then
        "Two strings must be given when both deleting and squeezing repeats.\n"
        else "Two strings must be given when translating.\n"))
      c.hint 1
    else match g.operands.drop most with
      | extra :: _ =>
        c.complain (Raw.ofText "extra operand " ++ Raw.quoted extra)
        if most = 1 then
          let _ ← Act.write 2 (Raw.ofText "Only one string may be given when deleting without squeezing repeats.\n")
        c.hint 1
      | [] =>
        match ofWord first, (rest.head?).mapM ofWord with
        | .error fault, _ | _, .error fault => c.fail fault.message 1
        | .ok one, .ok two =>
          let plain := expand 0 one
          let source := if g.has "c" || g.has "C" then allOctets.filter fun ch => !plain.contains ch else plain
          let target := two.map (expand source.length)
          let members (r : Raw) : Array Bool := (allOctets.map r.contains).toArray
          let nobody : Array Bool := #[]
          if deleting then
            pass c (tableOf fun ch => if source.contains ch then none else some ch)
              (if squeezing then members (target.getD []) else nobody) Act.blockBound none
          else match target with
            | none => pass c (tableOf some) (members source) Act.blockBound none
            | some target =>
              if target.isEmpty && !g.has "t" && !source.isEmpty then
                c.fail (Raw.ofText "when not truncating set1, string2 must be non-empty") 1
              else
                let source := if g.has "t" then source.take target.length else source
                pass c (tableOf fun ch => some (mapped source target ch)) (if squeezing then members target else nobody)
                  Act.blockBound none

/-- The programs by name. -/
def programs : List (String × Utility) := [("tr", tr)]

end RunMeter.Machine.CharacterSets
