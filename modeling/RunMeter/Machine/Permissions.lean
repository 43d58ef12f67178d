import RunMeter.Machine.FileTree

/-!
# RunMeter.Machine.Permissions — who may do what, in words

Permissions are written as octal digits or as changes: for whom, what is done, and with which letters.

* `changed?`: old permissions after a change.
* `letters`: permissions as ten characters.

Nothing that is proved depends on this module.
-/

namespace RunMeter.Machine.Permissions

/-- The bits of one letter for all. -/
def bitsOf (c : Char) : Nat :=
  match c with
  | 'r' => 0o444
  | 'w' => 0o222
  | 'x' => 0o111
  | _ => 0

/-- The bits that belong to those a letter means, with the special bit of theirs. -/
def scopeOf (c : Char) : Nat :=
  match c with
  | 'u' => 0o4700
  | 'g' => 0o2070
  | 'o' => 0o1007
  | _ => 0o7777

/-- The bits of one class spread over all classes. -/
def spread (c : Char) (mode : Nat) : Nat :=
  let bits := match c with
    | 'u' => mode / 64 % 8
    | 'g' => mode / 8 % 8
    | _ => mode % 8
  bits * 0o111

/-- The bits that letters after an operator mean. -/
def meant (old : Nat) (isDirectory : Bool) (letters : Raw) : Option Nat :=
  letters.foldlM (fun bits c =>
    match c with
    | 'r' | 'w' | 'x' => some (bits ||| bitsOf c)
    | 'X' => some (if isDirectory || old &&& 0o111 != 0 then bits ||| 0o111 else bits)
    | 's' => some (bits ||| 0o6000)
    | 't' => some (bits ||| 0o1000)
    | 'u' | 'g' | 'o' => some (bits ||| spread c old)
    | _ => none) 0

/-- The permissions after the operators of one clause, at most `fuel`. -/
def operated (mask scope : Nat) (isDirectory : Bool) : (fuel : Nat) → (old : Nat) → Raw → Option Nat
  | 0, _, _ => none
  | _, old, [] => some old
  | fuel + 1, old, op :: rest =>
    let letters := rest.takeWhile fun c => c != '+' && c != '-' && c != '='
    match meant old isDirectory letters with
    | none => none
    | some bits =>
      let bits := bits &&& scope &&& (0o7777 - (mask &&& 0o7777))
      let next := match op with
        | '+' => some (old ||| bits)
        | '-' => some (old - (old &&& bits))
        | '=' => some ((old - (old &&& scope)) ||| bits)
        | _ => none
      match next with
      | some mode => operated mask scope isDirectory fuel mode (rest.drop letters.length)
      | none => none

/-- The permissions after one clause of a change.  Where nobody is named, the mask holds bits back. -/
def clause (mask : Nat) (isDirectory : Bool) (old : Nat) (w : Raw) : Option Nat :=
  let who := w.takeWhile "ugoa".toList.contains
  let rest := w.drop who.length
  if rest.isEmpty then none
  else if who.isEmpty then operated mask 0o7777 isDirectory (rest.length + 1) old rest
  else operated 0 (who.foldl (fun s c => s ||| scopeOf c) 0) isDirectory (rest.length + 1) old rest

/-- The permissions that octal digits mean. -/
def octal? (w : Raw) : Option Nat :=
  if !w.isEmpty && w.all Raw.isOctal && Raw.valueIn 8 w ≤ 0o7777 then some (Raw.valueIn 8 w) else none

/-- Old permissions after the change that a word means; nothing if it means none. -/
def changed? (mask old : Nat) (isDirectory : Bool) (w : Raw) : Option Nat :=
  match octal? w with
  | some mode => some mode
  | none =>
    if w.isEmpty then none
    else (Raw.splitAt ',' w).foldlM (clause mask isDirectory) old

/-- The letters of one class; `special` stands in the place of the last one. -/
def classLetters (bits : Nat) (special : Option (Char × Char)) : Raw :=
  let x := bits % 2 = 1
  [if bits / 4 % 2 = 1 then 'r' else '-', if bits / 2 % 2 = 1 then 'w' else '-',
   match special with
   | some (set, unset) => if x then set else unset
   | none => if x then 'x' else '-']

/-- The letter of a file's kind. -/
def kindLetter (b : Body) : Char :=
  match b with
  | .directory .. => 'd'
  | .link _ | .descriptor _ => 'l'
  | .device _ => 'c'
  | .fifo _ => 'p'
  | _ => '-'

/-- The kind and the permissions of a file as ten characters. -/
def letters (n : Node) : Raw :=
  let m := n.mode
  kindLetter n.body ::
    (classLetters (m / 64 % 8) (if m &&& 0o4000 != 0 then some ('s', 'S') else none) ++
     classLetters (m / 8 % 8) (if m &&& 0o2000 != 0 then some ('s', 'S') else none) ++
     classLetters (m % 8) (if m &&& 0o1000 != 0 then some ('t', 'T') else none))

/-- What a mask leaves to each class, in words. -/
def maskLetters (mask : Nat) : Raw :=
  let left := 0o777 - (mask &&& 0o777)
  let part (who : Char) (bits : Nat) : Raw := who :: '=' :: (classLetters bits none).filter (· != '-')
  Raw.joined [','] [part 'u' (left / 64 % 8), part 'g' (left / 8 % 8), part 'o' (left % 8)]

end RunMeter.Machine.Permissions
