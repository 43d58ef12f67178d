import RunMeter.Machine.Format
import RunMeter.Machine.Utility.Piece

/-!
# RunMeter.Machine.Utility.Printing — words and formats to output

What echo and printf write.  Both know escapes that begin with a backslash.  A format is used again as long as
it takes arguments and some are left.

Nothing that is proved depends on this module.
-/

namespace RunMeter.Machine.Printing

/-- Which of the kinds of the programs is meant: one of those inside the shells, or the one that stands alone. -/
inductive Kind where
  | plain
  | extended
  | alone
  deriving DecidableEq

/-- Where an escape stands. -/
inductive Place where
  | format
  /-- In an argument whose escapes count. -/
  | argument
  | echo
  deriving DecidableEq

/-- What comes of an escape. -/
inductive Escape where
  | text (r rest : Raw)
  /-- All output ends here. -/
  | stop
  /-- Digits are missing after the letter. -/
  | incomplete (letter : Char) (rest : Raw)

/-- The escapes of one letter that are known everywhere. -/
def simple? (c : Char) : Option Char :=
  match c with
  | 'a' => some '\x07'
  | 'b' => some '\x08'
  | 'f' => some '\x0c'
  | 'n' => some '\n'
  | 'r' => some '\r'
  | 't' => some '\t'
  | 'v' => some '\x0b'
  | 'e' => some '\x1b'
  | '\\' => some '\\'
  | _ => none

/-- A character by its number, spelled out where the machine's locale has none. -/
def unicode (n : Nat) : Raw :=
  if n < 128 then [Char.ofNat n]
  else if n < 65536 then '\\' :: 'u' :: Raw.padZeros 4 (Raw.toUpper (Raw.digits 16 n))
  else '\\' :: 'U' :: Raw.padZeros 8 (Raw.toUpper (Raw.digits 16 n))

/-- What an escape stands for, after its backslash. -/
def escape (kind : Kind) (place : Place) (cs : Raw) : Escape :=
  let octal (most : Nat) (cs : Raw) : Escape :=
    let ds := (cs.take most).takeWhile Raw.isOctal
    .text [Char.ofNat (Raw.valueIn 8 ds % 256)] (cs.drop ds.length)
  let hex (letter : Char) (most : Nat) (rest : Raw) (f : Nat → Raw) : Escape :=
    let ds := (rest.take most).takeWhile Raw.isHex
    if ds.isEmpty then
      if place = .echo then .text ['\\', letter] rest else .incomplete letter rest
    else .text (f (Raw.valueIn 16 ds)) (rest.drop ds.length)
  match cs with
  | [] => .text ['\\'] []
  | c :: rest =>
    match simple? c with
    | some e => .text [e] rest
    | none =>
      match c with
      | 'c' =>
        if place = .format && kind != .alone then .text ['\\', 'c'] rest else .stop
      | 'E' => if kind = .extended then .text ['\x1b'] rest else .text ['\\', 'E'] rest
      | '"' =>
        if (kind = .alone && place != .echo) || (kind = .extended && place = .format) then .text ['"'] rest
        else .text ['\\', '"'] rest
      | '\'' | '?' => if kind = .extended && place = .format then .text [c] rest else .text ['\\', c] rest
      | 'x' => if kind = .plain then .text ['\\', 'x'] rest else hex 'x' 2 rest fun n => [Char.ofNat n]
      | 'u' =>
        if kind = .plain || (kind = .alone && place = .echo) then .text ['\\', 'u'] rest else hex 'u' 4 rest unicode
      | 'U' =>
        if kind = .plain || (kind = .alone && place = .echo) then .text ['\\', 'U'] rest else hex 'U' 8 rest unicode
      | '0' => if place = .format then octal 3 cs else octal 3 rest
      | c =>
        if Raw.isOctal c && !(kind = .extended && place = .echo) then octal 3 cs else .text ['\\', c] rest

/-- A text with its escapes replaced, and whether the output ends in it. -/
def unescaped (kind : Kind) (place : Place) : (fuel : Nat) → Raw → Raw × Bool
  | 0, _ => ([], false)
  | _ + 1, [] => ([], false)
  | fuel + 1, '\\' :: rest =>
    let on (cs rest : Raw) : Raw × Bool :=
      let (more, ended) := unescaped kind place fuel rest
      (cs ++ more, ended)
    match escape kind place rest with
    | .stop => ([], true)
    | .text cs rest => on cs rest
    | .incomplete letter rest => on ['\\', letter] rest
  | fuel + 1, c :: rest =>
    let (more, ended) := unescaped kind place fuel rest
    (c :: more, ended)

/-- What echo writes for its arguments. -/
def echo (kind : Kind) (args : List Raw) : Raw :=
  let joined (escapes newline : Bool) (words : List Raw) : Raw :=
    let text := Raw.joined [' '] words
    let (text, ended) := if escapes then unescaped kind .echo (text.length + 1) text else (text, false)
    text ++ if newline && !ended then ['\n'] else []
  match kind, args with
  | .plain, ['-', 'n'] :: words => joined true false words
  | .plain, words => joined true true words
  | _, words =>
    let isSwitch (w : Raw) : Bool := match w with
      | '-' :: cs@(_ :: _) => cs.all fun c => c == 'n' || c == 'e' || c == 'E'
      | _ => false
    let switches := (words.takeWhile isSwitch).flatMap List.tail
    let escapes := (switches.filter fun c => c != 'n').getLast? == some 'e'
    joined escapes (!switches.contains 'n') (words.dropWhile isSwitch)

/-! ## Formats -/

/-- The value of a numeric argument: the number, and what is left of the argument after it. -/
def numeric (arg : Raw) : Int × Raw :=
  match arg with
  | '\'' :: rest | '"' :: rest => ((rest.map Char.toNat).headD 0, rest.drop 1)
  | _ =>
    let body := Raw.trimStart arg
    let (negative, body) := match body with
      | '-' :: rest => (true, rest)
      | '+' :: rest => (false, rest)
      | rest => (false, rest)
    let (base, digits, head) : Nat × Raw × Raw := match body with
      | '0' :: 'x' :: rest => (16, rest.takeWhile Raw.isHex, ['0', 'x'])
      | '0' :: 'X' :: rest => (16, rest.takeWhile Raw.isHex, ['0', 'x'])
      | '0' :: rest => (8, rest.takeWhile Raw.isOctal, ['0'])
      | rest => (10, rest.takeWhile Char.isDigit, [])
    if digits.isEmpty && head.isEmpty then (0, arg)
    else
      let n : Int := Raw.valueIn base digits
      (if negative then -n else n, body.drop (head.length + digits.length))

/-- What a format writes so far. -/
structure Written where
  /-- What is shown, the last first. -/
  shown : List Piece
  left : List Raw
  status : Nat
  ended : Bool
  /-- Whether a conversion has asked for an argument. -/
  asked : Bool

namespace Written

/-- All that is shown in order. -/
def pieces (w : Written) : List Piece := w.shown.reverse

/-- All that is written. -/
def output (w : Written) : Raw := Piece.outputs w.pieces

/-- All complaints. -/
def complaints (w : Written) : List Raw := Piece.complaints w.pieces

/-- What is written with a text after it. -/
def put (w : Written) (text : Raw) : Written := { w with shown := .output text :: w.shown }

/-- What is written with a complaint and a status. -/
def complain (w : Written) (message : Raw) (status : Nat) : Written :=
  { w with shown := .complaint message :: w.shown, status := max status w.status }

/-- Takes an argument. -/
def take (w : Written) : Option Raw × Written :=
  match w.left with
  | a :: rest => (some a, { w with left := rest, asked := true })
  | [] => (none, { w with asked := true })

end Written

/-- The complaint about a numeric argument. -/
def unnumeric (kind : Kind) (arg : Raw) (partly : Bool) : Raw :=
  match kind, partly with
  | .plain, false => arg ++ Raw.ofText ": expected numeric value"
  | .plain, true => arg ++ Raw.ofText ": not completely converted"
  | .extended, _ => arg ++ Raw.ofText ": invalid number"
  | .alone, false => Raw.quoted arg ++ Raw.ofText ": expected a numeric value"
  | .alone, true => Raw.quoted arg ++ Raw.ofText ": value not completely converted"

/-- Takes a numeric argument in a range. -/
def takeNumber (kind : Kind) (least greatest : Int) (w : Written) : Int × Written :=
  let (arg, w) := w.take
  match arg with
  | none | some [] => (0, w)
  | some a =>
    let (n, rest) := numeric a
    let w := if rest.isEmpty then w else w.complain (unnumeric kind a (rest.length < a.length)) 1
    if least ≤ n ∧ n ≤ greatest then (n, w)
    else
      let message : Raw := Raw.ofText ": Numerical result out of range"
      let clamped := if n < least then least else greatest
      match kind with
      | .plain => (clamped, w.complain (a ++ message) 1)
      | .extended => (clamped, w.complain (Raw.ofText "warning: " ++ a ++ message) 0)
      | .alone => (clamped, w.complain (Raw.quoted a ++ message) 1)

/-- Takes an argument that may have a fraction. -/
def takeQuantity (kind : Kind) (w : Written) : Quantity × Written :=
  let (arg, w) := w.take
  match arg with
  | none | some [] => (.zero, w)
  | some a =>
    match a with
    | '\'' :: c :: _ | '"' :: c :: _ => (.ofRat (c.toNat : Nat), w)
    | _ =>
      match Quantity.ofText? (if kind = .plain then 53 else 64) a with
      | some (q, []) => (q, w)
      | some (q, _) => (q, w.complain (unnumeric kind a true) 1)
      | none => (.zero, w.complain (unnumeric kind a false) 1)

/-- A text with backslashes, so that a shell of the extended dialect reads it as one word. -/
def protectedWord (r : Raw) : Raw :=
  if r.isEmpty then "''".toList
  else if r.any fun c => c.toNat < 32 || c.toNat ≥ 127 then
    "$'".toList ++ (r.flatMap fun c =>
      if c = '\'' || c = '\\' then ['\\', c]
      else if c = '\x1b' then "\\E".toList
      else if Raw.isShown c then [c]
      else Raw.escaped c) ++ ['\'']
  else r.zipIdx.flatMap fun (c, i) =>
    if c.isAlphanum || "%+-./:=@_".toList.contains c || (c = '#' && i > 0) || (c = '~' && i > 0) then [c]
    else ['\\', c]

/-- Writes one conversion; nothing if there is no such one. -/
def convert (kind : Kind) (c : Conversion) (w : Written) : Option Written :=
  match c.letter with
  | '%' => some (w.put ['%'])
  | 's' =>
    let (arg, w) := w.take
    some (w.put (c.text (arg.getD [])))
  | 'c' =>
    let (arg, w) := w.take
    some (w.put (c.field [(arg.getD []).headD (Char.ofNat 0)]))
  | 'b' =>
    let (arg, w) := w.take
    let text := arg.getD []
    let (text, ended) := unescaped kind .argument (text.length + 1) text
    some { w.put (c.text text) with ended := ended }
  | 'd' | 'i' =>
    let (n, w) := takeNumber kind (-9223372036854775808) 9223372036854775807 w
    some (w.put (c.signed n))
  | 'q' =>
    match kind with
    | .plain => none
    | .extended =>
      let (arg, w) := w.take
      some (w.put (c.text (protectedWord (arg.getD []))))
    | .alone =>
      let (arg, w) := w.take
      some (w.put (Raw.displayed (arg.getD [])))
  | 'Q' =>
    if kind != .extended then none
    else
      let (arg, w) := w.take
      some (w.put (c.field (protectedWord (arg.getD []))))
  | 'u' | 'o' | 'x' | 'X' =>
    let (n, w) := takeNumber kind (-18446744073709551615) 18446744073709551615 w
    some (w.put (c.unsigned (n % 18446744073709551616).toNat))
  | 'e' | 'E' | 'f' | 'F' | 'g' | 'G' | 'a' | 'A' =>
    let (q, w) := takeQuantity kind w
    some (w.put (c.real (kind != .plain) q))
  | _ => none

/-- A width or precision: digits, or a star for the next argument. -/
def measure (kind : Kind) (cs : Raw) (w : Written) : Option Int × Raw × Written :=
  match cs with
  | '*' :: rest =>
    let (n, w) := takeNumber kind (-2147483648) 2147483647 w
    (some n, rest, w)
  | _ =>
    let ds := cs.takeWhile Char.isDigit
    (if ds.isEmpty then none else some (Raw.valueIn 10 ds : Int), cs.drop ds.length, w)

/-- What is said of a conversion that there is not. -/
def unknownConversion (kind : Kind) (spec rest : Raw) : Raw :=
  let shown := '%' :: spec.take (spec.length - rest.length + 1)
  match kind, rest with
  | .plain, [] => Raw.ofText "missing format character"
  | .plain, _ => shown ++ Raw.ofText ": invalid directive"
  | .extended, [] => '`' :: shown ++ Raw.ofText "': missing format character"
  | .extended, c :: _ => ['`', c] ++ Raw.ofText "': invalid format character"
  | .alone, _ => shown ++ Raw.ofText ": invalid conversion specification"

/-- Writes a format once, from what is left of it. -/
def once (kind : Kind) : (fuel : Nat) → Raw → Written → Written
  | 0, _, w => w
  | _ + 1, [], w => w
  | fuel + 1, '\\' :: rest, w =>
    match escape kind .format rest with
    | .stop => { w with ended := true }
    | .text cs rest => once kind fuel rest (w.put cs)
    | .incomplete letter rest =>
      if kind = .alone then { w.complain (Raw.ofText "missing hexadecimal number in escape") 1 with ended := true }
      else once kind fuel rest ((w.put ['\\', letter]).complain (Raw.ofText "missing hex digit for \\" ++ [letter]) 0)
  | fuel + 1, '%' :: spec, w =>
    let flags := spec.takeWhile (if kind = .alone then "-+ #0'I" else "-+ #0'").toList.contains
    let (width, rest, w) := measure kind (spec.drop flags.length) w
    let (precision, rest, w) := match rest with
      | '.' :: rest =>
        let (p, rest, w) := measure kind rest w
        (some (p.getD 0), rest, w)
      | rest => (none, rest, w)
    let rest := if kind = .plain then rest else rest.dropWhile "hlLjzt".toList.contains
    let letter := rest.headD ' '
    let bare := flags.isEmpty && width.isNone && precision.isNone
    match if letter = '%' && !bare then none else convert kind ⟨flags, width, precision, letter⟩ w with
    | some w => if w.ended then w else once kind fuel (rest.drop 1) w
    | none =>
      let w := w.complain (unknownConversion kind spec rest) (if kind = .plain then 2 else 1)
      { w with ended := true }
  | fuel + 1, c :: rest, w =>
    let plain := (c :: rest).takeWhile fun c => c != '\\' && c != '%'
    once kind fuel ((c :: rest).drop plain.length) (w.put plain)

/-- Writes a format as often as it takes arguments, at most `fuel` times. -/
def formatted (kind : Kind) (format : Raw) : (fuel : Nat) → Written → Written
  | 0, w => w
  | fuel + 1, w =>
    let next := once kind (format.length + 1) format { w with asked := false }
    if next.ended || !next.asked || next.left.isEmpty then next else formatted kind format fuel next

/-- What printf writes for a format and its arguments. -/
def printf (kind : Kind) (format : Raw) (args : List Raw) : Written :=
  let w := formatted kind format (args.length + 1) ⟨[], args, 0, false, false⟩
  match kind, w.ended, w.left with
  | .alone, false, a :: _ =>
    w.complain (Raw.ofText "warning: ignoring excess arguments, starting with " ++ Raw.quoted a) 0
  | _, _, _ => w

end RunMeter.Machine.Printing
