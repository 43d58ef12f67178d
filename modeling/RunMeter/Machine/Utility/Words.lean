import RunMeter.Machine.Utility.Call
import RunMeter.Machine.Utility.Condition
import RunMeter.Machine.Utility.Notice
import RunMeter.Machine.Utility.Printing

/-!
# RunMeter.Machine.Utility.Words — programs that write words and decide

Programs that need nothing but their words, their variables and the time.

Nothing that is proved depends on this module.
-/

namespace RunMeter.Machine.Words

/-- Succeeds. -/
def yes : Utility := (Notice.ofVerdict "success").before "true" 0 fun _ => return 0

/-- Fails. -/
def no : Utility := (Notice.ofVerdict "failure").before "false" 1 fun _ => return 1

/-- Writes its words. -/
def echo : Utility := fun c => c.put (Printing.echo .alone c.args)

/-- Writes a format. -/
def printf : Utility := fun c => do
  let args := if c.args.head? = some ['-', '-'] then c.args.tail else c.args
  match args with
  | [] => c.misused (Raw.ofText "missing operand") 1
  | format :: args =>
    let w := Printing.printf .alone format args
    c.display w.pieces 1
    return UInt8.ofNat w.status

/-- Decides a condition. -/
def test : Utility := fun c => do
  let bracketed := c.baseName = ['[']
  match ← Act.ask fun pid k => Condition.ofWords ⟨.alone, k, pid, fun _ => false, fun _ => false⟩ bracketed c.args with
  | .ok v => return if v then 0 else 1
  | .error fault => c.fail (fault.message .alone) 2

/-- Writes its words line after line. -/
def endless : Utility := fun c => do
  let g ← c.options ⟨"", [], true⟩ 1
  let words := if g.operands.isEmpty then [['y']] else g.operands
  let line := Raw.joined [' '] words ++ ['\n']
  let block := (List.replicate (8192 / line.length + 1) line).flatten
  let rec go : (fuel : Nat) → Act UInt8
    | 0 => return 0
    | fuel + 1 => do
      match ← Act.write 1 block with
      | none => go fuel
      | some e => c.fail (Raw.ofText ("standard output: " ++ e.message)) 1
  go 1000000000

/-- The factor of the letter at the end of a time. -/
def unitOf (c : Char) : Option Nat :=
  match c with
  | 's' => some 1
  | 'm' => some 60
  | 'h' => some 3600
  | 'd' => some 86400
  | _ => none

/-- How long a word means, in microseconds; without an end if that is not finite. -/
def interval? (w : Raw) : Option (Option Nat) :=
  match Quantity.ofText? 53 w with
  | some (⟨negative, magnitude⟩, rest) =>
    let unit := match rest with
      | [] => some 1
      | [c] => unitOf c
      | _ => none
    match magnitude, unit with
    | .finite q, some n => if negative && q > 0 then none else some (some (q * (n * 1000000 : Nat)).ceil.toNat)
    | .infinite, some _ => if negative then none else some none
    | _, _ => none
  | none => none

/-- What is said of a word that is no time. -/
def noInterval (w : Raw) : Raw := Raw.ofText "invalid time interval " ++ Raw.quoted w

/-- Waits. -/
def sleep : Utility := fun c => do
  let g ← c.options ⟨"", [], true⟩ 1
  if g.operands.isEmpty then c.misused (Raw.ofText "missing operand") 1
  else
    let times := g.operands.map interval?
    for (w, t) in g.operands.zip times do
      if t.isNone then c.complain (noInterval w)
    if times.any Option.isNone then c.hint 1
    else
      let finite := times.filterMap fun t => t.bind id
      if finite.length < times.length then
        Act.pause
        return 0
      else
        let _ ← Act.sleep (finite.foldl (· + ·) 0)
        return 0

/-- Shows variables. -/
def printenv : Utility := fun c => do
  let g ← c.options ⟨"0", [⟨"null", "0", .none⟩], true⟩ 2
  let ending := if g.has "0" then '\x00' else '\n'
  match g.operands with
  | [] => c.put (c.env.flatMap fun v => v.1 ++ '=' :: v.2 ++ [ending])
  | names =>
    let found := names.map fun n => (c.env.find? fun v => v.1 == n).map Prod.snd
    c.emit ((found.filterMap id).flatMap (· ++ [ending])) 2
    return if found.all Option.isSome then 0 else 1

/-! ## Counting -/

/-- A number as it is written: its value, and how many digits stand after the point. -/
structure Written where
  value : Rat
  places : Nat

/-- The number that a word is. -/
def written? (w : Raw) : Option Written :=
  match Quantity.ofText? 64 w with
  | some (⟨negative, .finite q⟩, []) =>
    let fraction := ((w.dropWhile (· != '.')).drop 1).takeWhile Char.isDigit
    some ⟨if negative then -q else q, fraction.length⟩
  | _ => none

/-- A rational number exactly as far as its places go: what a word in decimal digits means. -/
def decimal? (w : Raw) : Option Rat :=
  let (negative, digits) := match w with
    | '-' :: rest => (true, rest)
    | '+' :: rest => (false, rest)
    | rest => (false, rest)
  let (q, count, rest) := Quantity.mantissa 10 Char.isDigit digits
  if count = 0 || !rest.isEmpty then none else some (if negative then -q else q)

/-- The switches of the program that counts: they end where a negative number stands. -/
def countWords (ws : List Raw) : List Raw :=
  match ws.findIdx? fun w => match w with
    | '-' :: d :: _ => d.isDigit || d = '.'
    | _ => false with
  | some i => ws.take i ++ ['-', '-'] :: ws.drop i
  | none => ws

/-- The numbers from one to another by a step. -/
def series (first step last : Rat) : List Rat :=
  let count := if step = 0 then 0 else ((last - first) / step).floor + 1
  (List.range count.toNat).map fun i => first + step * (i : Nat)

/-- A number with so many places. -/
def fixedText (places : Nat) (q : Rat) : Raw :=
  (if q < 0 then ['-'] else []) ++ Quantity.fixed (if q < 0 then -q else q) places false

/-- A number in a format with one conversion. -/
def inFormat (format : Raw) (q : Rat) : Raw :=
  let head := format.takeWhile (· != '%')
  match format.drop head.length with
  | _ :: spec =>
    let (conversion, rest) := Conversion.ofText spec
    head ++ conversion.real true (Quantity.ofRat q) ++ rest
  | [] => head

/-- Counts. -/
def seq : Utility := fun c => do
  let switches : Switches := ⟨"f:s:w", [⟨"format", "f", .required⟩, ⟨"separator", "s", .required⟩,
    ⟨"equal-width", "w", .none⟩], true⟩
  let g ← ({ c with words := c.name :: countWords c.args }).options switches 1
  match g.operands with
  | [] => c.misused (Raw.ofText "missing operand") 1
  | _ :: _ :: _ :: extra :: _ => c.misused (Raw.ofText "extra operand " ++ Raw.quoted extra) 1
  | ws =>
    match ws.find? fun w => (written? w).isNone with
    | some bad => c.misused (Raw.ofText "invalid floating point argument: " ++ Raw.quoted bad) 1
    | none =>
      let exact (w : Raw) : Rat := (decimal? w).getD (((written? w).map Written.value).getD 0)
      let (first, step, last) : Raw × Raw × Raw := match ws with
        | [l] => (['1'], ['1'], l)
        | [f, l] => (f, ['1'], l)
        | f :: s :: l :: _ => (f, s, l)
        | [] => (['1'], ['1'], ['0'])
      if exact step = 0 then
        c.misused (Raw.ofText "invalid Zero increment value: " ++ Raw.quoted step) 1
      else
        let places (w : Raw) : Nat := ((written? w).map Written.places).getD 0
        let most := max (places first) (places step)
        let values := series (exact first) (exact step) (exact last)
        let plain := values.map (fixedText most)
        let width :=
          if g.has "w" then (([fixedText most (exact first), fixedText most (exact last)].map List.length).max?).getD 0
          else 0
        let padded (r : Raw) : Raw := match r with
          | '-' :: ds => '-' :: Raw.padZeros (width - 1) ds
          | ds => Raw.padZeros width ds
        let texts := match g.value? "f" with
          | some format => values.map (inFormat format)
          | none => plain.map padded
        let separator := (g.value? "s").getD ['\n']
        if texts.isEmpty then return 0 else c.put (Raw.joined separator texts ++ ['\n'])

/-! ## Paths as words -/

/-- A path without slashes at its end. -/
def withoutSlashes (path : Raw) : Raw :=
  let bare := Raw.dropEndWhile (· == '/') path
  if bare.isEmpty && !path.isEmpty then ['/'] else bare

/-- The last part of a path, perhaps without an ending. -/
def lastPart (path ending : Raw) : Raw :=
  let bare := withoutSlashes path
  let name := if bare = ['/'] then bare else ((Raw.splitAt '/' bare).getLast?).getD []
  let cut := !ending.isEmpty && ending.length < name.length && ending.isSuffixOf name
  if cut then name.take (name.length - ending.length) else name

/-- The last part of paths. -/
def basename : Utility := fun c => do
  let g ← c.options ⟨"as:z", [⟨"multiple", "a", .none⟩, ⟨"suffix", "s", .required⟩, ⟨"zero", "z", .none⟩], true⟩ 1
  let ending := if g.has "z" then '\x00' else '\n'
  match g.operands with
  | [] => c.misused (Raw.ofText "missing operand") 1
  | paths =>
    if g.has "a" || g.has "s" then
      c.put (paths.flatMap fun p => lastPart p ((g.value? "s").getD []) ++ [ending])
    else match paths with
      | _ :: _ :: extra :: _ => c.misused (Raw.ofText "extra operand " ++ Raw.quoted extra) 1
      | path :: rest => c.put (lastPart path (rest.headD []) ++ [ending])
      | [] => return 1

/-- A path without its last part. -/
def withoutLastPart (path : Raw) : Raw :=
  let parts := Raw.splitAt '/' (withoutSlashes path)
  let above := Raw.dropEndWhile (· == '/') (Raw.joined ['/'] parts.dropLast)
  if parts.length ≤ 1 then (if path.head? = some '/' then ['/'] else ['.'])
  else if above.isEmpty then ['/'] else above

/-- Paths without their last part. -/
def dirname : Utility := fun c => do
  let g ← c.options ⟨"z", [⟨"zero", "z", .none⟩], true⟩ 1
  match g.operands with
  | [] => c.misused (Raw.ofText "missing operand") 1
  | paths => c.put (paths.flatMap fun p => withoutLastPart p ++ [if g.has "z" then '\x00' else '\n'])

/-- The prime factors of a number, from `d` on. -/
def factorsFrom : (fuel : Nat) → (d n : Nat) → List Nat
  | 0, _, n => [n]
  | fuel + 1, d, n =>
    if n < 2 then []
    else if d * d > n then [n]
    else if n % d = 0 then d :: factorsFrom fuel d (n / d) else factorsFrom fuel (d + 1) n

/-- The prime factors of numbers. -/
def factor : Utility := fun c => do
  let words ← if c.args.isEmpty then do pure (Raw.words (← Call.input)) else pure c.args
  let mut code : UInt8 := 0
  let mut output : List Raw := []
  for w in words do
    match Raw.natural? w with
    | some n =>
      output := (Raw.ofNat n ++ [':'] ++ ((factorsFrom 1000000 2 n).flatMap fun p => ' ' :: Raw.ofNat p) ++ ['\n']) :: output
    | none =>
      c.complain (Raw.quoted w ++ Raw.ofText " is not a valid positive integer")
      code := 1
  c.emit output.reverse.flatten 1
  return code

/-- The programs by name. -/
def programs : List (String × Utility) :=
  [("true", yes), ("false", no), ("echo", echo), ("printf", printf), ("test", test), ("[", test), ("yes", endless),
   ("sleep", sleep), ("printenv", printenv), ("seq", seq), ("basename", basename), ("dirname", dirname),
   ("factor", factor)]

end RunMeter.Machine.Words
