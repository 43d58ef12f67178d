import RunMeter.Text.Utf8

/-!
# RunMeter.Machine.Raw — octet strings by character

The programs of the machine read and write octets.  They hold an octet as the character of the same number, so
that their rules can name characters.

Nothing that is proved depends on this module.
-/

namespace RunMeter.Machine

/-- An octet string, an octet as the character of the same number. -/
abbrev Raw := List Char

/-- An octet string hashes as the list of its characters. -/
instance : Hashable Raw := @instHashableList Char instHashableChar

namespace Raw

/-- An octet string by character. -/
def ofOctets (bs : Octets) : Raw :=
  bs.map fun b => Char.ofNat b.toNat

/-- The octets of a string by character. -/
def toOctets (r : Raw) : Octets :=
  r.map fun c => UInt8.ofNat c.toNat

/-- The octets of a text. -/
def ofText (s : String) : Raw :=
  ofOctets (Utf8.encode s)

/-- The text of a string that holds plain characters only. -/
def text (r : Raw) : String := String.ofList r

/-- The decimal digits of a number. -/
def ofNat (n : Nat) : Raw := (toString n).toList

/-- The decimal digits of a number, after a minus sign if it is negative. -/
def ofInt (n : Int) : Raw := (toString n).toList

/-- Strings with another between each two of them. -/
def joined (between : Raw) (parts : List Raw) : Raw :=
  (parts.intersperse between).flatten

/-- The parts of a string between the places where a character satisfies a test. -/
def splitBy (test : Char → Bool) (r : Raw) : List Raw :=
  let (part, parts) := r.foldr (fun c (part, parts) =>
    if test c then ([], part :: parts) else (c :: part, parts)) (([] : Raw), ([] : List Raw))
  part :: parts

/-- The parts of a string between the places where a character stands. -/
def splitAt (c : Char) (r : Raw) : List Raw :=
  splitBy (· == c) r

/-- The lines of a string.  What stands after the last end of line is a line if it is not empty. -/
def lines (r : Raw) : List Raw :=
  let parts := splitAt '\n' r
  if parts.getLast? = some [] then parts.dropLast else parts

/-- Lines with their ends; the last may have none. -/
def linesWithEnds (r : Raw) : List Raw :=
  let ls := lines r
  if r.getLast? = some '\n' then ls.map (· ++ ['\n'])
  else ls.dropLast.map (· ++ ['\n']) ++ ls.getLast?.toList

/-- A string cut after its first end of line, if it has one. -/
def firstLine? (r : Raw) : Option (Raw × Raw) :=
  let line := r.takeWhile (· != '\n')
  match r.drop line.length with
  | _ :: rest => some (line, rest)
  | [] => none

/-- Whether a string comes no later than another in the order of octets. -/
def atMost : Raw → Raw → Bool
  | [], _ => true
  | _ :: _, [] => false
  | c :: r, d :: s => c.toNat < d.toNat || (c == d && atMost r s)

/-- A character that separates words. -/
def isSpace (c : Char) : Bool :=
  c == ' ' || (9 ≤ c.toNat && c.toNat ≤ 13)

/-- A character that shows as itself. -/
def isShown (c : Char) : Bool :=
  32 ≤ c.toNat && c.toNat < 127

/-- A character that shows as a mark. -/
def isPunctuation (c : Char) : Bool :=
  32 < c.toNat && c.toNat < 127 && !c.isAlphanum

/-- A digit in base eight. -/
def isOctal (c : Char) : Bool := '0' ≤ c && c ≤ '7'

/-- A digit in base sixteen. -/
def isHex (c : Char) : Bool := c.isDigit || ('a' ≤ c && c ≤ 'f') || ('A' ≤ c && c ≤ 'F')

/-- The named class of characters in a set. -/
def inClass (name : String) (c : Char) : Bool :=
  match name with
  | "alpha" => c.isAlpha
  | "digit" => c.isDigit
  | "alnum" => c.isAlphanum
  | "upper" => c.isUpper
  | "lower" => c.isLower
  | "space" => isSpace c
  | "blank" => c == ' ' || c == '\t'
  | "punct" => isPunctuation c
  | "xdigit" => isHex c
  | "graph" => 32 < c.toNat && c.toNat < 127
  | "print" => isShown c
  | "cntrl" => c.toNat < 32 || c.toNat = 127
  | _ => false

/-- The value of a digit, letters counting on from ten. -/
def digitValue (c : Char) : Nat :=
  if c.isDigit then c.toNat - 48 else if c.isUpper then c.toNat - 55 else c.toNat - 87

/-- The number that digits in a base stand for. -/
def valueIn (base : Nat) (digits : Raw) : Nat :=
  digits.foldl (fun v c => v * base + digitValue c) 0

/-- The digits of a number in a base up to sixteen. -/
def digits (base n : Nat) : Raw :=
  Nat.toDigits base n

/-- The number that a word denotes, if it is one. -/
def natural? (r : Raw) : Option Nat :=
  if !r.isEmpty && r.all Char.isDigit then some (valueIn 10 r) else none

/-- The number that a word denotes, perhaps with a sign. -/
def integer? (r : Raw) : Option Int :=
  match r with
  | '-' :: ds => (natural? ds).map fun n => -(n : Int)
  | '+' :: ds => (natural? ds).map fun n => (n : Int)
  | ds => (natural? ds).map fun n => (n : Int)

/-- A string without the blanks at its start. -/
def trimStart (r : Raw) : Raw := r.dropWhile isSpace

/-- A string without the characters at its end that satisfy a test. -/
def dropEndWhile (test : Char → Bool) (r : Raw) : Raw :=
  (r.reverse.dropWhile test).reverse

/-- A string without the blanks at its ends. -/
def trim (r : Raw) : Raw := dropEndWhile isSpace (trimStart r)

/-- The words of a string. -/
def words (r : Raw) : List Raw :=
  (splitBy isSpace r).filter (!·.isEmpty)

/-- A string filled up at its start. -/
def padStart (width : Nat) (r : Raw) : Raw :=
  List.replicate (width - r.length) ' ' ++ r

/-- Digits filled up at their start. -/
def padZeros (width : Nat) (r : Raw) : Raw :=
  List.replicate (width - r.length) '0' ++ r

/-- A string filled up at its end. -/
def padEnd (width : Nat) (r : Raw) : Raw :=
  r ++ List.replicate (width - r.length) ' '

/-- A string in small letters. -/
def toLower (r : Raw) : Raw := r.map Char.toLower

/-- A string in capital letters. -/
def toUpper (r : Raw) : Raw := r.map Char.toUpper

/-- Whether a string begins with another. -/
def startsWith (start r : Raw) : Bool := start.isPrefixOf r

/-- What follows the first place where a string stands in another. -/
def after? (mark : Raw) : Raw → Option Raw
  | [] => if mark.isEmpty then some [] else none
  | r@(_ :: rest) => if mark.isPrefixOf r then some (r.drop mark.length) else after? mark rest

/-- Whether a string is the name of a variable. -/
def isName : Raw → Bool
  | [] => false
  | c :: rest => (c.isAlpha || c == '_') && rest.all fun c => c.isAlphanum || c == '_'

/-- The name of a variable at the start of a string; empty if there is none. -/
def nameAtStart (r : Raw) : Raw :=
  match r with
  | c :: _ => if c.isAlpha || c == '_' then r.takeWhile fun c => c.isAlphanum || c == '_' else []
  | [] => []

/-- A character that does not show as itself, as an escape: by letter or by three octal digits. -/
def escaped (c : Char) : Raw :=
  match "\x07\x08\t\n\x0b\x0c\r".toList.findIdx? (· == c) with
  | some i => ['\\', "abtnvfr".toList.getD i 'n']
  | none =>
    let n := c.toNat
    '\\' :: [n / 64, n / 8 % 8, n % 8].map fun d => Char.ofNat (48 + d)

/-- The rest of a name in quotes; `escaping` says that the last character was an escape. -/
def quotedRest : (escaping : Bool) → Raw → Raw
  | _, [] => ['\'']
  | escaping, c :: rest =>
    if isShown c then
      (if escaping then ['\'', '\''] else []) ++ (if c = '\'' then "'\\''".toList else [c]) ++ quotedRest false rest
    else (if escaping then [] else "'$'".toList) ++ escaped c ++ quotedRest true rest

/-- A name in quotes. -/
def quoted (r : Raw) : Raw :=
  if r.contains '\'' && r.all fun c => isShown c && !"\"$`\\".toList.contains c then '"' :: r ++ ['"']
  else '\'' :: quotedRest false r

/-- A name, in quotes if it holds more than plain characters. -/
def displayed (r : Raw) : Raw :=
  let plain := r.all fun c => c.isAlphanum || "-_./,@%+{}]~#:".toList.contains c
  if plain && !r.isEmpty && r.head? != some '~' && r.head? != some '#' then r else quoted r

end Raw
end RunMeter.Machine
