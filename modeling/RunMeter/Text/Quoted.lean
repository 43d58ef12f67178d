import RunMeter.Text.Printable
import RunMeter.Text.Utf8

/-!
# RunMeter.Text.Quoted — texts in double quotes

How log lines show a text or an octet string: in double quotes, with the quote, the backslash and every
character without a glyph escaped.  In an octet string a broken octet is written as two hexadecimal digits.
-/

namespace RunMeter.Quoted

/-- A digit of a number in base sixteen. -/
def hexDigit (upper : Bool) (n : Nat) : Char :=
  if n < 10 then Char.ofNat (48 + n) else Char.ofNat ((if upper then 55 else 87) + n)

/-- The hexadecimal digits of a number, without superfluous zeros. -/
def hexDigits (n : Nat) : List Char :=
  if n < 16 then [hexDigit false n] else hexDigits (n / 16) ++ [hexDigit false (n % 16)]
termination_by n
decreasing_by omega

/-- One character of a quoted text. -/
def escaped (c : Char) : List Char :=
  if c = '"' then ['\\', '"']
  else if c = '\\' then ['\\', '\\']
  else if c = '\n' then ['\\', 'n']
  else if c = '\r' then ['\\', 'r']
  else if c = '\t' then ['\\', 't']
  else if c.toNat = 0 then ['\\', '0']
  else if Printable.isPrintable c then [c]
  else '\\' :: 'u' :: '\x7b' :: hexDigits c.toNat ++ ['\x7d']

/-- A text in quotes. -/
def ofString (s : String) : String :=
  String.ofList ('"' :: s.toList.flatMap escaped ++ ['"'])

/-- An octet that belongs to no character. -/
def brokenOctet (b : UInt8) : List Char :=
  ['\\', 'x', hexDigit true (b.toNat / 16), hexDigit true (b.toNat % 16)]

/-- An octet string in quotes. -/
def ofOctets (bs : Octets) : String :=
  let body := (Utf8.spans bs).flatMap fun
    | (some c, _) => escaped c
    | (none, octets) => octets.flatMap brokenOctet
  String.ofList ('"' :: body ++ ['"'])

end RunMeter.Quoted
