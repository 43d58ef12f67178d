import RunMeter.Machine.Utility.Sources

/-!
# RunMeter.Machine.Utility.Bases — programs that write octets in digits

A base takes the bits of the octets in portions, each of which has a digit.  A group of octets that is not full is
filled up with marks.

* `Base.encode`, `Base.decode`: octets in digits and back.
* `encode85`, `decode85`: the base whose digits are not made of bits.
* `convert`: a program for one base; `anyBase`: a program for all of them.

Nothing that is proved depends on this module.
-/

namespace RunMeter.Machine.Bases

/-- A base: its digits, the bits of a digit, the digits of a group, and whether a group is filled up with marks. -/
structure Base where
  digits : Raw
  bits : Nat
  group : Nat
  marked : Bool
  /-- Whether the lowest bit comes first. -/
  lowFirst : Bool := false
  /-- Whether the octets of a group that breaks off are given before the complaint. -/
  lenient : Bool := false

namespace Base

/-- The octets of a full group. -/
def octets (b : Base) : Nat := b.bits * b.group / 8

/-- The digits of the octets of one group. -/
def encodeGroup (b : Base) (octets : Raw) : Raw :=
  let count := (octets.length * 8 + b.bits - 1) / b.bits
  let n := octets.foldl (fun n c => n * 256 + c.toNat) 0 <<< (count * b.bits - octets.length * 8)
  let ds := (List.range count).map fun i => b.digits.getD (n >>> (b.bits * i) % Nat.pow 2 b.bits) '0'
  let ds := if b.lowFirst then ds else ds.reverse
  ds ++ (if b.marked then List.replicate (b.group - count) '=' else [])

/-- Octets in digits. -/
def encode (b : Base) : (fuel : Nat) → Raw → Raw
  | 0, _ => []
  | _, [] => []
  | fuel + 1, r => b.encodeGroup (r.take b.octets) ++ encode b fuel (r.drop b.octets)

/-- The octets of the digits of one group, of which there may be too few. -/
def decodeGroup (b : Base) (ds : Raw) : Raw :=
  let ds := if b.lowFirst then ds.reverse else ds
  let n := ds.foldl (fun n c => n * Nat.pow 2 b.bits + b.digits.findIdx (· == c)) 0
  let count := ds.length * b.bits / 8
  let n := n >>> (ds.length * b.bits - count * 8)
  ((List.range count).map fun i => Char.ofNat (n >>> (8 * i) % 256)).reverse

/-- Whether so many digits make whole octets and no more. -/
def closes (b : Base) (count : Nat) : Bool :=
  count > 0 && count * b.bits % 8 < b.bits

/-- The octets of digits, and whether all of them could be read. -/
def decode (b : Base) : (fuel : Nat) → Raw → Raw × Bool
  | 0, _ => ([], true)
  | _, [] => ([], true)
  | fuel + 1, r =>
    let part := r.take b.group
    let ds := part.takeWhile b.digits.contains
    let full := ds.length = b.group || (b.marked && part.length = b.group && b.closes ds.length &&
      (part.drop ds.length).all (· == '='))
    if full then
      let (rest, good) := decode b fuel (r.drop b.group)
      (b.decodeGroup ds ++ rest, good)
    else (if b.lenient then b.decodeGroup ds else [], false)

end Base

/-- The digits with which most bases begin. -/
def letters : Raw := "ABCDEFGHIJKLMNOPQRSTUVWXYZ".toList

/-- Letters of both kinds, digits and two signs. -/
def of64 (signs : String) : Base :=
  ⟨letters ++ Raw.toLower letters ++ "0123456789".toList ++ signs.toList, 6, 4, true, false, true⟩

/-- Letters and some digits. -/
def of32 : Base := ⟨letters ++ "234567".toList, 5, 8, true, false, false⟩

/-- Digits and some letters. -/
def of32Ordered : Base := ⟨"0123456789".toList ++ letters.take 22, 5, 8, true, false, false⟩

/-- Hexadecimal digits. -/
def of16 : Base := ⟨"0123456789ABCDEF".toList, 4, 2, false, false, false⟩

/-- Bits. -/
def of2 (lowFirst : Bool) : Base := ⟨"01".toList, 1, 8, false, lowFirst, false⟩

/-! ## Base 85 -/

/-- The digits of base 85. -/
def digits85 : Raw :=
  "0123456789abcdefghijklmnopqrstuvwxyzABCDEFGHIJKLMNOPQRSTUVWXYZ.-:+=^!/*?&<>()[]".toList ++
      ['\x7b', '\x7d', '@', '%', '$', '#']

/-- Groups of four octets in five digits. -/
def encode85 : (fuel : Nat) → Raw → Raw
  | 0, _ => []
  | _, [] => []
  | fuel + 1, r =>
    let n := (r.take 4).foldl (fun n c => n * 256 + c.toNat) 0
    ((List.range 5).map fun i => digits85.getD (n / Nat.pow 85 i % 85) '0').reverse ++ encode85 fuel (r.drop 4)

/-- Groups of five digits as four octets, and whether all of them could be read. -/
def decode85 : (fuel : Nat) → Raw → Raw × Bool
  | 0, _ => ([], true)
  | _, [] => ([], true)
  | fuel + 1, r =>
    let part := r.take 5
    let n := part.foldl (fun n c => n * 85 + digits85.findIdx (· == c)) 0
    if part.length = 5 && part.all digits85.contains && n < Nat.pow 2 32 then
      let (rest, good) := decode85 fuel (r.drop 5)
      (((List.range 4).map fun i => Char.ofNat (n >>> (8 * i) % 256)).reverse ++ rest, good)
    else ([], false)

/-! ## The programs -/

/-- How octets are written, with the digits that count in what is read. -/
inductive Coding where
  | base (b : Base)
  | of85

namespace Coding

/-- Octets in digits; nothing if they can not be written. -/
def encode? (k : Coding) (r : Raw) : Option Raw :=
  match k with
  | .base b => some (b.encode (r.length + 1) r)
  | .of85 => if r.length % 4 = 0 then some (encode85 (r.length + 1) r) else none

/-- The octets of digits, and whether all of them could be read. -/
def decode (k : Coding) (r : Raw) : Raw × Bool :=
  match k with
  | .base b => b.decode (r.length + 1) r
  | .of85 => decode85 (r.length + 1) r

/-- Whether a character is a digit or a mark. -/
def isDigit (k : Coding) (ch : Char) : Bool :=
  match k with
  | .base b => b.digits.contains ch || (b.marked && ch == '=')
  | .of85 => digits85.contains ch

end Coding

/-- A text in lines of a width. -/
def inLines (width : Nat) : (fuel : Nat) → Raw → Raw
  | 0, _ => []
  | _, [] => []
  | fuel + 1, r => r.take width ++ '\n' :: inLines width fuel (r.drop width)

/-- The switches that all programs for bases know. -/
def longSwitches : List LongSwitch :=
  [⟨"decode", "d", .none⟩, ⟨"ignore-garbage", "i", .none⟩, ⟨"wrap", "w", .required⟩]

/-- Writes a file in digits, or reads them. -/
def work (c : Call) (g : Given) (k : Coding) : Act UInt8 := do
  match g.operands with
  | _ :: extra :: _ => c.misused (Raw.ofText "extra operand " ++ Raw.quoted extra) 1
  | paths =>
    match ← Call.contents (paths.headD ['-']) with
    | .error e =>
      c.fail (if e = .isDirectory then Raw.ofText ("read error: " ++ e.message) else Call.about (paths.headD ['-']) e) 1
    | .ok text =>
      if g.has "d" then
        let (octets, good) := k.decode (text.filter fun ch => if g.has "i" then k.isDigit ch else ch != '\n')
        c.emit octets 1
        if good then return 0 else c.fail (Raw.ofText "invalid input") 1
      else
        let width := (g.value? "w").getD "76".toList
        match Raw.natural? width, k.encode? text with
        | none, _ => c.fail (Raw.ofText "invalid wrap size: " ++ Raw.quoted width) 1
        | _, none => c.fail (Raw.ofText "invalid input (length must be multiple of 4 characters)") 1
        | some 0, some digits => c.put digits
        | some n, some digits => c.put (inLines n (digits.length + 1) digits)

/-- Writes octets in a base, or reads them. -/
def convert (b : Base) : Utility := fun c => do
  let g ← c.options ⟨"diw:", longSwitches, false⟩ 1
  work c g (.base b)

/-- The codings by the switches that choose them. -/
def codings : List (String × Coding) :=
  [("base64", .base (of64 "+/")), ("base64url", .base (of64 "-_")), ("base32", .base of32),
   ("base32hex", .base of32Ordered), ("base16", .base of16), ("base2msbf", .base (of2 false)),
   ("base2lsbf", .base (of2 true)), ("z85", .of85)]

/-- Writes octets in a chosen base, or reads them. -/
def anyBase : Utility := fun c => do
  let names := codings.map Prod.fst
  let g ← c.options ⟨"diw:", longSwitches ++ names.map fun n => ⟨n, n, .none⟩, false⟩ 1
  match (g.last? names).bind fun n => codings.find? fun k => k.1 == n with
  | some (_, k) => work c g k
  | none => c.misused (Raw.ofText "missing encoding type") 1

/-- The programs by name. -/
def programs : List (String × Utility) :=
  [("base64", convert (of64 "+/")), ("base32", convert of32), ("basenc", anyBase)]

end RunMeter.Machine.Bases
