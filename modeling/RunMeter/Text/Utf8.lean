/-!
# RunMeter.Text.Utf8 — text as octets

Commands, environment values and everything on a stream are strings of octets; most of them are UTF-8.

* `encode`: the octets of a text.
* `pieces`: an octet string cut into scalar values and *broken* pieces.  A broken piece is a longest start of a
  well-formed sequence that does not go on, or a single octet that starts none.
* `decode?`: the text of a well-formed string, and nothing for any other.
* `lossy`: the text with one replacement character for each broken piece.
-/

namespace RunMeter

/-- A string of octets, of any content. -/
abbrev Octets := List UInt8

namespace Utf8

/-- The octets of a text. -/
def encode (s : String) : Octets :=
  s.toList.flatMap String.utf8EncodeChar

/-- What the first octet of a sequence of two or more says: its own bits, how many octets follow, and between
which bounds the next one lies.  The later ones lie between 0x80 and 0xBF. -/
structure Lead where
  bits : Nat
  more : Nat
  low : UInt8
  high : UInt8

/-- The lead of a longer sequence.  The bounds on the second octet keep out overlong forms, surrogates and
everything past U+10FFFF. -/
def lead? (b : UInt8) : Option Lead :=
  if 0xC2 ≤ b && b ≤ 0xDF then some ⟨b.toNat - 0xC0, 1, 0x80, 0xBF⟩
  else if b == 0xE0 then some ⟨0, 2, 0xA0, 0xBF⟩
  else if b == 0xED then some ⟨0xD, 2, 0x80, 0x9F⟩
  else if 0xE1 ≤ b && b ≤ 0xEF then some ⟨b.toNat - 0xE0, 2, 0x80, 0xBF⟩
  else if b == 0xF0 then some ⟨0, 3, 0x90, 0xBF⟩
  else if 0xF1 ≤ b && b ≤ 0xF3 then some ⟨b.toNat - 0xF0, 3, 0x80, 0xBF⟩
  else if b == 0xF4 then some ⟨4, 3, 0x80, 0x8F⟩
  else none

/-- Reads `more` continuation octets, the first between `low` and `high`, onto the bits read so far.  It stops
at the first octet that does not fit, which is left in the rest. -/
def continued : (more : Nat) → (low high : UInt8) → (bits : Nat) → Octets → Option Char × Octets
  | 0, _, _, bits, rest => (some (Char.ofNat bits), rest)
  | _ + 1, _, _, _, [] => (none, [])
  | more + 1, low, high, bits, b :: rest =>
    if low ≤ b && b ≤ high then continued more 0x80 0xBF (bits * 64 + (b.toNat - 0x80)) rest
    else (none, b :: rest)

theorem length_continued (more : Nat) (low high : UInt8) (bits : Nat) (bs : Octets) :
    (continued more low high bits bs).2.length ≤ bs.length := by
  induction more generalizing low high bits bs with
  | zero => simp [continued]
  | succ more ih =>
    cases bs with
    | nil => simp [continued]
    | cons b rest =>
      rw [continued]
      split
      · exact Nat.le_succ_of_le (ih ..)
      · exact Nat.le_refl _

/-- The first piece of a string that starts with `b`, and what follows it. -/
def piece (b : UInt8) (bs : Octets) : Option Char × Octets :=
  if b < 0x80 then (some (Char.ofNat b.toNat), bs)
  else match lead? b with
    | some l => continued l.more l.low l.high l.bits bs
    | none => (none, bs)

theorem length_piece (b : UInt8) (bs : Octets) : (piece b bs).2.length ≤ bs.length := by
  unfold piece
  split
  · exact Nat.le_refl _
  · split
    · exact length_continued ..
    · exact Nat.le_refl _

/-- The pieces of a string in order: `some` for a scalar value, `none` for a broken piece. -/
def pieces : Octets → List (Option Char)
  | [] => []
  | b :: bs => (piece b bs).1 :: pieces (piece b bs).2
termination_by bs => bs.length
decreasing_by exact Nat.lt_succ_of_le (length_piece b bs)

/-- The pieces together with the octets of each, for printers that show broken octets. -/
def spans : Octets → List (Option Char × Octets)
  | [] => []
  | b :: bs =>
    let next := (piece b bs).2
    ((piece b bs).1, b :: bs.take (bs.length - next.length)) :: spans next
termination_by bs => bs.length
decreasing_by exact Nat.lt_succ_of_le (length_piece b bs)

/-- The text that the octets encode, if no piece is broken. -/
def decode? (bs : Octets) : Option String :=
  let cs := pieces bs
  if cs.all Option.isSome then some (String.ofList (cs.filterMap id)) else none

/-- Stands for a broken piece. -/
def replacement : Char := '\uFFFD'

/-- The text of the octets, with a replacement character for each broken piece. -/
def lossy (bs : Octets) : String :=
  String.ofList ((pieces bs).map fun c => c.getD replacement)

end Utf8
end RunMeter
