import RunMeter.Machine.Raw

/-!
# RunMeter.Machine.Utility.Piece — output and complaints in order

A program that keeps its output until it ends still writes it before what it has to complain about after it.

Nothing that is proved depends on this module.
-/

namespace RunMeter.Machine

/-- Something that a program shows. -/
inductive Piece where
  | output (octets : Raw)
  | complaint (message : Raw)

namespace Piece

/-- The output among pieces. -/
def outputs (pieces : List Piece) : Raw :=
  pieces.flatMap fun p => match p with
    | output octets => octets
    | complaint _ => []

/-- The complaints among pieces. -/
def complaints (pieces : List Piece) : List Raw :=
  pieces.filterMap fun p => match p with
    | output _ => none
    | complaint message => some message

/-- Pieces with those joined that are output one after the other. -/
def joined (pieces : List Piece) : List Piece :=
  pieces.foldr (fun p rest => match p, rest with
    | output a, output b :: rest => output (a ++ b) :: rest
    | p, rest => p :: rest) []

end Piece
end RunMeter.Machine
