import RunMeter.Checked
import RunMeter.System.IoError
import RunMeter.Text.Decimal

/-!
# RunMeter.Workload.StackDive — a deep recursion on a thread of its own

* `descend`: the recursion, which carries eight counters down to a limit and returns the depth it reached.
* `stackBytes`: the stack that a thread asks for, in octets.
* `stackDive`: the recursion on a thread whose stack the system grants or refuses.
-/

namespace RunMeter.Workload

/-- Eight words that the recursion carries along. -/
structure Counters where
  a : Int64
  b : Int64
  c : Int64
  e : Int64
  f : Int64
  g : Int64
  h : Int64
  i : Int64
  deriving DecidableEq

namespace Counters

/-- The counters 1 to 8. -/
def start : Counters := ⟨1, 2, 3, 4, 5, 6, 7, 8⟩

/-- All counters one greater, if none leaves the words. -/
def advance (x : Counters) : Option Counters := do
  let a ← Checked.add x.a 1
  let b ← Checked.add x.b 1
  let c ← Checked.add x.c 1
  let e ← Checked.add x.e 1
  let f ← Checked.add x.f 1
  let g ← Checked.add x.g 1
  let h ← Checked.add x.h 1
  let i ← Checked.add x.i 1
  return ⟨a, b, c, e, f, g, h, i⟩

end Counters

/-- Goes down from a depth to a limit, one call for each step, and returns the depth at the end. -/
def descend (limit depth : Int64) (x : Counters) : Option Int64 :=
  if _more : depth < limit then
    match _deeper : Checked.add depth 1 with
    | none => none
    | some deeper =>
      match x.advance with
      | none => none
      | some x => descend limit deeper x
  else some depth
termination_by (limit.toInt - depth.toInt).toNat
decreasing_by
  have h1 := Checked.toInt_of_add _deeper
  have h2 := Int64.lt_iff_toInt_lt.1 _more
  have h3 : (1 : Int64).toInt = 1 := by decide
  omega

/-- At the limit the depth is the result. -/
theorem descend_of_le {limit depth : Int64} (x : Counters) (h : limit.toInt ≤ depth.toInt) :
    descend limit depth x = some depth := by
  rw [descend, dif_neg fun hlt => Int.not_lt.2 h (Int64.lt_iff_toInt_lt.1 hlt)]

/-- Above the limit one call leads to the next depth with all counters one greater. -/
theorem descend_of_lt {limit depth deeper : Int64} {x y : Counters} (h : depth.toInt < limit.toInt)
    (hdeeper : Checked.add depth 1 = some deeper) (hy : x.advance = some y) :
    descend limit depth x = descend limit deeper y := by
  rw [descend, dif_pos (Int64.lt_iff_toInt_lt.2 h)]
  split
  · rename_i none_of
    exact absurd (none_of.symm.trans hdeeper) nofun
  · rename_i deeper' e
    obtain rfl : deeper' = deeper := Option.some.inj (e.symm.trans hdeeper)
    rw [hy]

/-- The stack that a thread asks for, in octets: so many mebibytes, or the greatest word if they are more. -/
def stackBytes (mib : UInt64) : UInt64 :=
  let octets := mib.toNat * 1048576
  if octets < UInt64.size then UInt64.ofNat octets else UInt64.ofNat (UInt64.size - 1)

/-- The system's rule for stacks: the error that refuses a size in octets, if it is refused. -/
abbrev StackRule := UInt64 → Option IoError

/-- Why a dive has no result. -/
inductive DiveError where
  /-- The thread could not be created with so many mebibytes of stack. -/
  | refused (mib : UInt64) (cause : IoError)
  /-- The thread ended before its result. -/
  | lost
  deriving DecidableEq

namespace DiveError

/-- The text that is shown for an error. -/
def message : DiveError → String
  | refused mib _ =>
    "failed to spawn stack dive thread with " ++ Decimal.ofNat mib.toNat ++ " MiB stack"
  | lost => "stack dive thread panicked"

/-- The texts of the causes beneath an error. -/
def causes : DiveError → List String
  | refused _ cause => [cause.message]
  | lost => []

/-- The lines that a program shows when it ends with an error.  The backtrace that may follow them, where the system is
asked for one by `RUST_BACKTRACE`, is left out. -/
def lines (e : DiveError) : List String :=
  ("Error: " ++ e.message) ::
    match e.causes with
    | [] => []
    | causes => "" :: "Caused by:" :: causes.map ("    " ++ ·)

end DiveError

/-- Goes down to a depth on a thread with so many mebibytes of stack. -/
def stackDive (rule : StackRule) (depth : Int64) (mib : UInt64) : Except DiveError Int64 :=
  match rule (stackBytes mib) with
  | some cause => .error (.refused mib cause)
  | none =>
    match descend depth 0 .start with
    | some reached => .ok reached
    | none => .error .lost

end RunMeter.Workload
