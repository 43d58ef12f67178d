/-!
# RunMeter.System.WaitStatus — how a child ended, as the system packs it

The low seven bits are zero for a child that exited, and the code is the second octet.  They are all ones for
a child that stopped or went on, and otherwise they are the signal that ended it.
-/

namespace RunMeter

/-- The status word that waiting for a child gives. -/
structure WaitStatus where
  raw : Int32
  deriving DecidableEq

namespace WaitStatus

/-- The low seven bits. -/
def low (s : WaitStatus) : Int32 :=
  s.raw &&& 0x7f

/-- The second octet. -/
def code (s : WaitStatus) : Int32 :=
  (s.raw >>> 8) &&& 0xff

/-- The exit code of a child that exited. -/
def exitCode? (s : WaitStatus) : Option Int32 :=
  if s.low = 0 then some s.code else none

/-- The signal that ended the child. -/
def signal? (s : WaitStatus) : Option Int32 :=
  if s.low = 0 ∨ s.low = 0x7f then none else some s.low

/-- The status of a child that exits with a code. -/
def exited (code : UInt8) : WaitStatus :=
  ⟨Int32.ofNat (code.toNat * 256)⟩

/-- The status of a child that a signal ends. -/
def killed (signal : Nat) : WaitStatus :=
  ⟨Int32.ofNat signal⟩

end WaitStatus
end RunMeter
