import YaRiscV.Emulator.IrqLevel

/-! `plic/layout.ts`: the guest window of the PLIC and the host slab behind it. -/

namespace YaRiscV.Emulator

open YaRiscV.Utils

def plicPendingOffset : Nat := 0x1000
def plicEnableMOffset : Nat := 0x2000
def plicEnableSOffset : Nat := 0x2080
def plicThresholdMOffset : Nat := 0x200000
def plicClaimMOffset : Nat := 0x200004
def plicThresholdSOffset : Nat := 0x201000
def plicClaimSOffset : Nat := 0x201004
def plicGuestByteLength : Nat := 0x201008
def plicMaxSource : Nat := 31

@[simp] def plicHostPriorityCount : Nat := 32
@[simp] def plicHostPending : Nat := plicHostPriorityCount * 4
@[simp] def plicHostEnableM : Nat := plicHostPending + 4
@[simp] def plicHostEnableS : Nat := plicHostEnableM + 4
@[simp] def plicHostThresholdM : Nat := plicHostEnableS + 4
@[simp] def plicHostThresholdS : Nat := plicHostThresholdM + 4
@[simp] def plicHostClaimedByM : Nat := plicHostThresholdS + 4
@[simp] def plicHostClaimedByS : Nat := plicHostClaimedByM + 4
@[simp] def plicHostInputLevel : Nat := plicHostClaimedByS + 4
@[simp] def plicHostMeipWireOffset : Nat := plicHostInputLevel + 4
@[simp] def plicHostSeipWireOffset : Nat := plicHostMeipWireOffset + 1
@[simp] def plicHostGatewayLock : Nat := plicHostMeipWireOffset + 4

def plicSourceUart : Nat := 10

inductive PlicContext where
  | machine
  | supervisor
  deriving DecidableEq, Repr

/-- The locations that are bytes of the host slab. -/
inductive PlicHostLocation where
  | priority (source byteOffset : Nat)
  | pending (byteOffset : Nat)
  | enable (context : PlicContext) (byteOffset : Nat)
  | threshold (context : PlicContext) (byteOffset : Nat)
  deriving DecidableEq, Repr

inductive PlicLocation where
  | host (location : PlicHostLocation)
  | claim (context : PlicContext) (byteOffset : Nat)
  deriving DecidableEq, Repr

def isValidSource (source : Nat) : Bool :=
  decide (source ≥ 1) && decide (source ≤ plicMaxSource)

def enableHostOffset : PlicContext → Nat
  | .machine => plicHostEnableM
  | .supervisor => plicHostEnableS

def thresholdHostOffset : PlicContext → Nat
  | .machine => plicHostThresholdM
  | .supervisor => plicHostThresholdS

def claimedByHostOffset : PlicContext → Nat
  | .machine => plicHostClaimedByM
  | .supervisor => plicHostClaimedByS

def contextWireOffset : PlicContext → Nat
  | .machine => plicHostMeipWireOffset
  | .supervisor => plicHostSeipWireOffset

def plicHostIndex (memory : Memory) (offset : Nat) : Nat :=
  memory.layout.plic.hostIndex + offset

def plicHostIndexForLocation (memory : Memory) : PlicHostLocation → Nat
  | .priority source byteOffset => plicHostIndex memory (source * 4 + byteOffset)
  | .pending byteOffset => plicHostIndex memory (plicHostPending + byteOffset)
  | .enable context byteOffset => plicHostIndex memory (enableHostOffset context + byteOffset)
  | .threshold context byteOffset => plicHostIndex memory (thresholdHostOffset context + byteOffset)

/-- Decode a guest offset within the window; holes give `none`. -/
def plicOffsetToLocation (offset : Int) : Option PlicLocation :=
  if offset < 0 ∨ offset ≥ plicGuestByteLength then none
  else
    let relative := offset.toNat
    if relative < plicHostPriorityCount * 4 then
      some (.host (.priority (relative >>> 2) (relative &&& 3)))
    else
      let registerOffset := andNot relative 3
      let byteOffset := relative &&& 3
      if registerOffset = plicPendingOffset then some (.host (.pending byteOffset))
      else if registerOffset = plicEnableMOffset then some (.host (.enable .machine byteOffset))
      else if registerOffset = plicEnableSOffset then some (.host (.enable .supervisor byteOffset))
      else if registerOffset = plicThresholdMOffset then some (.host (.threshold .machine byteOffset))
      else if registerOffset = plicClaimMOffset then some (.claim .machine byteOffset)
      else if registerOffset = plicThresholdSOffset then some (.host (.threshold .supervisor byteOffset))
      else if registerOffset = plicClaimSOffset then some (.claim .supervisor byteOffset)
      else none

def plicAddressToLocation (memory : Memory) (address : Bytes8) : Option PlicLocation :=
  plicOffsetToLocation
    ((bytesToBigInt address : Int) - bytesToBigInt memory.layout.plic.guestAddress)

/-- The register a location belongs to is one of the slab's, and its byte one of four. -/
def PlicHostLocation.Inside : PlicHostLocation → Prop
  | .priority source byteOffset => source < plicHostPriorityCount ∧ byteOffset < 4
  | .pending byteOffset => byteOffset < 4
  | .enable _ byteOffset => byteOffset < 4
  | .threshold _ byteOffset => byteOffset < 4

theorem plicOffsetToLocation_inside (decoded : plicOffsetToLocation offset = some (.host location)) :
    location.Inside := by
  have small (relative : Nat) : relative &&& 3 < 4 :=
    Nat.lt_of_le_of_lt Nat.and_le_right (by decide)
  simp only [plicOffsetToLocation] at decoded
  split at decoded
  · cases decoded
  split at decoded
  · rename_i below
    cases decoded
    refine ⟨?_, small _⟩
    rw [Nat.shiftRight_eq_div_pow]
    simp only [plicHostPriorityCount] at below ⊢
    omega
  repeat' split at decoded
  all_goals cases decoded
  all_goals exact small _

/-- The bytes of the host slab. -/
def InPlic (layout : Layout) (position : Nat) : Prop :=
  layout.plic.hostIndex ≤ position ∧ position < layout.plic.hostIndex + plicHostByteLength

theorem Layout.plic_irqLevel (layout : Layout) :
    layout.plic.hostIndex + plicHostByteLength ≤ layout.irqLevel ∨
      layout.irqLevel + 4 ≤ layout.plic.hostIndex := by
  have apart := layout.apart layout.plicFound layout.irqLevelFound (by decide)
  simpa only [Region.Apart, MappedRegion.toRegion, layout.plicLength, irqLevelHostByteLength] using apart

end YaRiscV.Emulator
