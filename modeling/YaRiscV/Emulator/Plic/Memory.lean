import YaRiscV.Library.Transition
import YaRiscV.Emulator.Plic.Gateway

/-! `plic/memory.ts` and `plic/index.ts`: guest accesses to the PLIC window, and its
initialization. -/

namespace YaRiscV.Emulator

open YaRiscV.Library YaRiscV.Utils

/-- Load one guest byte; a load of the low claim byte claims. -/
def loadPlicByte (memory : Memory) (address : Bytes8) : BitVec 8 × Memory :=
  match plicAddressToLocation memory address with
  | none => (0, memory)
  | some (.claim context byteOffset) =>
    if byteOffset ≠ 0 then (0, memory)
    else
      let (source, memory) := claimPlicSource memory context
      (BitVec.ofNat 8 source, memory)
  | some (.host location) =>
    match location with
    | .priority 0 _ => (0, memory)
    | _ => (memory.bytes (plicHostIndexForLocation memory location), memory)

/-- Store one guest byte; pending bits are read-only, and the low claim byte completes. -/
def storePlicByte (memory : Memory) (address : Bytes8) (value : BitVec 8) : Memory :=
  match plicAddressToLocation memory address with
  | none => memory
  | some (.host location) =>
    let index := plicHostIndexForLocation memory location
    match location with
    | .priority source _ =>
      if source = 0 then memory
      else (withPlicGatewayLock memory fun memory =>
        ((), refreshAllContextWires (memory.store index value))).2
    | .pending _ => memory
    | .enable context byteOffset =>
      (withPlicGatewayLock memory fun memory =>
        ((), refreshContextWire
          (memory.store index (if byteOffset = 0 then value &&& ~~~1 else value)) context)).2
    | .threshold context _ =>
      (withPlicGatewayLock memory fun memory =>
        ((), refreshContextWire (memory.store index value) context)).2
  | some (.claim context byteOffset) =>
    if byteOffset ≠ 0 ∨ !isValidSource value.toNat then memory
    else completePlicSource memory context value.toNat

def oneByte : Bytes8 := signedNumberToBytes 1 32

/-- One turn of the load loop: destination, memory and address cursor. -/
def loadPlicTurn (byteIndex : Nat) : Bytes8 × Memory × Bytes8 → Bytes8 × Memory × Bytes8
  | (destination, memory, addressCursor) =>
    let (value, memory) := loadPlicByte memory addressCursor
    (setByte destination byteIndex value, memory, addBytes addressCursor oneByte)

def loadBytesFromPlic (destination : Bytes8) (memory : Memory) (address : Bytes8) (byteLength : Nat) :
    Bytes8 × Memory :=
  let (destination, memory, _) := forEachIndex loadPlicTurn byteLength (destination, memory, address)
  (destination, memory)

/-- One turn of the store loop: memory and address cursor. -/
def storePlicTurn (source : Bytes8) (byteIndex : Nat) : Memory × Bytes8 → Memory × Bytes8
  | (memory, addressCursor) =>
    (storePlicByte memory addressCursor (byte source byteIndex), addBytes addressCursor oneByte)

def storeBytesToPlic (memory : Memory) (address source : Bytes8) (byteLength : Nat) : Memory :=
  (forEachIndex (storePlicTurn source) byteLength (memory, address)).1

/-- Zero the slab up to the wires, free the lock and lower both wires. -/
def initializePlic (memory : Memory) : Memory :=
  let base := memory.layout.plic.hostIndex
  let memory := memory.fillZero base (base + plicHostMeipWireOffset)
  let memory := resetPlicGatewayLock memory
  setPlicContextWire (setPlicContextWire memory .machine false) .supervisor false

/-- What one stored byte can do. -/
inductive PlicByteStore (memory : Memory) : Memory → Prop
  | ignored : PlicByteStore memory memory
  | priority (source byteOffset : Nat) (inside : (PlicHostLocation.priority source byteOffset).Inside)
      (value : BitVec 8) :
      PlicByteStore memory (withPlicGatewayLock memory fun locked =>
        ((), refreshAllContextWires
          (locked.store (plicHostIndexForLocation memory (.priority source byteOffset)) value))).2
  | enable (context : PlicContext) (byteOffset : Nat) (inside : byteOffset < 4) (value : BitVec 8) :
      PlicByteStore memory (withPlicGatewayLock memory fun locked =>
        ((), refreshContextWire
          (locked.store (plicHostIndexForLocation memory (.enable context byteOffset)) value) context)).2
  | threshold (context : PlicContext) (byteOffset : Nat) (inside : byteOffset < 4) (value : BitVec 8) :
      PlicByteStore memory (withPlicGatewayLock memory fun locked =>
        ((), refreshContextWire
          (locked.store (plicHostIndexForLocation memory (.threshold context byteOffset)) value) context)).2
  | complete (context : PlicContext) (source : Nat) (valid : isValidSource source = true) :
      PlicByteStore memory (completePlicSource memory context source)

theorem storePlicByte_cases (memory : Memory) (address : Bytes8) (value : BitVec 8) :
    PlicByteStore memory (storePlicByte memory address value) := by
  simp only [storePlicByte, plicAddressToLocation]
  cases decoded : plicOffsetToLocation
      (↑(bytesToBigInt address) - ↑(bytesToBigInt memory.layout.plic.guestAddress)) with
  | none => exact .ignored
  | some location =>
    cases location with
    | host location =>
      have inside := plicOffsetToLocation_inside decoded
      cases location with
      | priority source byteOffset =>
        dsimp only
        split
        · exact .ignored
        · exact .priority source byteOffset inside value
      | pending byteOffset => exact .ignored
      | enable context byteOffset => exact .enable context byteOffset inside _
      | threshold context byteOffset => exact .threshold context byteOffset inside value
    | claim context byteOffset =>
      dsimp only
      split
      · exact .ignored
      · rename_i accepted
        simp only [not_or, Bool.not_eq_true', Bool.not_eq_false] at accepted
        exact .complete context value.toNat accepted.2

/-- A loaded byte claims or leaves the device alone. -/
theorem loadPlicByte_cases (memory : Memory) (address : Bytes8) :
    (loadPlicByte memory address).2 = memory ∨
      ∃ context, (loadPlicByte memory address).2 = (claimPlicSource memory context).2 := by
  simp only [loadPlicByte]
  cases plicAddressToLocation memory address with
  | none => exact .inl rfl
  | some location =>
    cases location with
    | host location =>
      refine .inl ?_
      dsimp only
      split <;> rfl
    | claim context byteOffset =>
      dsimp only
      split
      · exact .inl rfl
      · exact .inr ⟨context, rfl⟩

end YaRiscV.Emulator
