import YaRiscV.FdtRoundTrip
import YaRiscV.Emulator.Machine
import YaRiscV.Emulator.Plic.Layout
import YaRiscV.Emulator.Syscon

/-! `fdt.ts`: the device tree of a guest map. -/

namespace YaRiscV.Fdt

open YaRiscV.Library YaRiscV.Utils
open YaRiscV.Emulator (ramRegionId uartRegionId clintRegionId plicRegionId sysconRegionId plicMaxSource
  plicSourceUart sysconPoweroffOffset sysconPoweroffValue sysconRebootOffset sysconRebootValue)

structure GuestWindow where
  guestAddress : Bytes8
  guestByteLength : Int
  deriving DecidableEq, Repr

/-- The windows of a machine by region id; any of them may be absent. -/
abbrev GuestMap := InsertionMap String GuestWindow

def phandleCpuIntc : Nat := 1
def phandlePlic : Nat := 2
def phandleSyscon : Nat := 3
def sysconRegisterMask : Nat := 0xffffffff
def irqMachineSoftware : Nat := 3
def irqMachineTimer : Nat := 7
def irqSupervisorExternal : Nat := 9
def irqMachineExternal : Nat := 11
def uartClockHz : Nat := 3686400
def uartBaud : Nat := 115200

def propCompatible : String := "compatible"
def propReg : String := "reg"
def propStatus : String := "status"
def propDeviceType : String := "device_type"
def propPhandle : String := "phandle"
def propInterruptsExtended : String := "interrupts-extended"
def propInterruptController : String := "interrupt-controller"
def propInterruptCells : String := "#interrupt-cells"
def propAddressCells : String := "#address-cells"
def propSizeCells : String := "#size-cells"

/-- `Number` of a BigInt: the nearest value of 53 significant bits, ties to even. One that
overflows the format has its low 32 bits zero, as `setUint32` takes an infinity. -/
def numberOfBigInt (value : Int) : Int :=
  let unit := 2 ^ (value.natAbs.log2 + 1 - 53)
  let quotient := value.natAbs / unit
  let remainder := value.natAbs % unit
  let roundUp := 2 * remainder > unit ∨ 2 * remainder = unit ∧ quotient % 2 = 1
  value.sign * ((if roundUp then quotient + 1 else quotient) * unit)

/-- Consecutive big-endian cells. -/
def cells (values : List Nat) : Bytes := concat (values.map u32)

/-- Address high, address low, size high, size low. -/
def reg64 (address : Nat) (size : Int) : Bytes :=
  cells [(address >>> 32) % 2 ^ 32, address % 2 ^ 32, ((size >>> (32 : Nat)) % 2 ^ 32).toNat, (size % 2 ^ 32).toNat]

def property (name : String) (value : Bytes) : FdtProperty := ⟨name, value⟩

def guestWindow (guestRegions : GuestMap) (id : String) : Except String GuestWindow :=
  match guestRegions.get? id with
  | none => .error s!"Missing guest region '{id}'."
  | some region => .ok region

/-- Lower-case hexadecimal without leading zeros. -/
def unitAddress (address : Nat) : String := String.ofList (Nat.toDigits 16 address)

def cpuNode : FdtNode :=
  .node "cpu@0" [
    property propDeviceType (cstring "cpu"),
    property propCompatible (cstring "riscv"),
    property propReg (u32 0),
    property propStatus (cstring "okay"),
    property "riscv,isa" (cstring "rv64imacsu")] [
    .node "interrupt-controller" [
      property propCompatible (cstring "riscv,cpu-intc"),
      property propInterruptCells (u32 1),
      property propInterruptController [],
      property propPhandle (u32 phandleCpuIntc)] []]

/-- `interrupts-extended` is machine software, then machine timer. -/
def clintNode (window : GuestWindow) : FdtNode :=
  let address := bytesToBigInt window.guestAddress
  .node s!"clint@{unitAddress address}" [
    property propCompatible (concat [cstring "riscv,clint0", cstring "sifive,clint0"]),
    property propReg (reg64 address window.guestByteLength),
    property propInterruptsExtended
      (cells [phandleCpuIntc, irqMachineSoftware, phandleCpuIntc, irqMachineTimer])] []

/-- `interrupts-extended` is machine external, then supervisor external. -/
def plicNode (window : GuestWindow) : FdtNode :=
  let address := bytesToBigInt window.guestAddress
  .node s!"plic@{unitAddress address}" [
    property propCompatible (concat [cstring "riscv,plic0", cstring "sifive,plic-1.0.0"]),
    property propReg (reg64 address window.guestByteLength),
    property "riscv,ndev" (u32 plicMaxSource),
    property propInterruptCells (u32 1),
    property propAddressCells (u32 0),
    property propInterruptController [],
    property propPhandle (u32 phandlePlic),
    property propInterruptsExtended
      (cells [phandleCpuIntc, irqMachineExternal, phandleCpuIntc, irqSupervisorExternal])] []

def sysconResetNode (name compatible : String) (offset value : Nat) : FdtNode :=
  .node name [
    property propCompatible (cstring compatible),
    property "regmap" (u32 phandleSyscon),
    property "offset" (u32 offset),
    property "value" (u32 value),
    property "mask" (u32 sysconRegisterMask)] []

def sysconNode (window : GuestWindow) : FdtNode :=
  let address := bytesToBigInt window.guestAddress
  .node s!"syscon@{unitAddress address}" [
    property propCompatible (cstring "syscon"),
    property propReg (reg64 address window.guestByteLength),
    property propPhandle (u32 phandleSyscon)] [
    sysconResetNode "poweroff" "syscon-poweroff" sysconPoweroffOffset sysconPoweroffValue.toNat,
    sysconResetNode "reboot" "syscon-reboot" sysconRebootOffset sysconRebootValue.toNat]

/-- `interrupt-parent` is included when the PLIC is present. -/
def uartNode (window : GuestWindow) (plic : Option GuestWindow) : FdtNode :=
  let address := bytesToBigInt window.guestAddress
  .node s!"uart@{unitAddress address}"
    ([property propCompatible (cstring "ns16550a"),
      property propReg (reg64 address window.guestByteLength),
      property "clock-frequency" (u32 uartClockHz),
      property "current-speed" (u32 uartBaud),
      property "reg-shift" (u32 0),
      property "reg-io-width" (u32 1)] ++
      match plic with
      | none => []
      | some _ => [
        property "interrupt-parent" (u32 phandlePlic),
        property "interrupts" (u32 plicSourceUart)]) []

/-- The devices present, in the order clint, plic, uart, syscon. -/
def socChildren (guestRegions : GuestMap) : List FdtNode :=
  ((guestRegions.get? clintRegionId).map clintNode).toList ++
    ((guestRegions.get? plicRegionId).map plicNode).toList ++
    ((guestRegions.get? uartRegionId).map fun uart => uartNode uart (guestRegions.get? plicRegionId)).toList ++
    ((guestRegions.get? sysconRegionId).map sysconNode).toList

def cpusNode (timebaseHz : Int) : FdtNode :=
  .node "cpus" [
    property propAddressCells (u32 1),
    property propSizeCells (u32 0),
    property "timebase-frequency" (u32 (numberOfBigInt timebaseHz % 2 ^ 32).toNat)] [cpuNode]

def memoryNode (ram : GuestWindow) : FdtNode :=
  let address := bytesToBigInt ram.guestAddress
  .node s!"memory@{unitAddress address}" [
    property propDeviceType (cstring "memory"),
    property propReg (reg64 address ram.guestByteLength)] []

def socNode (devices : List FdtNode) : FdtNode :=
  .node "soc" [
    property propAddressCells (u32 2),
    property propSizeCells (u32 2),
    property propCompatible (cstring "simple-bus"),
    property "ranges" []] devices

def chosenNode (uart : GuestWindow) : FdtNode :=
  .node "chosen" [property "stdout-path" (cstring s!"/soc/uart@{unitAddress (bytesToBigInt uart.guestAddress)}")] []

/-- `/cpus` always, the other nodes for the regions present. -/
def machineNode (guestRegions : GuestMap) (timebaseHz : Int) : FdtNode :=
  let devices := socChildren guestRegions
  .node "" [
    property propAddressCells (u32 2),
    property propSizeCells (u32 2),
    property propCompatible (cstring "ya-risc-v"),
    property "model" (cstring "ya-risc-v")]
    ([cpusNode timebaseHz] ++
      ((guestRegions.get? ramRegionId).map memoryNode).toList ++
      (if devices.length > 0 then [socNode devices] else []) ++
      ((guestRegions.get? uartRegionId).map chosenNode).toList)

def encodeDeviceTree (guestRegions : GuestMap) (timebaseHz : Int) : Except String Bytes :=
  flatten (machineNode guestRegions timebaseHz)

/-! The tree is one the encoder takes. -/

/-- The digits of a unit address are ASCII. -/
theorem toDigits_ascii (address : Nat) : ∀ digit ∈ Nat.toDigits 16 address, 0 < digit.toNat ∧ digit.toNat < 128 := by
  have single (value : Nat) (small : value < 16) :
      0 < (Nat.digitChar value).toNat ∧ (Nat.digitChar value).toNat < 128 := by
    interval_cases value <;> decide
  induction address using Nat.strongRecOn with
  | ind address ih =>
    intro digit member
    rw [Nat.toDigits_eq_if (by decide)] at member
    split at member
    · rename_i small
      rw [List.mem_singleton.mp member]
      exact single address small
    · rename_i large
      rcases List.mem_append.mp member with higher | last
      · exact ih _ (by omega) digit higher
      · rw [List.mem_singleton.mp last]
        exact single _ (Nat.mod_lt _ (by decide))

theorem NonNulAscii.append (first : NonNulAscii left) (second : NonNulAscii right) : NonNulAscii (left ++ right) := by
  intro char member
  rw [String.toList_append, List.mem_append] at member
  rcases member with early | late
  · exact first char early
  · exact second char late

theorem unitAddress_ascii (address : Nat) : NonNulAscii (unitAddress address) := by
  intro char member
  rw [unitAddress, String.toList_ofList] at member
  exact toDigits_ascii address char member

/-- A node name with a unit address. -/
theorem unitName_ascii {stem : String}
    (known : (stem.toList.all fun char => 0 < char.toNat ∧ char.toNat < 128) = true) (address : Nat) :
    NonNulAscii (toString stem ++ toString (unitAddress address)) :=
  NonNulAscii.append (.of_all known) (unitAddress_ascii address)

/-- Names that are spelled out in the source. -/
def literalNames (properties : List FdtProperty) : Bool :=
  properties.all fun prop => prop.name.toList.all fun char => 0 < char.toNat ∧ char.toNat < 128

theorem literalNames_cons (name : String) (value : Bytes) (rest : List FdtProperty) :
    literalNames (property name value :: rest) =
      ((name.toList.all fun char => 0 < char.toNat ∧ char.toNat < 128) && literalNames rest) := rfl

theorem literalNames_append (first second : List FdtProperty) :
    literalNames (first ++ second) = (literalNames first && literalNames second) := List.all_append

theorem asciiNode (own : NonNulAscii name) (known : literalNames properties = true)
    (below : ∀ child ∈ children, AsciiNames child) : AsciiNames (.node name properties children) := by
  refine ⟨own, fun prop member => ?_, (DeviceTree.allChildren_iff children).mpr below⟩
  exact .of_all (List.all_eq_true.mp known prop member)

theorem asciiLeaf (own : NonNulAscii name) (known : literalNames properties = true) :
    AsciiNames (.node name properties []) := by
  refine asciiNode own known fun child member => ?_
  cases member

theorem sysconResetNode_ascii (own : NonNulAscii name) (compatible : String) (offset value : Nat) :
    AsciiNames (sysconResetNode name compatible offset value) :=
  asciiLeaf own (by simp only [literalNames_cons]; rfl)

theorem sysconNode_ascii (window : GuestWindow) : AsciiNames (sysconNode window) := by
  refine asciiNode (unitName_ascii rfl _) (by simp only [literalNames_cons]; rfl) fun child member => ?_
  simp only [List.mem_cons, List.not_mem_nil, or_false] at member
  rcases member with rfl | rfl
  · exact sysconResetNode_ascii (.of_all rfl) _ _ _
  · exact sysconResetNode_ascii (.of_all rfl) _ _ _

theorem uartNode_ascii (window : GuestWindow) (plic : Option GuestWindow) : AsciiNames (uartNode window plic) := by
  cases plic with
  | none => exact asciiLeaf (unitName_ascii rfl _) (by simp only [literalNames_append, literalNames_cons]; rfl)
  | some _ => exact asciiLeaf (unitName_ascii rfl _) (by simp only [literalNames_append, literalNames_cons]; rfl)

theorem socChildren_ascii (guestRegions : GuestMap) : ∀ child ∈ socChildren guestRegions, AsciiNames child := by
  intro child member
  simp only [socChildren, List.mem_append, Option.mem_toList, Option.map_eq_some_iff] at member
  rcases member with ((⟨window, _, rfl⟩ | ⟨window, _, rfl⟩) | ⟨window, _, rfl⟩) | ⟨window, _, rfl⟩
  · exact asciiLeaf (unitName_ascii rfl _) (by simp only [literalNames_cons]; rfl)
  · exact asciiLeaf (unitName_ascii rfl _) (by simp only [literalNames_cons]; rfl)
  · exact uartNode_ascii window _
  · exact sysconNode_ascii window

theorem cpusNode_ascii (timebaseHz : Int) : AsciiNames (cpusNode timebaseHz) := by
  refine asciiNode (.of_all rfl) (by simp only [literalNames_cons]; rfl) fun cpu member => ?_
  rw [List.mem_singleton.mp member]
  refine asciiNode (.of_all rfl) (by simp only [literalNames_cons]; rfl) fun controller member => ?_
  rw [List.mem_singleton.mp member]
  exact asciiLeaf (.of_all rfl) (by simp only [literalNames_cons]; rfl)

theorem machineNode_ascii (guestRegions : GuestMap) (timebaseHz : Int) :
    AsciiNames (machineNode guestRegions timebaseHz) := by
  refine asciiNode (.of_all rfl) (by simp only [literalNames_cons]; rfl) fun child member => ?_
  simp only [List.mem_append, Option.mem_toList, Option.map_eq_some_iff, List.mem_singleton] at member
  rcases member with ((rfl | ⟨window, _, rfl⟩) | devices) | ⟨window, _, rfl⟩
  · exact cpusNode_ascii timebaseHz
  · exact asciiLeaf (unitName_ascii rfl _) (by simp only [literalNames_cons]; rfl)
  · split at devices
    · rw [List.mem_singleton.mp devices]
      exact asciiNode (.of_all rfl) (by simp only [literalNames_cons]; rfl) (socChildren_ascii guestRegions)
    · cases devices
  · exact asciiLeaf (.of_all rfl) (by simp only [literalNames_cons]; rfl)

/-- The encoder takes every guest map, and its blob is read back as the machine's tree. -/
theorem encodeDeviceTree_ok (guestRegions : GuestMap) (timebaseHz : Int) :
    ∃ blob, encodeDeviceTree guestRegions timebaseHz = .ok blob ∧ fdtHeaderSize ≤ blob.length ∧
      (blob.length < 2 ^ 32 → RoundTrips (machineNode guestRegions timebaseHz) blob) := by
  obtain ⟨emitted, flat, stands, _⟩ := flatten_ok _ (machineNode_ascii guestRegions timebaseHz)
  refine ⟨_, flat, ?_, fun short => ?_⟩
  · rw [length_assemble]
    exact Nat.le_trans (by decide : fdtHeaderSize ≤ 56) (by omega)
  · rw [length_assemble] at short
    refine assemble_roundTrips _ short (stands ?_)
    rw [List.length_append] at short
    omega

end YaRiscV.Fdt
