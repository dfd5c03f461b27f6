import YaRiscV.FdtMachine

/-! The size of a machine's blob: always one that its 32-bit fields can describe. -/

namespace YaRiscV.Fdt

open YaRiscV.Library YaRiscV.Utils
open YaRiscV.Emulator (ramRegionId uartRegionId clintRegionId plicRegionId sysconRegionId)

def propertySize (prop : FdtProperty) : Nat := 12 + (pad4 prop.value).length

/-! The bytes of a tree in the structure block. -/

mutual

def nodeSize : FdtNode → Nat
  | .node name properties children =>
    8 + (pad4 (cstring name)).length + (properties.map propertySize).sum + childrenSize children

def childrenSize : List FdtNode → Nat
  | [] => 0
  | child :: rest => nodeSize child + childrenSize rest

end

theorem length_concat_append (first second : List Bytes) :
    (concat (first ++ second)).length = (concat first).length + (concat second).length := by
  rw [concat_append, List.length_append]

section Emitted

variable {offsetOf : InsertionMap String Nat}

theorem emitProperties_size (added : List FdtProperty) {parts after : List Bytes}
    (emitted : added.foldlM (emitProperty offsetOf) parts = .ok after) :
    (concat after).length = (concat parts).length + (added.map propertySize).sum := by
  induction added generalizing parts with
  | nil =>
    cases emitted
    rfl
  | cons prop rest counted =>
    rw [List.foldlM_cons] at emitted
    obtain ⟨middle, first, others⟩ := except_bind_ok.mp emitted
    rw [emitProperty] at first
    split at first
    · cases first
    obtain rfl := Except.ok.inj first
    rw [counted others, length_concat_append, List.map_cons, List.sum_cons, propertySize]
    simp only [concat, List.flatten_cons, List.flatten_nil, List.append_nil, List.length_append, u32,
      length_bigEndian32]
    omega

mutual

theorem emitNode_size (node : FdtNode) {parts after : List Bytes} (emitted : emitNode node offsetOf parts = .ok after) :
    (concat after).length = (concat parts).length + nodeSize node := by
  cases node with
  | node name properties children =>
    rw [emitNode] at emitted
    obtain ⟨middle, props, emitted⟩ := except_bind_ok.mp emitted
    obtain ⟨late, below, ended⟩ := except_bind_ok.mp emitted
    obtain rfl := Except.ok.inj ended
    have begun := emitProperties_size properties props
    have inner := emitChildren_size children below
    rw [length_concat_append, inner, begun, length_concat_append, nodeSize]
    simp only [concat, List.flatten_cons, List.flatten_nil, List.append_nil, List.length_append, u32,
      length_bigEndian32]
    omega

theorem emitChildren_size (children : List FdtNode) {parts after : List Bytes}
    (emitted : emitChildren children offsetOf parts = .ok after) :
    (concat after).length = (concat parts).length + childrenSize children := by
  cases children with
  | nil =>
    rw [emitChildren] at emitted
    cases emitted
    rfl
  | cons child rest =>
    rw [emitChildren] at emitted
    obtain ⟨middle, first, others⟩ := except_bind_ok.mp emitted
    have own := emitNode_size child first
    have later := emitChildren_size rest others
    rw [later, own, childrenSize]
    omega

end

end Emitted

theorem flatten_size {root : FdtNode} (flat : flatten root = .ok blob) :
    blob.length = 60 + nodeSize root + (stringBlock (collectNames root [])).1.length := by
  rw [flatten] at flat
  obtain ⟨parts, emitted, made⟩ := except_bind_ok.mp flat
  obtain rfl := Except.ok.inj made
  have size := emitNode_size root emitted
  have started : (concat []).length = 0 := rfl
  have ended : (concat [u32 fdtEnd]).length = 4 := rfl
  rw [length_assemble, length_concat_append, size, started, ended]
  change 56 + (0 + nodeSize root + 4) + (stringBlock (collectNames root [])).1.length = _
  omega

/-! A bound from the number of nodes and properties. -/

mutual

def nodeCount : FdtNode → Nat
  | .node _ _ children => 1 + childrenCount children

def childrenCount : List FdtNode → Nat
  | [] => 0
  | child :: rest => nodeCount child + childrenCount rest

end

mutual

def propertyCount : FdtNode → Nat
  | .node _ properties children => properties.length + childPropertyCount children

def childPropertyCount : List FdtNode → Nat
  | [] => 0
  | child :: rest => propertyCount child + childPropertyCount rest

end

/-- No name or value of the tree is longer than the bound. -/
def Within (bound : Nat) (root : FdtNode) : Prop :=
  root.All (fun name => (cstring name).length ≤ bound)
    fun prop => (cstring prop.name).length ≤ bound ∧ prop.value.length ≤ bound

theorem length_pad4_le (bytes : Bytes) : (pad4 bytes).length ≤ bytes.length + 3 := by
  rw [pad4_eq, padded, List.length_append, List.length_replicate, paddingFor]
  omega

theorem propertiesSize_le (added : List FdtProperty) (short : ∀ prop ∈ added, prop.value.length ≤ bound) :
    (added.map propertySize).sum ≤ added.length * (bound + 15) := by
  induction added with
  | nil => exact Nat.zero_le _
  | cons prop rest counted =>
    have own := short prop List.mem_cons_self
    have padded := length_pad4_le prop.value
    have later := counted fun other member => short other (List.mem_cons_of_mem _ member)
    rw [List.map_cons, List.sum_cons, propertySize, List.length_cons, Nat.succ_mul]
    omega

mutual

theorem nodeSize_le (node : FdtNode) (within : Within bound node) :
    nodeSize node ≤ nodeCount node * (bound + 11) + propertyCount node * (bound + 15) := by
  cases node with
  | node name properties children =>
    rw [Within, DeviceTree.All] at within
    have named := length_pad4_le (cstring name)
    have props := propertiesSize_le properties fun prop member => (within.2.1 prop member).2
    have below := childrenSize_le children within.2.2
    have own := within.1
    rw [nodeSize, nodeCount, propertyCount, Nat.add_mul, Nat.add_mul]
    omega

theorem childrenSize_le (children : List FdtNode)
    (within : DeviceTree.AllChildren (fun name => (cstring name).length ≤ bound)
      (fun prop => (cstring prop.name).length ≤ bound ∧ prop.value.length ≤ bound) children) :
    childrenSize children ≤ childrenCount children * (bound + 11) + childPropertyCount children * (bound + 15) := by
  cases children with
  | nil => exact Nat.zero_le _
  | cons child rest =>
    rw [DeviceTree.AllChildren] at within
    have own := nodeSize_le child within.1
    have later := childrenSize_le rest within.2
    rw [childrenSize, childrenCount, childPropertyCount, Nat.add_mul, Nat.add_mul]
    omega

end

/-! Each name once, in at most as many strings as there are properties. -/

/-- Names short enough, and no more of them than the bound allows. -/
structure NamesWithin (bound count : Nat) (names : List String) : Prop where
  short : ∀ name ∈ names, (cstring name).length ≤ bound
  few : names.length ≤ count

theorem pushName_within {names : List String} (within : NamesWithin bound count names) {prop : FdtProperty}
    (short : (cstring prop.name).length ≤ bound) : NamesWithin bound (count + 1) (pushName names prop) := by
  unfold pushName
  split
  · exact ⟨within.short, Nat.le_succ_of_le within.few⟩
  · refine ⟨fun name member => ?_, ?_⟩
    · rcases List.mem_append.mp member with known | own
      · exact within.short name known
      · rw [List.mem_singleton.mp own]
        exact short
    · rw [List.length_append]
      exact Nat.succ_le_succ within.few

theorem pushNames_within (added : List FdtProperty) {names : List String} (within : NamesWithin bound count names)
    (short : ∀ prop ∈ added, (cstring prop.name).length ≤ bound) :
    NamesWithin bound (count + added.length) (added.foldl pushName names) := by
  induction added generalizing names count with
  | nil => exact within
  | cons prop rest counted =>
    have own := pushName_within within (short prop List.mem_cons_self)
    have later := counted own fun other member => short other (List.mem_cons_of_mem _ member)
    rw [List.foldl_cons, List.length_cons, Nat.add_comm rest.length 1, ← Nat.add_assoc]
    exact later

mutual

theorem collectNames_within (node : FdtNode) (tree : Within bound node) {names : List String}
    (within : NamesWithin bound count names) :
    NamesWithin bound (count + propertyCount node) (collectNames node names) := by
  cases node with
  | node name properties children =>
    rw [Within, DeviceTree.All] at tree
    have own := pushNames_within properties within fun prop member => (tree.2.1 prop member).1
    have below := collectChildNames_within children tree.2.2 own
    rw [collectNames, propertyCount, ← Nat.add_assoc]
    exact below

theorem collectChildNames_within (children : List FdtNode)
    (trees : DeviceTree.AllChildren (fun name => (cstring name).length ≤ bound)
      (fun prop => (cstring prop.name).length ≤ bound ∧ prop.value.length ≤ bound) children)
    {names : List String} (within : NamesWithin bound count names) :
    NamesWithin bound (count + childPropertyCount children) (collectChildNames children names) := by
  cases children with
  | nil => exact within
  | cons child rest =>
    rw [DeviceTree.AllChildren] at trees
    have own := collectNames_within child trees.1 within
    have later := collectChildNames_within rest trees.2 own
    rw [collectChildNames, childPropertyCount, ← Nat.add_assoc]
    exact later

end

theorem pushStrings_length (names : List String) (strings : StringBlock)
    (short : ∀ name ∈ names, (cstring name).length ≤ bound) :
    (concat (names.foldl StringBlock.push strings).parts).length ≤
      (concat strings.parts).length + names.length * bound := by
  induction names generalizing strings with
  | nil => exact Nat.le_add_right _ _
  | cons name rest counted =>
    have own := short name List.mem_cons_self
    have later := counted (strings.push name) fun other member => short other (List.mem_cons_of_mem _ member)
    have pushed : (concat (strings.push name).parts).length =
        (concat strings.parts).length + (cstring name).length := by
      rw [StringBlock.push, length_concat_append, concat_single]
    rw [pushed] at later
    rw [List.foldl_cons, List.length_cons, Nat.succ_mul]
    omega

/-- A tree of short names and values has a short blob. -/
theorem flatten_short {root : FdtNode} (within : Within bound root) (flat : flatten root = .ok blob) :
    blob.length ≤ 60 + nodeCount root * (bound + 11) + propertyCount root * (2 * bound + 15) := by
  have struct := nodeSize_le root within
  have none : NamesWithin bound 0 [] := by
    refine ⟨fun name member => ?_, Nat.le_refl 0⟩
    cases member
  have names := collectNames_within root within none
  have strings := pushStrings_length (collectNames root []) ⟨[], .empty, 0⟩ names.short
  have few : (collectNames root []).length * bound ≤ propertyCount root * bound := by
    refine Nat.mul_le_mul_right bound ?_
    have counted := names.few
    rwa [Nat.zero_add] at counted
  have block : (stringBlock (collectNames root [])).1.length ≤ propertyCount root * bound := by
    refine Nat.le_trans strings ?_
    have started : (concat (⟨[], .empty, 0⟩ : StringBlock).parts).length = 0 := rfl
    omega
  have split : propertyCount root * (2 * bound + 15) =
      propertyCount root * (bound + 15) + propertyCount root * bound := by ring
  rw [flatten_size flat, split]
  omega

/-! The tree of a machine. -/

theorem charCodes_append (first second : String) :
    charCodes (first ++ second) = charCodes first ++ charCodes second := by
  rw [charCodes, charCodes, charCodes, String.toList_append, List.flatMap_append]

theorem length_cstring_append (first second : String) :
    (cstring (first ++ second)).length + 1 = (cstring first).length + (cstring second).length := by
  simp only [cstring, charCodes_append, List.length_append, List.length_map, List.length_singleton]
  omega

theorem length_toDigits_le (value digits : Nat) (small : value < 16 ^ (digits + 1)) :
    (Nat.toDigits 16 value).length ≤ digits + 1 := by
  induction digits generalizing value with
  | zero =>
    rw [Nat.toDigits_eq_if (by decide), if_pos (by simpa using small)]
    exact Nat.le_refl 1
  | succ digits ih =>
    rw [Nat.toDigits_eq_if (by decide)]
    split
    · exact Nat.succ_le_succ (Nat.zero_le _)
    · have higher := ih (value / 16) (by
        rw [Nat.div_lt_iff_lt_mul (by decide), ← Nat.pow_succ]
        exact small)
      rw [List.length_append]
      exact Nat.succ_le_succ higher

theorem length_charCodes_ascii (ascii : NonNulAscii name) : (charCodes name).length = name.toList.length := by
  have bytes := congrArg List.length (nameBytes_ascii ascii)
  rwa [nameBytes, List.length_map, List.length_map] at bytes

theorem length_unitAddress (address : Bytes8) : (cstring (unitAddress (bytesToBigInt address))).length ≤ 17 := by
  have digits : (Nat.toDigits 16 (bytesToBigInt address)).length ≤ 16 :=
    length_toDigits_le _ 15 (bytesToBigInt_eq address ▸ address.isLt)
  rw [cstring, List.length_append, List.length_map, length_charCodes_ascii (unitAddress_ascii _), unitAddress,
    String.toList_ofList]
  exact Nat.succ_le_succ digits

theorem length_unitName {stem : String} (address : Bytes8) (short : (cstring stem).length ≤ 16) :
    (cstring (toString stem ++ toString (unitAddress (bytesToBigInt address)))).length ≤ 32 := by
  have joined := length_cstring_append stem (unitAddress (bytesToBigInt address))
  have unit := length_unitAddress address
  change (cstring (stem ++ unitAddress (bytesToBigInt address))).length ≤ 32
  omega

/-- The windows of a map that has all five. -/
structure WholeMap (guestRegions : GuestMap) where
  ram : GuestWindow
  uart : GuestWindow
  clint : GuestWindow
  plic : GuestWindow
  syscon : GuestWindow
  ramFound : guestRegions.get? ramRegionId = some ram
  uartFound : guestRegions.get? uartRegionId = some uart
  clintFound : guestRegions.get? clintRegionId = some clint
  plicFound : guestRegions.get? plicRegionId = some plic
  sysconFound : guestRegions.get? sysconRegionId = some syscon

variable {guestRegions : GuestMap}

namespace WholeMap

variable (whole : WholeMap guestRegions)

def devices : List FdtNode :=
  [clintNode whole.clint, plicNode whole.plic, uartNode whole.uart (some whole.plic), sysconNode whole.syscon]

/-- The tree of a machine with all its devices. -/
def tree (timebaseHz : Int) : FdtNode :=
  .node "" [
    property propAddressCells (u32 2),
    property propSizeCells (u32 2),
    property propCompatible (cstring "ya-risc-v"),
    property "model" (cstring "ya-risc-v")]
    [cpusNode timebaseHz, memoryNode whole.ram, socNode whole.devices, chosenNode whole.uart]

theorem machineNode_eq (timebaseHz : Int) : machineNode guestRegions timebaseHz = whole.tree timebaseHz := by
  have devices : socChildren guestRegions = whole.devices := by
    rw [socChildren, whole.clintFound, whole.plicFound, whole.uartFound, whole.sysconFound]
    rfl
  rw [machineNode, devices, whole.ramFound, whole.uartFound]
  rfl

end WholeMap

def ShortProperties (bound : Nat) (properties : List FdtProperty) : Prop :=
  ∀ prop ∈ properties, (cstring prop.name).length ≤ bound ∧ prop.value.length ≤ bound

theorem shortProperties_cons (name : String) (value : Bytes) (rest : List FdtProperty) :
    ShortProperties bound (property name value :: rest) ↔
      ((cstring name).length ≤ bound ∧ value.length ≤ bound) ∧ ShortProperties bound rest :=
  List.forall_mem_cons

theorem shortProperties_nil : ShortProperties bound [] := by
  intro prop member
  cases member

theorem length_reg64 (address : Nat) (size : Int) : (reg64 address size).length = 16 := rfl

theorem length_u32 (value : Nat) : (u32 value).length = 4 := rfl

theorem withinNode (own : (cstring name).length ≤ bound) (short : ShortProperties bound properties)
    (below : ∀ child ∈ children, Within bound child) : Within bound (.node name properties children) := by
  rw [Within, DeviceTree.All]
  exact ⟨own, short, (DeviceTree.allChildren_iff children).mpr below⟩

theorem withinLeaf (own : (cstring name).length ≤ bound) (short : ShortProperties bound properties) :
    Within bound (.node name properties []) := by
  refine withinNode own short fun child member => ?_
  cases member

theorem cpusNode_within (timebaseHz : Int) : Within 32 (cpusNode timebaseHz) := by
  refine withinNode (by decide) ?_ fun cpu member => ?_
  · simp +decide only [shortProperties_cons, shortProperties_nil, length_u32]
  rw [List.mem_singleton.mp member]
  refine withinNode (by decide) ?_ fun controller member => ?_
  · simp +decide only [shortProperties_cons, shortProperties_nil]
  rw [List.mem_singleton.mp member]
  refine withinLeaf (by decide) ?_
  simp +decide only [shortProperties_cons, shortProperties_nil]

theorem memoryNode_within (window : GuestWindow) : Within 32 (memoryNode window) := by
  refine withinLeaf (length_unitName _ (by decide)) ?_
  simp +decide only [shortProperties_cons, shortProperties_nil, length_reg64]

theorem clintNode_within (window : GuestWindow) : Within 32 (clintNode window) := by
  refine withinLeaf (length_unitName _ (by decide)) ?_
  simp +decide only [shortProperties_cons, shortProperties_nil, length_reg64]

theorem plicNode_within (window : GuestWindow) : Within 32 (plicNode window) := by
  refine withinLeaf (length_unitName _ (by decide)) ?_
  simp +decide only [shortProperties_cons, shortProperties_nil, length_reg64]

theorem uartNode_within (window plic : GuestWindow) : Within 32 (uartNode window (some plic)) := by
  refine withinLeaf (length_unitName _ (by decide)) ?_
  simp +decide only [List.cons_append, List.nil_append, shortProperties_cons, shortProperties_nil, length_reg64]

theorem sysconNode_within (window : GuestWindow) : Within 32 (sysconNode window) := by
  refine withinNode (length_unitName _ (by decide)) ?_ fun child member => ?_
  · simp +decide only [shortProperties_cons, shortProperties_nil, length_reg64]
  simp only [List.mem_cons, List.not_mem_nil, or_false] at member
  rcases member with rfl | rfl
  · refine withinLeaf (by decide) ?_
    simp +decide only [shortProperties_cons, shortProperties_nil]
  · refine withinLeaf (by decide) ?_
    simp +decide only [shortProperties_cons, shortProperties_nil]

theorem chosenNode_within (window : GuestWindow) : Within 32 (chosenNode window) := by
  refine withinLeaf (by decide) ?_
  rw [shortProperties_cons]
  exact ⟨⟨by decide, length_unitName _ (by decide)⟩, shortProperties_nil⟩

theorem WholeMap.tree_within (whole : WholeMap guestRegions) (timebaseHz : Int) :
    Within 32 (whole.tree timebaseHz) := by
  refine withinNode (by decide) ?_ fun child member => ?_
  · simp +decide only [shortProperties_cons, shortProperties_nil]
  simp only [List.mem_cons, List.not_mem_nil, or_false] at member
  rcases member with rfl | rfl | rfl | rfl
  · exact cpusNode_within timebaseHz
  · exact memoryNode_within whole.ram
  · refine withinNode (by decide) ?_ fun device member => ?_
    · simp +decide only [shortProperties_cons, shortProperties_nil]
    simp only [devices, List.mem_cons, List.not_mem_nil, or_false] at member
    rcases member with rfl | rfl | rfl | rfl
    · exact clintNode_within whole.clint
    · exact plicNode_within whole.plic
    · exact uartNode_within whole.uart whole.plic
    · exact sysconNode_within whole.syscon
  · exact chosenNode_within whole.uart

/-- The blob of a machine with all its devices is read back as its tree. -/
theorem WholeMap.encode_roundTrips (whole : WholeMap guestRegions) {timebaseHz : Int}
    (encoded : encodeDeviceTree guestRegions timebaseHz = .ok blob) : RoundTrips (whole.tree timebaseHz) blob := by
  obtain ⟨other, made, _, trips⟩ := encodeDeviceTree_ok guestRegions timebaseHz
  obtain rfl := Except.ok.inj (made.symm.trans encoded)
  rw [encodeDeviceTree, whole.machineNode_eq] at encoded
  rw [whole.machineNode_eq] at trips
  refine trips (Nat.lt_of_le_of_lt (flatten_short (whole.tree_within timebaseHz) encoded) ?_)
  have nodes : nodeCount (whole.tree timebaseHz) = 13 := rfl
  have properties : propertyCount (whole.tree timebaseHz) = 55 := rfl
  rw [nodes, properties]
  decide

end YaRiscV.Fdt
