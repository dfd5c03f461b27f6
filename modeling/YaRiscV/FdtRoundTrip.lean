import YaRiscV.Fdt

/-! What `flatten` writes is read back by the rules of the format. -/

namespace YaRiscV.Fdt

open YaRiscV.Library

def NonNulAscii (name : String) : Prop :=
  ∀ char ∈ name.toList, 0 < char.toNat ∧ char.toNat < 128

/-- Bytes read as one character each. -/
def decodeAscii (bytes : Bytes) : String :=
  String.ofList (bytes.map fun each => Char.ofNat each.toNat)

/-- The bytes of `cstring` before its NUL. -/
def nameBytes (name : String) : Bytes := (charCodes name).map (·.setWidth 8)

/-- Every name of a tree is one the format has. -/
def AsciiNames (root : FdtNode) : Prop :=
  root.All NonNulAscii fun prop => NonNulAscii prop.name

/-! Strings and cells. -/

theorem nameBytes_ascii (ascii : NonNulAscii name) :
    nameBytes name = name.toList.map fun char => BitVec.ofNat 8 char.toNat := by
  unfold nameBytes charCodes
  unfold NonNulAscii at ascii
  generalize name.toList = chars at ascii
  induction chars with
  | nil => rfl
  | cons char rest ih =>
    have small := (ascii char List.mem_cons_self).2
    have unit : char.toNat < 0x10000 := by omega
    rw [List.flatMap_cons, if_pos unit, List.map_append, List.map_cons,
      ih fun each member => ascii each (List.mem_cons_of_mem char member)]
    refine congrArg (fun byte => byte :: rest.map fun each => BitVec.ofNat 8 each.toNat) ?_
    apply BitVec.eq_of_toNat_eq
    simp only [BitVec.toNat_setWidth, BitVec.toNat_ofNat]
    omega

theorem nameBytes_nonzero (ascii : NonNulAscii name) : ∀ each ∈ nameBytes name, each ≠ 0 := by
  rw [nameBytes_ascii ascii]
  intro each member zero
  obtain ⟨char, held, rfl⟩ := List.mem_map.mp member
  have bounds := ascii char held
  have value := congrArg BitVec.toNat zero
  rw [BitVec.toNat_ofNat] at value
  change char.toNat % 256 = 0 at value
  omega

theorem decodeAscii_nameBytes (ascii : NonNulAscii name) : decodeAscii (nameBytes name) = name := by
  rw [decodeAscii, nameBytes_ascii ascii, List.map_map]
  have same : name.toList.map ((fun each : BitVec 8 => Char.ofNat each.toNat) ∘ fun char => BitVec.ofNat 8 char.toNat) =
      name.toList := by
    refine (List.map_congr_left fun char member => ?_).trans (List.map_id _)
    have small := (ascii char member).2
    rw [Function.comp_apply, BitVec.toNat_ofNat, Nat.mod_eq_of_lt (by omega), Char.ofNat_toNat]
    rfl
  rw [same, String.ofList_toList]

theorem pad4_eq (bytes : Bytes) : pad4 bytes = padded bytes := by
  unfold pad4 padded paddingFor
  dsimp only
  split
  · rename_i none
    rw [none, List.replicate_zero, List.append_nil]
  · rfl

theorem concat_append (first second : List Bytes) : concat (first ++ second) = concat first ++ concat second :=
  List.flatten_append

theorem concat_single (part : Bytes) : concat [part] = part := List.flatten_singleton

theorem toNat_small (small : value < 2 ^ 32) : (BitVec.ofNat 32 value).toNat = value := by
  rw [BitVec.toNat_ofNat, Nat.mod_eq_of_lt small]

/-! The strings block. -/

/-- A string block that has a place for every name seen. -/
structure StringTable (seen : List String) (strings : StringBlock) : Prop where
  size : strings.offset = (concat strings.parts).length
  placed : ∀ name offset, strings.offsetOf.get? name = some offset →
    ∃ before after, concat strings.parts = before ++ (cstring name ++ after) ∧ before.length = offset
  present : ∀ name ∈ seen, ∃ offset, strings.offsetOf.get? name = some offset

theorem StringTable.push (table : StringTable seen strings) (name : String) :
    StringTable (seen ++ [name]) (strings.push name) where
  size := by
    simp only [StringBlock.push, concat_append, concat_single, List.length_append, table.size]
  placed other offset found := by
    simp only [StringBlock.push, InsertionMap.get?_set] at found
    simp only [StringBlock.push, concat_append, concat_single]
    split at found
    · rename_i same
      cases found
      exact ⟨concat strings.parts, [], by rw [same, List.append_nil],
        table.size.symm⟩
    · obtain ⟨before, after, split, length⟩ := table.placed other offset found
      exact ⟨before, after ++ cstring name, by simp only [split, List.append_assoc], length⟩
  present other member := by
    simp only [StringBlock.push, InsertionMap.get?_set]
    split
    · exact ⟨_, rfl⟩
    · rename_i different
      rcases List.mem_append.mp member with old | new
      · exact table.present other old
      · exact absurd (List.mem_singleton.mp new) different

theorem StringTable.pushAll (table : StringTable seen strings) (names : List String) :
    StringTable (seen ++ names) (names.foldl StringBlock.push strings) := by
  induction names generalizing seen strings with
  | nil => rwa [List.append_nil]
  | cons name names ih =>
    have pushed := ih (table.push name)
    rwa [List.append_assoc] at pushed

/-- The offsets given for names lead to the names. -/
def Resolves (strings : Bytes) (offsetOf : InsertionMap String Nat) (names : List String) : Prop :=
  ∀ name ∈ names, NonNulAscii name → ∃ offset behind, offsetOf.get? name = some offset ∧
    offset < strings.length ∧ readString (strings.drop offset) = some (nameBytes name, behind)

theorem emptyTable : StringTable [] ⟨[], .empty, 0⟩ where
  size := rfl
  placed name offset found := by cases found
  present := nofun

theorem stringBlock_resolves (names : List String) :
    Resolves (stringBlock names).1 (stringBlock names).2 names := by
  have table := emptyTable.pushAll names
  intro name member ascii
  obtain ⟨offset, found⟩ := table.present name member
  obtain ⟨before, after, split, length⟩ := table.placed name offset found
  refine ⟨offset, after, found, ?_, ?_⟩
  · change offset < (concat _).length
    rw [split, List.length_append, length, cstring, List.length_append, List.length_append, List.length_singleton]
    omega
  · change readString ((concat _).drop offset) = _
    rw [split, List.drop_left' length, cstring, List.append_assoc]
    exact readString_append (nameBytes_nonzero ascii) after

/-! The names of a tree. -/

theorem pushName_subset (names : List String) (prop : FdtProperty) : names ⊆ pushName names prop := by
  unfold pushName
  split
  · exact List.Subset.refl names
  · exact List.subset_append_left names _

theorem mem_pushName (names : List String) (prop : FdtProperty) : prop.name ∈ pushName names prop := by
  unfold pushName
  split
  · rename_i held
    exact List.contains_iff_mem.mp held
  · exact List.mem_append_right _ (List.mem_singleton_self _)

theorem pushNames_spec (added : List FdtProperty) (names : List String) :
    names ⊆ added.foldl pushName names ∧ ∀ prop ∈ added, prop.name ∈ added.foldl pushName names := by
  induction added generalizing names with
  | nil => exact ⟨List.Subset.refl names, nofun⟩
  | cons prop added ih =>
    obtain ⟨kept, covered⟩ := ih (pushName names prop)
    refine ⟨fun name member => kept (pushName_subset names prop member), fun each member => ?_⟩
    rcases List.mem_cons.mp member with rfl | rest
    · exact kept (mem_pushName names each)
    · exact covered each rest

mutual

theorem collectNames_subset (node : FdtNode) (names : List String) : names ⊆ collectNames node names := by
  cases node with
  | node name properties children =>
    intro each member
    rw [collectNames]
    exact collectChildNames_subset children _ ((pushNames_spec properties names).1 member)

theorem collectChildNames_subset (children : List FdtNode) (names : List String) :
    names ⊆ collectChildNames children names := by
  cases children with
  | nil => exact List.Subset.refl names
  | cons child rest =>
    intro each member
    rw [collectChildNames]
    exact collectChildNames_subset rest _ (collectNames_subset child names member)

end

mutual

theorem collectNames_covers (node : FdtNode) (names all : List String) (within : collectNames node names ⊆ all) :
    node.All (fun _ => True) fun prop => prop.name ∈ all := by
  cases node with
  | node name properties children =>
    rw [collectNames] at within
    rw [DeviceTree.All]
    refine ⟨trivial, fun prop member => ?_, collectChildNames_covers children _ all within⟩
    exact within (collectChildNames_subset children _ ((pushNames_spec properties names).2 prop member))

theorem collectChildNames_covers (children : List FdtNode) (names all : List String)
    (within : collectChildNames children names ⊆ all) :
    DeviceTree.AllChildren (fun _ => True) (fun prop => prop.name ∈ all) children := by
  cases children with
  | nil => exact trivial
  | cons child rest =>
    rw [collectChildNames] at within
    rw [DeviceTree.AllChildren]
    refine ⟨collectNames_covers child names all fun each member => ?_, collectChildNames_covers rest _ all within⟩
    exact within (collectChildNames_subset rest _ member)

end

/-! The structure block. -/

section Emit

variable {strings : Bytes} {offsetOf : InsertionMap String Nat} {names : List String}

theorem written_beginNode (strings : Bytes) (ascii : NonNulAscii name) :
    Written decodeAscii strings (.beginNode name) (concat [u32 fdtBeginNode, pad4 (cstring name)]) := by
  have written : Written decodeAscii strings _ _ := .beginNode (nameBytes_nonzero ascii)
  rw [decodeAscii_nameBytes ascii] at written
  rw [pad4_eq]
  change Written decodeAscii strings _ (bigEndian32 _ ++ (padded (cstring name) ++ []))
  rw [List.append_nil]
  exact written

theorem written_endNode (strings : Bytes) : Written decodeAscii strings .endNode (concat [u32 fdtEndNode]) :=
  .endNode

/-- What `emitProperty` appends. -/
def propertyParts (prop : FdtProperty) (nameOffset : Nat) : List Bytes :=
  [u32 fdtProp, u32 prop.value.length, u32 nameOffset, pad4 prop.value]

theorem length_propertyParts (prop : FdtProperty) (nameOffset : Nat) :
    prop.value.length ≤ (concat (propertyParts prop nameOffset)).length := by
  have value := length_le_padded prop.value
  rw [propertyParts, pad4_eq]
  change _ ≤ (bigEndian32 _ ++ (bigEndian32 _ ++ (bigEndian32 _ ++ (padded prop.value ++ [])))).length
  simp only [List.length_append, length_bigEndian32, List.length_nil]
  omega

theorem written_property {prop : FdtProperty} (ascii : NonNulAscii prop.name) (short : prop.value.length < 2 ^ 32)
    (near : nameOffset < 2 ^ 32) (named : readString (strings.drop nameOffset) = some (nameBytes prop.name, behind)) :
    Written decodeAscii strings (.property prop) (concat (propertyParts prop nameOffset)) := by
  have found : readString (strings.drop (BitVec.ofNat 32 nameOffset).toNat) = some (nameBytes prop.name, behind) := by
    rwa [toNat_small near]
  have written : Written decodeAscii strings _ _ := .property (toNat_small short) found
  rw [decodeAscii_nameBytes ascii] at written
  rw [propertyParts, pad4_eq]
  change Written decodeAscii strings _ (bigEndian32 _ ++ (bigEndian32 _ ++ (bigEndian32 _ ++ (padded prop.value ++ []))))
  rw [List.append_nil]
  exact written

/-- Parts that stand for tokens, if the cells can hold the sizes. -/
def Stands (strings : Bytes) (tokens : List (TreeToken String)) (emitted : List Bytes) : Prop :=
  strings.length + (concat emitted).length < 2 ^ 32 → WrittenAll decodeAscii strings tokens (concat emitted)

theorem Stands.append (first : Stands strings tokens emitted) (second : Stands strings tokens' emitted') :
    Stands strings (tokens ++ tokens') (emitted ++ emitted') := by
  intro small
  rw [concat_append, List.length_append] at small
  rw [concat_append]
  exact (first (by omega)).append (second (by omega))

theorem emitProperties_ok (resolves : Resolves strings offsetOf names) (added : List FdtProperty)
    (ascii : ∀ prop ∈ added, NonNulAscii prop.name) (listed : ∀ prop ∈ added, prop.name ∈ names) (parts : List Bytes) :
    ∃ emitted, added.foldlM (emitProperty offsetOf) parts = .ok (parts ++ emitted) ∧
      Stands strings (added.map .property) emitted ∧
      ∀ prop ∈ added, prop.value.length ≤ (concat emitted).length := by
  induction added generalizing parts with
  | nil => exact ⟨[], by rw [List.append_nil]; rfl, fun _ => .nil, nofun⟩
  | cons prop added ih =>
    have named := ascii prop List.mem_cons_self
    obtain ⟨nameOffset, behind, found, inside, string⟩ := resolves _ (listed prop List.mem_cons_self) named
    obtain ⟨emitted, rest, stands, sizes⟩ := ih (fun each member => ascii each (List.mem_cons_of_mem prop member))
      (fun each member => listed each (List.mem_cons_of_mem prop member)) (parts ++ propertyParts prop nameOffset)
    have size := length_propertyParts prop nameOffset
    have emits : emitProperty offsetOf parts prop = .ok (parts ++ propertyParts prop nameOffset) := by
      rw [emitProperty, found]
      rfl
    refine ⟨propertyParts prop nameOffset ++ emitted, ?_, ?_, fun each member => ?_⟩
    · rw [List.foldlM_cons, emits, ← List.append_assoc]
      exact rest
    · have first : Stands strings [.property prop] (propertyParts prop nameOffset) := by
        intro small
        exact .single (written_property named (by omega) (by omega) string)
      exact first.append stands
    · rw [concat_append, List.length_append]
      rcases List.mem_cons.mp member with rfl | other
      · omega
      · exact Nat.le_trans (sizes each other) (Nat.le_add_left _ _)

mutual

theorem emitNode_ok (resolves : Resolves strings offsetOf names) (node : FdtNode) (ascii : AsciiNames node)
    (listed : node.All (fun _ => True) fun prop => prop.name ∈ names) (parts : List Bytes) :
    ∃ emitted, emitNode node offsetOf parts = .ok (parts ++ emitted) ∧ Stands strings node.tokens emitted ∧
      ∀ prop ∈ node.properties, prop.value.length ≤ (concat emitted).length := by
  cases node with
  | node name properties children =>
    rw [AsciiNames, DeviceTree.All] at ascii
    rw [DeviceTree.All] at listed
    obtain ⟨props, emitsProps, standsProps, sizes⟩ := emitProperties_ok resolves properties ascii.2.1 listed.2.1
      (parts ++ [u32 fdtBeginNode, pad4 (cstring name)])
    obtain ⟨below, emitsBelow, standsBelow⟩ := emitChildren_ok resolves children ascii.2.2 listed.2.2
      (parts ++ [u32 fdtBeginNode, pad4 (cstring name)] ++ props)
    refine ⟨[u32 fdtBeginNode, pad4 (cstring name)] ++ (props ++ (below ++ [u32 fdtEndNode])), ?_, ?_, ?_⟩
    · rw [emitNode, emitsProps]
      change (emitChildren children offsetOf _).bind _ = _
      rw [emitsBelow]
      simp only [Except.bind, List.append_assoc]
      rfl
    · rw [DeviceTree.tokens]
      have begins : Stands strings [.beginNode name] [u32 fdtBeginNode, pad4 (cstring name)] :=
        fun _ => .single (written_beginNode strings ascii.1)
      have ends : Stands strings [.endNode] [u32 fdtEndNode] := fun _ => .single (written_endNode strings)
      exact begins.append (standsProps.append (standsBelow.append ends))
    · intro prop member
      have size := sizes prop member
      rw [concat_append, List.length_append, concat_append, List.length_append]
      omega

theorem emitChildren_ok (resolves : Resolves strings offsetOf names) (children : List FdtNode)
    (ascii : DeviceTree.AllChildren NonNulAscii (fun prop => NonNulAscii prop.name) children)
    (listed : DeviceTree.AllChildren (fun _ => True) (fun prop => prop.name ∈ names) children) (parts : List Bytes) :
    ∃ emitted, emitChildren children offsetOf parts = .ok (parts ++ emitted) ∧
      Stands strings (DeviceTree.childTokens children) emitted := by
  cases children with
  | nil => exact ⟨[], by rw [List.append_nil]; rfl, fun _ => .nil⟩
  | cons child rest =>
    rw [DeviceTree.AllChildren] at ascii listed
    obtain ⟨first, emitsFirst, standsFirst, _⟩ := emitNode_ok resolves child ascii.1 listed.1 parts
    obtain ⟨others, emitsOthers, standsOthers⟩ := emitChildren_ok resolves rest ascii.2 listed.2 (parts ++ first)
    refine ⟨first ++ others, ?_, ?_⟩
    · rw [emitChildren, emitsFirst, ← List.append_assoc]
      exact emitsOthers
    · rw [DeviceTree.childTokens]
      exact standsFirst.append standsOthers

end

end Emit

/-! The blob. -/

/-- What the header of a blob says. -/
def headerOf (struct strings : Bytes) : TreeHeader where
  magic := fdtMagic
  totalSize := 56 + struct.length + strings.length
  offDtStruct := 56
  offDtStrings := 56 + struct.length
  offMemRsvmap := 40
  version := fdtVersion
  lastCompVersion := fdtLastCompVersion
  bootCpuidPhys := 0
  sizeDtStrings := strings.length
  sizeDtStruct := struct.length

/-- The header of a blob, as `assemble` writes it. -/
def headerBytes (struct strings : Bytes) : Bytes :=
  concat [u32 fdtMagic, u32 (56 + struct.length + strings.length), u32 56, u32 (56 + struct.length), u32 40,
    u32 fdtVersion, u32 fdtLastCompVersion, u32 0, u32 strings.length, u32 struct.length]

theorem assemble_eq (struct strings : Bytes) :
    assemble struct strings = headerBytes struct strings ++ (List.replicate 16 0 ++ (struct ++ strings)) := by
  change headerBytes struct strings ++ (List.replicate 16 0 ++ (struct ++ (strings ++ []))) = _
  rw [List.append_nil]

theorem length_headerBytes (struct strings : Bytes) : (headerBytes struct strings).length = 40 := rfl

theorem length_assemble (struct strings : Bytes) :
    (assemble struct strings).length = 56 + struct.length + strings.length := by
  rw [assemble_eq, List.length_append, List.length_append, List.length_append, length_headerBytes,
    List.length_replicate]
  omega

theorem readHeader_assemble (small : 56 + struct.length + strings.length < 2 ^ 32) :
    readHeader (assemble struct strings) = some (headerOf struct strings) := by
  have rest := List.replicate 16 (0 : BitVec 8) ++ (struct ++ strings)
  have written : assemble struct strings = u32 fdtMagic ++ (u32 (56 + struct.length + strings.length) ++ (u32 56 ++
      (u32 (56 + struct.length) ++ (u32 40 ++ (u32 fdtVersion ++ (u32 fdtLastCompVersion ++ (u32 0 ++
      (u32 strings.length ++ (u32 struct.length ++ (List.replicate 16 0 ++ (struct ++ strings))))))))))) := by
    rw [assemble_eq]
    rfl
  rw [written]
  simp only [readHeader, u32, readWord32_bigEndian32, Option.bind_eq_bind, Option.bind_some]
  rw [toNat_small small, toNat_small (by omega : 56 + struct.length < 2 ^ 32),
    toNat_small (by omega : struct.length < 2 ^ 32), toNat_small (by omega : strings.length < 2 ^ 32)]
  rfl

theorem drop_struct (struct strings : Bytes) : (assemble struct strings).drop 56 = struct ++ strings := by
  rw [assemble_eq, ← List.append_assoc]
  refine List.drop_left' ?_
  rw [List.length_append, length_headerBytes, List.length_replicate]

theorem drop_strings (struct strings : Bytes) : (assemble struct strings).drop (56 + struct.length) = strings := by
  rw [← List.drop_drop, drop_struct, List.drop_left]

theorem drop_reservations (struct strings : Bytes) :
    (assemble struct strings).drop 40 = List.replicate 16 0 ++ (struct ++ strings) := by
  rw [assemble_eq]
  exact List.drop_left' (length_headerBytes struct strings)

theorem accepts_headerOf (strings : Bytes) (aligned : struct.length % 4 = 0) :
    (headerOf struct strings).accepts (assemble struct strings).length = true := by
  rw [length_assemble]
  simp only [TreeHeader.accepts, headerOf, fdtMagic, fdtVersion, fdtLastCompVersion, decide_eq_true_eq, true_and]
  omega

/-- No range is reserved. -/
theorem readReservations_zero (rest : Bytes) :
    readReservations (fuel + 1) (List.replicate 16 0 ++ rest) = some [] := rfl

/-- A blob read back as the tree it was made from, its two blocks apart and inside it. -/
def RoundTrips (root : FdtNode) (blob : Bytes) : Prop :=
  ∃ header, readDeviceTree decodeAscii blob = some ⟨header, [], root⟩ ∧ header.totalSize = blob.length ∧
    fdtHeaderSize ≤ header.offDtStruct ∧ header.offDtStruct + header.sizeDtStruct ≤ header.offDtStrings ∧
    header.offDtStrings + header.sizeDtStrings ≤ blob.length

/-- A blob whose blocks stand for a tree is read as that tree. -/
theorem assemble_roundTrips (root : FdtNode) (small : 56 + (body ++ u32 fdtEnd).length + strings.length < 2 ^ 32)
    (written : WrittenAll decodeAscii strings root.tokens body) :
    RoundTrips root (assemble (body ++ u32 fdtEnd) strings) := by
  have size : (body ++ u32 fdtEnd).length = body.length + 4 := List.length_append
  have sizes := written.length
  have aligned : (body ++ u32 fdtEnd).length % 4 = 0 := by omega
  have tokens : readTokens decodeAscii strings (body ++ u32 fdtEnd).length (body ++ u32 fdtEnd) = some root.tokens :=
    readTokens_written written (by omega)
  obtain ⟨fuel, length⟩ : ∃ fuel, (assemble (body ++ u32 fdtEnd) strings).length = fuel + 1 :=
    ⟨55 + (body ++ u32 fdtEnd).length + strings.length, (length_assemble _ _).trans (by omega)⟩
  have reservations : readReservations (assemble (body ++ u32 fdtEnd) strings).length
      ((assemble (body ++ u32 fdtEnd) strings).drop 40) = some [] := by
    rw [length, drop_reservations]
    exact readReservations_zero _
  refine ⟨headerOf (body ++ u32 fdtEnd) strings, ?_, (length_assemble _ _).symm, ?_, Nat.le_refl _, ?_⟩
  · rw [readDeviceTree, readHeader_assemble small]
    simp only [Option.bind_eq_bind, Option.bind_some, accepts_headerOf strings aligned, if_true]
    simp only [headerOf, reservations, Option.bind_some, drop_struct, drop_strings, List.take_left, List.take_length,
      tokens, DeviceTree.build_root]
    rfl
  · exact Nat.le_add_right 40 16
  · rw [length_assemble]
    exact Nat.le_refl _

theorem flatten_ok (root : FdtNode) (ascii : AsciiNames root) : ∃ emitted,
    flatten root = .ok (assemble (concat emitted ++ u32 fdtEnd) (stringBlock (collectNames root [])).1) ∧
      Stands (stringBlock (collectNames root [])).1 root.tokens emitted ∧
      ∀ prop ∈ root.properties, prop.value.length ≤ (concat emitted).length := by
  have resolves := stringBlock_resolves (collectNames root [])
  have listed := collectNames_covers root [] (collectNames root []) (List.Subset.refl _)
  obtain ⟨emitted, emits, stands, sizes⟩ := emitNode_ok resolves root ascii listed []
  refine ⟨emitted, ?_, stands, sizes⟩
  refine (congrArg (fun parts => parts.bind fun structParts =>
    .ok (assemble (concat (structParts ++ [u32 fdtEnd])) (stringBlock (collectNames root [])).1)) emits).trans ?_
  change Except.ok (assemble (concat (emitted ++ [u32 fdtEnd])) _) = _
  rw [concat_append, concat_single]

/-- Every tree of ASCII names is flattened, and a blob that its 32-bit fields can describe is
read back as the same tree. -/
theorem flatten_invertible (root : FdtNode) (ascii : AsciiNames root) :
    ∃ blob, flatten root = .ok blob ∧ (blob.length < 2 ^ 32 → RoundTrips root blob) := by
  obtain ⟨emitted, flat, stands, _⟩ := flatten_ok root ascii
  refine ⟨_, flat, fun short => ?_⟩
  rw [length_assemble] at short
  refine assemble_roundTrips root short (stands ?_)
  rw [List.length_append] at short
  omega

/-- A root with a child that has one of its property names again. -/
def nestedRoot : FdtNode :=
  .node "" [⟨"model", [0x61, 0x00]⟩] [.node "cpu@0" [⟨"reg", [0, 0, 0, 1]⟩, ⟨"model", []⟩] []]

theorem NonNulAscii.of_all (all : (name.toList.all fun char => 0 < char.toNat ∧ char.toNat < 128) = true) :
    NonNulAscii name := by
  intro char member
  exact of_decide_eq_true (List.all_eq_true.mp all char member)

theorem nestedRoot_ascii : AsciiNames nestedRoot := by
  have names : NonNulAscii "" ∧ NonNulAscii "model" ∧ NonNulAscii "cpu@0" ∧ NonNulAscii "reg" :=
    ⟨.of_all rfl, .of_all rfl, .of_all rfl, .of_all rfl⟩
  simp [AsciiNames, nestedRoot, DeviceTree.All, DeviceTree.AllChildren, names]

theorem nestedRoot_length : (flatten nestedRoot).map List.length = .ok 142 := by
  rfl

theorem flatten_invertible_nested : ∃ blob, flatten nestedRoot = .ok blob ∧ RoundTrips nestedRoot blob := by
  obtain ⟨blob, flat, trips⟩ := flatten_invertible nestedRoot nestedRoot_ascii
  have length := nestedRoot_length
  rw [flat] at length
  have size : blob.length = 142 := Except.ok.inj length
  exact ⟨blob, flat, trips (by rw [size]; decide)⟩

/-- The header has no room for the length of a longer blob. -/
theorem RoundTrips.short (trips : RoundTrips root blob) : blob.length < 2 ^ 32 := by
  obtain ⟨header, read, total, _⟩ := trips
  rw [← total]
  exact totalSize_lt (readDeviceTree_header read)

theorem flatten_length (ascii : AsciiNames root) (flat : flatten root = .ok blob) :
    ∀ prop ∈ root.properties, prop.value.length < blob.length := by
  intro prop member
  obtain ⟨emitted, made, _, sizes⟩ := flatten_ok root ascii
  rw [made] at flat
  cases flat
  have size := sizes prop member
  rw [length_assemble, List.length_append]
  omega

/-- A root with one property of 4 GiB. -/
def hugeRoot : FdtNode := .node "" [⟨"a", List.replicate (2 ^ 32) 0⟩] []

theorem hugeRoot_ascii : AsciiNames hugeRoot := by
  rw [AsciiNames, hugeRoot, DeviceTree.All]
  refine ⟨.of_all rfl, fun prop member => ?_, trivial⟩
  rw [List.mem_singleton.mp member]
  exact .of_all rfl

/-- Its blob is not read back. -/
theorem flatten_wraps : ¬ ∀ root, AsciiNames root → ∃ blob, flatten root = .ok blob ∧ RoundTrips root blob := by
  intro claimed
  obtain ⟨blob, flat, trips⟩ := claimed hugeRoot hugeRoot_ascii
  have longer := flatten_length hugeRoot_ascii flat _ List.mem_cons_self
  rw [List.length_replicate] at longer
  exact Nat.lt_asymm trips.short longer

end YaRiscV.Fdt
