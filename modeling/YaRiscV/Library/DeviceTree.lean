import YaRiscV.Library.LittleEndian

/-! Flattened device trees, version 17: the structure block as a sequence of tokens, the tree
the tokens stand for, and a reader for a whole blob. -/

namespace YaRiscV.Library

structure TreeProperty (Name : Type) where
  name : Name
  value : List (BitVec 8)
  deriving DecidableEq

inductive DeviceTree (Name : Type) where
  | node (name : Name) (properties : List (TreeProperty Name)) (children : List (DeviceTree Name))

inductive TreeToken (Name : Type) where
  | beginNode (name : Name)
  | endNode
  | property (property : TreeProperty Name)
  | nop
  | stop

namespace DeviceTree

variable {Name : Type}

def properties : DeviceTree Name → List (TreeProperty Name)
  | .node _ properties _ => properties

def children : DeviceTree Name → List (DeviceTree Name)
  | .node _ _ children => children

def addProperty : DeviceTree Name → TreeProperty Name → DeviceTree Name
  | .node name properties children, property => .node name (properties ++ [property]) children

def addChild : DeviceTree Name → DeviceTree Name → DeviceTree Name
  | .node name properties children, child => .node name properties (children ++ [child])

/-! Every node name, and every property, of a tree. -/

mutual

def All (name : Name → Prop) (property : TreeProperty Name → Prop) : DeviceTree Name → Prop
  | .node own properties children =>
    name own ∧ (∀ each ∈ properties, property each) ∧ AllChildren name property children

def AllChildren (name : Name → Prop) (property : TreeProperty Name → Prop) : List (DeviceTree Name) → Prop
  | [] => True
  | child :: rest => child.All name property ∧ AllChildren name property rest

end

theorem allChildren_iff {name : Name → Prop} {property : TreeProperty Name → Prop} (children : List (DeviceTree Name)) :
    AllChildren name property children ↔ ∀ child ∈ children, child.All name property := by
  induction children with
  | nil => simp [AllChildren]
  | cons child rest ih => rw [AllChildren, ih, List.forall_mem_cons]

/-! A tree as tokens: properties before children, in their order. -/

mutual

def tokens : DeviceTree Name → List (TreeToken Name)
  | .node name properties children =>
    .beginNode name :: (properties.map .property ++ (childTokens children ++ [.endNode]))

def childTokens : List (DeviceTree Name) → List (TreeToken Name)
  | [] => []
  | child :: rest => child.tokens ++ childTokens rest

end

/-- The tree of a token sequence, with the nodes still open, innermost first. -/
def build : List (TreeToken Name) → List (DeviceTree Name) → Option (DeviceTree Name)
  | .beginNode name :: rest, stack => build rest (.node name [] [] :: stack)
  | .property property :: rest, top :: stack =>
    if top.children.isEmpty then build rest (top.addProperty property :: stack) else none
  | .endNode :: rest, child :: parent :: stack => build rest (parent.addChild child :: stack)
  | [.endNode], [root] => some root
  | _, _ => none

theorem build_properties (added properties : List (TreeProperty Name)) (rest : List (TreeToken Name)) :
    build (added.map .property ++ rest) (.node name properties [] :: stack) =
      build rest (.node name (properties ++ added) [] :: stack) := by
  induction added generalizing properties with
  | nil => rw [List.append_nil]; rfl
  | cons property added ih =>
    rw [List.map_cons, List.cons_append, build, if_pos (by rfl), addProperty, ih, List.append_assoc]
    rfl

mutual

theorem build_tokens (tree parent : DeviceTree Name) (rest : List (TreeToken Name)) (stack : List (DeviceTree Name)) :
    build (tree.tokens ++ rest) (parent :: stack) = build rest (parent.addChild tree :: stack) := by
  cases tree with
  | node name properties children =>
    rw [tokens, List.cons_append, build, List.append_assoc, build_properties, List.append_assoc, build_children,
      List.nil_append]
    rfl

theorem build_children (added children : List (DeviceTree Name)) (name : Name)
    (properties : List (TreeProperty Name)) (rest : List (TreeToken Name)) (stack : List (DeviceTree Name)) :
    build (childTokens added ++ rest) (.node name properties children :: stack) =
      build rest (.node name properties (children ++ added) :: stack) := by
  cases added with
  | nil => rw [List.append_nil]; rfl
  | cons child added =>
    rw [childTokens, List.append_assoc, build_tokens child, addChild, build_children added, List.append_assoc]
    rfl

end

/-- A tree is the one its tokens stand for. -/
theorem build_root (root : DeviceTree Name) : build root.tokens [] = some root := by
  cases root with
  | node name properties children =>
    rw [tokens, build, build_properties, build_children, List.nil_append]
    rfl

end DeviceTree

/-! Words, strings and padding. -/

/-- Four bytes, the most significant first. -/
def bigEndian32 (value : BitVec 32) : List (BitVec 8) :=
  [byte value 3, byte value 2, byte value 1, byte value 0]

def readWord32 : List (BitVec 8) → Option (BitVec 32 × List (BitVec 8))
  | first :: second :: third :: fourth :: rest => some (first ++ second ++ third ++ fourth, rest)
  | _ => none

def readWord64 (bytes : List (BitVec 8)) : Option (BitVec 64 × List (BitVec 8)) := do
  let (high, rest) ← readWord32 bytes
  let (low, rest) ← readWord32 rest
  return (high ++ low, rest)

/-- The bytes before the first NUL, and those after it. -/
def readString : List (BitVec 8) → Option (List (BitVec 8) × List (BitVec 8))
  | [] => none
  | first :: rest =>
    if first = 0 then some ([], rest) else (readString rest).map fun found => (first :: found.1, found.2)

def readBytes (count : Nat) (bytes : List (BitVec 8)) : Option (List (BitVec 8) × List (BitVec 8)) :=
  if count ≤ bytes.length then some (bytes.take count, bytes.drop count) else none

/-- How many bytes are missing to a multiple of four. -/
def paddingFor (length : Nat) : Nat := (4 - length % 4) % 4

def padded (bytes : List (BitVec 8)) : List (BitVec 8) :=
  bytes ++ List.replicate (paddingFor bytes.length) 0

@[simp] theorem length_bigEndian32 (value : BitVec 32) : (bigEndian32 value).length = 4 := rfl

@[simp] theorem readWord32_bigEndian32 (value : BitVec 32) (rest : List (BitVec 8)) :
    readWord32 (bigEndian32 value ++ rest) = some (value, rest) := by
  have joined : byte value 3 ++ byte value 2 ++ byte value 1 ++ byte value 0 = value := by
    apply BitVec.eq_of_getLsbD_eq
    intro bit inside
    simp only [BitVec.getLsbD_append, getLsbD_byte]
    split
    · simp_all
    split
    · have below : bit - 8 < 8 := by omega
      have same : 8 * 1 + (bit - 8) = bit := by omega
      simp [below, same]
    split
    · have below : bit - 8 - 8 < 8 := by omega
      have same : 8 * 2 + (bit - 8 - 8) = bit := by omega
      simp [below, same]
    · have below : bit - 8 - 8 - 8 < 8 := by omega
      have same : 8 * 3 + (bit - 8 - 8 - 8) = bit := by omega
      simp [below, same]
  exact congrArg (fun word => some (word, rest)) joined

theorem readString_append {name : List (BitVec 8)} (nonzero : ∀ each ∈ name, each ≠ 0) (rest : List (BitVec 8)) :
    readString (name ++ 0 :: rest) = some (name, rest) := by
  induction name with
  | nil => rfl
  | cons first name ih =>
    rw [List.cons_append, readString, if_neg (nonzero first List.mem_cons_self),
      ih fun each member => nonzero each (List.mem_cons_of_mem first member)]
    rfl

theorem readBytes_append (exact : bytes.length = count) (rest : List (BitVec 8)) :
    readBytes count (bytes ++ rest) = some (bytes, rest) := by
  subst exact
  rw [readBytes, if_pos (by rw [List.length_append]; exact Nat.le_add_right _ _), List.take_left, List.drop_left]

theorem paddingFor_spec (length : Nat) : (length + paddingFor length) % 4 = 0 := by
  unfold paddingFor
  omega

theorem length_padded (bytes : List (BitVec 8)) : (padded bytes).length % 4 = 0 := by
  rw [padded, List.length_append, List.length_replicate]
  exact paddingFor_spec bytes.length

theorem length_le_padded (bytes : List (BitVec 8)) : bytes.length ≤ (padded bytes).length := by
  rw [padded, List.length_append]
  exact Nat.le_add_right _ _

/-! The structure block. -/

section StructureBlock

variable {Name : Type} (decode : List (BitVec 8) → Name) (strings : List (BitVec 8))

/-- One token with its data, and the bytes behind it. -/
def readToken (bytes : List (BitVec 8)) : Option (TreeToken Name × List (BitVec 8)) := do
  let (token, rest) ← readWord32 bytes
  if token = 1 then
    let (name, rest) ← readString rest
    let (_, rest) ← readBytes (paddingFor (name.length + 1)) rest
    return (.beginNode (decode name), rest)
  else if token = 2 then return (.endNode, rest)
  else if token = 3 then
    let (length, rest) ← readWord32 rest
    let (nameOffset, rest) ← readWord32 rest
    let (value, rest) ← readBytes length.toNat rest
    let (_, rest) ← readBytes (paddingFor length.toNat) rest
    let (name, _) ← readString (strings.drop nameOffset.toNat)
    return (.property ⟨decode name, value⟩, rest)
  else if token = 4 then return (.nop, rest)
  else if token = 9 then return (.stop, rest)
  else none

/-- The tokens of a block, which ends with its one `stop`; `fuel` bounds their number. -/
def readTokens : Nat → List (BitVec 8) → Option (List (TreeToken Name))
  | 0, _ => none
  | fuel + 1, bytes => do
    let (token, rest) ← readToken decode strings bytes
    match token with
    | .stop => if rest = [] then some [] else none
    | .nop => readTokens fuel rest
    | token => (readTokens fuel rest).map (token :: ·)

/-- What may stand in a block for a token. -/
inductive Written : TreeToken Name → List (BitVec 8) → Prop
  | beginNode {name : List (BitVec 8)} (nonzero : ∀ each ∈ name, each ≠ 0) :
      Written (.beginNode (decode name)) (bigEndian32 1 ++ padded (name ++ [0]))
  | endNode : Written .endNode (bigEndian32 2)
  | property {name value : List (BitVec 8)} {length nameOffset : BitVec 32} (long : length.toNat = value.length)
      (named : readString (strings.drop nameOffset.toNat) = some (name, behind)) :
      Written (.property ⟨decode name, value⟩)
        (bigEndian32 3 ++ (bigEndian32 length ++ (bigEndian32 nameOffset ++ padded value)))

/-- What may stand in a block for a sequence of tokens. -/
inductive WrittenAll : List (TreeToken Name) → List (BitVec 8) → Prop
  | nil : WrittenAll [] []
  | cons (first : Written decode strings token bytes) (others : WrittenAll tokens rest) :
      WrittenAll (token :: tokens) (bytes ++ rest)

variable {decode strings}

theorem WrittenAll.single (written : Written decode strings token bytes) : WrittenAll decode strings [token] bytes := by
  rw [← List.append_nil bytes]
  exact .cons written .nil

theorem WrittenAll.append (first : WrittenAll decode strings tokens bytes)
    (second : WrittenAll decode strings tokens' bytes') :
    WrittenAll decode strings (tokens ++ tokens') (bytes ++ bytes') := by
  induction first with
  | nil => exact second
  | cons written _ ih =>
    rw [List.cons_append, List.append_assoc]
    exact .cons written ih

theorem Written.length (written : Written decode strings token bytes) : 4 ≤ bytes.length ∧ bytes.length % 4 = 0 := by
  cases written with
  | beginNode nonzero =>
    rw [List.length_append, length_bigEndian32, Nat.add_mod, length_padded]
    exact ⟨Nat.le_add_right _ _, rfl⟩
  | endNode => exact ⟨Nat.le_refl _, rfl⟩
  | @property _ _ value =>
    have aligned := length_padded value
    simp only [List.length_append, length_bigEndian32]
    omega

theorem WrittenAll.length (written : WrittenAll decode strings tokens bytes) :
    tokens.length ≤ bytes.length ∧ bytes.length % 4 = 0 := by
  induction written with
  | nil => exact ⟨Nat.le_refl _, rfl⟩
  | cons first others ih =>
    have size := first.length
    rw [List.length_cons, List.length_append]
    omega

/-- What is written for a token is read as that token. -/
theorem readToken_written (written : Written decode strings token bytes) (rest : List (BitVec 8)) :
    readToken decode strings (bytes ++ rest) = some (token, rest) := by
  cases written with
  | @beginNode name nonzero =>
    have string : readString (padded (name ++ [0]) ++ rest) =
        some (name, List.replicate (paddingFor (name.length + 1)) 0 ++ rest) := by
      rw [padded, List.length_append, List.append_assoc, List.append_assoc]
      exact readString_append nonzero _
    have filler := readBytes_append (List.length_replicate (n := paddingFor (name.length + 1)) (a := (0 : BitVec 8))) rest
    simp only [readToken, List.append_assoc, readWord32_bigEndian32, Option.bind_eq_bind, Option.bind_some, if_true,
      string, filler]
    rfl
  | endNode =>
    simp only [readToken, readWord32_bigEndian32, Option.bind_eq_bind, Option.bind_some]
    rfl
  | @property _ name value length nameOffset long named =>
    have text : readBytes length.toNat (padded value ++ rest) =
        some (value, List.replicate (paddingFor length.toNat) 0 ++ rest) := by
      rw [padded, ← long, List.append_assoc]
      exact readBytes_append long.symm _
    have filler := readBytes_append (List.length_replicate (n := paddingFor length.toNat) (a := (0 : BitVec 8))) rest
    simp only [readToken, List.append_assoc, readWord32_bigEndian32, Option.bind_eq_bind, Option.bind_some, if_true,
      text, filler, named]
    rfl

theorem readToken_stop (rest : List (BitVec 8)) :
    readToken decode strings (bigEndian32 9 ++ rest) = some (.stop, rest) := by
  simp only [readToken, readWord32_bigEndian32, Option.bind_eq_bind, Option.bind_some]
  rfl

/-- What is written for a sequence of tokens is read as that sequence. -/
theorem readTokens_written (written : WrittenAll decode strings tokens bytes) (enough : tokens.length < fuel) :
    readTokens decode strings fuel (bytes ++ bigEndian32 9) = some tokens := by
  induction written generalizing fuel with
  | nil =>
    obtain ⟨fuel, rfl⟩ := Nat.exists_eq_add_one_of_ne_zero (Nat.ne_zero_of_lt enough)
    have stop : readToken decode strings (bigEndian32 9 ++ []) = _ := readToken_stop []
    rw [List.append_nil] at stop
    rw [readTokens, List.nil_append, stop]
    rfl
  | @cons token bytes tokens others first _ ih =>
    obtain ⟨fuel, rfl⟩ := Nat.exists_eq_add_one_of_ne_zero (Nat.ne_zero_of_lt enough)
    have rest := ih (Nat.lt_of_succ_lt_succ enough)
    rw [readTokens, List.append_assoc, readToken_written first]
    cases first with
    | beginNode | endNode | property => exact congrArg (Option.map _) rest

end StructureBlock

/-! The whole blob. -/

structure TreeHeader where
  magic : Nat
  totalSize : Nat
  offDtStruct : Nat
  offDtStrings : Nat
  offMemRsvmap : Nat
  version : Nat
  lastCompVersion : Nat
  bootCpuidPhys : Nat
  sizeDtStrings : Nat
  sizeDtStruct : Nat
  deriving DecidableEq, Repr

def readHeader (blob : List (BitVec 8)) : Option TreeHeader := do
  let (magic, rest) ← readWord32 blob
  let (totalSize, rest) ← readWord32 rest
  let (offDtStruct, rest) ← readWord32 rest
  let (offDtStrings, rest) ← readWord32 rest
  let (offMemRsvmap, rest) ← readWord32 rest
  let (version, rest) ← readWord32 rest
  let (lastCompVersion, rest) ← readWord32 rest
  let (bootCpuidPhys, rest) ← readWord32 rest
  let (sizeDtStrings, rest) ← readWord32 rest
  let (sizeDtStruct, _) ← readWord32 rest
  return {
    magic := magic.toNat
    totalSize := totalSize.toNat
    offDtStruct := offDtStruct.toNat
    offDtStrings := offDtStrings.toNat
    offMemRsvmap := offMemRsvmap.toNat
    version := version.toNat
    lastCompVersion := lastCompVersion.toNat
    bootCpuidPhys := bootCpuidPhys.toNat
    sizeDtStrings := sizeDtStrings.toNat
    sizeDtStruct := sizeDtStruct.toNat }

/-- A blob of a version that is read here, with its blocks aligned and inside. -/
def TreeHeader.accepts (header : TreeHeader) (length : Nat) : Bool :=
  header.magic = 0xd00dfeed ∧ header.lastCompVersion ≤ 17 ∧ 17 ≤ header.version ∧ header.totalSize ≤ length ∧
    header.offMemRsvmap % 8 = 0 ∧ header.offMemRsvmap ≤ header.totalSize ∧ header.offDtStruct % 4 = 0 ∧
    header.sizeDtStruct % 4 = 0 ∧ header.offDtStruct + header.sizeDtStruct ≤ header.totalSize ∧
    header.offDtStrings + header.sizeDtStrings ≤ header.totalSize

/-- Reserved ranges up to the pair of zeros; `fuel` bounds their number. -/
def readReservations : Nat → List (BitVec 8) → Option (List (BitVec 64 × BitVec 64))
  | 0, _ => none
  | fuel + 1, bytes => do
    let (address, rest) ← readWord64 bytes
    let (size, rest) ← readWord64 rest
    if address = 0 ∧ size = 0 then some []
    else (readReservations fuel rest).map ((address, size) :: ·)

structure TreeBlob (Name : Type) where
  header : TreeHeader
  reservations : List (BitVec 64 × BitVec 64)
  root : DeviceTree Name

def readDeviceTree (decode : List (BitVec 8) → Name) (blob : List (BitVec 8)) : Option (TreeBlob Name) := do
  let header ← readHeader blob
  if header.accepts blob.length then
    let block := (blob.drop header.offDtStruct).take header.sizeDtStruct
    let strings := (blob.drop header.offDtStrings).take header.sizeDtStrings
    let reservations ← readReservations blob.length (blob.drop header.offMemRsvmap)
    let tokens ← readTokens decode strings block.length block
    let root ← DeviceTree.build tokens []
    return { header, reservations, root }
  else none

/-- The fields of a header are words. -/
theorem totalSize_lt (read : readHeader blob = some header) : header.totalSize < 2 ^ 32 := by
  simp only [readHeader, Option.bind_eq_bind, Option.bind_eq_some_iff] at read
  obtain ⟨_, _, total, _, _, _, _, _, _, _, _, _, _, _, _, _, _, _, _, _, made⟩ := read
  cases made
  exact total.1.isLt

theorem readDeviceTree_header (read : readDeviceTree decode blob = some tree) :
    readHeader blob = some tree.header := by
  rw [readDeviceTree, Option.bind_eq_bind, Option.bind_eq_some_iff] at read
  obtain ⟨header, found, read⟩ := read
  split at read
  · simp only [Option.bind_eq_bind, Option.bind_eq_some_iff] at read
    obtain ⟨_, _, _, _, _, _, made⟩ := read
    cases made
    exact found
  · cases read

end YaRiscV.Library
