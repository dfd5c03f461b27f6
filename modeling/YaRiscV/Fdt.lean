import YaRiscV.Library.InsertionMap
import YaRiscV.Library.DeviceTree

/-! `fdt.ts`: the encoder of the flattened device tree. -/

namespace YaRiscV.Fdt

open YaRiscV.Library

/-- A `Uint8Array`. -/
abbrev Bytes := List (BitVec 8)

abbrev FdtProperty := TreeProperty String

abbrev FdtNode := DeviceTree String

def fdtMagic : Nat := 0xd00dfeed
def fdtBeginNode : Nat := 0x1
def fdtEndNode : Nat := 0x2
def fdtProp : Nat := 0x3
def fdtEnd : Nat := 0x9
def fdtVersion : Nat := 17
def fdtLastCompVersion : Nat := 16
@[simp] def fdtHeaderSize : Nat := 40
@[simp] def fdtReserveEntrySize : Nat := 16

/-- Join byte arrays into one buffer. -/
def concat (parts : List Bytes) : Bytes := parts.flatten

/-- One big-endian cell; `setUint32` takes its argument modulo 2^32. -/
def u32 (value : Nat) : Bytes := bigEndian32 (BitVec.ofNat 32 value)

/-- The UTF-16 code units `charCodeAt` gives. -/
def charCodes (value : String) : List (BitVec 16) :=
  value.toList.flatMap fun char =>
    if char.toNat < 0x10000 then [BitVec.ofNat 16 char.toNat]
    else [BitVec.ofNat 16 (0xd800 + (char.toNat - 0x10000) / 0x400),
      BitVec.ofNat 16 (0xdc00 + (char.toNat - 0x10000) % 0x400)]

/-- NUL-terminated bytes; a byte element keeps the low eight bits of a code unit. -/
def cstring (value : String) : Bytes :=
  (charCodes value).map (·.setWidth 8) ++ [0]

/-- Append zero bytes so the length is a multiple of four. -/
def pad4 (bytes : Bytes) : Bytes :=
  let padding := (4 - (bytes.length % 4)) % 4
  if padding = 0 then bytes else bytes ++ List.replicate padding 0

def pushName (names : List String) (prop : FdtProperty) : List String :=
  if names.contains prop.name then names else names ++ [prop.name]

/-! Property names in tree order, each name once. -/

mutual

def collectNames : FdtNode → List String → List String
  | .node _ properties children, names => collectChildNames children (properties.foldl pushName names)

def collectChildNames : List FdtNode → List String → List String
  | [], names => names
  | child :: rest, names => collectChildNames rest (collectNames child names)

end

/-- The strings written so far, with each name's byte offset. -/
structure StringBlock where
  parts : List Bytes
  offsetOf : InsertionMap String Nat
  offset : Nat

def StringBlock.push (strings : StringBlock) (name : String) : StringBlock :=
  let encoded := cstring name
  { parts := strings.parts ++ [encoded]
    offsetOf := strings.offsetOf.set name strings.offset
    offset := strings.offset + encoded.length }

def stringBlock (names : List String) : Bytes × InsertionMap String Nat :=
  let strings := names.foldl StringBlock.push ⟨[], .empty, 0⟩
  (concat strings.parts, strings.offsetOf)

def emitProperty (offsetOf : InsertionMap String Nat) (parts : List Bytes) (prop : FdtProperty) :
    Except String (List Bytes) :=
  match offsetOf.get? prop.name with
  | none => .error s!"Missing device tree string '{prop.name}'."
  | some nameOffset =>
    .ok (parts ++ [u32 fdtProp, u32 prop.value.length, u32 nameOffset, pad4 prop.value])

/-! `BEGIN_NODE`, the padded name, properties, children, and `END_NODE`. -/

mutual

def emitNode : FdtNode → InsertionMap String Nat → List Bytes → Except String (List Bytes)
  | .node name properties children, offsetOf, parts => do
    let parts := parts ++ [u32 fdtBeginNode, pad4 (cstring name)]
    let parts ← properties.foldlM (emitProperty offsetOf) parts
    let parts ← emitChildren children offsetOf parts
    return parts ++ [u32 fdtEndNode]

def emitChildren : List FdtNode → InsertionMap String Nat → List Bytes → Except String (List Bytes)
  | [], _, parts => return parts
  | child :: rest, offsetOf, parts => do
    let parts ← emitNode child offsetOf parts
    emitChildren rest offsetOf parts

end

/-- Big-endian header, empty memory-reserve map, struct block, strings block. -/
def assemble (struct strings : Bytes) : Bytes :=
  let offMemRsvmap := fdtHeaderSize
  let offDtStruct := offMemRsvmap + fdtReserveEntrySize
  let offDtStrings := offDtStruct + struct.length
  let totalSize := offDtStrings + strings.length
  concat [
    concat [
      u32 fdtMagic,
      u32 totalSize,
      u32 offDtStruct,
      u32 offDtStrings,
      u32 offMemRsvmap,
      u32 fdtVersion,
      u32 fdtLastCompVersion,
      u32 0,
      u32 strings.length,
      u32 struct.length],
    List.replicate fdtReserveEntrySize 0,
    struct,
    strings]

def flatten (root : FdtNode) : Except String Bytes := do
  let names := collectNames root []
  let (strings, offsetOf) := stringBlock names
  let structParts ← emitNode root offsetOf []
  return assemble (concat (structParts ++ [u32 fdtEnd])) strings

end YaRiscV.Fdt
