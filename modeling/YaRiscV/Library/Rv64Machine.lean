import YaRiscV.Library.LittleEndian
import YaRiscV.Library.OpcodeTable
import YaRiscV.Library.Rv64
import YaRiscV.Library.Rv64Integer
import Mathlib.Logic.Function.Basic

/-! A bare hart of RV64IMAC: its registers, the bytes of memory it reaches, and its reservation.
It has no privilege, no CSR and no trap: an instruction that needs one has no step. -/

namespace YaRiscV.Library.Rv64

/-- What a load-reserved has reserved. -/
structure Reserved where
  address : BitVec 64
  byteLength : Nat
  deriving DecidableEq, Repr

/-- A store of `count` bytes meets the reservation set, an aligned block of `granule` bytes. -/
def Reserved.meets (granule : Nat) (reserved : Reserved) (address count : Nat) : Bool :=
  decide (reserved.address.toNat - reserved.address.toNat % granule < address + count) &&
    decide (address < reserved.address.toNat - reserved.address.toNat % granule + granule)

/-- The bytes of memory by address, where there are any. -/
abbrev Bytes := Nat → Option (BitVec 8)

namespace Bytes

variable (memory : Bytes) (address count : Nat)

/-- All bytes of an access are there. -/
def Present : Prop := ∀ index < count, (memory (address + index)).isSome

instance : Decidable (memory.Present address count) := inferInstanceAs (Decidable (∀ index < count, _))

/-- The little-endian word of `count` bytes. -/
def load : Option (BitVec (8 * count)) :=
  if memory.Present address count then some (ofBytes (fun index => (memory (address + index)).getD 0) count)
  else none

/-- The low `count` bytes of `value`, over what was there. -/
def put (value : BitVec width) : Bytes :=
  fun position => if address ≤ position ∧ position < address + count then some (byte value (position - address))
    else memory position

end Bytes

@[ext] structure Machine where
  x : BitVec 5 → BitVec 64
  x0 : x 0 = 0
  pc : BitVec 64
  memory : Bytes
  reserved : Option Reserved

namespace Machine

variable (granule : Nat) (machine : Machine)

def jump (target : BitVec 64) : Machine := { machine with pc := target }

/-- Write `rd`, unless it is `x0`, and go on at `next`. -/
def write (rd : BitVec 5) (value next : BitVec 64) : Machine where
  x := if rd = 0 then machine.x else Function.update machine.x rd value
  x0 := by
    split
    · exact machine.x0
    · rename_i writable
      rw [Function.update_of_ne (Ne.symm writable)]
      exact machine.x0
  pc := next
  memory := machine.memory
  reserved := machine.reserved

/-- Store, which ends a reservation that the store meets. -/
def store (address count : Nat) (value : BitVec width) : Option Machine :=
  if machine.memory.Present address count then
    some { machine with
      memory := machine.memory.put address count value
      reserved := machine.reserved.filter fun held => !held.meets granule address count }
  else none

def branch (condition : Bool) (offset next : BitVec 64) : Option Machine :=
  some (machine.jump (if condition then machine.pc + offset else next))

def loadSigned (rd : BitVec 5) (address : BitVec 64) (count : Nat) (next : BitVec 64) : Option Machine :=
  (machine.memory.load address.toNat count).map fun word => machine.write rd (word.signExtend 64) next

def loadUnsigned (rd : BitVec 5) (address : BitVec 64) (count : Nat) (next : BitVec 64) : Option Machine :=
  (machine.memory.load address.toNat count).map fun word => machine.write rd (word.setWidth 64) next

def storeLow (address : BitVec 64) (count : Nat) (value next : BitVec 64) : Option Machine :=
  (machine.store granule address.toNat count value).map fun stored => stored.jump next

/-- Load and reserve a naturally aligned location. -/
def loadReserve (rd : BitVec 5) (address : BitVec 64) (count : Nat) (next : BitVec 64) : Option Machine :=
  if address.toNat % count = 0 then
    (machine.memory.load address.toNat count).map fun word =>
      { machine.write rd (word.signExtend 64) next with reserved := some ⟨address, count⟩ }
  else none

/-- Store where exactly this access is reserved; the reservation ends either way. -/
def storeConditional (rd : BitVec 5) (address : BitVec 64) (count : Nat) (value next : BitVec 64) : Option Machine :=
  if address.toNat % count = 0 ∧ machine.memory.Present address.toNat count then
    if machine.reserved = some ⟨address, count⟩ then
      some { machine.write rd 0 next with memory := machine.memory.put address.toNat count value, reserved := none }
    else some { machine.write rd 1 next with reserved := none }
  else none

/-- Replace a naturally aligned location by `operation` of its word and the low bytes of `value`. -/
def amo (rd : BitVec 5) (address : BitVec 64) (count : Nat) (value next : BitVec 64)
    (operation : BitVec (8 * count) → BitVec (8 * count) → BitVec (8 * count)) : Option Machine :=
  if address.toNat % count = 0 then
    (machine.memory.load address.toNat count).bind fun old =>
      (machine.store granule address.toNat count (operation old (value.setWidth (8 * count)))).map fun stored =>
        stored.write rd (old.signExtend 64) next
  else none

end Machine

/-! The choices of the AMOs. -/

section Choices

variable (old source : BitVec width)

def minimum : BitVec width := if old.toInt ≤ source.toInt then old else source
def maximum : BitVec width := if source.toInt ≤ old.toInt then old else source
def minimumUnsigned : BitVec width := if old.toNat ≤ source.toNat then old else source
def maximumUnsigned : BitVec width := if source.toNat ≤ old.toNat then old else source

end Choices

/-- What an instruction of RV64IMA does, with the operands of `word`; `length` is how far the
program counter moves on. -/
def Machine.execute (granule : Nat) (machine : Machine) (word : BitVec 32) (length : BitVec 64)
    (mnemonic : Mnemonic) : Option Machine :=
  let rd := rdOf word
  let left := machine.x (rs1Of word)
  let right := machine.x (rs2Of word)
  let next := machine.pc + length
  let result := fun value => some (machine.write rd value next)
  match mnemonic with
  | .lui => result (immU word)
  | .auipc => result (machine.pc + immU word)
  | .jal => some (machine.write rd next (machine.pc + immJ word))
  | .jalr => some (machine.write rd next ((left + immI word) &&& ~~~1))
  | .beq => machine.branch (left == right) (immB word) next
  | .bne => machine.branch (left != right) (immB word) next
  | .blt => machine.branch (left.slt right) (immB word) next
  | .bge => machine.branch (!left.slt right) (immB word) next
  | .bltu => machine.branch (left.ult right) (immB word) next
  | .bgeu => machine.branch (!left.ult right) (immB word) next
  | .lb => machine.loadSigned rd (left + immI word) 1 next
  | .lh => machine.loadSigned rd (left + immI word) 2 next
  | .lw => machine.loadSigned rd (left + immI word) 4 next
  | .ld => machine.loadSigned rd (left + immI word) 8 next
  | .lbu => machine.loadUnsigned rd (left + immI word) 1 next
  | .lhu => machine.loadUnsigned rd (left + immI word) 2 next
  | .lwu => machine.loadUnsigned rd (left + immI word) 4 next
  | .sb => machine.storeLow granule (left + immS word) 1 right next
  | .sh => machine.storeLow granule (left + immS word) 2 right next
  | .sw => machine.storeLow granule (left + immS word) 4 right next
  | .sd => machine.storeLow granule (left + immS word) 8 right next
  | .addi => result (left + immI word)
  | .slti => result (truth (left.slt (immI word)))
  | .sltiu => result (truth (left.ult (immI word)))
  | .xori => result (left ^^^ immI word)
  | .ori => result (left ||| immI word)
  | .andi => result (left &&& immI word)
  | .slli => result (left <<< ((shamt6Of word).toNat % 64))
  | .srli => result (left >>> ((shamt6Of word).toNat % 64))
  | .srai => result (left.sshiftRight ((shamt6Of word).toNat % 64))
  | .addiw => result (wordForm (· + ·) left (immI word))
  | .slliw => result (((left.setWidth 32) <<< ((shamt5Of word).toNat % 64)).signExtend 64)
  | .srliw => result (((left.setWidth 32) >>> ((shamt5Of word).toNat % 64)).signExtend 64)
  | .sraiw => result (((left.setWidth 32).sshiftRight ((shamt5Of word).toNat % 64)).signExtend 64)
  | .add => result (left + right)
  | .sub => result (left - right)
  | .sll => result (left <<< (right.toNat % 64))
  | .slt => result (truth (left.slt right))
  | .sltu => result (truth (left.ult right))
  | .xor => result (left ^^^ right)
  | .srl => result (left >>> (right.toNat % 64))
  | .sra => result (left.sshiftRight (right.toNat % 64))
  | .or => result (left ||| right)
  | .and => result (left &&& right)
  | .addw => result (wordForm (· + ·) left right)
  | .subw => result (wordForm (· - ·) left right)
  | .sllw => result (wordForm (fun word amount => word <<< (amount.toNat % 32)) left right)
  | .srlw => result (wordForm (fun word amount => word >>> (amount.toNat % 32)) left right)
  | .sraw => result (wordForm (fun word amount => word.sshiftRight (amount.toNat % 32)) left right)
  | .mul => result (left * right)
  | .mulh => result (highHalf (left.toInt * right.toInt))
  | .mulhsu => result (highHalf (left.toInt * right.toNat))
  | .mulhu => result (highHalf (left.toNat * right.toNat))
  | .div => result (signedQuotient left right)
  | .divu => result (unsignedQuotient left right)
  | .rem => result (signedRemainder left right)
  | .remu => result (unsignedRemainder left right)
  | .mulw => result (wordForm (· * ·) left right)
  | .divw => result (wordForm signedQuotient left right)
  | .divuw => result (wordForm unsignedQuotient left right)
  | .remw => result (wordForm signedRemainder left right)
  | .remuw => result (wordForm unsignedRemainder left right)
  | .lrW => machine.loadReserve rd left 4 next
  | .scW => machine.storeConditional rd left 4 right next
  | .amoswapW => machine.amo granule rd left 4 right next fun _ source => source
  | .amoaddW => machine.amo granule rd left 4 right next (· + ·)
  | .amoxorW => machine.amo granule rd left 4 right next (· ^^^ ·)
  | .amoandW => machine.amo granule rd left 4 right next (· &&& ·)
  | .amoorW => machine.amo granule rd left 4 right next (· ||| ·)
  | .amominW => machine.amo granule rd left 4 right next minimum
  | .amomaxW => machine.amo granule rd left 4 right next maximum
  | .amominuW => machine.amo granule rd left 4 right next minimumUnsigned
  | .amomaxuW => machine.amo granule rd left 4 right next maximumUnsigned
  | .lrD => machine.loadReserve rd left 8 next
  | .scD => machine.storeConditional rd left 8 right next
  | .amoswapD => machine.amo granule rd left 8 right next fun _ source => source
  | .amoaddD => machine.amo granule rd left 8 right next (· + ·)
  | .amoxorD => machine.amo granule rd left 8 right next (· ^^^ ·)
  | .amoandD => machine.amo granule rd left 8 right next (· &&& ·)
  | .amoorD => machine.amo granule rd left 8 right next (· ||| ·)
  | .amominD => machine.amo granule rd left 8 right next minimum
  | .amomaxD => machine.amo granule rd left 8 right next maximum
  | .amominuD => machine.amo granule rd left 8 right next minimumUnsigned
  | .amomaxuD => machine.amo granule rd left 8 right next maximumUnsigned
  | .fence | .fenceI => some (machine.jump next)
  | .csrrw | .csrrs | .csrrc | .csrrwi | .csrrsi | .csrrci => none
  | .ecall | .ebreak | .sret | .mret | .wfi | .sfenceVma => none

/-- One instruction, fetched at the program counter: a word, or a halfword that stands for one. -/
inductive Step (granule : Nat) (machine : Machine) : Machine → Prop
  | word (fetched : machine.memory.load machine.pc.toNat 4 = some word) (long : word.extractLsb' 0 2 = 0b11)
      (matched : mnemonic.encoding.Matches word) (executed : machine.execute granule word 4 mnemonic = some next) :
      Step granule machine next
  | halfword (fetched : machine.memory.load machine.pc.toNat 2 = some halfword)
      (compressed : halfword.extractLsb' 0 2 ≠ 0b11) (expands : expand halfword = .instruction word)
      (matched : mnemonic.encoding.Matches word) (executed : machine.execute granule word 2 mnemonic = some next) :
      Step granule machine next
  | hint (fetched : machine.memory.load machine.pc.toNat 2 = some halfword)
      (compressed : halfword.extractLsb' 0 2 ≠ 0b11) (expands : expand halfword = .hint word) :
      Step granule machine (machine.jump (machine.pc + 2))

/-! Stores. -/

theorem Machine.store_present {machine : Machine} {value : BitVec width}
    (present : machine.memory.Present address count) : machine.store granule address count value =
      some { machine with
        memory := machine.memory.put address count value
        reserved := machine.reserved.filter fun held => !held.meets granule address count } :=
  if_pos present

theorem Machine.present_of_store {machine : Machine} {value : BitVec width}
    (stored : (machine.store granule address count value).isSome) : machine.memory.Present address count := by
  by_contra missing
  rw [store, if_neg missing] at stored
  cases stored

/-- So many instructions. -/
inductive Steps (granule : Nat) (machine : Machine) : Nat → Machine → Prop
  | refl : Steps granule machine 0 machine
  | tail (run : Steps granule machine count middle) (step : Step granule middle last) :
      Steps granule machine (count + 1) last

end YaRiscV.Library.Rv64
