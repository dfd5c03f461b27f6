import YaRiscV.Library.InsertionMap
import YaRiscV.Emulator.Cpu.Run

/-! The decode cache of `cpu/decode/index.ts`: thunks kept by encoding, the least recently
used dropped first, return what `decode` returns. -/

namespace YaRiscV.Emulator

open YaRiscV.Library YaRiscV.Utils

def decodeCacheMaxEntries : Nat := 8192

/-- `thunkByInstructionWord`. -/
abbrev DecodeCache := InsertionMap (BitVec 32) ExecuteThunk

/-- Like `decode`, with the cache before and after. -/
def decodeWithCache (thunkByInstructionWord : DecodeCache) (instructionWord : Bytes8) :
    (ExecuteThunk × Bytes8) × DecodeCache :=
  let encoded := bytesToNumber instructionWord
  let isThirtyTwoBit := encoded &&& encodingLengthMask == encodingLength32Bit
  let instructionByteLength := if isThirtyTwoBit then fourBytes else twoBytes
  let key := if isThirtyTwoBit then encoded else encoded &&& 0xffff
  match thunkByInstructionWord.get? key with
  | some cached => ((cached, instructionByteLength), (thunkByInstructionWord.delete key).set key cached)
  | none =>
    let (thunk, _) := decode instructionWord
    let thunkByInstructionWord :=
      if thunkByInstructionWord.size ≥ decodeCacheMaxEntries then
        match thunkByInstructionWord.oldest? with
        | some oldest => thunkByInstructionWord.delete oldest
        | none => thunkByInstructionWord
      else thunkByInstructionWord
    ((thunk, instructionByteLength), thunkByInstructionWord.set key thunk)

/-- Calls in sequence: what each returns, and the cache they leave. -/
def decodeAllWithCache (cache : DecodeCache) : List Bytes8 → List (ExecuteThunk × Bytes8) × DecodeCache
  | [] => ([], cache)
  | instructionWord :: rest =>
    let (result, cache) := decodeWithCache cache instructionWord
    let (results, cache) := decodeAllWithCache cache rest
    (result :: results, cache)

/-- The key an instruction word is kept under. -/
def cacheKey (instructionWord : Bytes8) : BitVec 32 :=
  let encoded := bytesToNumber instructionWord
  if encoded &&& encodingLengthMask = encodingLength32Bit then encoded else encoded &&& 0xffff

/-- The thunk of a key: its low bits tell which decoder it came from. -/
def thunkOfKey (key : BitVec 32) : ExecuteThunk :=
  if key &&& encodingLengthMask = encodingLength32Bit then decode32 key else decodeC key

def encodingByteLength (instructionWord : Bytes8) : Bytes8 :=
  if bytesToNumber instructionWord &&& encodingLengthMask = encodingLength32Bit then fourBytes else twoBytes

/-- Every cached thunk is the one of its key. -/
abbrev DecodeCacheInvariant (cache : DecodeCache) : Prop :=
  Remembers decodeCacheMaxEntries thunkOfKey cache

theorem halfword_encodingLength (encoded : BitVec 32) :
    encoded &&& 0xffff &&& encodingLengthMask = encoded &&& encodingLengthMask := by
  have low : (0xffff : BitVec 32) &&& encodingLengthMask = encodingLengthMask := by decide
  rw [BitVec.and_assoc, low]

/-- A word decodes to the thunk of its key, so words with one key may share a thunk. -/
theorem decode_eq (instructionWord : Bytes8) :
    decode instructionWord = (thunkOfKey (cacheKey instructionWord), encodingByteLength instructionWord) := by
  unfold decode thunkOfKey cacheKey encodingByteLength
  dsimp only
  by_cases full : bytesToNumber instructionWord &&& encodingLengthMask = encodingLength32Bit
  · rw [if_neg (not_not.mpr full), if_pos full, if_pos full, if_pos full]
  · rw [if_pos full, if_neg full, halfword_encodingLength, if_neg full, if_neg full]

/-- One call: a hit is moved to the end, a miss is put into a table with room. -/
theorem decodeWithCache_eq (cache : DecodeCache) (instructionWord : Bytes8) :
    decodeWithCache cache instructionWord =
      match cache.get? (cacheKey instructionWord) with
      | some cached =>
        ((cached, encodingByteLength instructionWord), refresh cache (cacheKey instructionWord) cached)
      | none => (decode instructionWord, (makeRoom decodeCacheMaxEntries cache).set (cacheKey instructionWord)
          (decode instructionWord).1) := by
  have length : (decode instructionWord).2 = encodingByteLength instructionWord := by rw [decode_eq]
  unfold decodeWithCache
  simp only [beq_iff_eq]
  change (match cache.get? (cacheKey instructionWord) with | some cached => _ | none => _) = _
  cases cache.get? (cacheKey instructionWord) with
  | some cached => rfl
  | none =>
    change (((decode instructionWord).1, encodingByteLength instructionWord), _) = _
    rw [← length]
    dsimp only
    unfold makeRoom cacheKey
    split
    · cases cache.oldest? with
      | some oldest => rfl
      | none => rfl
    · rfl

/-- A call returns what `decode` returns and keeps the cache sound. -/
theorem decodeWithCache_transparent (invariant : DecodeCacheInvariant cache) (instructionWord : Bytes8) :
    (decodeWithCache cache instructionWord).1 = decode instructionWord ∧
      DecodeCacheInvariant (decodeWithCache cache instructionWord).2 := by
  rw [decodeWithCache_eq]
  cases found : cache.get? (cacheKey instructionWord) with
  | some cached =>
    have same := invariant.get? found
    subst same
    exact ⟨(decode_eq instructionWord).symm, invariant.refresh found⟩
  | none =>
    obtain ⟨computed, room⟩ := invariant.makeRoom (by decide)
    refine ⟨rfl, ?_⟩
    rw [decode_eq]
    exact .set computed room (cacheKey instructionWord)

theorem decodeAllWithCache_transparent (invariant : DecodeCacheInvariant cache) (instructionWords : List Bytes8) :
    (decodeAllWithCache cache instructionWords).1 = instructionWords.map decode ∧
      DecodeCacheInvariant (decodeAllWithCache cache instructionWords).2 := by
  induction instructionWords generalizing cache with
  | nil => exact ⟨rfl, invariant⟩
  | cons instructionWord rest ih =>
    obtain ⟨same, kept⟩ := decodeWithCache_transparent invariant instructionWord
    obtain ⟨others, last⟩ := ih kept
    refine ⟨?_, last⟩
    rw [decodeAllWithCache, List.map_cons, ← same, ← others]

/-- From the empty cache on, every call behaves like `decode`, on every register file and
memory, and the cache stays within its cap. -/
theorem decodeCache_transparent (instructionWords : List Bytes8) :
    (decodeAllWithCache InsertionMap.empty instructionWords).1.length = instructionWords.length ∧
      (∀ call (inside : call < instructionWords.length), ∃ thunk,
        (decodeAllWithCache InsertionMap.empty instructionWords).1[call]? =
          some (thunk, (decode instructionWords[call]).2) ∧
        ∀ registers memory instructionByteLength, thunk.execute registers memory instructionByteLength =
          (decode instructionWords[call]).1.execute registers memory instructionByteLength) ∧
      (decodeAllWithCache InsertionMap.empty instructionWords).2.size ≤ decodeCacheMaxEntries := by
  obtain ⟨same, invariant⟩ := decodeAllWithCache_transparent
    (Remembers.empty decodeCacheMaxEntries thunkOfKey) instructionWords
  rw [same]
  refine ⟨List.length_map _, fun call inside => ⟨(decode instructionWords[call]).1, ?_, fun _ _ _ => rfl⟩,
    invariant.bounded⟩
  rw [List.getElem?_map, List.getElem?_eq_getElem inside]
  rfl

/-- `stepInstruction` as the hart runs it, decoding through the cache. -/
def stepInstructionWithCache (cache : DecodeCache) (registers : Registers) (memory : Memory) :
    Execution × DecodeCache :=
  match fetchInstruction registers memory with
  | .threw message => (.threw message, cache)
  | .faulted registers memory => (.trapped registers memory, cache)
  | .fetched instructionBytes memory =>
    let registers := beginInstructionRetire registers
    let ((thunk, instructionByteLength), cache) := decodeWithCache cache instructionBytes
    ((thunk.execute registers memory instructionByteLength).commit, cache)

/-- The cache does not show in a step. -/
theorem stepInstructionWithCache_eq (invariant : DecodeCacheInvariant cache) (registers : Registers)
    (memory : Memory) : (stepInstructionWithCache cache registers memory).1 = stepInstruction registers memory ∧
      DecodeCacheInvariant (stepInstructionWithCache cache registers memory).2 := by
  unfold stepInstructionWithCache stepInstruction
  cases fetchInstruction registers memory with
  | threw message => exact ⟨rfl, invariant⟩
  | faulted registers memory => exact ⟨rfl, invariant⟩
  | fetched instructionBytes memory =>
    obtain ⟨same, kept⟩ := decodeWithCache_transparent invariant instructionBytes
    dsimp only
    rw [← same]
    exact ⟨rfl, kept⟩

end YaRiscV.Emulator
