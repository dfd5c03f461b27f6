import YaRiscV.Emulator.Memory

/-! The reentrant lock both `reservation.ts` and `plic/gateway.ts` build from a word of
the buffer and a depth of the worker. -/

namespace YaRiscV.Emulator

open YaRiscV.Library

structure SpinLock where
  word : Layout → Nat
  depth : Worker → Nat
  setDepth : Worker → Nat → Worker
  depth_set : ∀ worker value, depth (setDepth worker value) = value
  set_set : ∀ worker first last, setDepth (setDepth worker first) last = setDepth worker last
  set_depth : ∀ worker, setDepth worker (depth worker) = worker

variable (lock : SpinLock) (memory : Memory)

/-- The state on return: a held lock is waited for. -/
def SpinLock.acquire : Memory :=
  if lock.depth memory.worker > 0 then
    { memory with worker := lock.setDepth memory.worker (lock.depth memory.worker + 1) }
  else
    let memory := memory.store32 (lock.word memory.layout) 1
    { memory with worker := lock.setDepth memory.worker 1 }

def SpinLock.release : Memory :=
  if lock.depth memory.worker ≤ 0 then memory
  else
    let memory := { memory with worker := lock.setDepth memory.worker (lock.depth memory.worker - 1) }
    if lock.depth memory.worker > 0 then memory
    else memory.store32 (lock.word memory.layout) 0

def SpinLock.hold (run : Memory → Result × Memory) : Result × Memory :=
  let (result, memory) := run (lock.acquire memory)
  (result, lock.release memory)

/-- The bytes of the lock word. -/
def SpinLock.Covers (layout : Layout) (position : Nat) : Prop :=
  lock.word layout ≤ position ∧ position < lock.word layout + 4

variable {lock memory}

theorem SpinLock.acquire_changesOnly : ChangesOnly (lock.Covers memory.layout) memory (lock.acquire memory) := by
  simp only [acquire]
  split
  · exact ⟨rfl, fun _ _ => rfl⟩
  · have stored : ChangesOnly (lock.Covers memory.layout) memory
        (memory.store32 (lock.word memory.layout) 1) :=
      ChangesOnly.store32 (fun offset inside => ⟨by omega, by omega⟩) 1
    exact ⟨rfl, stored.bytes⟩

theorem SpinLock.release_changesOnly : ChangesOnly (lock.Covers memory.layout) memory (lock.release memory) := by
  simp only [release]
  split
  · exact ChangesOnly.refl
  split
  · exact ⟨rfl, fun _ _ => rfl⟩
  · have stored : ChangesOnly (lock.Covers memory.layout) memory
        (memory.store32 (lock.word memory.layout) 0) :=
      ChangesOnly.store32 (fun offset inside => ⟨by omega, by omega⟩) 0
    exact ⟨rfl, stored.bytes⟩

@[simp] theorem SpinLock.acquire_layout : (lock.acquire memory).layout = memory.layout :=
  acquire_changesOnly.layout

@[simp] theorem SpinLock.release_layout : (lock.release memory).layout = memory.layout :=
  release_changesOnly.layout

theorem SpinLock.acquire_worker :
    (lock.acquire memory).worker = lock.setDepth memory.worker (lock.depth memory.worker + 1) := by
  simp only [acquire]
  split
  · rfl
  · rename_i free
    rw [Nat.eq_zero_of_not_pos free]
    rfl

theorem SpinLock.release_worker :
    (lock.release memory).worker = lock.setDepth memory.worker (lock.depth memory.worker - 1) := by
  simp only [release]
  split
  · rename_i free
    rw [Nat.sub_eq_zero_of_le (Nat.le_succ_of_le free), ← Nat.le_zero.mp free, lock.set_depth]
  · split <;> rfl

/-- The worker is back to where it was once a locked section ends. -/
theorem SpinLock.hold_worker {run : Memory → Result × Memory}
    (kept : ∀ memory, (run memory).2.worker = memory.worker) :
    (lock.hold memory run).2.worker = memory.worker := by
  simp [hold, release_worker, kept, acquire_worker, lock.depth_set, lock.set_set, lock.set_depth]

/-- Held by the worker itself, or free in the buffer: an empty locked section leaves no trace. -/
def SpinLock.Idle (lock : SpinLock) (memory : Memory) : Prop :=
  0 < lock.depth memory.worker ∨ memory.load32 (lock.word memory.layout) = 0

theorem SpinLock.release_acquire_self (idle : lock.Idle memory) : lock.release (lock.acquire memory) = memory := by
  have depth : ∀ worker value, lock.depth (lock.setDepth worker value) = value := lock.depth_set
  by_cases held : lock.depth memory.worker > 0
  · have acquired : lock.acquire memory =
        { memory with worker := lock.setDepth memory.worker (lock.depth memory.worker + 1) } := if_pos held
    simp only [acquired, release, depth, lock.set_set, Nat.add_sub_cancel, lock.set_depth]
    rw [if_neg (by omega), if_pos held]
  · have free : memory.load32 (lock.word memory.layout) = 0 := idle.resolve_left held
    have zero : lock.depth memory.worker = 0 := by omega
    have acquired : lock.acquire memory =
        { memory.store32 (lock.word memory.layout) 1 with worker := lock.setDepth memory.worker 1 } := if_neg held
    simp only [acquired, release, depth, lock.set_set, Memory.store32_layout]
    rw [if_neg (by omega), if_neg (by omega), Nat.sub_self]
    have unheld : lock.setDepth memory.worker 0 = memory.worker := by
      rw [← zero, lock.set_depth]
    refine Memory.ext rfl ?_ unheld
    refine Eq.trans ?_ (congrArg Memory.bytes (Memory.store32_self free))
    funext position
    simp only [Memory.store32, ByteStore.putWord_apply]
    split <;> rfl

/-- A locked section that keeps the worker leaves the lock idle. -/
theorem SpinLock.hold_idle {run : Memory → Result × Memory} (kept : ∀ memory, (run memory).2.worker = memory.worker) :
    lock.Idle (lock.hold memory run).2 := by
  by_cases held : 0 < lock.depth memory.worker
  · left
    rwa [hold_worker kept]
  · right
    have zero : lock.depth memory.worker = 0 := by omega
    have last : lock.depth (run (lock.acquire memory)).2.worker = 1 := by
      rw [kept, acquire_worker, lock.depth_set, zero]
    simp only [hold, release, last, lock.depth_set]
    rw [if_neg (by decide), if_neg (by decide)]
    exact Memory.load32_store32 0

end YaRiscV.Emulator
