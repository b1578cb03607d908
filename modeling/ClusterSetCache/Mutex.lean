/-!
# `sync.RWMutex`

A `sync.RWMutex` counts its read locks and knows whether its write lock is
held; the write lock excludes every reader.  `RLock` and `Lock` are partial:
where they would block they give nothing, and a goroutine that calls one waits
until the state lets it through.  Go's mutex is not reentrant, so a goroutine
that holds the lock and asks for it again waits for itself.
-/

namespace ClusterSetCache

/-- A `sync.RWMutex`: the read locks held, and whether the write lock is. -/
@[ext] structure RWMutex where
  /-- Read locks held. -/
  readers : Nat
  /-- Whether the write lock is held. -/
  writer : Bool
  /-- The write lock excludes every reader. -/
  exclusive : writer = true → readers = 0

namespace RWMutex

/-- The zero value, unlocked. -/
def unlocked : RWMutex := ⟨0, false, nofun⟩

/-- `RLock`, where it does not block: no writer holds the lock.  Go also makes
`RLock` wait behind a pending `Lock`; leaving that out lets other goroutines
do more, never less. -/
def rlock (m : RWMutex) : Option RWMutex :=
  if m.writer then none else some ⟨m.readers + 1, false, nofun⟩

/-- `RUnlock` of a read lock the caller holds. -/
def runlock (m : RWMutex) : RWMutex :=
  ⟨m.readers - 1, m.writer, fun h => by simp [m.exclusive h]⟩

/-- `Lock`, where it does not block: nobody holds the lock. -/
def lock (m : RWMutex) : Option RWMutex :=
  if m.writer = false ∧ m.readers = 0 then some ⟨0, true, fun _ => rfl⟩ else none

/-- `Unlock` of the write lock the caller holds. -/
def unlock (m : RWMutex) : RWMutex := ⟨m.readers, false, nofun⟩

theorem rlock_of_writer_eq_false {m : RWMutex} (h : m.writer = false) :
    m.rlock = some ⟨m.readers + 1, false, nofun⟩ := by
  simp [rlock, h]

theorem readers_of_rlock {m m' : RWMutex} (h : m.rlock = some m') :
    m'.readers = m.readers + 1 := by
  unfold rlock at h
  split at h <;> cases h
  rfl

/-- `Lock` only succeeds with no reader. -/
theorem readers_of_lock {m m' : RWMutex} (h : m.lock = some m') : m.readers = 0 := by
  unfold lock at h
  split at h
  · next hfree => exact hfree.2
  · cases h

/-- A write-locked mutex grants no read lock. -/
theorem rlock_eq_none {m : RWMutex} (h : m.writer = true) : m.rlock = none := by
  simp [rlock, h]

/-- A write-locked mutex grants no write lock. -/
theorem lock_eq_none {m : RWMutex} (h : m.writer = true) : m.lock = none := by
  simp [lock, h]

theorem writer_of_lock {m m' : RWMutex} (h : m.lock = some m') : m'.writer = true := by
  unfold lock at h
  split at h <;> cases h
  rfl

@[simp] theorem runlock_writer (m : RWMutex) : m.runlock.writer = m.writer := rfl

@[simp] theorem runlock_readers (m : RWMutex) : m.runlock.readers = m.readers - 1 := rfl

@[simp] theorem unlock_readers (m : RWMutex) : m.unlock.readers = m.readers := rfl

end RWMutex

end ClusterSetCache
