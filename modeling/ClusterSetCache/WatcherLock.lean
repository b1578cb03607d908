import Mathlib.Logic.Relation
import ClusterSetCache.Mutex
import ClusterSetCache.Notify

/-!
# The watcher lock and the timeout path of `notifyWatchers`

Both caches run `notifyWatchers` under `watcherLock.RLock()`, released by a
deferred `RUnlock`.  For each watcher of the slice it calls
`GroupMembershipChanged`.  A send of that call that times out runs
`handleEventTimeout`, which calls `authCache.RemoveWatcher(w)`, and the cache's
`RemoveWatcher` starts with `watcherLock.Lock()`.  A `sync.RWMutex` is not
reentrant: `Lock` waits until no read lock is held, and the goroutine waiting
holds one.

The model is a step relation over the goroutine running `notifyWatchers`
(`NotifyStep`), with an explicit mutex (`RWMutex`), together with every other
goroutine, which may take and release `watcherLock` as it likes, replace the
slice under the write lock, or rebuild the index (`OtherStep`).  How a call of
`GroupMembershipChanged` ends is read off the model of the watcher
(`callEnd`): it returns, or it stops in `RemoveWatcher`.

* `readsCounted_run`: in every reachable state the read lock of the notifying
  goroutine is counted by the mutex.
* `removing_run`: once the goroutine waits in `RemoveWatcher`, no run of the
  system moves it, removes a watcher or releases the read lock.
* `notifyWatchers_deadlocks`: from any idle state whose lock is not held for
  writing, a timeout in one watcher's call reaches that state.
-/

namespace ClusterSetCache

/-! ## How a call of `GroupMembershipChanged` ends -/

/-- How a call of `GroupMembershipChanged` ends when `RemoveWatcher` needs
`watcherLock`. -/
inductive CallEnd
  /-- The call returned, leaving the watcher in this state. -/
  | returned (w : ModernCacheWatcher)
  /-- A send timed out and `handleEventTimeout` called `RemoveWatcher`, with
  the watcher in this state; the error is sent only once it returns. -/
  | removing (w : ModernCacheWatcher)

/-- The end of `GroupMembershipChanged` under the send outcomes `fate`.  Each
pass stops at its first timeout, which is the first call of `RemoveWatcher`
(the model of the watcher counts them). -/
def callEnd (S : ClusterSetStore) (order : RangeOrder) (fate : Event → SendOutcome)
    (n : Notification) (w : ModernCacheWatcher) : CallEnd :=
  if w.hasAccess n then
    let w₁ := handleResourceDeletions S fate n.names (order.toList w.knownResources.keys) w
    if w₁.removeWatcherCalls = w.removeWatcherCalls then
      let w₂ := handleResourceUpdates S fate (RangeOrder.sorted.toList n.names) w₁
      if w₂.removeWatcherCalls = w₁.removeWatcherCalls then .returned w₂
      else .removing { w₂ with errors := w₁.errors }
    else .removing { w₁ with errors := w.errors }
  else .returned w

/-- With every send delivered the call returns, in the state
`groupMembershipChanged` gives. -/
theorem callEnd_allDelivered (S : ClusterSetStore) (order : RangeOrder) (n : Notification)
    (w : ModernCacheWatcher) :
    callEnd S order allDelivered n w = .returned (groupMembershipChanged S order allDelivered n w) := by
  unfold callEnd groupMembershipChanged
  split_ifs <;> simp_all [handleResourceDeletions_allDelivered,
    handleResourceUpdates_allDelivered S _ _ (RangeOrder.sorted.nodup _)]

/-! ## The system -/

/-- A registered watcher, by identity: Go compares the pointers. -/
abbrev WatcherId := Nat

/-- Where the goroutine running `notifyWatchers` is. -/
inductive NotifyPc
  /-- Before `watcherLock.RLock()`. -/
  | idle
  /-- Holding the read lock, in the `range` loop with these watchers left. -/
  | notifying (pending : List WatcherId)
  /-- In `handleEventTimeout` for watcher `w`, with `pending` left after it:
  `RemoveWatcher` waits in `watcherLock.Lock()`. -/
  | removing (w : WatcherId) (pending : List WatcherId)
  /-- Returned, after the deferred `RUnlock`. -/
  | done
deriving DecidableEq

/-- The read locks the goroutine holds. -/
def NotifyPc.reads : NotifyPc → Nat
  | .notifying _ | .removing _ _ => 1
  | .idle | .done => 0

/-- A cache with its watchers, while one goroutine runs `notifyWatchers`. -/
structure NotifyState where
  /-- The notifying goroutine. -/
  pc : NotifyPc
  /-- `watcherLock`. -/
  watcherLock : RWMutex
  /-- `watchers`, the registered watchers in order. -/
  watchers : List WatcherId
  /-- The state of each watcher. -/
  states : WatcherId → ModernCacheWatcher
  /-- The permission index, read under its own lock for each watcher. -/
  index : PermissionIndex

section Steps

variable (S : ClusterSetStore) (order : RangeOrder)

/-- A step of the goroutine running `notifyWatchers`; the bodies of the two
caches are the same. -/
inductive NotifyStep : NotifyState → NotifyState → Prop
  /-- `c.watcherLock.RLock()`; the `range` takes the slice as it is now. -/
  | rlock {s : NotifyState} {m : RWMutex} :
      s.pc = .idle → s.watcherLock.rlock = some m →
      NotifyStep s { s with pc := .notifying s.watchers, watcherLock := m }
  /-- `watcher.GroupMembershipChanged(names, users, groups)` returns. -/
  | deliver {s : NotifyState} {w : WatcherId} {rest : List WatcherId}
      {fate : Event → SendOutcome} {w' : ModernCacheWatcher} :
      s.pc = .notifying (w :: rest) →
      callEnd S order fate (notification s.index) (s.states w) = .returned w' →
      NotifyStep s { s with pc := .notifying rest, states := Function.update s.states w w' }
  /-- A send of that call times out, and `handleEventTimeout` calls
  `RemoveWatcher`. -/
  | timeout {s : NotifyState} {w : WatcherId} {rest : List WatcherId}
      {fate : Event → SendOutcome} {w' : ModernCacheWatcher} :
      s.pc = .notifying (w :: rest) →
      callEnd S order fate (notification s.index) (s.states w) = .removing w' →
      NotifyStep s { s with pc := .removing w rest, states := Function.update s.states w w' }
  /-- `RemoveWatcher` takes `watcherLock.Lock()`, removes the watcher and
  unlocks, and the loop goes on, as the timeout path intends. -/
  | removeWatcher {s : NotifyState} {w : WatcherId} {rest : List WatcherId} {m : RWMutex} :
      s.pc = .removing w rest → s.watcherLock.lock = some m →
      NotifyStep s { s with
        pc := .notifying rest, watcherLock := m.unlock, watchers := s.watchers.erase w }
  /-- The loop is over: the deferred `RUnlock`. -/
  | runlock {s : NotifyState} :
      s.pc = .notifying [] →
      NotifyStep s { s with pc := .done, watcherLock := s.watcherLock.runlock }

/-- A step of any other goroutine: `List`, `AddWatcher`, `RemoveWatcher`,
another `notifyWatchers`, a watcher's own `run`, or a rebuild. -/
inductive OtherStep : NotifyState → NotifyState → Prop
  /-- `RLock`. -/
  | rlock {s : NotifyState} {m : RWMutex} :
      s.watcherLock.rlock = some m → OtherStep s { s with watcherLock := m }
  /-- `RUnlock` of a read lock some other goroutine holds. -/
  | runlock {s : NotifyState} :
      s.pc.reads < s.watcherLock.readers →
      OtherStep s { s with watcherLock := s.watcherLock.runlock }
  /-- `Lock`. -/
  | lock {s : NotifyState} {m : RWMutex} :
      s.watcherLock.lock = some m → OtherStep s { s with watcherLock := m }
  /-- `Unlock`, after replacing the slice (`AddWatcher`, `RemoveWatcher`). -/
  | unlock {s : NotifyState} (watchers : List WatcherId) :
      s.watcherLock.writer = true →
      OtherStep s { s with watcherLock := s.watcherLock.unlock, watchers }
  /-- A rebuild of the permission index. -/
  | rebuild {s : NotifyState} (index : PermissionIndex) : OtherStep s { s with index }

/-- A step of the system. -/
def Step (s t : NotifyState) : Prop := NotifyStep S order s t ∨ OtherStep s t

/-! ## The read lock is counted -/

/-- The read lock the notifying goroutine holds is counted in `watcherLock`. -/
def NotifyState.ReadsCounted (s : NotifyState) : Prop := s.pc.reads ≤ s.watcherLock.readers

theorem readsCounted_of_idle {s : NotifyState} (h : s.pc = .idle) : s.ReadsCounted := by
  simp [NotifyState.ReadsCounted, h, NotifyPc.reads]

theorem readsCounted_notifyStep {s t : NotifyState} (hs : s.ReadsCounted)
    (h : NotifyStep S order s t) : t.ReadsCounted := by
  unfold NotifyState.ReadsCounted at hs ⊢
  cases h with
  | rlock _ hm => simp [RWMutex.readers_of_rlock hm, NotifyPc.reads]
  | deliver hpc _ => simpa [hpc, NotifyPc.reads] using hs
  | timeout hpc _ => simpa [hpc, NotifyPc.reads] using hs
  | removeWatcher hpc hm =>
    have := RWMutex.readers_of_lock hm
    simp [hpc, NotifyPc.reads] at hs
    omega
  | runlock _ => simp [NotifyPc.reads]

theorem readsCounted_otherStep {s t : NotifyState} (hs : s.ReadsCounted)
    (h : OtherStep s t) : t.ReadsCounted := by
  unfold NotifyState.ReadsCounted at hs ⊢
  cases h with
  | rlock hm => simp only [RWMutex.readers_of_rlock hm]; omega
  | runlock hlt => simp only [RWMutex.runlock_readers]; omega
  | lock hm => have := RWMutex.readers_of_lock hm; dsimp only; omega
  | unlock _ _ => exact hs
  | rebuild _ => exact hs

/-- Every run keeps the read lock of the notifying goroutine counted. -/
theorem readsCounted_run {s t : NotifyState} (hs : s.ReadsCounted)
    (h : Relation.ReflTransGen (Step S order) s t) : t.ReadsCounted := by
  induction h with
  | refl => exact hs
  | tail _ step ih =>
    rcases step with step | step
    · exact readsCounted_notifyStep S order ih step
    · exact readsCounted_otherStep ih step

/-! ## Waiting in `RemoveWatcher` is forever -/

/-- While the goroutine waits in `RemoveWatcher`, its own read lock keeps
`Lock` from succeeding, for it and for everyone else: no step moves it or
changes the slice. -/
theorem removing_step {s t : NotifyState} {w : WatcherId} {rest : List WatcherId}
    (hs : s.ReadsCounted) (hpc : s.pc = .removing w rest) (h : Step S order s t) :
    t.pc = s.pc ∧ t.watchers = s.watchers := by
  have hread : 0 < s.watcherLock.readers := by
    simpa [NotifyState.ReadsCounted, hpc, NotifyPc.reads] using hs
  rcases h with h | h
  · cases h with
    | rlock hidle _ => simp [hpc] at hidle
    | deliver hn _ => simp [hpc] at hn
    | timeout hn _ => simp [hpc] at hn
    | removeWatcher _ hm => have := RWMutex.readers_of_lock hm; omega
    | runlock hn => simp [hpc] at hn
  · cases h with
    | rlock _ | runlock _ | lock _ | rebuild _ => exact ⟨rfl, rfl⟩
    | unlock _ hw => have := s.watcherLock.exclusive hw; omega

/-- Every run from a state where the goroutine waits in `RemoveWatcher` keeps
it there, keeps the slice, and keeps `watcherLock` read-held. -/
theorem removing_run {s t : NotifyState} {w : WatcherId} {rest : List WatcherId}
    (hs : s.ReadsCounted) (hpc : s.pc = .removing w rest)
    (h : Relation.ReflTransGen (Step S order) s t) :
    t.pc = .removing w rest ∧ t.watchers = s.watchers ∧ 0 < t.watcherLock.readers := by
  induction h with
  | refl => simpa [NotifyState.ReadsCounted, hpc, NotifyPc.reads] using hs
  | tail run step ih =>
    obtain ⟨ihpc, ihw, -⟩ := ih
    have hc := readsCounted_run S order hs run
    obtain ⟨hpc', hw'⟩ := removing_step S order hc ihpc step
    refine ⟨hpc'.trans ihpc, hw'.trans ihw, ?_⟩
    have := readsCounted_run S order hc (.single step)
    simpa [NotifyState.ReadsCounted, hpc'.trans ihpc, NotifyPc.reads] using this

/-! ## The timeout reaches it -/

/-- The loop delivers, every send going through, to each watcher of `pre`,
changing no other watcher's state. -/
theorem notifying_run (pre l : List WatcherId) :
    ∀ s : NotifyState, s.pc = .notifying (pre ++ l) →
      ∃ t, Relation.ReflTransGen (Step S order) s t ∧ t.pc = .notifying l ∧
        t.watcherLock = s.watcherLock ∧ t.watchers = s.watchers ∧ t.index = s.index ∧
        ∀ v ∉ pre, t.states v = s.states v := by
  induction pre with
  | nil => exact fun s hpc => ⟨s, .refl, hpc, rfl, rfl, rfl, fun _ _ => rfl⟩
  | cons v pre ih =>
    intro s hpc
    obtain ⟨t, run, htpc, hlock, hw, hidx, hstates⟩ := ih
      { s with
        pc := .notifying (pre ++ l)
        states := Function.update s.states v
          (groupMembershipChanged S order allDelivered (notification s.index) (s.states v)) } rfl
    refine ⟨t, .head (.inl (.deliver hpc (callEnd_allDelivered S order _ _))) run, htpc, hlock, hw,
      hidx, fun u hu => ?_⟩
    rw [hstates u (fun h => hu (.tail _ h))]
    exact Function.update_noteq (fun h => hu (List.mem_cons.mpr (.inl h))) _ _

/-- From any idle state whose lock is not held for writing, a watcher whose
call of `GroupMembershipChanged` times out leaves the notifying goroutine
waiting for `watcherLock.Lock()` while it holds `watcherLock.RLock()`.  From
there no run returns from `notifyWatchers`, notifies the watchers after it,
removes a watcher or releases the read lock. -/
theorem notifyWatchers_deadlocks (s : NotifyState) (hidle : s.pc = .idle)
    (hfree : s.watcherLock.writer = false) {pre rest : List WatcherId} {w : WatcherId}
    (hw : s.watchers = pre ++ w :: rest) (hpre : w ∉ pre) {fate : Event → SendOutcome}
    (htimeout : ∃ w', callEnd S order fate (notification s.index) (s.states w) = .removing w') :
    ∃ t, Relation.ReflTransGen (Step S order) s t ∧ t.pc = .removing w rest ∧
      ∀ u, Relation.ReflTransGen (Step S order) t u →
        u.pc = .removing w rest ∧ u.watchers = s.watchers ∧ 0 < u.watcherLock.readers := by
  obtain ⟨w', hw'⟩ := htimeout
  obtain ⟨t, run, htpc, -, htw, hidx, hstates⟩ := notifying_run S order pre (w :: rest)
    { s with
      pc := .notifying s.watchers
      watcherLock := ⟨s.watcherLock.readers + 1, false, nofun⟩ } (by simp [hw])
  have htw' : callEnd S order fate (notification t.index) (t.states w) = .removing w' := by
    rw [hstates w hpre, hidx]; exact hw'
  have run' := (run.head (.inl (.rlock hidle (RWMutex.rlock_of_writer_eq_false hfree)))).tail
    (.inl (.timeout htpc htw'))
  refine ⟨_, run', rfl, fun u hu => ?_⟩
  obtain ⟨hupc, huw, hur⟩ :=
    removing_run S order (readsCounted_run S order (readsCounted_of_idle hidle) run') rfl hu
  exact ⟨hupc, huw.trans htw, hur⟩

end Steps

/-- `alice`'s watcher, the only one registered, under an index in which
`alice` sees `dev`; nobody holds `watcherLock`. -/
def aliceCache : NotifyState := ⟨.idle, .unlocked, [0], fun _ => aliceWatcher, alicePrev⟩

/-- With `alice`'s buffer full, the `ADDED` for `dev` times out, and the
goroutine waits forever for the lock it holds. -/
theorem notifyWatchers_alice_deadlocks :
    ∃ t, Relation.ReflTransGen (Step (devStore none) RangeOrder.sorted) aliceCache t ∧
      t.pc = .removing 0 [] ∧
      ∀ u, Relation.ReflTransGen (Step (devStore none) RangeOrder.sorted) t u →
        u.pc = .removing 0 [] ∧ u.watchers = [0] ∧ 0 < u.watcherLock.readers := by
  have hn : (notification alicePrev).names = {"dev"} := by decide
  have hacc : aliceWatcher.hasAccess (notification alicePrev) := by decide
  have hget : (devStore none).get "dev" = .ok ⟨"dev", ∅, "1"⟩ := rfl
  have hk : aliceWatcher.knownResources = ∅ := rfl
  exact @notifyWatchers_deadlocks _ _ aliceCache rfl rfl [] [] 0 rfl (List.not_mem_nil 0)
    (fun _ => .timedOut) (by
      simp [aliceCache, callEnd, hacc, hn, hk, RangeOrder.sorted, handleResourceDeletions,
        handleResourceUpdates, hget, ModernCacheWatcher.send, ModernCacheWatcher.handleEventTimeout,
        ModernCacheWatcher.remember])

end ClusterSetCache
