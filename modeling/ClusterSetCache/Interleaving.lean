import Mathlib.Logic.Relation
import ClusterSetCache.Notify

/-!
# Two `GroupMembershipChanged` calls on one watcher

`OptimizedClusterSetCache` runs `notifyWatchers` from the handlers of two
informers, and `notifyWatchers` holds `watcherLock` only for reading.  So two
calls of `GroupMembershipChanged` can run on one watcher at once.  Its
`knownResources` is a `sync.Map`, whose `Load`, `Store` and `Delete` are each
atomic, and each send on `internalEvents` is one step.  Nothing makes the
update pass's `Load`, `Store` and send one step together.

A call here is a program counter over those atomic steps (`CallStep`).  The
deletion pass's `Range` visits the keys present when it starts and skips a key
deleted since, as `sync.Map.Range` does.  Every send is delivered, so every run
of the model is a run of the code.  A system state is the shared watcher with
the program counter of every call, and one call steps at a time (`RaceStep`).

* `solo_groupMembershipChanged`: a call that runs alone makes exactly the
  changes of `groupMembershipChanged`, so the atomic steps refine the model of
  the watcher.
* `race_added_twice`: when two calls whose subject takes part both name a
  fetchable name the watcher does not know, some interleaving queues `ADDED`
  for it twice in a row.
-/

namespace ClusterSetCache

open ModernCacheWatcher

/-! ## A call, one atomic step at a time -/

/-- Where a call of `GroupMembershipChanged` is, between two atomic steps. -/
inductive CallPc
  /-- Not started: `hasAccess` next. -/
  | start
  /-- In `Range`, with these keys left to visit. -/
  | ranging (keys : List String)
  /-- `Delete(name)` done; the send of its `DELETED` next. -/
  | deleted (name : String) (keys : List String)
  /-- In the loop over `accessibleNames.List()`, with these names left. -/
  | updating (names : List String)
  /-- `Load(name)` done and the event chosen; `Store(name, version)` next. -/
  | loaded (event : Event) (name version : String) (names : List String)
  /-- `Store` done; the send of the event next. -/
  | stored (event : Event) (names : List String)
  /-- Returned. -/
  | done

section Steps

variable (S : ClusterSetStore) (order : RangeOrder)

/-- One atomic step of a call of `GroupMembershipChanged` with notification
`n`, on the shared watcher. -/
inductive CallStep (n : Notification) :
    CallPc × ModernCacheWatcher → CallPc × ModernCacheWatcher → Prop
  /-- The subject takes no part: return. -/
  | ignore {w : ModernCacheWatcher} : ¬ w.hasAccess n → CallStep n (.start, w) (.done, w)
  /-- `Range` starts, over the keys present now. -/
  | range {w : ModernCacheWatcher} :
      w.hasAccess n → CallStep n (.start, w) (.ranging (order.toList w.knownResources.keys), w)
  /-- A key deleted since `Range` started is not visited. -/
  | vanished {w : ModernCacheWatcher} {key : String} {keys : List String} :
      key ∉ w.knownResources → CallStep n (.ranging (key :: keys), w) (.ranging keys, w)
  /-- An accessible key is kept. -/
  | keep {w : ModernCacheWatcher} {key : String} {keys : List String} :
      key ∈ w.knownResources → key ∈ n.names →
      CallStep n (.ranging (key :: keys), w) (.ranging keys, w)
  /-- `knownResources.Delete(name)`. -/
  | delete {w : ModernCacheWatcher} {key : String} {keys : List String} :
      key ∈ w.knownResources → key ∉ n.names →
      CallStep n (.ranging (key :: keys), w) (.deleted key keys, w.forget key)
  /-- `w.internalEvents <- deleteEvent`. -/
  | sendDeleted {w : ModernCacheWatcher} {name : String} {keys : List String} :
      CallStep n (.deleted name keys, w) (.ranging keys, w.enqueue (deleteEvent S name))
  /-- `Range` is over, and the update pass starts. -/
  | endRange {w : ModernCacheWatcher} :
      CallStep n (.ranging [], w) (.updating (RangeOrder.sorted.toList n.names), w)
  /-- `authCache.Get(name)` fails: `continue`. -/
  | missing {w : ModernCacheWatcher} {name : String} {names : List String} {e : GetError} :
      S.get name = .error e → CallStep n (.updating (name :: names), w) (.updating names, w)
  /-- `Load(name)` finds the fetched version: `continue`. -/
  | unchanged {w : ModernCacheWatcher} {name : String} {names : List String}
      {object : ManagedClusterSet} :
      S.get name = .ok object → w.knownResources.lookup name = some object.resourceVersion →
      CallStep n (.updating (name :: names), w) (.updating names, w)
  /-- `Load(name)` finds another version, or none. -/
  | load {w : ModernCacheWatcher} {name : String} {names : List String}
      {object : ManagedClusterSet} :
      S.get name = .ok object → w.knownResources.lookup name ≠ some object.resourceVersion →
      CallStep n (.updating (name :: names), w)
        (.loaded ⟨if (w.knownResources.lookup name).isSome then .modified else .added,
          .clusterSet object⟩ name object.resourceVersion names, w)
  /-- `knownResources.Store(name, version)`. -/
  | store {w : ModernCacheWatcher} {event : Event} {name version : String}
      {names : List String} :
      CallStep n (.loaded event name version names, w) (.stored event names, w.remember name version)
  /-- `w.internalEvents <- event`. -/
  | sendUpdate {w : ModernCacheWatcher} {event : Event} {names : List String} :
      CallStep n (.stored event names, w) (.updating names, w.enqueue event)
  /-- The loop is over: return. -/
  | finish {w : ModernCacheWatcher} : CallStep n (.updating [], w) (.done, w)

/-! ## A call alone -/

/-- `Range` running alone over keys that are all present: the deletion pass. -/
theorem solo_ranging (n : Notification) :
    ∀ (keys : List String) (w : ModernCacheWatcher), keys.Nodup →
      (∀ k ∈ keys, k ∈ w.knownResources) →
      Relation.ReflTransGen (CallStep S order n) (.ranging keys, w)
        (.ranging [], handleResourceDeletions S allDelivered n.names keys w)
  | [], _, _, _ => .refl
  | key :: keys, w, hnd, hmem => by
    obtain ⟨hkey, hnd⟩ := List.nodup_cons.mp hnd
    have hrest : ∀ k ∈ keys, k ∈ w.knownResources := fun k hk => hmem k (.tail _ hk)
    by_cases hN : key ∈ n.names
    · simpa [handleResourceDeletions, hN] using
        Relation.ReflTransGen.head (.keep (hmem key (.head _)) hN)
          (solo_ranging n keys w hnd hrest)
    · have hrest' : ∀ k ∈ keys, k ∈ (w.forget key).knownResources := fun k hk => by
        simpa [Finmap.mem_erase, ne_of_mem_of_not_mem hk hkey] using hrest k hk
      simpa [handleResourceDeletions, hN] using
        Relation.ReflTransGen.head (.delete (hmem key (.head _)) hN)
          (.head .sendDeleted (solo_ranging n keys _ hnd (by simpa using hrest')))

/-- The update loop running alone over a prefix of its names. -/
theorem solo_updating (n : Notification) (rest : List String) :
    ∀ (names : List String) (w : ModernCacheWatcher),
      Relation.ReflTransGen (CallStep S order n) (.updating (names ++ rest), w)
        (.updating rest, handleResourceUpdates S allDelivered names w)
  | [], _ => .refl
  | name :: names, w => by
    cases hg : S.get name with
    | error e =>
      simpa [handleResourceUpdates, hg] using
        Relation.ReflTransGen.head (.missing hg) (solo_updating n rest names w)
    | ok object =>
      by_cases hk : w.knownResources.lookup name = some object.resourceVersion
      · simpa [handleResourceUpdates, hg, hk] using
          Relation.ReflTransGen.head (.unchanged hg hk) (solo_updating n rest names w)
      · simpa [handleResourceUpdates, hg, hk] using
          Relation.ReflTransGen.head (.load hg hk)
            (.head .store (.head .sendUpdate (solo_updating n rest names _)))

/-- A call that runs alone goes from `start` to `done` through exactly the
changes `groupMembershipChanged` makes. -/
theorem solo_groupMembershipChanged (n : Notification) (w : ModernCacheWatcher) :
    Relation.ReflTransGen (CallStep S order n) (.start, w)
      (.done, groupMembershipChanged S order allDelivered n w) := by
  by_cases hacc : w.hasAccess n
  · rw [groupMembershipChanged, if_pos hacc]
    have hkeys : ∀ k ∈ order.toList w.knownResources.keys, k ∈ w.knownResources :=
      fun k hk => Finmap.mem_keys.mp ((order.mem _ k).mp hk)
    have hupd := solo_updating S order n [] (RangeOrder.sorted.toList n.names)
    simp only [List.append_nil] at hupd
    exact .head (.range hacc) ((solo_ranging S order n _ w (order.nodup _) hkeys).trans
      (.head .endRange ((hupd _).tail .finish)))
  · rw [groupMembershipChanged, if_neg hacc]
    exact .single (.ignore hacc)

/-- A call running alone, whose subject takes part, reaches the `Load` of any
fetchable name of its notification that the watcher does not know, and finds
it unknown there. -/
theorem solo_load (n : Notification) {w : ModernCacheWatcher} (hacc : w.hasAccess n)
    {name : String} {object : ManagedClusterSet} (hget : S.get name = .ok object)
    (hname : name ∈ n.names) (hunknown : w.knownResources.lookup name = none) :
    ∃ w' names, Relation.ReflTransGen (CallStep S order n) (.start, w)
        (.loaded ⟨.added, .clusterSet object⟩ name object.resourceVersion names, w') ∧
      w'.user = w.user ∧ w'.knownResources.lookup name = none := by
  obtain ⟨pre, post, hsplit⟩ := List.append_of_mem ((RangeOrder.sorted.mem _ _).mpr hname)
  have hnd := RangeOrder.sorted.nodup n.names
  rw [hsplit] at hnd
  have hpre : name ∉ pre := fun h => (List.nodup_append.mp hnd).2.2 h (.head _)
  have hkeys : ∀ k ∈ order.toList w.knownResources.keys, k ∈ w.knownResources :=
    fun k hk => Finmap.mem_keys.mp ((order.mem _ k).mp hk)
  obtain ⟨w₁, hw₁⟩ : ∃ w₁, handleResourceDeletions S allDelivered n.names
      (order.toList w.knownResources.keys) w = w₁ := ⟨_, rfl⟩
  have hdel := handleResourceDeletions_allDelivered S n.names (order.toList w.knownResources.keys) w
  obtain ⟨w₂, hw₂⟩ : ∃ w₂, handleResourceUpdates S allDelivered pre w₁ = w₂ := ⟨_, rfl⟩
  have hupd := handleResourceUpdates_allDelivered S pre w₁ (List.nodup_append.mp hnd).1
  rw [hw₁] at hdel
  rw [hw₂] at hupd
  have hlookup : w₂.knownResources.lookup name = none := by
    simp [hupd, hdel, lookup_recordFetched, hpre, lookup_forgetOutside, hunknown]
  have hload := (CallStep.load hget (by simp [hlookup]) :
    CallStep S order n (.updating (name :: post), w₂) _)
  rw [hlookup] at hload
  have run₁ := solo_ranging S order n _ w (order.nodup _) hkeys
  have run₂ := solo_updating S order n (name :: post) pre w₁
  rw [hw₁] at run₁
  rw [hw₂, ← hsplit] at run₂
  exact ⟨w₂, post, .head (.range hacc) (run₁.trans (.head .endRange (run₂.tail hload))),
    by simp [hupd, hdel], hlookup⟩

/-! ## Calls at once -/

/-- Calls of `GroupMembershipChanged` running at once on one watcher. -/
structure RaceState (ι : Type) where
  /-- The shared watcher: `knownResources` and `internalEvents`. -/
  watcher : ModernCacheWatcher
  /-- Where each call is. -/
  calls : ι → CallPc

variable {ι : Type} [DecidableEq ι] (n : ι → Notification)

/-- One call, with its own notification, takes one atomic step. -/
inductive RaceStep : RaceState ι → RaceState ι → Prop
  | step {s : RaceState ι} {i : ι} {pc : CallPc} {w : ModernCacheWatcher} :
      CallStep S order (n i) (s.calls i, s.watcher) (pc, w) →
      RaceStep s ⟨w, Function.update s.calls i pc⟩

/-- One step of one call is a step of the system. -/
theorem raceStep_update {calls : ι → CallPc} {i : ι} {b c : CallPc × ModernCacheWatcher}
    (h : CallStep S order (n i) b c) :
    RaceStep S order n ⟨b.2, Function.update calls i b.1⟩ ⟨c.2, Function.update calls i c.1⟩ := by
  rw [← Function.update_idem b.1 c.1 calls]
  exact .step (by simpa using h)

/-- A call running alone is a run of the system in which the others wait. -/
theorem race_of_solo {s : RaceState ι} {i : ι} {pc : CallPc} {b : CallPc × ModernCacheWatcher}
    (hpc : s.calls i = pc) (h : Relation.ReflTransGen (CallStep S order (n i)) (pc, s.watcher) b) :
    Relation.ReflTransGen (RaceStep S order n) s ⟨b.2, Function.update s.calls i b.1⟩ := by
  induction h with
  | refl => subst hpc; rw [Function.update_eq_self]
  | tail _ step ih => exact ih.tail (raceStep_update S order n step)

/-- Two calls whose subject takes part, both naming a fetchable name the
watcher does not know, can each queue `ADDED` for it, one right after the
other, with no `DELETED` between. -/
theorem race_added_twice {s : RaceState ι} {i j : ι} (hij : i ≠ j)
    (hi : s.calls i = .start) (hj : s.calls j = .start)
    (hacci : s.watcher.hasAccess (n i)) (haccj : s.watcher.hasAccess (n j))
    {name : String} {object : ManagedClusterSet} (hget : S.get name = .ok object)
    (hnamei : name ∈ (n i).names) (hnamej : name ∈ (n j).names)
    (hunknown : name ∉ s.watcher.knownResources) :
    ∃ t, Relation.ReflTransGen (RaceStep S order n) s t ∧
      ∃ events, t.watcher.internalEvents =
          events ++ [⟨.added, .clusterSet object⟩, ⟨.added, .clusterSet object⟩] ∧
        t.watcher.knownResources.lookup name = some object.resourceVersion := by
  obtain ⟨w₁, names₁, run₁, huser, hl₁⟩ :=
    solo_load S order (n i) hacci hget hnamei (Finmap.lookup_eq_none.mpr hunknown)
  have haccj' : w₁.hasAccess (n j) := by
    unfold ModernCacheWatcher.hasAccess at haccj ⊢; rwa [huser]
  obtain ⟨w₂, names₂, run₂, -, -⟩ := solo_load S order (n j) haccj' hget hnamej hl₁
  have sends : ∀ (k : ι) (names : List String) (w : ModernCacheWatcher),
      Relation.ReflTransGen (CallStep S order (n k))
        (.loaded ⟨.added, .clusterSet object⟩ name object.resourceVersion names, w)
        (.updating names, (w.remember name object.resourceVersion).enqueue
          ⟨.added, .clusterSet object⟩) :=
    fun _ _ _ => .head .store (.single .sendUpdate)
  refine ⟨_, (race_of_solo S order n hi run₁).trans <|
    (race_of_solo S order n (by simp [Function.update_noteq hij.symm, hj]) run₂).trans <|
    (race_of_solo S order n (by simp [Function.update_noteq hij]) (sends i names₁ w₂)).trans
      (race_of_solo S order n (by simp [Function.update_noteq hij.symm]) (sends j names₂ _)),
    w₂.internalEvents, by simp, by simp⟩

end Steps

/-- Two calls with the same notification on `alice`'s new watcher both queue
`ADDED` for `dev`. -/
theorem groupMembershipChanged_alice_added_twice :
    ∃ t, Relation.ReflTransGen
        (RaceStep (devStore none) RangeOrder.sorted fun _ : Fin 2 => notification alicePrev)
        ⟨aliceWatcher, fun _ => .start⟩ t ∧
      ∃ events, t.watcher.internalEvents =
          events ++ [⟨.added, .clusterSet ⟨"dev", ∅, "1"⟩⟩, ⟨.added, .clusterSet ⟨"dev", ∅, "1"⟩⟩] ∧
        t.watcher.knownResources.lookup "dev" = some "1" :=
  race_added_twice (devStore none) RangeOrder.sorted _ (show (0 : Fin 2) ≠ 1 by decide) rfl rfl
    (by decide) (by decide) rfl (by decide) (by decide) (by decide)

end ClusterSetCache
