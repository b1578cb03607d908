import ClusterSetCache.List
import ClusterSetCache.Watcher

/-!
# Fanning out: `notifyWatchers`

After every rebuild and after `onClusterRoleBindingAdd`, both caches run
`notifyWatchers`.  For each registered watcher it reads the whole index and
sends the same three sets: every name of every user's and group's set, every
user key and every group key (`notification`).  The names are not those of the
watcher's subject: the loop collects them over all subjects.

`notifyWatchers` is the fan-out when no send times out; the lock and the
timeout path are in `WatcherLock`.  With the run lemma of the watcher this says
what each watcher knows afterwards (`notifyWatchers_knownResources`).  A
watcher whose subject has an entry knows every name of the index that it knew
before or can fetch, whoever the name was granted to.  A watcher whose subject
has no entry, because it lost every binding, is not touched.  On two users
bound to one cluster set each, `notifyWatchers_alice_fails` shows both: a
watcher learns the other user's set, and after losing its binding keeps its own
with no `DELETED`.
-/

namespace ClusterSetCache

/-- The sets `notifyWatchers` sends to each watcher: every name in the index,
every user and every group. -/
def notification (idx : PermissionIndex) : Notification :=
  ⟨SubjectMap.allNames idx.users ∪ SubjectMap.allNames idx.groups, idx.users.keys,
    idx.groups.keys⟩

/-- `notifyWatchers` with every send delivered: each registered watcher in
turn gets `GroupMembershipChanged(names, users, groups)`. -/
def notifyWatchers (S : ClusterSetStore) (order : RangeOrder) (idx : PermissionIndex)
    (watchers : List ModernCacheWatcher) : List ModernCacheWatcher :=
  watchers.map (groupMembershipChanged S order allDelivered (notification idx))

theorem mem_notification_names {idx : PermissionIndex} {name : String} :
    name ∈ (notification idx).names ↔
      ∃ kind subject X, idx.lookup kind subject = some X ∧ name ∈ X := by
  simp only [notification, Finset.mem_union, SubjectMap.mem_allNames]
  constructor
  · rintro (⟨k, X, h, hn⟩ | ⟨k, X, h, hn⟩)
    · exact ⟨"User", k, X, h, hn⟩
    · exact ⟨"Group", k, X, h, hn⟩
  · rintro ⟨kind, subject, X, h, hn⟩
    unfold PermissionIndex.lookup at h
    split_ifs at h
    · exact .inl ⟨subject, X, h, hn⟩
    · exact .inr ⟨subject, X, h, hn⟩

/-- A watcher takes part in the notification exactly when its user, or one of
its groups, has an entry. -/
theorem hasAccess_notification {idx : PermissionIndex} {w : ModernCacheWatcher} :
    w.hasAccess (notification idx) ↔
      w.user.name ∈ idx.users ∨ ∃ g ∈ w.user.groups, g ∈ idx.groups := by
  simp [ModernCacheWatcher.hasAccess, notification, Finmap.mem_keys]

/-- After `notifyWatchers` with no send timing out, a watcher whose user, or
one of whose groups, has an entry in the index knows exactly the names of any
subject's set that it knew before or can fetch.  Any other watcher is
unchanged. -/
theorem notifyWatchers_knownResources (S : ClusterSetStore) (order : RangeOrder)
    (idx : PermissionIndex) (watchers : List ModernCacheWatcher) :
    List.Forall₂ (fun w w' =>
      ((w.user.name ∈ idx.users ∨ ∃ g ∈ w.user.groups, g ∈ idx.groups) →
        ∀ name, name ∈ w'.knownResources ↔
          (∃ kind subject X, idx.lookup kind subject = some X ∧ name ∈ X) ∧
          (name ∈ w.knownResources ∨ ∃ cs, S.get name = .ok cs)) ∧
      (¬ (w.user.name ∈ idx.users ∨ ∃ g ∈ w.user.groups, g ∈ idx.groups) → w' = w))
      watchers (notifyWatchers S order idx watchers) := by
  rw [notifyWatchers, List.forall₂_map_right_iff, List.forall₂_same]
  intro w _
  refine ⟨fun hacc name => ?_, fun hacc => ?_⟩
  · rw [← hasAccess_notification] at hacc
    rw [← Finmap.lookup_isSome, lookup_groupMembershipChanged S order _ hacc,
      ← mem_notification_names]
    by_cases hn : name ∈ (notification idx).names
    · simp only [hn, if_true, true_and, updatedVersion]
      cases S.get name <;> simp [Finmap.lookup_isSome]
    · simp [hn]
  · rw [← hasAccess_notification] at hacc
    simp [groupMembershipChanged, hacc]

/-- Roles `dev-viewer` and `prod-viewer`, granting `dev` and `prod`. -/
def perRoleNames : ResourceNameExtractor := fun role _ _ =>
  (if role.name = "dev-viewer" then {"dev"} else {"prod"}, false)

/-- `alice` bound to `dev-viewer`, `bob` to `prod-viewer`. -/
def twoUsersRBAC : RBACStore :=
  ⟨.ok [⟨"alice-dev", [⟨"User", "alice"⟩], ⟨"dev-viewer"⟩⟩,
      ⟨"bob-prod", [⟨"User", "bob"⟩], ⟨"prod-viewer"⟩⟩],
    [⟨"dev-viewer", []⟩, ⟨"prod-viewer", []⟩]⟩

/-- The store holding `dev` and `prod`. -/
def twoSetsStore : ClusterSetStore := ⟨[⟨"dev", ∅, "1"⟩, ⟨"prod", ∅, "1"⟩], none, fun _ => none⟩

/-- The index the rebuild makes of them. -/
def twoUsersIndex : PermissionIndex :=
  OptimizedClusterSetCache.rebuildPermissionCache perRoleNames twoUsersRBAC twoSetsStore .empty

/-- A new watcher of `alice`, knowing nothing yet. -/
def aliceWatcher : ModernCacheWatcher := ⟨⟨"alice", []⟩, ∅, [], none, 0⟩

/-- `twoUsersRBAC` once `alice-dev` is deleted. -/
def bobOnlyRBAC : RBACStore :=
  ⟨.ok [⟨"bob-prod", [⟨"User", "bob"⟩], ⟨"prod-viewer"⟩⟩], [⟨"dev-viewer", []⟩, ⟨"prod-viewer", []⟩]⟩

/-- The index the next rebuild makes: `alice` has no entry. -/
def bobOnlyIndex : PermissionIndex :=
  OptimizedClusterSetCache.rebuildPermissionCache perRoleNames bobOnlyRBAC twoSetsStore twoUsersIndex

/-- A watcher of `alice` that knows `dev` at version `1`. -/
def aliceDevWatcher : ModernCacheWatcher := ⟨⟨"alice", []⟩, Finmap.singleton "dev" "1", [], none, 0⟩

/-- `notifyWatchers` after each of two rebuilds, in any `Range` order.  After
the first, a new watcher of `alice` learns `prod` and queues `ADDED` for it,
though only `bob` may see `prod`.  Once `alice-dev` is deleted `alice` has no
entry, so her watcher that knows `dev` is left as it was: `dev` stays known and
no `DELETED` is queued, though `alice` may no longer see it. -/
theorem notifyWatchers_alice_fails (order : RangeOrder) :
    (∃ w', notifyWatchers twoSetsStore order twoUsersIndex [aliceWatcher] = [w'] ∧
      "prod" ∈ w'.knownResources ∧ ⟨.added, .clusterSet ⟨"prod", ∅, "1"⟩⟩ ∈ w'.internalEvents) ∧
    "prod" ∉ getAccessibleResourceNames twoUsersIndex aliceWatcher.user ∧
    notifyWatchers twoSetsStore order bobOnlyIndex [aliceDevWatcher] = [aliceDevWatcher] ∧
    "dev" ∈ aliceDevWatcher.knownResources ∧
    "dev" ∉ getAccessibleResourceNames bobOnlyIndex aliceDevWatcher.user := by
  have hacc : aliceWatcher.hasAccess (notification twoUsersIndex) := by decide
  have hprod : "prod" ∈ RangeOrder.sorted.toList (notification twoUsersIndex).names :=
    (RangeOrder.sorted.mem _ _).mpr (by decide)
  refine ⟨⟨_, rfl, ?_, ?_⟩, by decide, ?_, by decide, by decide⟩
  · rw [← Finmap.lookup_isSome, lookup_groupMembershipChanged _ _ _ hacc]
    decide
  · rw [groupMembershipChanged_of_hasAccess _ _ _ hacc]
    exact List.mem_append_right _ (List.mem_append_right _
      (List.mem_filterMap.mpr ⟨"prod", hprod, by decide⟩))
  · show [groupMembershipChanged _ _ _ _ _] = _
    rw [groupMembershipChanged, if_neg (by decide)]

end ClusterSetCache
