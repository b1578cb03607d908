import Mathlib.Logic.Relation
import ClusterSetCache.Rebuild

/-!
# The event handlers of `OptimizedClusterSetCache`

`setupEventHandlers` registers handlers on the `ClusterRole` and
`ClusterRoleBinding` informers, and on nothing else.  A handler runs once its
informer's lister holds the change.  Every handler but
`onClusterRoleBindingAdd` rebuilds the index from the listers.
`onClusterRoleBindingAdd` processes the new binding alone.  A
`ManagedClusterSet` added, changed or deleted reaches no handler.

`CacheStep` is one of these: a handler's update of the index, taken under
`permissionCache.mu`, or a change of the cluster-set store.  The index is
*synced* when it is the rebuild over the current listers.

* `synced_run`: after `Start`'s rebuild, every run of `ClusterRole` and
  `ClusterRoleBinding` events keeps the index synced.
* `clusterSetChange_stale`: a cluster set added afterwards stays out of the
  entry of a user granted every cluster set, while a rebuild would put it
  there; only the next rebuild brings it in.
-/

namespace ClusterSetCache

/-- What the handlers of `OptimizedClusterSetCache` read and write. -/
structure CacheState where
  /-- The `ClusterRoleBinding` and `ClusterRole` listers. -/
  rbac : RBACStore
  /-- The `ManagedClusterSet` lister. -/
  store : ClusterSetStore
  /-- `permissionCache`. -/
  index : PermissionIndex

section Handlers

variable (E : ResourceNameExtractor)

/-- The rebuild `Start` runs once the informers have synced. -/
def OptimizedClusterSetCache.start (s : CacheState) : CacheState :=
  { s with index := OptimizedClusterSetCache.rebuildPermissionCache E s.rbac s.store s.index }

/-- An event on the `ClusterRole` or `ClusterRoleBinding` informer, after its
lister has changed. -/
inductive RbacEvent : CacheState → CacheState → Prop
  /-- `onClusterRoleAdd`, `onClusterRoleUpdate`, `onClusterRoleDelete`,
  `onClusterRoleBindingUpdate` and `onClusterRoleBindingDelete`: the listers
  now hold `rbac`, and the index is rebuilt from them. -/
  | rebuild {s : CacheState} (rbac : RBACStore) :
      RbacEvent s { s with
        rbac
        index := OptimizedClusterSetCache.rebuildPermissionCache E rbac s.store s.index }
  /-- `onClusterRoleBindingAdd`: the binding lister gains `binding`, and that
  binding alone is processed. -/
  | bindingAdd {s : CacheState} {B B' : List ClusterRoleBinding} (binding : ClusterRoleBinding) :
      s.rbac.clusterRoleBindings = .ok B → B'.Perm (binding :: B) →
      RbacEvent s { s with
        rbac := { s.rbac with clusterRoleBindings := .ok B' }
        index := OptimizedClusterSetCache.onClusterRoleBindingAdd E
          { s.rbac with clusterRoleBindings := .ok B' } s.store binding s.index }

/-- A step of the cache: an RBAC event, or a change of the cluster-set store,
which no handler sees. -/
inductive CacheStep : CacheState → CacheState → Prop
  | rbac {s t : CacheState} : RbacEvent E s t → CacheStep s t
  | clusterSetChange {s : CacheState} (store : ClusterSetStore) : CacheStep s { s with store }

/-- The index is the rebuild over the current listers. -/
def CacheState.Synced (s : CacheState) : Prop :=
  s.index = OptimizedClusterSetCache.rebuildPermissionCache E s.rbac s.store .empty

theorem synced_start (s : CacheState) : (OptimizedClusterSetCache.start E s).Synced E := rfl

/-- A rebuild syncs the index, whatever it held before. -/
theorem synced_rebuild (s : CacheState) (rbac : RBACStore) :
    CacheState.Synced E { s with
      rbac
      index := OptimizedClusterSetCache.rebuildPermissionCache E rbac s.store s.index } := rfl

/-- Processing the added binding alone gives the rebuild over the new list. -/
theorem synced_bindingAdd {s : CacheState} (hs : s.Synced E) {B B' : List ClusterRoleBinding}
    {binding : ClusterRoleBinding} (hB : s.rbac.clusterRoleBindings = .ok B)
    (hperm : B'.Perm (binding :: B)) :
    CacheState.Synced E { s with
      rbac := { s.rbac with clusterRoleBindings := .ok B' }
      index := OptimizedClusterSetCache.onClusterRoleBindingAdd E
        { s.rbac with clusterRoleBindings := .ok B' } s.store binding s.index } := by
  refine PermissionIndex.ext_lookup fun kind name => ?_
  have hidx : s.index = _ := hs
  simp only [OptimizedClusterSetCache.onClusterRoleBindingAdd, lookup_processClusterRoleBinding,
    hidx, lookup_rebuildPermissionCache, hB, SubjectMap.extend_extend]
  rw [granted_perm E _ s.store hperm, granted_cons, Finset.union_comm]
  rfl

theorem synced_rbacEvent {s t : CacheState} (hs : s.Synced E) (h : RbacEvent E s t) :
    t.Synced E := by
  cases h with
  | rebuild rbac => exact synced_rebuild E s rbac
  | bindingAdd binding hB hperm => exact synced_bindingAdd E hs hB hperm

/-- Every run of RBAC events keeps a synced index synced. -/
theorem synced_run {s t : CacheState} (hs : s.Synced E)
    (h : Relation.ReflTransGen (RbacEvent E) s t) : t.Synced E := by
  induction h with
  | refl => exact hs
  | tail _ step ih => exact synced_rbacEvent E ih step

/-! ## A cluster set that no handler sees -/

/-- A user granted every cluster set, by a synced index, does not get a
cluster set added afterwards, which a rebuild over the new store would grant:
the change is a step of the cache after which the index is out of sync until
the next rebuild.  Here the new set is named by no role explicitly. -/
theorem clusterSetChange_stale {s : CacheState} (hs : s.Synced E) {B : List ClusterRoleBinding}
    (hB : s.rbac.clusterRoleBindings = .ok B) {b : ClusterRoleBinding} (hb : b ∈ B)
    {user : String} (hbu : b.bindsSubject "User" user) {role : ClusterRole}
    (hrole : s.rbac.getClusterRole b.roleRef.name = some role)
    (hall : (E role clusterSetGroup clusterSetResource).2 = true)
    {store : ClusterSetStore} (hlist : store.listError = none) {n : String}
    (hn : n ∈ store.names) (hold : n ∉ s.store.names)
    (hexplicit : ∀ role ∈ s.rbac.clusterRoles, n ∉ (E role clusterSetGroup clusterSetResource).1) :
    n ∈ ((OptimizedClusterSetCache.rebuildPermissionCache E s.rbac store .empty).lookup
      "User" user).getD ∅ ∧
    n ∉ (s.index.lookup "User" user).getD ∅ ∧
    CacheStep E s { s with store } ∧ ¬ CacheState.Synced E { s with store } := by
  have hnew : n ∈ ((OptimizedClusterSetCache.rebuildPermissionCache E s.rbac store .empty).lookup
      "User" user).getD ∅ := by
    rw [lookup_rebuildPermissionCache, hB, SubjectMap.mem_getD_extend_none, mem_granted]
    refine ⟨b, hb, (mem_contribution E _ store).mpr ⟨.head _, hbu, role, hrole, ?_⟩⟩
    simpa [grantOf, hall, expansion_of_listError_none store hlist] using hn
  have hstale : n ∉ (s.index.lookup "User" user).getD ∅ := by
    rw [hs, lookup_rebuildPermissionCache, hB, SubjectMap.mem_getD_extend_none, mem_granted]
    rintro ⟨b', -, hc⟩
    obtain ⟨-, -, role', hrole', hn'⟩ := (mem_contribution E _ _).mp hc
    unfold grantOf at hn'
    split at hn'
    · exact hold (expansion_subset_names s.store hn')
    · exact hexplicit role' (List.mem_of_find?_eq_some hrole') hn'
  exact ⟨hnew, hstale, .clusterSetChange store, fun hsync => hstale (hsync ▸ hnew)⟩

end Handlers

end ClusterSetCache
