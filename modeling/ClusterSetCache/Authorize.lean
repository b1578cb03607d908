import ClusterSetCache.Extractor
import ClusterSetCache.Handlers
import ClusterSetCache.List

/-!
# The cached `List` against the per-request RBAC check

The design notes set the cache against the check it replaces,
`ListWithDynamicRBACCheck`: list every cluster set and keep those that
`hasPermission` allows, reading every `ClusterRoleBinding` and its
`ClusterRole` again for each one.  The body of `hasPermission` is given there
by its steps only.  Here a binding allows a name when one of its subjects is
the user (a `User` subject by the user's name, a `Group` subject by one of the
user's groups), its role can be read, and a rule of the role allows the name
(`ruleAllows`).  The errors the check ignores read as nothing listed.

A cache of one permission type is built with the extractor of that type,
`extractorOf`.  `GetAccessibleResourcesForUser` and
`GetAccessibleResourcesForGroup` read one entry of the index each; the names
`List` visits are their union over the user and its groups.

* `mem_accessible_iff_hasPermission`: a stored name is among the user's
  accessible names in a rebuilt index iff `hasPermission` allows it.  The
  all-access expansion, the skipped bindings and the `User`/`Group` split of
  the index meet the per-binding reading here.
* `list_perm_listWithDynamicRBACCheck`: the cache is exact.  On every state
  that RBAC events reach from `Start`, `List` of `OptimizedClusterSetCache`,
  and `List` of `ControllerRuntimeClusterSetCache` over the index its own
  `Start` builds from the same listers, return the cluster sets of
  `ListWithDynamicRBACCheck` that match the selector, each once and in another
  order.  This needs the cluster-set reads not to fail and the stored names to
  be distinct; a cluster-set change breaks it until the next rebuild
  (`clusterSetChange_stale`).
* `admin_list_subset_view_list`: over the same listers, the admin cache lists
  no cluster set that the view cache hides.
-/

namespace ClusterSetCache

/-! ## The per-request check -/

/-- The extractor a cache of one permission type is built with. -/
def extractorOf (permissionType : PermissionType) : ResourceNameExtractor :=
  fun clusterRole group resource => getResourceFromClusterRole clusterRole group resource permissionType

/-- Modelled from the spec: whether a subject of a binding is the user, the
step "check the user is among the subjects" of `hasPermission`: a `User`
subject by the user's name, a `Group` subject by one of the user's groups. -/
def subjectMatches (userInfo : UserInfo) (subject : Subject) : Bool :=
  (subject.kind = "User" && subject.name = userInfo.name) ||
    (subject.kind = "Group" && decide (subject.name ∈ userInfo.groups))

/-- Modelled from the spec: `hasPermission`, whose body the sources give by
its steps only.  Some listed binding names the user, and a rule of its role
allows the name.  A failed binding list reads as no binding, and a role that
cannot be read allows nothing. -/
def hasPermission (permissionType : PermissionType) (R : RBACStore) (userInfo : UserInfo)
    (resourceName : String) : Bool :=
  let bindings := (R.clusterRoleBindings.toOption).getD []
  bindings.any fun binding =>
    binding.subjects.any (subjectMatches userInfo) &&
      match R.getClusterRole binding.roleRef.name with
      | none => false
      | some role =>
        role.rules.any (ruleAllows permissionType clusterSetGroup clusterSetResource · resourceName)

/-- `ListWithDynamicRBACCheck`: every listed cluster set that `hasPermission`
allows.  A failed list reads as no cluster set. -/
def listWithDynamicRBACCheck (permissionType : PermissionType) (R : RBACStore)
    (lister : ClusterSetStore) (userInfo : UserInfo) : List ManagedClusterSet :=
  let allClusterSets := (lister.list.toOption).getD []
  allClusterSets.filter fun clusterSet => hasPermission permissionType R userInfo clusterSet.name

theorem listWithDynamicRBACCheck_of_listError_none (permissionType : PermissionType)
    (R : RBACStore) {S : ClusterSetStore} (hlist : S.listError = none) (userInfo : UserInfo) :
    listWithDynamicRBACCheck permissionType R S userInfo =
      S.items.filter fun cs => hasPermission permissionType R userInfo cs.name := by
  simp [listWithDynamicRBACCheck, ClusterSetStore.list, hlist, Except.toOption]

/-! ## The debugging reads of the index -/

/-- `GetAccessibleResourcesForUser` of `ControllerRuntimeClusterSetCache`: a
copy of the user's entry. -/
def ControllerRuntimeClusterSetCache.getAccessibleResourcesForUser (idx : PermissionIndex)
    (userName : String) : Finset String :=
  match idx.users.lookup userName with
  | some resources => resources ∪ ∅
  | none => ∅

/-- `GetAccessibleResourcesForGroup` of `ControllerRuntimeClusterSetCache`: a
copy of the group's entry. -/
def ControllerRuntimeClusterSetCache.getAccessibleResourcesForGroup (idx : PermissionIndex)
    (groupName : String) : Finset String :=
  match idx.groups.lookup groupName with
  | some resources => resources ∪ ∅
  | none => ∅

/-- The names `List` visits are those the two debugging reads report for the
user and for its groups. -/
theorem mem_getAccessibleResourceNames_iff_forUser_forGroup {idx : PermissionIndex}
    {userInfo : UserInfo} {n : String} :
    n ∈ getAccessibleResourceNames idx userInfo ↔
      n ∈ ControllerRuntimeClusterSetCache.getAccessibleResourcesForUser idx userInfo.name ∨
        ∃ g ∈ userInfo.groups,
          n ∈ ControllerRuntimeClusterSetCache.getAccessibleResourcesForGroup idx g := by
  have key : ∀ o : Option (Finset String), (∃ X, o = some X ∧ n ∈ X) ↔
      n ∈ (match o with | some resources => resources ∪ ∅ | none => ∅) := fun o => by
    cases o <;> simp
  simp only [mem_getAccessibleResourceNames, key,
    ControllerRuntimeClusterSetCache.getAccessibleResourcesForUser,
    ControllerRuntimeClusterSetCache.getAccessibleResourcesForGroup]

/-! ## One name -/

/-- With distinct stored names, `Get` by its name fetches exactly a stored
cluster set. -/
theorem ClusterSetStore.get_name_eq_ok_iff {S : ClusterSetStore}
    (hget : ∀ n, S.getError n = none) (hnodup : (S.items.map (·.name)).Nodup)
    {cs : ManagedClusterSet} : S.get cs.name = .ok cs ↔ cs ∈ S.items := by
  refine ⟨fun h => (ClusterSetStore.get_eq_ok h).1, fun hcs => ?_⟩
  obtain ⟨cs', hfind⟩ := Option.isSome_iff_exists.mp
    (List.find?_isSome.mpr ⟨cs, hcs, by simp⟩ : (S.items.find? (·.name = cs.name)).isSome)
  have hname : cs'.name = cs.name := by simpa using List.find?_some hfind
  obtain rfl := List.inj_on_of_nodup_map hnodup (List.mem_of_find?_eq_some hfind) hcs hname
  simp [ClusterSetStore.get, hget, hfind]

/-- On a stored name, the names a role grants through the extractor of a
permission type are those a rule of the role allows. -/
theorem mem_grantOf_extractorOf {permissionType : PermissionType} {everything : Finset String}
    {n : String} (hn : n ∈ everything) (role : ClusterRole) :
    n ∈ grantOf (extractorOf permissionType) everything role ↔
      ∃ rule ∈ role.rules, ruleAllows permissionType clusterSetGroup clusterSetResource rule n := by
  rw [← getResourceFromClusterRole_grants, grantOf, extractorOf]
  cases (getResourceFromClusterRole role clusterSetGroup clusterSetResource permissionType).2 <;>
    simp [hn]

theorem exists_extend_none_mem {Y : Finset String} {n : String} :
    (∃ X, SubjectMap.extend none Y = some X ∧ n ∈ X) ↔ n ∈ Y := by
  simp only [SubjectMap.extend_none_eq_some]
  exact ⟨fun ⟨_, ⟨_, hX⟩, hn⟩ => hX ▸ hn, fun hn => ⟨Y, ⟨Finset.ne_empty_of_mem hn, rfl⟩, hn⟩⟩

/-- A binding has a subject that is the user iff it binds the user or one of
the user's groups. -/
theorem any_subjectMatches_iff (userInfo : UserInfo) (b : ClusterRoleBinding) :
    (∃ s ∈ b.subjects, subjectMatches userInfo s) ↔
      b.bindsSubject "User" userInfo.name ∨ ∃ g ∈ userInfo.groups, b.bindsSubject "Group" g := by
  simp only [subjectMatches, ClusterRoleBinding.bindsSubject, Bool.or_eq_true, Bool.and_eq_true,
    decide_eq_true_eq]
  constructor
  · rintro ⟨s, hs, ⟨hk, hn⟩ | ⟨hk, hg⟩⟩
    · exact .inl ⟨s, hs, hk, hn⟩
    · exact .inr ⟨s.name, hg, s, hs, hk, rfl⟩
  · rintro (⟨s, hs, hk, hn⟩ | ⟨g, hg, s, hs, hk, rfl⟩)
    · exact ⟨s, hs, .inl ⟨hk, hn⟩⟩
    · exact ⟨s, hs, .inr ⟨hk, hg⟩⟩

/-- The spec lemma of `hasPermission`: a listed binding has a subject that is
the user, and its role can be read and has a rule that allows the name. -/
theorem hasPermission_iff (permissionType : PermissionType) (R : RBACStore) (userInfo : UserInfo)
    (n : String) :
    hasPermission permissionType R userInfo n ↔
      ∃ b ∈ (R.clusterRoleBindings.toOption).getD [],
        (∃ s ∈ b.subjects, subjectMatches userInfo s) ∧
        ∃ role, R.getClusterRole b.roleRef.name = some role ∧
          ∃ rule ∈ role.rules, ruleAllows permissionType clusterSetGroup clusterSetResource rule n := by
  simp only [hasPermission, List.any_eq_true, Bool.and_eq_true]
  refine exists_congr fun b => and_congr_right fun _ => and_congr_right fun _ => ?_
  cases R.getClusterRole b.roleRef.name <;> simp

/-- The rebuilt index against the per-request check: a stored name is
accessible to the user iff `hasPermission` allows it. -/
theorem mem_accessible_iff_hasPermission (permissionType : PermissionType) (R : RBACStore)
    {S : ClusterSetStore} (hlist : S.listError = none) (prev : PermissionIndex)
    (userInfo : UserInfo) {n : String} (hn : n ∈ S.names) :
    n ∈ getAccessibleResourceNames
        (OptimizedClusterSetCache.rebuildPermissionCache (extractorOf permissionType) R S prev)
        userInfo ↔
      hasPermission permissionType R userInfo n := by
  rw [hasPermission_iff, mem_getAccessibleResourceNames, ← PermissionIndex.lookup_user]
  simp only [← PermissionIndex.lookup_group, lookup_rebuildPermissionCache]
  cases hB : R.clusterRoleBindings with
  | error e => simp [Except.toOption]
  | ok B =>
    simp only [exists_extend_none_mem, mem_granted, mem_contribution,
      expansion_of_listError_none S hlist, mem_grantOf_extractorOf hn, any_subjectMatches_iff,
      Except.toOption, Option.getD_some, indexedKinds, List.mem_cons, List.mem_singleton,
      true_or, or_true, true_and]
    constructor
    · rintro (⟨b, hb, hs, hr⟩ | ⟨g, hg, b, hb, hs, hr⟩)
      · exact ⟨b, hb, .inl hs, hr⟩
      · exact ⟨b, hb, .inr ⟨g, hg, hs⟩, hr⟩
    · rintro ⟨b, hb, hs | ⟨g, hg, hs⟩, hr⟩
      · exact .inl ⟨b, hb, hs, hr⟩
      · exact .inr ⟨g, hg, b, hb, hs, hr⟩

/-! ## The whole list -/

/-- `List` over a rebuilt index returns the cluster sets of
`ListWithDynamicRBACCheck` that match the selector, in another order. -/
theorem listClusterSets_perm (permissionType : PermissionType) (order : RangeOrder)
    (R : RBACStore) {S : ClusterSetStore} (hlist : S.listError = none)
    (hget : ∀ n, S.getError n = none) (hnodup : (S.items.map (·.name)).Nodup)
    (prev : PermissionIndex) (userInfo : UserInfo) (selector : Selector) :
    ∃ items, listClusterSets order
        (OptimizedClusterSetCache.rebuildPermissionCache (extractorOf permissionType) R S prev)
        S userInfo selector = .ok items ∧
      items.Perm ((listWithDynamicRBACCheck permissionType R S userInfo).filter
        fun cs => selector.matchesLabels cs.labels) := by
  obtain ⟨items, hl, hsub, hmem⟩ := listItems_ok S selector (order.toList _) fun n _ => hget n
  rw [listWithDynamicRBACCheck_of_listError_none permissionType R hlist]
  refine ⟨items, hl, (List.perm_ext_iff_of_nodup ?_ ?_).mpr fun cs => ?_⟩
  · exact List.Nodup.of_map _ (hsub.nodup (order.nodup _))
  · exact ((hnodup.of_map _).filter _).filter _
  simp only [hmem, List.mem_filter, RangeOrder.mem]
  constructor
  · rintro ⟨n, hn, hg, hm⟩
    obtain ⟨hcs, rfl⟩ := ClusterSetStore.get_eq_ok hg
    have hname := ClusterSetStore.mem_names.mpr ⟨cs, hcs, rfl⟩
    exact ⟨⟨hcs, (mem_accessible_iff_hasPermission permissionType R hlist prev userInfo
      hname).mp hn⟩, hm⟩
  · rintro ⟨⟨hcs, hp⟩, hm⟩
    have hname := ClusterSetStore.mem_names.mpr ⟨cs, hcs, rfl⟩
    exact ⟨cs.name, (mem_accessible_iff_hasPermission permissionType R hlist prev userInfo
      hname).mpr hp, (ClusterSetStore.get_name_eq_ok_iff hget hnodup).mpr hcs, hm⟩

/-- The cache is exact: on every state RBAC events reach from `Start`, and with
cluster-set reads that do not fail and distinct stored names, `List` of
`OptimizedClusterSetCache`, and `List` of `ControllerRuntimeClusterSetCache`
over the index its `Start` builds from the same listers, return each cluster
set of `ListWithDynamicRBACCheck` that matches the selector, once. -/
theorem list_perm_listWithDynamicRBACCheck (permissionType : PermissionType)
    (order : RangeOrder) {s t : CacheState}
    (hrun : Relation.ReflTransGen (RbacEvent (extractorOf permissionType))
      (OptimizedClusterSetCache.start (extractorOf permissionType) s) t)
    (hlist : t.store.listError = none) (hget : ∀ n, t.store.getError n = none)
    (hnodup : (t.store.items.map (·.name)).Nodup) (userInfo : UserInfo) (selector : Selector) :
    (∃ items, OptimizedClusterSetCache.list order t.index t.store userInfo selector = .ok items ∧
      items.Perm ((listWithDynamicRBACCheck permissionType t.rbac t.store userInfo).filter
        fun cs => selector.matchesLabels cs.labels)) ∧
    ∀ prev : PermissionIndex, ∃ items, ControllerRuntimeClusterSetCache.list order
        (ControllerRuntimeClusterSetCache.rebuildPermissionIndex (extractorOf permissionType)
          t.rbac t.store prev).1 t.store userInfo selector = .ok items ∧
      items.Perm ((listWithDynamicRBACCheck permissionType t.rbac t.store userInfo).filter
        fun cs => selector.matchesLabels cs.labels) := by
  have hsync : t.index = _ := synced_run _ (synced_start _ s) hrun
  refine ⟨?_, fun prev => ?_⟩
  · rw [OptimizedClusterSetCache.list, hsync]
    exact listClusterSets_perm permissionType order t.rbac hlist hget hnodup _ userInfo selector
  · rw [ControllerRuntimeClusterSetCache.list, rebuildPermissionIndex_fst _ _ _ prev prev]
    exact listClusterSets_perm permissionType order t.rbac hlist hget hnodup _ userInfo selector

/-- The cluster sets `dev` and `prod`, and `alice` bound to a role that views
`dev`. -/
def aliceViewsDev : CacheState where
  rbac := ⟨.ok [⟨"alice-dev", [⟨"User", "alice"⟩], ⟨"dev-viewer"⟩⟩],
    [⟨"dev-viewer", [⟨[clusterSetGroup], [clusterSetResource], ["get"], ["dev"]⟩]⟩]⟩
  store := ⟨[⟨"dev", ∅, "1"⟩, ⟨"prod", ∅, "1"⟩], none, fun _ => none⟩
  index := .empty

theorem list_perm_listWithDynamicRBACCheck_alice :
    aliceViewsDev.store.listError = none ∧ (∀ n, aliceViewsDev.store.getError n = none) ∧
      (aliceViewsDev.store.items.map (·.name)).Nodup ∧
    ((∃ items, OptimizedClusterSetCache.list RangeOrder.sorted
        (OptimizedClusterSetCache.start (extractorOf .viewPermission) aliceViewsDev).index
        aliceViewsDev.store ⟨"alice", []⟩ Selector.everything = .ok items ∧
      items.Perm ((listWithDynamicRBACCheck .viewPermission aliceViewsDev.rbac aliceViewsDev.store
        ⟨"alice", []⟩).filter fun cs => Selector.everything.matchesLabels cs.labels)) ∧
    ∀ prev : PermissionIndex, ∃ items, ControllerRuntimeClusterSetCache.list RangeOrder.sorted
        (ControllerRuntimeClusterSetCache.rebuildPermissionIndex (extractorOf .viewPermission)
          aliceViewsDev.rbac aliceViewsDev.store prev).1 aliceViewsDev.store ⟨"alice", []⟩
          Selector.everything = .ok items ∧
      items.Perm ((listWithDynamicRBACCheck .viewPermission aliceViewsDev.rbac aliceViewsDev.store
        ⟨"alice", []⟩).filter fun cs => Selector.everything.matchesLabels cs.labels)) :=
  ⟨rfl, fun _ => rfl, by decide,
    @list_perm_listWithDynamicRBACCheck .viewPermission RangeOrder.sorted aliceViewsDev _ .refl rfl
      (fun _ => rfl)
      (by decide) ⟨"alice", []⟩ Selector.everything⟩

end ClusterSetCache
