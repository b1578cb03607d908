import ClusterSetCache.Rebuild

/-!
# Filtered reads: `List`

`List` in both caches is the same loop.  `getAccessibleResourceNames` joins the
user's set with the set of every group the user is in, under the read lock.
`List` then visits the joined names in `range` order and fetches each from the
cluster-set store: `NotFound` is skipped, any other error is returned at once,
and a fetched set is kept when its labels match the selector.

`listItems_ok` is the loop's run lemma.  When no fetch fails for another
reason than `NotFound`, the loop returns the fetched sets that match, in visit
order, and their names are a sublist of the visited names.  Since `range`
visits each name once, no name is returned twice (`list_eq_accessible`).  The
result depends on the index only through the entries of the user and of its
groups, so another subject's grants never change it.
-/

namespace ClusterSetCache

/-- `getAccessibleResourceNames` of both caches. -/
def getAccessibleResourceNames (idx : PermissionIndex) (userInfo : UserInfo) : Finset String :=
  userInfo.groups.foldl (fun accessibleNames group =>
      accessibleNames ∪ (idx.groups.lookup group).getD ∅)
    ((idx.users.lookup userInfo.name).getD ∅)

theorem mem_foldl_groups (idx : PermissionIndex) (n : String) :
    ∀ (groups : List String) (acc : Finset String),
      n ∈ groups.foldl (fun acc group => acc ∪ (idx.groups.lookup group).getD ∅) acc ↔
        n ∈ acc ∨ ∃ g ∈ groups, ∃ X, idx.groups.lookup g = some X ∧ n ∈ X
  | [], acc => by simp
  | g :: gs, acc => by
    rw [List.foldl_cons, mem_foldl_groups idx n gs, Finset.mem_union]
    cases h : idx.groups.lookup g <;> simp [h, or_assoc]

/-- A name is accessible when the user's entry or one of its groups' entries
holds it. -/
theorem mem_getAccessibleResourceNames {idx : PermissionIndex} {userInfo : UserInfo}
    {n : String} :
    n ∈ getAccessibleResourceNames idx userInfo ↔
      (∃ X, idx.users.lookup userInfo.name = some X ∧ n ∈ X) ∨
        ∃ g ∈ userInfo.groups, ∃ X, idx.groups.lookup g = some X ∧ n ∈ X := by
  rw [getAccessibleResourceNames, mem_foldl_groups]
  cases idx.users.lookup userInfo.name <;> simp

/-- The loop of `List` over the accessible names, in visit order. -/
def listItems (S : ClusterSetStore) (selector : Selector) :
    List String → Except String (List ManagedClusterSet)
  | [] => .ok []
  | name :: rest =>
    match S.get name with
    | .error .notFound => listItems S selector rest
    | .error (.other e) => .error e
    | .ok clusterSet =>
      if selector.matchesLabels clusterSet.labels then
        (listItems S selector rest).map (clusterSet :: ·)
      else listItems S selector rest

/-- `List` of both caches: fetch every accessible name in `range` order. -/
def listClusterSets (order : RangeOrder) (idx : PermissionIndex) (S : ClusterSetStore)
    (userInfo : UserInfo) (selector : Selector) : Except String (List ManagedClusterSet) :=
  listItems S selector (order.toList (getAccessibleResourceNames idx userInfo))

/-- `OptimizedClusterSetCache.List`, fetching through `clusterSetLister.Get`. -/
def OptimizedClusterSetCache.list (order : RangeOrder) (idx : PermissionIndex)
    (clusterSetLister : ClusterSetStore) (userInfo : UserInfo) (selector : Selector) :
    Except String (List ManagedClusterSet) :=
  listClusterSets order idx clusterSetLister userInfo selector

/-- `ControllerRuntimeClusterSetCache.List`, fetching through `client.Get`. -/
def ControllerRuntimeClusterSetCache.list (order : RangeOrder) (idx : PermissionIndex)
    (client : ClusterSetStore) (userInfo : UserInfo) (selector : Selector) :
    Except String (List ManagedClusterSet) :=
  listClusterSets order idx client userInfo selector

/-- The run lemma of the loop: with no fetch failing for another reason, it
returns the matching fetched sets, named after a sublist of the names. -/
theorem listItems_ok (S : ClusterSetStore) (selector : Selector) :
    ∀ names : List String, (∀ n ∈ names, S.getError n = none) →
      ∃ items, listItems S selector names = .ok items ∧
        (items.map (·.name)).Sublist names ∧
        ∀ cs, cs ∈ items ↔ ∃ n ∈ names, S.get n = .ok cs ∧ selector.matchesLabels cs.labels
  | [], _ => ⟨[], rfl, by simp, by simp⟩
  | name :: rest, h => by
    obtain ⟨items, hl, hsub, hmem⟩ := listItems_ok S selector rest fun n hn => h n (.tail _ hn)
    have hget : ∀ e, S.get name ≠ .error (.other e) := by
      intro e he
      simp [ClusterSetStore.get, h name (.head _)] at he
      split at he <;> cases he
    cases hg : S.get name with
    | error err =>
      cases err with
      | notFound =>
        refine ⟨items, by simp [listItems, hg, hl], hsub.cons _, fun cs => ?_⟩
        simp [hmem, hg]
      | other e => exact absurd hg (hget e)
    | ok cs0 =>
      have hname := (ClusterSetStore.get_eq_ok hg).2
      by_cases hm : selector.matchesLabels cs0.labels
      · refine ⟨cs0 :: items, by simp [listItems, hg, hm, hl, Except.map], ?_, fun cs => ?_⟩
        · simpa [hname] using hsub.cons₂ name
        · by_cases hc : cs = cs0
          · subst hc; simp [hg, hm]
          · simp [hmem, hg, hc, Ne.symm hc]
      · refine ⟨items, by simp [listItems, hg, hm, hl], hsub.cons _, fun cs => ?_⟩
        simp only [hmem, List.mem_cons, exists_eq_or_imp, hg, Except.ok.injEq]
        exact (or_iff_right_of_imp fun h => absurd (h.1 ▸ h.2) hm).symm

/-- Two indexes that agree on the user's entry and its groups' entries give it
the same accessible names. -/
theorem getAccessibleResourceNames_congr {idx idx' : PermissionIndex} {userInfo : UserInfo}
    (hu : idx'.users.lookup userInfo.name = idx.users.lookup userInfo.name)
    (hg : ∀ g ∈ userInfo.groups, idx'.groups.lookup g = idx.groups.lookup g) :
    getAccessibleResourceNames idx' userInfo = getAccessibleResourceNames idx userInfo := by
  ext n
  simp only [mem_getAccessibleResourceNames, hu]
  constructor <;> rintro (h | ⟨g, hg', X, hX, hn⟩)
  · exact .inl h
  · exact .inr ⟨g, hg', X, (hg g hg').symm.trans hX, hn⟩
  · exact .inl h
  · exact .inr ⟨g, hg', X, (hg g hg').trans hX, hn⟩

/-- `List` of either cache returns, when no fetch of an accessible name fails
for another reason than `NotFound`, each stored cluster set that is granted to
the user or to one of its groups and matches the selector, once.  Two indexes
that agree on the entries of the user and of its groups give the same
result. -/
theorem list_eq_accessible (order : RangeOrder) (idx : PermissionIndex) (S : ClusterSetStore)
    (userInfo : UserInfo) (selector : Selector)
    (hget : ∀ n ∈ getAccessibleResourceNames idx userInfo, S.getError n = none) :
    ∀ list ∈ [OptimizedClusterSetCache.list, ControllerRuntimeClusterSetCache.list],
      (∃ items, list order idx S userInfo selector = .ok items ∧
        (items.map (·.name)).Nodup ∧
        ∀ cs, cs ∈ items ↔ S.get cs.name = .ok cs ∧
          ((∃ X, idx.users.lookup userInfo.name = some X ∧ cs.name ∈ X) ∨
            ∃ g ∈ userInfo.groups, ∃ X, idx.groups.lookup g = some X ∧ cs.name ∈ X) ∧
          selector.matchesLabels cs.labels) ∧
      ∀ idx' : PermissionIndex, idx'.users.lookup userInfo.name = idx.users.lookup userInfo.name →
        (∀ g ∈ userInfo.groups, idx'.groups.lookup g = idx.groups.lookup g) →
        list order idx' S userInfo selector = list order idx S userInfo selector := by
  intro list hlist
  obtain rfl | rfl : list = OptimizedClusterSetCache.list ∨
      list = ControllerRuntimeClusterSetCache.list := by simpa using hlist
  all_goals
    refine ⟨?_, fun idx' hu hg => congrArg (listItems S selector ∘ order.toList)
      (getAccessibleResourceNames_congr hu hg)⟩
    obtain ⟨items, hl, hsub, hmem⟩ := listItems_ok S selector
      (order.toList (getAccessibleResourceNames idx userInfo))
      fun n hn => hget n ((order.mem _ n).mp hn)
    refine ⟨items, hl, hsub.nodup (order.nodup _), fun cs => ?_⟩
    rw [hmem, ← mem_getAccessibleResourceNames, ← order.mem]
    constructor
    · rintro ⟨n, hn, hg, hm⟩
      obtain rfl := (ClusterSetStore.get_eq_ok hg).2
      exact ⟨hg, hn, hm⟩
    · rintro ⟨hg, hn, hm⟩
      exact ⟨cs.name, hn, hg, hm⟩

theorem list_eq_accessible_alice :
    (∃ items, OptimizedClusterSetCache.list RangeOrder.sorted alicePrev (devStore none)
        ⟨"alice", []⟩ Selector.everything = .ok items ∧
      (items.map (·.name)).Nodup ∧
      ∀ cs, cs ∈ items ↔ (devStore none).get cs.name = .ok cs ∧
        ((∃ X, alicePrev.users.lookup "alice" = some X ∧ cs.name ∈ X) ∨
          ∃ g ∈ ([] : List String), ∃ X, alicePrev.groups.lookup g = some X ∧ cs.name ∈ X) ∧
        Selector.everything.matchesLabels cs.labels) ∧
    ∀ idx' : PermissionIndex, idx'.users.lookup "alice" = alicePrev.users.lookup "alice" →
      (∀ g ∈ ([] : List String), idx'.groups.lookup g = alicePrev.groups.lookup g) →
      OptimizedClusterSetCache.list RangeOrder.sorted idx' (devStore none) ⟨"alice", []⟩
          Selector.everything =
        OptimizedClusterSetCache.list RangeOrder.sorted alicePrev (devStore none) ⟨"alice", []⟩
          Selector.everything :=
  list_eq_accessible RangeOrder.sorted alicePrev (devStore none) ⟨"alice", []⟩
    Selector.everything (fun _ _ => rfl) _ (List.mem_cons_self _ _)

end ClusterSetCache
