import Mathlib.Data.Finmap
import Mathlib.Data.Finset.Sort
import Mathlib.Data.String.Basic

/-!
# The objects the caches read

`OptimizedClusterSetCache` and `ControllerRuntimeClusterSetCache` read four
kinds of Kubernetes object, and only a few fields of each.  A
`ManagedClusterSet` is read for its name, for its labels (by the selector of
`List`) and for its resource version (by `ModernCacheWatcher`).  A
`ClusterRoleBinding` is read for its subjects and for the name in its
`roleRef`.  A `ClusterRole` is read only by the resource-name extractor the
caches are built with, which is a parameter here.

Every read of an upstream store can fail.  A list read returns `Except String`.
A `Get` of a cluster set tells `NotFound` apart from any other error, since
`List` skips the first and returns the second.  The stores are their contents
together with the failures their reads report.

Go maps become `Finmap`s and `sets.String` becomes `Finset String`, so that map
and set equality is extensional, as in Go.  Go leaves the order of `range` over
a map unspecified; `RangeOrder` is any such order, and every result below holds
for all of them.
-/

namespace ClusterSetCache

/-! ## Cluster sets -/

/-- `map[string]string`: the labels of an object. -/
abbrev Labels := Finmap fun _ : String => String

/-- A `ManagedClusterSet`, with the fields the caches read. -/
structure ManagedClusterSet where
  /-- `metadata.name`. -/
  name : String
  /-- `metadata.labels`. -/
  labels : Labels
  /-- `metadata.resourceVersion`. -/
  resourceVersion : String
deriving DecidableEq

/-- A label selector, by its `Matches`. -/
structure Selector where
  /-- `Matches(labels.Set(...))`. -/
  matchesLabels : Labels → Bool

/-- `labels.Everything()`. -/
def Selector.everything : Selector := ⟨fun _ => true⟩

/-! ## RBAC objects -/

/-- An RBAC subject.  The caches compare `kind` with `"User"` and `"Group"`. -/
structure Subject where
  /-- `kind`. -/
  kind : String
  /-- `name`. -/
  name : String
deriving DecidableEq

/-- The `roleRef` of a binding, by the name the caches look up. -/
structure RoleRef where
  /-- `roleRef.name`. -/
  name : String
deriving DecidableEq

/-- A `ClusterRoleBinding`. -/
structure ClusterRoleBinding where
  /-- `metadata.name`. -/
  name : String
  /-- `subjects`. -/
  subjects : List Subject
  /-- `roleRef`. -/
  roleRef : RoleRef
deriving DecidableEq

/-- A rule of a `ClusterRole`. -/
structure PolicyRule where
  /-- `apiGroups`. -/
  apiGroups : List String
  /-- `resources`. -/
  resources : List String
  /-- `verbs`. -/
  verbs : List String
  /-- `resourceNames`. -/
  resourceNames : List String

/-- A `ClusterRole`. -/
structure ClusterRole where
  /-- `metadata.name`. -/
  name : String
  /-- `rules`. -/
  rules : List PolicyRule

/-- `getResourceNamesFromClusterRole`, the function both caches are built
with: the names a role grants on an (api group, resource) pair, and whether it
grants all of them. -/
def ResourceNameExtractor : Type := ClusterRole → String → String → Finset String × Bool

/-- `user.Info`, by the two fields the caches read. -/
structure UserInfo where
  /-- `GetName()`. -/
  name : String
  /-- `GetGroups()`. -/
  groups : List String

/-! ## Stores -/

/-- Why a `Get` of a cluster set failed. -/
inductive GetError
  /-- `errors.IsNotFound(err)`. -/
  | notFound
  /-- Any other error. -/
  | other (message : String)
deriving DecidableEq

/-- The cluster-set store: the informer's contents, the error its `List`
reports if it fails, and the error its `Get` reports by name if it fails for a
reason other than `NotFound`. -/
structure ClusterSetStore where
  /-- The stored cluster sets. -/
  items : List ManagedClusterSet
  /-- The error of `List(labels.Everything())`, if it fails. -/
  listError : Option String
  /-- The error of `Get(name)`, if it fails for a reason other than `NotFound`. -/
  getError : String → Option String

namespace ClusterSetStore

/-- `List(labels.Everything())`. -/
def list (S : ClusterSetStore) : Except String (List ManagedClusterSet) :=
  match S.listError with
  | some e => .error e
  | none => .ok S.items

/-- `Get(name)`. -/
def get (S : ClusterSetStore) (name : String) : Except GetError ManagedClusterSet :=
  match S.getError name with
  | some e => .error (.other e)
  | none =>
    match S.items.find? (·.name = name) with
    | some cs => .ok cs
    | none => .error .notFound

/-- The names of the stored cluster sets. -/
def names (S : ClusterSetStore) : Finset String := (S.items.map (·.name)).toFinset

theorem mem_names {S : ClusterSetStore} {n : String} :
    n ∈ S.names ↔ ∃ cs ∈ S.items, cs.name = n := by
  simp [names]

/-- A fetched cluster set is stored and has the name it was fetched by. -/
theorem get_eq_ok {S : ClusterSetStore} {n : String} {cs : ManagedClusterSet}
    (h : S.get n = .ok cs) : cs ∈ S.items ∧ cs.name = n := by
  unfold get at h
  split at h
  · cases h
  · split at h
    · next hf =>
      cases h
      exact ⟨List.mem_of_find?_eq_some hf, by simpa using List.find?_some hf⟩
    · cases h

/-- Where `Get` does not fail for another reason, it finds exactly the stored
names. -/
theorem get_isOk_iff {S : ClusterSetStore} {n : String} (h : S.getError n = none) :
    (∃ cs, S.get n = .ok cs) ↔ n ∈ S.names := by
  rw [mem_names]
  unfold get
  rw [h]
  cases hf : S.items.find? (·.name = n) with
  | none =>
    simp only [List.find?_eq_none, decide_eq_true_eq] at hf
    simp only [reduceCtorEq, exists_false, false_iff, not_exists, not_and]
    exact hf
  | some cs =>
    simp only [Except.ok.injEq, exists_eq', true_iff]
    exact ⟨cs, List.mem_of_find?_eq_some hf, by simpa using List.find?_some hf⟩

end ClusterSetStore

/-- The RBAC store: the outcome of listing the `ClusterRoleBinding`s and the
stored `ClusterRole`s.  A role `Get` that fails skips its binding just as a
missing role does, so only missing roles are modelled. -/
structure RBACStore where
  /-- `List` of the bindings: the bindings in list order, or the lister's error. -/
  clusterRoleBindings : Except String (List ClusterRoleBinding)
  /-- The stored roles. -/
  clusterRoles : List ClusterRole

/-- `Get` of a `ClusterRole` by name. -/
def RBACStore.getClusterRole (R : RBACStore) (name : String) : Option ClusterRole :=
  R.clusterRoles.find? (·.name = name)

/-! ## Iteration order -/

/-- An order for Go's `range` over a set: any listing of its members without
repeats.  Go picks one afresh for every loop. -/
structure RangeOrder where
  /-- The listing. -/
  toList : Finset String → List String
  /-- No name is visited twice. -/
  nodup : ∀ s, (toList s).Nodup
  /-- Every member is visited, and nothing else. -/
  mem : ∀ s x, x ∈ toList s ↔ x ∈ s

/-- The sorted order, the one `sets.String.List()` uses. -/
def RangeOrder.sorted : RangeOrder where
  toList s := s.sort (· ≤ ·)
  nodup s := s.sort_nodup _
  mem _ _ := Finset.mem_sort _

end ClusterSetCache
