import ClusterSetCache.SubjectMap

/-!
# The permission index and `processClusterRoleBinding`

A permission index is two subject maps, one for users and one for groups.
`processClusterRoleBinding` adds one binding to it, in two halves.

* `resourceNamesOf` finds the names the binding grants: it gets the role named
  by `roleRef`, asks the extractor for the target
  `(cluster.open-cluster-management.io, managedclustersets)`, and on all-access
  replaces the answer by the names of every listed cluster set.  The role `Get`
  and the cluster-set `List` can fail.
* `grantSubjects` unions those names into the entry of every `User` and every
  `Group` subject of the binding.  Other kinds are skipped.

The two caches run the same code and differ only in what a failure does:
`OptimizedClusterSetCache` returns, `ControllerRuntimeClusterSetCache` returns
the error to its caller, which logs it and goes on.  Either way a failing
binding leaves the index as it was (`processClusterRoleBinding_eq_of_error`).

The step lemma `lookup_processClusterRoleBinding` says what one binding does to
one subject's entry: it extends it by the binding's `contribution`, the names
it grants if it names the subject and nothing otherwise.
-/

namespace ClusterSetCache

/-! ## The index -/

/-- The api group both caches pass to the extractor. -/
def clusterSetGroup : String := "cluster.open-cluster-management.io"

/-- The resource both caches pass to the extractor. -/
def clusterSetResource : String := "managedclustersets"

/-- A permission index: `PermissionCache` (`userPermissions`,
`groupPermissions`) of `OptimizedClusterSetCache`, and `RBACPermissionIndex`
(`userToResources`, `groupToResources`) of `ControllerRuntimeClusterSetCache`.
Every operation here runs under the index mutex, which is not modelled. -/
structure PermissionIndex where
  /-- The user map. -/
  users : SubjectMap
  /-- The group map. -/
  groups : SubjectMap
deriving DecidableEq

namespace PermissionIndex

/-- The maps a rebuild starts from. -/
def empty : PermissionIndex := ⟨∅, ∅⟩

/-- The entry of a subject: the user map for kind `"User"`, the group map for
`"Group"`.  No other kind is indexed. -/
def lookup (idx : PermissionIndex) (kind name : String) : Option (Finset String) :=
  if kind = "User" then idx.users.lookup name
  else if kind = "Group" then idx.groups.lookup name
  else none

@[simp] theorem lookup_user (idx : PermissionIndex) (name : String) :
    idx.lookup "User" name = idx.users.lookup name := rfl

@[simp] theorem lookup_group (idx : PermissionIndex) (name : String) :
    idx.lookup "Group" name = idx.groups.lookup name := rfl

@[simp] theorem lookup_empty (kind name : String) : empty.lookup kind name = none := by
  simp [lookup, empty, Finmap.lookup_empty]

/-- Two indexes with the same entries are equal. -/
theorem ext_lookup {idx idx' : PermissionIndex}
    (h : ∀ kind name, idx.lookup kind name = idx'.lookup kind name) : idx = idx' := by
  obtain ⟨u, g⟩ := idx
  obtain ⟨u', g'⟩ := idx'
  congr 1
  · exact Finmap.ext_lookup fun name => h "User" name
  · exact Finmap.ext_lookup fun name => h "Group" name

end PermissionIndex

/-- The kinds the index holds. -/
def indexedKinds : List String := ["User", "Group"]

theorem lookup_of_not_mem_indexedKinds (idx : PermissionIndex) {kind : String}
    (h : kind ∉ indexedKinds) (name : String) : idx.lookup kind name = none := by
  simp only [indexedKinds, List.mem_cons, List.mem_singleton, List.not_mem_nil, or_false,
    not_or] at h
  simp [PermissionIndex.lookup, h.1, h.2]

/-! ## Granting names to subjects -/

/-- The body of the loop over `binding.Subjects`. -/
def grantSubject (names : Finset String) (idx : PermissionIndex) (subject : Subject) :
    PermissionIndex :=
  if subject.kind = "User" then { idx with users := idx.users.unionInto subject.name names }
  else if subject.kind = "Group" then { idx with groups := idx.groups.unionInto subject.name names }
  else idx

/-- The loop over `binding.Subjects`. -/
def grantSubjects (names : Finset String) (subjects : List Subject) (idx : PermissionIndex) :
    PermissionIndex :=
  subjects.foldl (grantSubject names) idx

/-- Whether a binding names the subject `(kind, name)`. -/
def ClusterRoleBinding.bindsSubject (b : ClusterRoleBinding) (kind name : String) : Prop :=
  ∃ s ∈ b.subjects, s.kind = kind ∧ s.name = name

instance (b : ClusterRoleBinding) (kind name : String) : Decidable (b.bindsSubject kind name) :=
  inferInstanceAs (Decidable (∃ s ∈ b.subjects, _))

theorem lookup_grantSubject {names : Finset String} (hN : names ≠ ∅) (idx : PermissionIndex)
    (s : Subject) {kind : String} (hk : kind ∈ indexedKinds) (name : String) :
    (grantSubject names idx s).lookup kind name =
      SubjectMap.extend (idx.lookup kind name)
        (if s.kind = kind ∧ s.name = name then names else ∅) := by
  simp only [indexedKinds, List.mem_cons, List.mem_singleton, List.not_mem_nil, or_false] at hk
  have key : ∀ (m : SubjectMap), (m.unionInto s.name names).lookup name =
      SubjectMap.extend (m.lookup name) (if s.name = name then names else ∅) := by
    intro m
    by_cases hn : s.name = name
    · subst hn; simp [SubjectMap.lookup_unionInto, SubjectMap.extend_of_ne_empty _ hN]
    · simp [SubjectMap.lookup_unionInto, hn, Ne.symm hn]
  unfold grantSubject
  rcases hk with rfl | rfl <;> by_cases hu : s.kind = "User" <;>
    by_cases hg : s.kind = "Group" <;> simp_all

theorem union_ite_empty (names : Finset String) (p q : Prop) [Decidable p] [Decidable q] :
    ((if p then names else ∅) ∪ if q then names else ∅) = if p ∨ q then names else ∅ := by
  by_cases hp : p <;> by_cases hq : q <;> simp [hp, hq]

theorem lookup_grantSubjects {names : Finset String} (hN : names ≠ ∅) {kind : String}
    (hk : kind ∈ indexedKinds) (name : String) :
    ∀ (subjects : List Subject) (idx : PermissionIndex),
      (grantSubjects names subjects idx).lookup kind name =
        SubjectMap.extend (idx.lookup kind name)
          (if ∃ s ∈ subjects, s.kind = kind ∧ s.name = name then names else ∅)
  | [], idx => by simp [grantSubjects]
  | s :: ss, idx => by
    have ih := lookup_grantSubjects hN hk name ss (grantSubject names idx s)
    simp only [grantSubjects, List.foldl_cons] at ih ⊢
    rw [ih, lookup_grantSubject hN idx s hk, SubjectMap.extend_extend, union_ite_empty]
    simp

/-! ## The names a binding grants -/

/-- Why `processClusterRoleBinding` skipped a binding. -/
inductive ProcessError
  /-- The `Get` of the role named by `roleRef` failed. -/
  | clusterRoleNotFound (name : String)
  /-- `failed to list all ClusterSets: %w`. -/
  | listClusterSets (message : String)
deriving DecidableEq

/-- The first half of `processClusterRoleBinding`: the names the binding's role
grants, every listed cluster set for an all-access role. -/
def resourceNamesOf (E : ResourceNameExtractor) (R : RBACStore) (S : ClusterSetStore)
    (binding : ClusterRoleBinding) : Except ProcessError (Finset String) :=
  match R.getClusterRole binding.roleRef.name with
  | none => .error (.clusterRoleNotFound binding.roleRef.name)
  | some clusterRole =>
    let (resourceNames, hasAll) := E clusterRole clusterSetGroup clusterSetResource
    if hasAll then
      match S.list with
      | .ok allClusterSets => .ok (allClusterSets.map (·.name)).toFinset
      | .error e => .error (.listClusterSets e)
    else .ok resourceNames

/-- What a binding adds to the entry of `(kind, name)`: the names it grants if
it names that subject and the kind is indexed, and nothing otherwise. -/
def contribution (E : ResourceNameExtractor) (R : RBACStore) (S : ClusterSetStore)
    (kind name : String) (b : ClusterRoleBinding) : Finset String :=
  if kind ∈ indexedKinds ∧ b.bindsSubject kind name then
    ((resourceNamesOf E R S b).toOption).getD ∅
  else ∅

/-! ## `processClusterRoleBinding` in both caches -/

namespace ControllerRuntimeClusterSetCache

/-- `processClusterRoleBinding`: the index with the binding added, or the
error that made it skip the binding. -/
def processClusterRoleBinding (E : ResourceNameExtractor) (R : RBACStore)
    (S : ClusterSetStore) (binding : ClusterRoleBinding) (idx : PermissionIndex) :
    Except ProcessError PermissionIndex :=
  match resourceNamesOf E R S binding with
  | .error e => .error e
  | .ok resourceNames =>
    .ok (if resourceNames = ∅ then idx else grantSubjects resourceNames binding.subjects idx)

end ControllerRuntimeClusterSetCache

namespace OptimizedClusterSetCache

/-- `processClusterRoleBinding`: a binding whose role is missing or whose
expansion fails is skipped. -/
def processClusterRoleBinding (E : ResourceNameExtractor) (R : RBACStore)
    (S : ClusterSetStore) (binding : ClusterRoleBinding) (idx : PermissionIndex) :
    PermissionIndex :=
  match resourceNamesOf E R S binding with
  | .error _ => idx
  | .ok resourceNames =>
    if resourceNames = ∅ then idx else grantSubjects resourceNames binding.subjects idx

end OptimizedClusterSetCache

section Process

variable (E : ResourceNameExtractor) (R : RBACStore) (S : ClusterSetStore)
  (binding : ClusterRoleBinding) (idx : PermissionIndex)

/-- The two caches agree: where one returns an index the other has it, and
where one fails the other skips. -/
theorem processClusterRoleBinding_eq :
    OptimizedClusterSetCache.processClusterRoleBinding E R S binding idx =
      match ControllerRuntimeClusterSetCache.processClusterRoleBinding E R S binding idx with
      | .ok idx' => idx'
      | .error _ => idx := by
  unfold OptimizedClusterSetCache.processClusterRoleBinding
    ControllerRuntimeClusterSetCache.processClusterRoleBinding
  cases resourceNamesOf E R S binding <;> rfl

/-- A skipped binding leaves the index as it was. -/
theorem processClusterRoleBinding_eq_of_error {e : ProcessError}
    (h : resourceNamesOf E R S binding = .error e) :
    OptimizedClusterSetCache.processClusterRoleBinding E R S binding idx = idx := by
  simp [OptimizedClusterSetCache.processClusterRoleBinding, h]

/-- The step lemma: one binding extends each entry by its contribution. -/
theorem lookup_processClusterRoleBinding (kind name : String) :
    (OptimizedClusterSetCache.processClusterRoleBinding E R S binding idx).lookup kind name =
      SubjectMap.extend (idx.lookup kind name) (contribution E R S kind name binding) := by
  by_cases hk : kind ∈ indexedKinds
  swap
  · simp [lookup_of_not_mem_indexedKinds _ hk, contribution, hk]
  unfold OptimizedClusterSetCache.processClusterRoleBinding contribution
  cases h : resourceNamesOf E R S binding with
  | error e => simp [Except.toOption]
  | ok N =>
    by_cases hN : N = ∅
    · simp [hN, Except.toOption]
    · simp only [hN, if_false, lookup_grantSubjects hN hk, ClusterRoleBinding.bindsSubject]
      by_cases hb : ∃ s ∈ binding.subjects, s.kind = kind ∧ s.name = name <;>
        simp [hb, hk, Except.toOption]

end Process

end ClusterSetCache
