import ClusterSetCache.Index

/-!
# Rebuilding the index

`rebuildPermissionCache` (`OptimizedClusterSetCache`) and
`rebuildPermissionIndex` (`ControllerRuntimeClusterSetCache`) replace both maps
with empty ones, list the bindings, and run `processClusterRoleBinding` on each
in list order.  They differ in what a failed binding list does: the first
returns with the maps left empty, the second also returns the error
`failed to list ClusterRoleBindings: …`.

By the step lemma of `Index`, a run over a list of bindings extends each entry
by the union of their contributions (`lookup_processAll`).  From the empty
index, an entry is that union, present exactly when the union is not empty
(`lookup_rebuildPermissionCache`).  `specUnion` states the same union in the
words of the specification: over the bindings that name the subject and whose
role exists, the role's explicit names, or for an all-access role every name
the cluster-set `List` returned.  `granted_eq_specUnion` says the two agree,
for every outcome of that `List`.

The rest follows from that characterisation.  A binding
processed again adds nothing (`extend_of_subset`), so the incremental path of
`onClusterRoleBindingAdd` lands on the full rebuild.  Explicit names are copied
as they are, so an entry may name a cluster set that does not exist.  A failed
cluster-set `List` makes every all-access binding contribute nothing, and the
previous index plays no part.
-/

namespace ClusterSetCache

section Rebuild

variable (E : ResourceNameExtractor) (R : RBACStore) (S : ClusterSetStore)

/-! ## The rebuilds -/

namespace OptimizedClusterSetCache

/-- `rebuildPermissionCache`: empty maps, then every listed binding in list
order.  A failed binding list leaves the maps empty. -/
def rebuildPermissionCache (_ : PermissionIndex) : PermissionIndex :=
  match R.clusterRoleBindings with
  | .error _ => .empty
  | .ok roleBindings =>
    roleBindings.foldl (fun idx binding => processClusterRoleBinding E R S binding idx) .empty

/-- `onClusterRoleBindingAdd`, its index update: the new binding processed
under the write lock, with no rebuild. -/
def onClusterRoleBindingAdd (binding : ClusterRoleBinding) (idx : PermissionIndex) :
    PermissionIndex :=
  processClusterRoleBinding E R S binding idx

end OptimizedClusterSetCache

namespace ControllerRuntimeClusterSetCache

/-- `rebuildPermissionIndex`: as `rebuildPermissionCache`, returning the error
of a failed binding list; a binding that fails is logged and skipped. -/
def rebuildPermissionIndex (_ : PermissionIndex) : PermissionIndex × Except String Unit :=
  match R.clusterRoleBindings with
  | .error e => (.empty, .error ("failed to list ClusterRoleBindings: " ++ e))
  | .ok items =>
    (items.foldl (fun idx binding =>
        match processClusterRoleBinding E R S binding idx with
        | .ok idx' => idx'
        | .error _ => idx) .empty, .ok ())

end ControllerRuntimeClusterSetCache

/-- The two rebuilds build the same index from every snapshot. -/
theorem rebuildPermissionIndex_fst (prev prev' : PermissionIndex) :
    (ControllerRuntimeClusterSetCache.rebuildPermissionIndex E R S prev').1 =
      OptimizedClusterSetCache.rebuildPermissionCache E R S prev := by
  unfold ControllerRuntimeClusterSetCache.rebuildPermissionIndex
    OptimizedClusterSetCache.rebuildPermissionCache
  cases R.clusterRoleBindings with
  | error e => rfl
  | ok items =>
    simp only
    congr
    funext idx binding
    exact (processClusterRoleBinding_eq ..).symm

theorem rebuildPermissionIndex_snd (prev : PermissionIndex) :
    (ControllerRuntimeClusterSetCache.rebuildPermissionIndex E R S prev).2 =
      match R.clusterRoleBindings with
      | .error e => .error ("failed to list ClusterRoleBindings: " ++ e)
      | .ok _ => .ok () := by
  unfold ControllerRuntimeClusterSetCache.rebuildPermissionIndex
  cases R.clusterRoleBindings <;> rfl

/-! ## The run lemma -/

/-- The names a list of bindings grants `(kind, name)`. -/
def granted (kind name : String) (bindings : List ClusterRoleBinding) : Finset String :=
  bindings.foldr (fun b acc => contribution E R S kind name b ∪ acc) ∅

@[simp] theorem granted_cons (kind name : String) (b : ClusterRoleBinding)
    (bs : List ClusterRoleBinding) :
    granted E R S kind name (b :: bs) = contribution E R S kind name b ∪ granted E R S kind name bs :=
  rfl

theorem mem_granted {kind name n : String} :
    ∀ {bindings : List ClusterRoleBinding},
      n ∈ granted E R S kind name bindings ↔ ∃ b ∈ bindings, n ∈ contribution E R S kind name b
  | [] => by simp [granted]
  | b :: bs => by
    simp only [granted, List.foldr_cons, Finset.mem_union, List.mem_cons, exists_eq_or_imp]
    rw [← granted, mem_granted]

theorem granted_perm {kind name : String} {bs bs' : List ClusterRoleBinding}
    (h : bs.Perm bs') : granted E R S kind name bs = granted E R S kind name bs' := by
  ext n
  simp only [mem_granted, h.mem_iff]

theorem contribution_subset_granted {kind name : String} {b : ClusterRoleBinding}
    {bs : List ClusterRoleBinding} (hb : b ∈ bs) :
    contribution E R S kind name b ⊆ granted E R S kind name bs :=
  fun _ hn => (mem_granted E R S).mpr ⟨b, hb, hn⟩

/-- The run lemma: processing a list of bindings extends each entry by their
union. -/
theorem lookup_processAll (kind name : String) :
    ∀ (bindings : List ClusterRoleBinding) (idx : PermissionIndex),
      (bindings.foldl (fun idx binding =>
          OptimizedClusterSetCache.processClusterRoleBinding E R S binding idx) idx).lookup
        kind name =
      SubjectMap.extend (idx.lookup kind name) (granted E R S kind name bindings)
  | [], idx => by simp [granted]
  | b :: bs, idx => by
    rw [List.foldl_cons, lookup_processAll kind name bs, lookup_processClusterRoleBinding,
      SubjectMap.extend_extend]
    rfl

theorem lookup_rebuildPermissionCache (prev : PermissionIndex) (kind name : String) :
    (OptimizedClusterSetCache.rebuildPermissionCache E R S prev).lookup kind name =
      match R.clusterRoleBindings with
      | .error _ => none
      | .ok bindings => SubjectMap.extend none (granted E R S kind name bindings) := by
  unfold OptimizedClusterSetCache.rebuildPermissionCache
  cases R.clusterRoleBindings with
  | error e => simp
  | ok bindings => simp [lookup_processAll]

/-! ## The union in the words of the specification -/

/-- `N(b)` for a binding's role: its explicit names, or `everything` when the
extractor reports all-access. -/
def grantOf (everything : Finset String) (role : ClusterRole) : Finset String :=
  if (E role clusterSetGroup clusterSetResource).2 then everything
  else (E role clusterSetGroup clusterSetResource).1

/-- The union over the bindings in `B` that name `(kind, name)` and whose role
exists, of `N(b)`; subjects of other kinds than `User` and `Group` get
nothing. -/
def specUnion (everything : Finset String) (kind name : String)
    (B : List ClusterRoleBinding) : Finset String :=
  if kind ∈ indexedKinds then
    (B.toFinset.filter fun b => b.bindsSubject kind name).biUnion fun b =>
      ((R.getClusterRole b.roleRef.name).map (grantOf E everything)).getD ∅
  else ∅

/-- What an all-access binding expands to: every listed name, or nothing when
the cluster-set `List` fails and the binding is skipped. -/
def expansion : Finset String :=
  match S.list with
  | .ok items => (items.map (·.name)).toFinset
  | .error _ => ∅

theorem resourceNamesOf_getD (b : ClusterRoleBinding) :
    ((resourceNamesOf E R S b).toOption).getD ∅ =
      ((R.getClusterRole b.roleRef.name).map (grantOf E (expansion S))).getD ∅ := by
  unfold resourceNamesOf grantOf expansion
  cases R.getClusterRole b.roleRef.name with
  | none => rfl
  | some role =>
    simp only [Option.map_some', Option.getD_some]
    cases (E role clusterSetGroup clusterSetResource).2 <;> cases S.list <;> rfl

theorem granted_eq_specUnion (kind name : String) (B : List ClusterRoleBinding) :
    granted E R S kind name B = specUnion E R (expansion S) kind name B := by
  ext n
  rw [mem_granted, specUnion]
  by_cases hk : kind ∈ indexedKinds
  · simp only [contribution, hk, true_and, if_true, Finset.mem_biUnion, Finset.mem_filter,
      List.mem_toFinset]
    constructor
    · rintro ⟨b, hb, hn⟩
      by_cases hbs : b.bindsSubject kind name
      · rw [if_pos hbs, resourceNamesOf_getD] at hn
        exact ⟨b, ⟨hb, hbs⟩, hn⟩
      · simp [hbs] at hn
    · rintro ⟨b, ⟨hb, hbs⟩, hn⟩
      exact ⟨b, hb, by rwa [if_pos hbs, resourceNamesOf_getD]⟩
  · simp [contribution, hk]

theorem expansion_of_listError_none (h : S.listError = none) : expansion S = S.names := by
  simp [expansion, ClusterSetStore.list, h, ClusterSetStore.names]

theorem expansion_of_listError_some {e : String} (h : S.listError = some e) :
    expansion S = ∅ := by
  simp [expansion, ClusterSetStore.list, h]

theorem expansion_subset_names : expansion S ⊆ S.names := by
  unfold expansion
  split
  · next items h =>
    simp only [ClusterSetStore.list] at h
    split at h
    · cases h
    · cases h; exact fun _ hn => by simpa [ClusterSetStore.names] using hn
  · exact Finset.empty_subset _

theorem mem_contribution {kind name n : String} {b : ClusterRoleBinding} :
    n ∈ contribution E R S kind name b ↔ kind ∈ indexedKinds ∧ b.bindsSubject kind name ∧
      ∃ role, R.getClusterRole b.roleRef.name = some role ∧ n ∈ grantOf E (expansion S) role := by
  unfold contribution
  rw [resourceNamesOf_getD]
  by_cases h : kind ∈ indexedKinds ∧ b.bindsSubject kind name
  · cases hr : R.getClusterRole b.roleRef.name <;> simp [h, hr]
  · simp only [h, if_false, Finset.not_mem_empty, false_iff]
    tauto

/-! ## What a rebuild holds

The concrete runs below use one binding of `alice` to the role `viewer`, the
extractors `allAccess` and `explicitNames`, and a store holding `dev`. -/

/-- `alice` bound to `viewer`. -/
def aliceBinding : ClusterRoleBinding := ⟨"alice-view", [⟨"User", "alice"⟩], ⟨"viewer"⟩⟩

/-- The binding list `[aliceBinding]` and the role `viewer`. -/
def aliceRBAC : RBACStore := ⟨.ok [aliceBinding], [⟨"viewer", []⟩]⟩

/-- The store holding `dev`; `listError` is the failure of its `List`. -/
def devStore (listError : Option String) : ClusterSetStore :=
  ⟨[⟨"dev", ∅, "1"⟩], listError, fun _ => none⟩

/-- The extractor of a role granting every cluster set. -/
def allAccess : ResourceNameExtractor := fun _ _ _ => (∅, true)

/-- The extractor of a role granting the names `names`. -/
def explicitNames (names : Finset String) : ResourceNameExtractor := fun _ _ _ => (names, false)

/-- A rebuild over a snapshot whose reads succeed gives each subject the union
of `N(b)` over the bindings that name it, and has a key for it exactly when
that union is not empty.  Both caches build this index whatever the previous
one was; it depends on the bindings only as a set. -/
theorem rebuild_lookup_eq_specUnion {B : List ClusterRoleBinding}
    (hB : R.clusterRoleBindings = .ok B) (hS : S.listError = none)
    (prev prev' : PermissionIndex) :
    (∀ kind name,
      (OptimizedClusterSetCache.rebuildPermissionCache E R S prev).lookup kind name =
        if specUnion E R S.names kind name B = ∅ then none
        else some (specUnion E R S.names kind name B)) ∧
    ControllerRuntimeClusterSetCache.rebuildPermissionIndex E R S prev' =
      (OptimizedClusterSetCache.rebuildPermissionCache E R S prev, .ok ()) := by
  refine ⟨fun kind name => ?_, Prod.ext (rebuildPermissionIndex_fst E R S prev prev') ?_⟩
  · simp only [lookup_rebuildPermissionCache, hB, granted_eq_specUnion,
      expansion_of_listError_none S hS, SubjectMap.extend, Option.getD_none, Finset.empty_union]
  · rw [rebuildPermissionIndex_snd, hB]

theorem rebuild_lookup_eq_specUnion_alice :
    (∀ kind name,
      (OptimizedClusterSetCache.rebuildPermissionCache allAccess aliceRBAC (devStore none)
          .empty).lookup kind name =
        if specUnion allAccess aliceRBAC (devStore none).names kind name [aliceBinding] = ∅
        then none
        else some (specUnion allAccess aliceRBAC (devStore none).names kind name [aliceBinding])) ∧
    ControllerRuntimeClusterSetCache.rebuildPermissionIndex allAccess aliceRBAC (devStore none)
        .empty =
      (OptimizedClusterSetCache.rebuildPermissionCache allAccess aliceRBAC (devStore none) .empty,
        .ok ()) :=
  rebuild_lookup_eq_specUnion allAccess aliceRBAC (devStore none) rfl rfl .empty .empty

/-- The incremental path of `onClusterRoleBindingAdd` lands on the rebuild over
`B`, both from the rebuild over `B` without the binding and from the rebuild
over `B` itself. -/
theorem onClusterRoleBindingAdd_eq_rebuild {B : List ClusterRoleBinding}
    {b : ClusterRoleBinding} (hb : b ∈ B) (prev : PermissionIndex) :
    OptimizedClusterSetCache.onClusterRoleBindingAdd E R S b
        (OptimizedClusterSetCache.rebuildPermissionCache E
          { R with clusterRoleBindings := .ok (B.erase b) } S prev) =
      OptimizedClusterSetCache.rebuildPermissionCache E
        { R with clusterRoleBindings := .ok B } S prev ∧
    OptimizedClusterSetCache.onClusterRoleBindingAdd E R S b
        (OptimizedClusterSetCache.rebuildPermissionCache E
          { R with clusterRoleBindings := .ok B } S prev) =
      OptimizedClusterSetCache.rebuildPermissionCache E
        { R with clusterRoleBindings := .ok B } S prev := by
  have hperm : ∀ kind name, granted E R S kind name B =
      granted E R S kind name (b :: B.erase b) :=
    fun _ _ => granted_perm E R S (List.perm_cons_erase hb)
  constructor <;> refine PermissionIndex.ext_lookup fun kind name => ?_ <;>
    simp only [OptimizedClusterSetCache.onClusterRoleBindingAdd,
      lookup_processClusterRoleBinding, lookup_rebuildPermissionCache]
  · change SubjectMap.extend (SubjectMap.extend none (granted E R S kind name (B.erase b))) _ =
      SubjectMap.extend none (granted E R S kind name B)
    rw [SubjectMap.extend_extend, hperm, granted_cons, Finset.union_comm]
  · exact SubjectMap.extend_of_subset _ (contribution_subset_granted E R S hb)

theorem onClusterRoleBindingAdd_eq_rebuild_alice :
    OptimizedClusterSetCache.onClusterRoleBindingAdd allAccess aliceRBAC (devStore none)
        aliceBinding
        (OptimizedClusterSetCache.rebuildPermissionCache allAccess
          { aliceRBAC with clusterRoleBindings := .ok ([aliceBinding].erase aliceBinding) }
          (devStore none) .empty) =
      OptimizedClusterSetCache.rebuildPermissionCache allAccess
        { aliceRBAC with clusterRoleBindings := .ok [aliceBinding] } (devStore none) .empty ∧
    OptimizedClusterSetCache.onClusterRoleBindingAdd allAccess aliceRBAC (devStore none)
        aliceBinding
        (OptimizedClusterSetCache.rebuildPermissionCache allAccess
          { aliceRBAC with clusterRoleBindings := .ok [aliceBinding] } (devStore none) .empty) =
      OptimizedClusterSetCache.rebuildPermissionCache allAccess
        { aliceRBAC with clusterRoleBindings := .ok [aliceBinding] } (devStore none) .empty :=
  onClusterRoleBindingAdd_eq_rebuild allAccess aliceRBAC (devStore none)
    (List.mem_singleton_self aliceBinding) .empty

/-- Every name in a rebuilt entry comes from a listed binding that names the
subject and whose role exists: a stored cluster set if the extractor reports
all-access for the role, else one of the explicit names it gave. -/
theorem rebuild_mem_names_or_explicit (prev prev' : PermissionIndex) :
    ∀ idx ∈ [OptimizedClusterSetCache.rebuildPermissionCache E R S prev,
        (ControllerRuntimeClusterSetCache.rebuildPermissionIndex E R S prev').1],
      ∀ kind name, ∀ n ∈ (idx.lookup kind name).getD ∅,
        ∃ B, R.clusterRoleBindings = .ok B ∧ ∃ b ∈ B, b.bindsSubject kind name ∧
          ∃ role, R.getClusterRole b.roleRef.name = some role ∧
            ((E role clusterSetGroup clusterSetResource).2 = true ∧ n ∈ S.names ∨
              (E role clusterSetGroup clusterSetResource).2 = false ∧
                n ∈ (E role clusterSetGroup clusterSetResource).1) := by
  intro idx hidx kind name n hn
  rw [rebuildPermissionIndex_fst E R S prev prev'] at hidx
  obtain rfl : idx = OptimizedClusterSetCache.rebuildPermissionCache E R S prev := by
    simpa using hidx
  rw [lookup_rebuildPermissionCache] at hn
  cases hB : R.clusterRoleBindings with
  | error e => simp [hB] at hn
  | ok B =>
    have hg : n ∈ granted E R S kind name B := by
      simpa [hB, SubjectMap.mem_getD_extend_none] using hn
    obtain ⟨b, hb, hc⟩ := (mem_granted E R S).mp hg
    obtain ⟨-, hbs, role, hrole, hn'⟩ := (mem_contribution E R S).mp hc
    unfold grantOf at hn'
    refine ⟨B, rfl, b, hb, hbs, role, hrole, ?_⟩
    cases hall : (E role clusterSetGroup clusterSetResource).2
    · exact .inr ⟨rfl, by simpa [hall] using hn'⟩
    · exact .inl ⟨rfl, expansion_subset_names S (by simpa [hall] using hn')⟩

theorem rebuild_mem_names_or_explicit_ghost :
    ∃ B, aliceRBAC.clusterRoleBindings = .ok B ∧ ∃ b ∈ B, b.bindsSubject "User" "alice" ∧
      ∃ role, aliceRBAC.getClusterRole b.roleRef.name = some role ∧
        ((explicitNames {"ghost"} role clusterSetGroup clusterSetResource).2 = true ∧
            "ghost" ∈ (devStore none).names ∨
          (explicitNames {"ghost"} role clusterSetGroup clusterSetResource).2 = false ∧
            "ghost" ∈ (explicitNames {"ghost"} role clusterSetGroup clusterSetResource).1) :=
  rebuild_mem_names_or_explicit (explicitNames {"ghost"}) aliceRBAC (devStore none) .empty .empty
    _ (List.mem_cons_self _ _) "User" "alice" "ghost" (by decide)

/-- A role whose explicit names list a set that does not exist puts that name
in the index. -/
theorem rebuild_keeps_missing_explicit_name :
    ¬ ∀ kind name, ∀ n ∈ ((OptimizedClusterSetCache.rebuildPermissionCache
        (explicitNames {"ghost"}) aliceRBAC (devStore none) .empty).lookup kind name).getD ∅,
      n ∈ (devStore none).names :=
  fun h => absurd (h "User" "alice" "ghost" (by decide)) (by decide)

/-- When the cluster-set `List` fails, both rebuilds skip every all-access
binding and hold the explicit grants alone, whatever the previous index was,
and `rebuildPermissionIndex` returns no error.  When the binding list fails,
both leave the index empty and `rebuildPermissionIndex` returns the error. -/
theorem rebuild_of_listError {B : List ClusterRoleBinding}
    (hB : R.clusterRoleBindings = .ok B) {e : String} (hS : S.listError = some e)
    (prev prev' : PermissionIndex) :
    (∀ kind name,
      (OptimizedClusterSetCache.rebuildPermissionCache E R S prev).lookup kind name =
        if specUnion E R ∅ kind name B = ∅ then none else some (specUnion E R ∅ kind name B)) ∧
    ControllerRuntimeClusterSetCache.rebuildPermissionIndex E R S prev' =
      (OptimizedClusterSetCache.rebuildPermissionCache E R S prev, .ok ()) ∧
    ∀ e', OptimizedClusterSetCache.rebuildPermissionCache E
        { R with clusterRoleBindings := .error e' } S prev = .empty ∧
      ControllerRuntimeClusterSetCache.rebuildPermissionIndex E
        { R with clusterRoleBindings := .error e' } S prev' =
        (.empty, .error ("failed to list ClusterRoleBindings: " ++ e')) := by
  refine ⟨fun kind name => ?_, Prod.ext (rebuildPermissionIndex_fst E R S prev prev') ?_,
    fun e' => ⟨rfl, rfl⟩⟩
  · simp only [lookup_rebuildPermissionCache, hB, granted_eq_specUnion,
      expansion_of_listError_some S hS, SubjectMap.extend, Option.getD_none, Finset.empty_union]
  · rw [rebuildPermissionIndex_snd, hB]

theorem rebuild_of_listError_alice :
    (∀ kind name,
      (OptimizedClusterSetCache.rebuildPermissionCache allAccess aliceRBAC
          (devStore (some "connection refused")) .empty).lookup kind name =
        if specUnion allAccess aliceRBAC ∅ kind name [aliceBinding] = ∅ then none
        else some (specUnion allAccess aliceRBAC ∅ kind name [aliceBinding])) ∧
    ControllerRuntimeClusterSetCache.rebuildPermissionIndex allAccess aliceRBAC
        (devStore (some "connection refused")) .empty =
      (OptimizedClusterSetCache.rebuildPermissionCache allAccess aliceRBAC
        (devStore (some "connection refused")) .empty, .ok ()) ∧
    ∀ e', OptimizedClusterSetCache.rebuildPermissionCache allAccess
        { aliceRBAC with clusterRoleBindings := .error e' } (devStore (some "connection refused"))
        .empty = .empty ∧
      ControllerRuntimeClusterSetCache.rebuildPermissionIndex allAccess
        { aliceRBAC with clusterRoleBindings := .error e' } (devStore (some "connection refused"))
        .empty = (.empty, .error ("failed to list ClusterRoleBindings: " ++ e')) :=
  rebuild_of_listError allAccess aliceRBAC (devStore (some "connection refused")) rfl rfl
    .empty .empty

/-- The index before a rebuild: `alice` sees `dev`. -/
def alicePrev : PermissionIndex := ⟨Finmap.singleton "alice" {"dev"}, ∅⟩

/-- A failed cluster-set `List` does not keep the previous index. -/
theorem rebuild_of_listError_ne_previous :
    OptimizedClusterSetCache.rebuildPermissionCache allAccess aliceRBAC
        (devStore (some "connection refused")) alicePrev ≠ alicePrev ∧
    (ControllerRuntimeClusterSetCache.rebuildPermissionIndex allAccess aliceRBAC
        (devStore (some "connection refused")) alicePrev).1 ≠ alicePrev := by
  decide

end Rebuild

end ClusterSetCache
