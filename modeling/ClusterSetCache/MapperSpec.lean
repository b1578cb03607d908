import Mathlib.Logic.Relation
import ClusterSetCache.MapperOwned

/-!
# What a mapper reports

`Heap.Valid` adds to ownership what `GetAllMappings` is meant to report: no
empty key and no empty set.  In a program whose callers hand every set they
pass to `UpdateClusterSetResources` over for good (`MapperStep`), every call
keeps it, so it holds along every run from the empty heap
(`valid_of_mapperRun`).  The observable results are read off the per-key
lemmas of `MapperOwned`:

* `mappings_nonempty_of_run`: along such a run `GetAllMappings` reports no
  empty key and no empty set, and `GetResourcesInClusterSet` is empty exactly
  at the names that are not keys;
* `moveResourceToClusterSet_correct`: with owned sets, a move leaves the
  resource in the target set and in no other, and no other resource moves;
* `merge_eq_union`: `GetAllMappings` of a merge of two well-formed mappers of
  one type is the key-wise union of theirs;
* `merge_comm_idem_assoc`: hence `Merge` is commutative, idempotent and
  associative up to `GetAllMappings`.
-/

namespace ClusterSetCache

open ClusterSetResourceMapper

/-! ## Well-formed mappers -/

namespace Heap

/-- `GetAllMappings` of mapper `m` reports no empty key and no empty set. -/
def Wf (h : Heap) (m : MapperAddr) : Prop :=
  ∀ k s, h.view m k = some s → k ≠ "" ∧ s ≠ ∅

/-- Every set is owned and every mapper well formed. -/
structure Valid (h : Heap) : Prop where
  /-- No set is held twice. -/
  owned : h.Owned
  /-- No mapper reports an empty key or an empty set. -/
  wf : ∀ m, h.Wf m

theorem valid_empty : Heap.empty.Valid where
  owned := ⟨fun _ _ _ hp => by simp [addr, empty] at hp, fun hp => by simp [addr, empty] at hp⟩
  wf _ _ _ hv := by simp [view, addr, empty] at hv

/-- A mapper whose every entry is one it had, or a well-formed one, is well
formed. -/
theorem Wf.of_view {h h' : Heap} {m : MapperAddr} (hw : h.Wf m)
    (hv : ∀ k s, h'.view m k = some s → h.view m k = some s ∨ (k ≠ "" ∧ s ≠ ∅)) : h'.Wf m :=
  fun k s hs => (hv k s hs).elim (hw k s) id

theorem Wf.view_empty_key {h : Heap} {m : MapperAddr} (hw : h.Wf m) : h.view m "" = none :=
  Option.eq_none_iff_forall_not_mem.mpr fun s hs => (hw "" s hs).1 rfl

theorem Wf.getResourcesInClusterSet_eq_empty_iff {h : Heap} {m : MapperAddr} (hw : h.Wf m)
    (k : String) :
    getResourcesInClusterSet h m k = ∅ ↔ k ∉ (h.mappers m).setToResources := by
  rw [getResourcesInClusterSet_eq, mem_setToResources_iff]
  rcases hk : h.view m k with _ | s
  · simp
  · simpa using (hw k s hk).2

end Heap

/-! ## Runs of a program that hands its sets over -/

/-- A call of the mapper API, or a step of a caller on a set of its own, in a
program whose callers hand every set they pass to `UpdateClusterSetResources`
over for good: the set is held by no other key, and the caller writes it no
more.  Each call that ranges over a map takes its own `Range` order.
`CopyFrom` of a mapper into itself never returns (`MapperLock`). -/
inductive MapperStep : Heap → Heap → Prop
  /-- `NewClusterSetResourceMapper`. -/
  | new {h : Heap} (resourceType : ResourceType) :
      MapperStep h (newClusterSetResourceMapper h resourceType).1
  /-- `sets.New[string](...)` in the caller. -/
  | newSet {h : Heap} (s : Finset String) : MapperStep h (h.newSet s)
  /-- A write of the caller to one of its sets that no mapper holds. -/
  | writeSet {h : Heap} {p : SetAddr} (s : Finset String) :
      (∀ m k, h.addr m k ≠ some p) → MapperStep h (h.writeSet p s)
  /-- `UpdateClusterSetResources` with an allocated set no other key holds. -/
  | updateClusterSetResources {h : Heap} (m : MapperAddr) (k : String) {p : SetAddr} :
      p < h.nextSet → (∀ {m' k'}, h.addr m' k' = some p → m' = m ∧ k' = k) →
      MapperStep h (updateClusterSetResources h m k p)
  /-- `AddResourceToClusterSet`. -/
  | addResourceToClusterSet {h : Heap} (m : MapperAddr) (r k : String) :
      MapperStep h (addResourceToClusterSet h m r k)
  /-- `RemoveResourceFromAllClusterSets`. -/
  | removeResourceFromAllClusterSets {h : Heap} (order : RangeOrder) (m : MapperAddr) (r : String) :
      MapperStep h (removeResourceFromAllClusterSets order h m r)
  /-- `MoveResourceToClusterSet`. -/
  | moveResourceToClusterSet {h : Heap} (order : RangeOrder) (m : MapperAddr) (r s : String) :
      MapperStep h (moveResourceToClusterSet order h m r s)
  /-- `RemoveClusterSet`. -/
  | removeClusterSet {h : Heap} (m : MapperAddr) (k : String) :
      MapperStep h (removeClusterSet h m k)
  /-- `Merge`. -/
  | merge {h : Heap} (order : RangeOrder) (m other : MapperAddr) :
      MapperStep h (merge order h m other).1
  /-- `CopyFrom` from another mapper. -/
  | copyFrom {h : Heap} (order : RangeOrder) (m source : MapperAddr) :
      m ≠ source → MapperStep h (copyFrom order h m source)

section Valid

variable {h : Heap}

/-- Every call keeps every set owned. -/
theorem owned_of_mapperStep {h' : Heap} (ho : h.Owned) (step : MapperStep h h') :
    h'.Owned := by
  cases step with
  | new resourceType => exact ho.newMapper resourceType
  | newSet s => exact ho.newSet s
  | writeSet s _ => exact ho.writeSet _ s
  | updateClusterSetResources _ _ hp hfree => exact owned_updateClusterSetResources ho hp hfree
  | addResourceToClusterSet m r k =>
    unfold addResourceToClusterSet
    split_ifs
    exacts [ho, owned_insertResource ho m r k]
  | removeResourceFromAllClusterSets order m r =>
    exact owned_removeResourceFromAllClusterSets order ho m r
  | moveResourceToClusterSet order m r s => exact owned_moveResourceToClusterSet order ho m r s
  | removeClusterSet m k => exact owned_removeClusterSet ho m k
  | merge order _ _ => exact owned_merge order h ho
  | copyFrom order m source _ => exact owned_copyFrom order ho m source

/-- Deleting a resource at a key of a well-formed mapper leaves what the key
had, or a non-empty set under a non-empty key. -/
theorem Heap.Wf.prune_view {m : MapperAddr} (hw : h.Wf m) {r k : String} {s : Finset String}
    (hs : prune r (h.view m k) = some s) : h.view m k = some s ∨ (k ≠ "" ∧ s ≠ ∅) :=
  (prune_eq_some hs).imp_right fun ⟨hsome, hne⟩ =>
    ⟨(hw k _ (Option.isSome_iff_exists.mp hsome).choose_spec).1, hne⟩

/-- Every entry a call leaves is one the mapper had, or a non-empty set under
a non-empty key. -/
theorem view_of_mapperStep {h' : Heap} (hv : h.Valid) (step : MapperStep h h')
    (m : MapperAddr) (k : String) (s : Finset String) (hs : h'.view m k = some s) :
    h.view m k = some s ∨ (k ≠ "" ∧ s ≠ ∅) := by
  cases step with
  | new resourceType =>
    rw [newClusterSetResourceMapper, Heap.view_newMapper] at hs
    split_ifs at hs
    exact .inl hs
  | newSet t => exact .inl ((hv.owned.view_newSet t m k).symm.trans hs)
  | writeSet t hfree => exact .inl ((Heap.view_writeSet_of_free hfree t m k).symm.trans hs)
  | updateClusterSetResources _ _ _ _ =>
    rw [view_updateClusterSetResources] at hs
    split_ifs at hs with hmk he
    · cases hs
      exact .inr ⟨hmk.2.1 ▸ hmk.2.2, he⟩
    · exact .inl hs
  | addResourceToClusterSet _ _ _ =>
    unfold addResourceToClusterSet at hs
    split_ifs at hs with hrk
    · exact .inl hs
    rw [view_insertResource hv.owned] at hs
    split_ifs at hs with hmk
    · cases hs
      exact .inr ⟨hmk.2 ▸ fun hk => hrk (.inr hk), Finset.insert_ne_empty _ _⟩
    · exact .inl hs
  | removeResourceFromAllClusterSets order _ _ =>
    rw [view_removeResourceFromAllClusterSets order hv.owned] at hs
    split_ifs at hs with hm
    · obtain ⟨rfl, -⟩ := hm
      exact (hv.wf m).prune_view hs
    · exact .inl hs
  | moveResourceToClusterSet order _ _ _ =>
    rw [view_moveResourceToClusterSet order hv.owned] at hs
    split_ifs at hs with hm hk
    · cases hs
      exact .inr ⟨hk ▸ hm.2.2, Finset.insert_ne_empty _ _⟩
    · obtain ⟨rfl, -⟩ := hm
      exact (hv.wf m).prune_view hs
    · exact .inl hs
  | removeClusterSet _ _ =>
    rw [view_removeClusterSet] at hs
    split_ifs at hs
    exact .inl hs
  | merge order a b =>
    rcases @merge_cases order h a b with he | ⟨htype, hA, hB⟩
    · exact .inl (he ▸ hs)
    by_cases hm : m = h.nextMapper
    · subst hm
      rw [view_merge_of_nonempty order h htype hA hB] at hs
      split_ifs at hs with hk
      exact .inr ⟨hk, dropEmpty_eq_some hs⟩
    · exact .inl ((view_merge_of_ne order h (hv.owned.allocated m) hm k).symm.trans hs)
  | copyFrom order m' source hne =>
    by_cases hm : m = m'
    · subst hm
      by_cases htype : (h.mappers m).resourceType = (h.mappers source).resourceType
      · exact .inr (hv.wf source k s ((view_copyFrom order hne htype k).symm.trans hs))
      · rw [copyFrom, if_pos htype] at hs
        exact .inl hs
    · exact .inl ((view_copyFrom_of_ne order (hv.owned.allocated m) hm source k).symm.trans hs)

/-- Every call keeps every set owned and every mapper well formed. -/
theorem valid_of_mapperStep {h' : Heap} (hv : h.Valid) (step : MapperStep h h') :
    h'.Valid :=
  ⟨owned_of_mapperStep hv.owned step, fun m => (hv.wf m).of_view (view_of_mapperStep hv step m)⟩

/-- Every run keeps every set owned and every mapper well formed. -/
theorem valid_of_mapperRun {h' : Heap} (hv : h.Valid)
    (run : Relation.ReflTransGen MapperStep h h') : h'.Valid := by
  induction run with
  | refl => exact hv
  | tail _ step ih => exact valid_of_mapperStep ih step

end Valid

/-- Two cluster sets of one mapper, `a` with `r` and `b` with `x`, built by the
API alone. -/
def twoClusterSets : Heap :=
  addResourceToClusterSet
    (addResourceToClusterSet (newClusterSetResourceMapper Heap.empty resourceTypeCluster).1 0 "r" "a")
    0 "x" "b"

theorem run_twoClusterSets : Relation.ReflTransGen MapperStep Heap.empty twoClusterSets :=
  .tail (.tail (.single (.new resourceTypeCluster)) (.addResourceToClusterSet 0 "r" "a"))
    (.addResourceToClusterSet 0 "x" "b")

theorem valid_twoClusterSets : twoClusterSets.Valid :=
  valid_of_mapperRun Heap.valid_empty run_twoClusterSets

/-- A second mapper of the same type beside `twoClusterSets`, holding `y` in
`a`: the two mappers share the key `a`. -/
def sharedKeyMappers : Heap :=
  addResourceToClusterSet (newClusterSetResourceMapper twoClusterSets resourceTypeCluster).1 1 "y" "a"

theorem valid_sharedKeyMappers : sharedKeyMappers.Valid :=
  valid_of_mapperRun Heap.valid_empty
    (.tail (.tail run_twoClusterSets (.new resourceTypeCluster)) (.addResourceToClusterSet 1 "y" "a"))

/-! ## What `GetAllMappings` reports along a run -/

section Runs

variable (order : RangeOrder)

/-- Along every run from the empty heap, `GetAllMappings` reports no empty key
and no empty set, and `GetResourcesInClusterSet` is empty exactly at the names
that are not keys. -/
theorem mappings_nonempty_of_run {h : Heap}
    (run : Relation.ReflTransGen MapperStep Heap.empty h) (m : MapperAddr) :
    (∀ k s, (getAllMappings order h m).lookup k = some s → k ≠ "" ∧ s ≠ ∅) ∧
      ∀ k, getResourcesInClusterSet h m k = ∅ ↔ k ∉ (h.mappers m).setToResources := by
  have hw := (valid_of_mapperRun Heap.valid_empty run).wf m
  exact ⟨fun k s hs => hw k s ((lookup_getAllMappings order h m k).symm.trans hs),
    hw.getResourcesInClusterSet_eq_empty_iff⟩

theorem mappings_nonempty_twoClusterSets :
    Relation.ReflTransGen MapperStep Heap.empty twoClusterSets ∧
      (∀ k s, (getAllMappings RangeOrder.sorted twoClusterSets 0).lookup k = some s →
          k ≠ "" ∧ s ≠ ∅) ∧
        ∀ k, getResourcesInClusterSet twoClusterSets 0 k = ∅ ↔
          k ∉ (twoClusterSets.mappers 0).setToResources :=
  ⟨run_twoClusterSets, mappings_nonempty_of_run RangeOrder.sorted run_twoClusterSets 0⟩

end Runs

/-! ## `MoveResourceToClusterSet` -/

theorem find?_eq_some_of_unique {l : List String} {p : String → Bool} {a : String} (ha : a ∈ l)
    (hp : ∀ x, p x ↔ x = a) : l.find? p = some a := by
  obtain ⟨b, hb⟩ := Option.isSome_iff_exists.mp (List.find?_isSome.mpr ⟨a, ha, (hp a).mpr rfl⟩)
  rw [hb, (hp b).mp (List.find?_some hb)]

section Move

variable (order : RangeOrder) {h : Heap}

theorem view_moveResourceToClusterSet_self (ho : h.Owned) (m : MapperAddr) {r s : String}
    (hr : r ≠ "") (hs : s ≠ "") (k : String) :
    (moveResourceToClusterSet order h m r s).view m k =
      if k = s then some (insert r ((h.view m s).getD ∅)) else prune r (h.view m k) := by
  rw [view_moveResourceToClusterSet order ho, if_pos ⟨rfl, hr, hs⟩]

theorem mem_getResourcesInClusterSet_move (ho : h.Owned) (m : MapperAddr) {r s : String}
    (hr : r ≠ "") (hs : s ≠ "") (r' k : String) :
    r' ∈ getResourcesInClusterSet (moveResourceToClusterSet order h m r s) m k ↔
      (k = s ∧ r' = r) ∨ (r' ≠ r ∧ r' ∈ getResourcesInClusterSet h m k) := by
  rw [getResourcesInClusterSet_eq, getResourcesInClusterSet_eq,
    view_moveResourceToClusterSet_self order ho m hr hs]
  by_cases hk : k = s
  · subst hk
    by_cases hr' : r' = r <;> simp [hr']
  · simp [hk]

theorem getClusterSetForResource_move (ho : h.Owned) (m : MapperAddr) {r s : String}
    (hr : r ≠ "") (hs : s ≠ "") :
    getClusterSetForResource order (moveResourceToClusterSet order h m r s) m r = s := by
  have hkey : s ∈ ((moveResourceToClusterSet order h m r s).mappers m).setToResources := by
    rw [Heap.mem_setToResources_iff, view_moveResourceToClusterSet_self order ho m hr hs, if_pos rfl]
    rfl
  unfold getClusterSetForResource
  rw [find?_eq_some_of_unique ((order.mem _ _).mpr (Finmap.mem_keys.mpr hkey))
    fun k => by simpa using mem_getResourcesInClusterSet_move order ho m hr hs r k]
  rfl

/-- With no set held by two keys, `MoveResourceToClusterSet r s` leaves `r` in
`s` and in no other set, so `GetClusterSetForResource r` is `s`; every other
resource keeps its memberships, and a key is removed only if it is not `s` and
had `r` as its one member. -/
theorem moveResourceToClusterSet_correct (ho : h.Owned) (m : MapperAddr) {r s : String}
    (hr : r ≠ "") (hs : s ≠ "") :
    (∀ k, r ∈ getResourcesInClusterSet (moveResourceToClusterSet order h m r s) m k ↔ k = s) ∧
      getClusterSetForResource order (moveResourceToClusterSet order h m r s) m r = s ∧
      (∀ r' k, r' ≠ r →
        (r' ∈ getResourcesInClusterSet (moveResourceToClusterSet order h m r s) m k ↔
          r' ∈ getResourcesInClusterSet h m k)) ∧
      ∀ k, k ∈ (h.mappers m).setToResources →
        k ∉ ((moveResourceToClusterSet order h m r s).mappers m).setToResources →
        k ≠ s ∧ getResourcesInClusterSet h m k = {r} := by
  refine ⟨fun k => by simpa using mem_getResourcesInClusterSet_move order ho m hr hs r k,
    getClusterSetForResource_move order ho m hr hs,
    fun r' k hr' => by simpa [hr'] using mem_getResourcesInClusterSet_move order ho m hr hs r' k,
    fun k hk hk' => ?_⟩
  rw [Heap.mem_setToResources_iff] at hk hk'
  rw [view_moveResourceToClusterSet_self order ho m hr hs] at hk'
  have hks : k ≠ s := by
    rintro rfl
    simp at hk'
  obtain ⟨t, ht⟩ := Option.isSome_iff_exists.mp hk
  rw [if_neg hks, ht] at hk'
  rw [getResourcesInClusterSet_eq, ht]
  exact ⟨hks, prune_eq_none (Option.not_isSome_iff_eq_none.mp hk')⟩

end Move

theorem moveResourceToClusterSet_correct_twoClusterSets :
    twoClusterSets.Owned ∧ "r" ≠ "" ∧ "b" ≠ "" ∧
      (∀ k, "r" ∈ getResourcesInClusterSet
          (moveResourceToClusterSet RangeOrder.sorted twoClusterSets 0 "r" "b") 0 k ↔ k = "b") ∧
      getClusterSetForResource RangeOrder.sorted
          (moveResourceToClusterSet RangeOrder.sorted twoClusterSets 0 "r" "b") 0 "r" = "b" ∧
      (∀ r' k, r' ≠ "r" →
        (r' ∈ getResourcesInClusterSet
            (moveResourceToClusterSet RangeOrder.sorted twoClusterSets 0 "r" "b") 0 k ↔
          r' ∈ getResourcesInClusterSet twoClusterSets 0 k)) ∧
      ∀ k, k ∈ (twoClusterSets.mappers 0).setToResources →
        k ∉ ((moveResourceToClusterSet RangeOrder.sorted twoClusterSets 0 "r" "b").mappers
          0).setToResources →
        k ≠ "b" ∧ getResourcesInClusterSet twoClusterSets 0 k = {"r"} :=
  ⟨valid_twoClusterSets.owned, by decide, by decide,
    moveResourceToClusterSet_correct RangeOrder.sorted valid_twoClusterSets.owned 0
      (by decide) (by decide)⟩

/-! ## `Merge` -/

/-- The union of two non-empty sets, or of one, is not empty. -/
theorem dropEmpty_merge_union {o₁ o₂ : Option (Finset String)}
    (h₁ : ∀ s, o₁ = some s → s ≠ ∅) (h₂ : ∀ s, o₂ = some s → s ≠ ∅) :
    dropEmpty (Option.merge (· ∪ ·) o₁ o₂) = Option.merge (· ∪ ·) o₁ o₂ := by
  rcases o₁ with _ | s₁ <;> rcases o₂ with _ | s₂
  · rfl
  · simp [Option.merge, dropEmpty, h₂ s₂ rfl]
  · simp [Option.merge, dropEmpty, h₁ s₁ rfl]
  · simp [Option.merge, dropEmpty, Finset.union_eq_empty, h₁ s₁ rfl]

section Merge

variable (order : RangeOrder) {h : Heap} {a b : MapperAddr}

/-- The mapper `Merge` returns holds, at every key, the union of what two
well-formed mappers of one type held there. -/
theorem view_merge (ha : h.Wf a) (hb : h.Wf b)
    (htype : (h.mappers a).resourceType = (h.mappers b).resourceType) (k : String) :
    (merge order h a b).1.view (merge order h a b).2 k =
      Option.merge (· ∪ ·) (h.view a k) (h.view b k) := by
  by_cases hA : getAllMappings order h a = ∅
  · have hk : h.view a k = none := by
      rw [← lookup_getAllMappings order, hA, Finmap.lookup_empty]
    rw [merge_of_left_empty order h htype hA, hk]
    cases h.view b k <;> rfl
  by_cases hB : getAllMappings order h b = ∅
  · have hk : h.view b k = none := by
      rw [← lookup_getAllMappings order, hB, Finmap.lookup_empty]
    rw [merge_of_right_empty order h htype hA hB, hk]
    cases h.view a k <;> rfl
  rw [merge_snd_of_nonempty order h htype hA hB, view_merge_of_nonempty order h htype hA hB, merged,
    lookup_getAllMappings, lookup_getAllMappings,
    dropEmpty_merge_union (fun s hs => (ha k s hs).2) (fun s hs => (hb k s hs).2)]
  split_ifs with hk
  · rw [hk, ha.view_empty_key, hb.view_empty_key]
    rfl
  · rfl

/-- For two mappers with no empty key and no empty set, `GetAllMappings` of
`a.Merge(b)` is the key-wise union of theirs when their types agree, and
`a.Merge(b)` is `a`, the heap untouched, when they differ. -/
theorem merge_eq_union (ha : h.Wf a) (hb : h.Wf b) :
    ((h.mappers a).resourceType = (h.mappers b).resourceType → ∀ k,
      (getAllMappings order (merge order h a b).1 (merge order h a b).2).lookup k =
        Option.merge (· ∪ ·) ((getAllMappings order h a).lookup k)
          ((getAllMappings order h b).lookup k)) ∧
      ((h.mappers a).resourceType ≠ (h.mappers b).resourceType → merge order h a b = (h, a)) :=
  ⟨fun htype k => by
    simp only [lookup_getAllMappings]
    exact view_merge order ha hb htype k,
    merge_of_resourceType_ne order h⟩

end Merge

theorem merge_eq_union_sharedKeyMappers :
    sharedKeyMappers.Wf 0 ∧ sharedKeyMappers.Wf 1 ∧
      ((sharedKeyMappers.mappers 0).resourceType = (sharedKeyMappers.mappers 1).resourceType →
        ∀ k, (getAllMappings RangeOrder.sorted (merge RangeOrder.sorted sharedKeyMappers 0 1).1
          (merge RangeOrder.sorted sharedKeyMappers 0 1).2).lookup k =
          Option.merge (· ∪ ·) ((getAllMappings RangeOrder.sorted sharedKeyMappers 0).lookup k)
            ((getAllMappings RangeOrder.sorted sharedKeyMappers 1).lookup k)) ∧
      ((sharedKeyMappers.mappers 0).resourceType ≠ (sharedKeyMappers.mappers 1).resourceType →
        merge RangeOrder.sorted sharedKeyMappers 0 1 = (sharedKeyMappers, 0)) :=
  ⟨valid_sharedKeyMappers.wf 0, valid_sharedKeyMappers.wf 1,
    merge_eq_union RangeOrder.sorted (valid_sharedKeyMappers.wf 0) (valid_sharedKeyMappers.wf 1)⟩

theorem merge_union_comm (o₁ o₂ : Option (Finset String)) :
    Option.merge (· ∪ ·) o₁ o₂ = Option.merge (· ∪ ·) o₂ o₁ := by
  rcases o₁ with _ | s₁ <;> rcases o₂ with _ | s₂ <;> simp [Option.merge, Finset.union_comm]

theorem merge_union_self (o : Option (Finset String)) : Option.merge (· ∪ ·) o o = o := by
  rcases o with _ | s <;> simp [Option.merge]

theorem merge_union_assoc (o₁ o₂ o₃ : Option (Finset String)) :
    Option.merge (· ∪ ·) (Option.merge (· ∪ ·) o₁ o₂) o₃ =
      Option.merge (· ∪ ·) o₁ (Option.merge (· ∪ ·) o₂ o₃) := by
  rcases o₁ with _ | s₁ <;> rcases o₂ with _ | s₂ <;> rcases o₃ with _ | s₃ <;>
    simp [Option.merge, Finset.union_assoc]

section Laws

variable (order : RangeOrder) {h : Heap}

/-- A merge in a valid heap, read back through a mapper the merge did not
build. -/
theorem view_merge_merge (hv : h.Valid) {a b c : MapperAddr} (hc : c < h.nextMapper)
    (hab : (h.mappers a).resourceType = (h.mappers b).resourceType)
    (hbc : (h.mappers b).resourceType = (h.mappers c).resourceType) (k : String) :
    (merge order (merge order h a b).1 (merge order h a b).2 c).1.view
        (merge order (merge order h a b).1 (merge order h a b).2 c).2 k =
      Option.merge (· ∪ ·) (Option.merge (· ∪ ·) (h.view a k) (h.view b k)) (h.view c k) := by
  have hv₁ := valid_of_mapperStep hv (.merge order a b)
  have hne : c ≠ h.nextMapper := Nat.ne_of_lt hc
  rw [view_merge order (hv₁.wf _) (hv₁.wf c)
      (by rw [resourceType_merge, mappers_merge_of_ne order h hne, hab, hbc]),
    view_merge order (hv.wf a) (hv.wf b) hab,
    view_merge_of_ne order h (hv.owned.allocated c) hne]

/-- In a valid heap, `Merge` of mappers of one type is commutative and
idempotent up to `GetAllMappings`, and associative for mappers that exist
(the inner merge builds its mapper at the next address). -/
theorem merge_comm_idem_assoc (hv : h.Valid) {a b c : MapperAddr} (ha : a < h.nextMapper)
    (hc : c < h.nextMapper) (hab : (h.mappers a).resourceType = (h.mappers b).resourceType)
    (hbc : (h.mappers b).resourceType = (h.mappers c).resourceType) :
    getAllMappings order (merge order h a b).1 (merge order h a b).2 =
        getAllMappings order (merge order h b a).1 (merge order h b a).2 ∧
      getAllMappings order (merge order h a a).1 (merge order h a a).2 =
        getAllMappings order h a ∧
      getAllMappings order (merge order (merge order h a b).1 (merge order h a b).2 c).1
          (merge order (merge order h a b).1 (merge order h a b).2 c).2 =
        getAllMappings order (merge order (merge order h b c).1 a (merge order h b c).2).1
          (merge order (merge order h b c).1 a (merge order h b c).2).2 := by
  refine ⟨Finmap.ext_lookup fun k => ?_, Finmap.ext_lookup fun k => ?_,
    Finmap.ext_lookup fun k => ?_⟩
  · simp only [lookup_getAllMappings]
    rw [view_merge order (hv.wf a) (hv.wf b) hab, view_merge order (hv.wf b) (hv.wf a) hab.symm,
      merge_union_comm]
  · simp only [lookup_getAllMappings]
    rw [view_merge order (hv.wf a) (hv.wf a) rfl, merge_union_self]
  · have hv₂ := valid_of_mapperStep hv (.merge order b c)
    have hne : a ≠ h.nextMapper := Nat.ne_of_lt ha
    simp only [lookup_getAllMappings]
    rw [view_merge_merge order hv hc hab hbc,
      view_merge order (hv₂.wf a) (hv₂.wf _)
        (by rw [resourceType_merge, mappers_merge_of_ne order h hne, hab]),
      view_merge order (hv.wf b) (hv.wf c) hbc, view_merge_of_ne order h (hv.owned.allocated a) hne,
      merge_union_assoc]

end Laws

theorem merge_comm_idem_assoc_sharedKeyMappers :
    0 < sharedKeyMappers.nextMapper ∧ 1 < sharedKeyMappers.nextMapper ∧
      (sharedKeyMappers.mappers 0).resourceType = (sharedKeyMappers.mappers 1).resourceType ∧
      (getAllMappings RangeOrder.sorted (merge RangeOrder.sorted sharedKeyMappers 0 1).1
          (merge RangeOrder.sorted sharedKeyMappers 0 1).2 =
        getAllMappings RangeOrder.sorted (merge RangeOrder.sorted sharedKeyMappers 1 0).1
          (merge RangeOrder.sorted sharedKeyMappers 1 0).2 ∧
      getAllMappings RangeOrder.sorted (merge RangeOrder.sorted sharedKeyMappers 0 0).1
          (merge RangeOrder.sorted sharedKeyMappers 0 0).2 =
        getAllMappings RangeOrder.sorted sharedKeyMappers 0 ∧
      getAllMappings RangeOrder.sorted
          (merge RangeOrder.sorted (merge RangeOrder.sorted sharedKeyMappers 0 1).1
            (merge RangeOrder.sorted sharedKeyMappers 0 1).2 1).1
          (merge RangeOrder.sorted (merge RangeOrder.sorted sharedKeyMappers 0 1).1
            (merge RangeOrder.sorted sharedKeyMappers 0 1).2 1).2 =
        getAllMappings RangeOrder.sorted
          (merge RangeOrder.sorted (merge RangeOrder.sorted sharedKeyMappers 1 1).1 0
            (merge RangeOrder.sorted sharedKeyMappers 1 1).2).1
          (merge RangeOrder.sorted (merge RangeOrder.sorted sharedKeyMappers 1 1).1 0
            (merge RangeOrder.sorted sharedKeyMappers 1 1).2).2) :=
  ⟨by decide, by decide, rfl,
    merge_comm_idem_assoc RangeOrder.sorted valid_sharedKeyMappers (by decide) (by decide) rfl rfl⟩

end ClusterSetCache
