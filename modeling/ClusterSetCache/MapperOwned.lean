import Mathlib.Logic.Relation
import ClusterSetCache.Mapper

/-!
# Mappers that own their sets

When no set is held by two keys, a `ClusterSetResourceMapper` behaves as its
names promise.  `Heap.Owned` says so, together with the allocation bound: every
set a mapper holds is allocated, and no set is held by two keys of one mapper or
of two.  Under it each method changes the members a key sees only at the keys
it names (`Owned.view_*`), and keeps the invariant, provided the set handed to
`UpdateClusterSetResources` is held by no other key.

*Ownership.*  `Owned.writeSet`, `Owned.newSet`, `Owned.erase`, `Owned.insert`
and `Owned.newMapper` are the five ways the methods change the heap.

*Key by key.*  What a key sees after a call is what it saw, or what `prune`
(the loop body of the two removals) or `dropEmpty` (the empty-set branch of
`UpdateClusterSetResources`) makes of it: `view_insertResource`,
`view_removeResourceFromAllClusterSets`, `view_moveResourceToClusterSet`.  The
range order does not appear in any of them.

*`Merge` and `CopyFrom`.*  The mapper `Merge` builds holds `merged` at every key
but `""` (`view_merge_of_nonempty`), and no other mapper changes
(`view_merge_of_ne`, `mappers_merge_of_ne`); `CopyFrom` changes no mapper but
its own (`view_copyFrom_of_ne`).
-/

namespace ClusterSetCache

open ClusterSetResourceMapper

/-! ## Ownership -/

namespace Heap

/-- Every set a mapper holds is allocated, and held by one key of one mapper. -/
structure Owned (h : Heap) : Prop where
  /-- Held sets are allocated. -/
  allocated : ∀ m, h.Allocated m
  /-- No set is held by two keys. -/
  unique : ∀ {m k m' k' p}, h.addr m k = some p → h.addr m' k' = some p → m = m' ∧ k = k'

variable {h : Heap}

/-- A heap whose keys hold what they held in an owned heap, or nothing, with no
fewer sets allocated, is owned. -/
theorem Owned.of_addr {h' : Heap} (ho : h.Owned) (hnext : h.nextSet ≤ h'.nextSet)
    (hsub : ∀ {m k p}, h'.addr m k = some p → h.addr m k = some p) : h'.Owned :=
  ⟨fun m k p hp => Nat.lt_of_lt_of_le (ho.allocated m k p (hsub hp)) hnext,
    fun h₁ h₂ => ho.unique (hsub h₁) (hsub h₂)⟩

theorem Owned.writeSet (ho : h.Owned) (p : SetAddr) (s : Finset String) : (h.writeSet p s).Owned :=
  ho.of_addr le_rfl id

theorem Owned.newSet (ho : h.Owned) (s : Finset String) : (h.newSet s).Owned :=
  ho.of_addr (Nat.le_succ _) id

theorem Owned.erase (ho : h.Owned) (m : MapperAddr) (k : String) :
    (h.writeMap m ((h.mappers m).setToResources.erase k)).Owned :=
  ho.of_addr le_rfl fun hp => by
    rw [addr_writeMap_erase] at hp
    split_ifs at hp
    exact hp

/-- A new mapper with an empty map. -/
theorem Owned.newMapper (ho : h.Owned) (resourceType : ResourceType) :
    (h.newMapper ⟨resourceType, ∅⟩).Owned :=
  ho.of_addr le_rfl fun hp => by
    rw [addr_newMapper] at hp
    split_ifs at hp
    · simp [Finmap.lookup_empty] at hp
    · exact hp

/-- A key may take an allocated set that no other key holds. -/
theorem Owned.insert (ho : h.Owned) {m : MapperAddr} {k : String} {p : SetAddr}
    (hp : p < h.nextSet) (hfree : ∀ {m' k'}, h.addr m' k' = some p → m' = m ∧ k' = k) :
    (h.writeMap m ((h.mappers m).setToResources.insert k p)).Owned := by
  have hnew : ∀ {m' k' q}, (h.writeMap m ((h.mappers m).setToResources.insert k p)).addr m' k' =
      some q → (m' = m ∧ k' = k ∧ q = p) ∨ (¬ (m' = m ∧ k' = k) ∧ h.addr m' k' = some q) := by
    intro m' k' q hq
    rw [addr_writeMap_insert] at hq
    split_ifs at hq with hmk
    · exact .inl ⟨hmk.1, hmk.2, (Option.some.inj hq).symm⟩
    · exact .inr ⟨hmk, hq⟩
  refine ⟨fun m' k' q hq => ?_, fun h₁ h₂ => ?_⟩
  · rcases hnew hq with ⟨-, -, rfl⟩ | ⟨-, hq⟩
    · exact hp
    · exact ho.allocated m' k' q hq
  · rcases hnew h₁ with ⟨hm₁, hk₁, hq₁⟩ | ⟨hmk₁, h₁⟩ <;>
      rcases hnew h₂ with ⟨hm₂, hk₂, hq₂⟩ | ⟨hmk₂, h₂⟩
    · exact ⟨hm₁.trans hm₂.symm, hk₁.trans hk₂.symm⟩
    · exact absurd (hfree (hq₁ ▸ h₂)) hmk₂
    · exact absurd (hfree (hq₂ ▸ h₁)) hmk₁
    · exact ho.unique h₁ h₂

/-- Writing a set that one key holds changes what that key sees, and nothing
else. -/
theorem Owned.view_writeSet (ho : h.Owned) {m₀ : MapperAddr} {k₀ : String} {p : SetAddr}
    (hp : h.addr m₀ k₀ = some p) (s : Finset String) (m : MapperAddr) (k : String) :
    (h.writeSet p s).view m k = if m = m₀ ∧ k = k₀ then some s else h.view m k := by
  unfold view
  rw [addr_writeSet]
  split_ifs with hmk
  · obtain ⟨rfl, rfl⟩ := hmk
    simp [hp]
  · rcases hq : h.addr m k with _ | q
    · rfl
    · have hqp : q ≠ p := fun hqp => hmk (ho.unique (hqp ▸ hq) hp)
      simp [Function.update_noteq hqp]

theorem Owned.view_newSet (ho : h.Owned) (s : Finset String) (m : MapperAddr) (k : String) :
    (h.newSet s).view m k = h.view m k :=
  Heap.view_newSet h s (ho.allocated m k)

theorem view_newMapper (resourceType : ResourceType) (m : MapperAddr) (k : String) :
    (h.newMapper ⟨resourceType, ∅⟩).view m k = if m = h.nextMapper then none else h.view m k := by
  by_cases hm : m = h.nextMapper <;> simp [view, hm, Finmap.lookup_empty]

theorem view_writeSet_of_free {p : SetAddr} (hfree : ∀ m k, h.addr m k ≠ some p)
    (s : Finset String) (m : MapperAddr) (k : String) : (h.writeSet p s).view m k = h.view m k := by
  unfold view
  rw [addr_writeSet]
  rcases hq : h.addr m k with _ | q
  · rfl
  · have hqp : q ≠ p := fun hqp => hfree m k (hqp ▸ hq)
    simp [Function.update_noteq hqp]

end Heap

/-! ## The methods, key by key -/

/-- What the loop body of `RemoveResourceFromAllClusterSets` leaves at a key
whose set has the members `o`: `r` deleted, and the key gone once its set is
empty. -/
def prune (r : String) : Option (Finset String) → Option (Finset String)
  | none => none
  | some s => if r ∈ s then if s.erase r = ∅ then none else some (s.erase r) else some s

@[simp] theorem getD_prune (r : String) (o : Option (Finset String)) :
    (prune r o).getD ∅ = (o.getD ∅).erase r := by
  rcases o with _ | s
  · rfl
  · simp only [prune, Option.getD_some]
    split_ifs with hr he
    · exact he.symm
    · rfl
    · exact (Finset.erase_eq_of_not_mem hr).symm

/-- Deleting `r` at a key leaves it with what it had, or with a non-empty set. -/
theorem prune_eq_some {r : String} {o : Option (Finset String)} {s : Finset String}
    (h : prune r o = some s) : o = some s ∨ (o.isSome ∧ s ≠ ∅) := by
  rcases o with _ | t
  · cases h
  · simp only [prune] at h
    split_ifs at h with hr he
    · cases h
      exact .inr ⟨rfl, he⟩
    · cases h
      exact .inl rfl

/-- A key is deleted only when `r` was its one member. -/
theorem prune_eq_none {r : String} {t : Finset String} (h : prune r (some t) = none) : t = {r} := by
  simp only [prune] at h
  split_ifs at h with hr he
  exact ((Finset.erase_eq_empty_iff t r).mp he).resolve_left (Finset.ne_empty_of_mem hr)

/-- What `UpdateClusterSetResources` leaves at a key given the members `o`:
nothing for an empty set. -/
def dropEmpty : Option (Finset String) → Option (Finset String)
  | some s => if s = ∅ then none else some s
  | none => none

theorem dropEmpty_eq_some {o : Option (Finset String)} {s : Finset String}
    (h : dropEmpty o = some s) : s ≠ ∅ := by
  rcases o with _ | t
  · cases h
  · simp only [dropEmpty] at h
    split_ifs at h with ht
    · cases h
      exact ht

namespace ClusterSetResourceMapper

variable {h : Heap}

theorem view_updateClusterSetResources (h : Heap) (m : MapperAddr) (k : String) (p : SetAddr)
    (m' : MapperAddr) (k' : String) :
    (updateClusterSetResources h m k p).view m' k' =
      if m' = m ∧ k' = k ∧ k ≠ "" then (if h.sets p = ∅ then none else some (h.sets p))
      else h.view m' k' := by
  unfold updateClusterSetResources
  by_cases hk : k = ""
  · simp [hk]
  · by_cases he : h.sets p = ∅ <;>
      simp [hk, he, Heap.view_writeMap_erase, Heap.view_writeMap_insert]

/-- `UpdateClusterSetResources` keeps the heap owned when it is handed an
allocated set that no other key holds. -/
theorem owned_updateClusterSetResources (ho : h.Owned) {m : MapperAddr} {k : String}
    {p : SetAddr} (hp : p < h.nextSet) (hfree : ∀ {m' k'}, h.addr m' k' = some p → m' = m ∧ k' = k) :
    (updateClusterSetResources h m k p).Owned := by
  unfold updateClusterSetResources
  split_ifs
  · exact ho
  · exact ho.erase m k
  · exact ho.insert hp hfree

theorem owned_insertResource (ho : h.Owned) (m : MapperAddr) (r k : String) :
    (insertResource h m r k).Owned := by
  unfold insertResource
  rcases h.addr m k with _ | p
  · exact (ho.newSet {r}).insert (Nat.lt_succ_self _)
      fun hq => absurd (ho.allocated _ _ _ hq) (Nat.lt_irrefl _)
  · exact ho.writeSet p _

theorem view_insertResource (ho : h.Owned) (m : MapperAddr) (r k : String) (m' : MapperAddr)
    (k' : String) :
    (insertResource h m r k).view m' k' =
      if m' = m ∧ k' = k then some (insert r ((h.view m k).getD ∅)) else h.view m' k' := by
  unfold insertResource
  rcases hp : h.addr m k with _ | p
  · refine (Heap.view_writeMap_insert (h.newSet {r}) m k h.nextSet m' k').trans ?_
    rw [ho.view_newSet]
    simp [Heap.view, hp]
  · rw [ho.view_writeSet hp]
    simp [Heap.view, hp]

theorem owned_deleteResource (ho : h.Owned) (m : MapperAddr) (r j : String) :
    (deleteResource m r h j).Owned := by
  unfold deleteResource
  rcases h.addr m j with _ | p
  · exact ho
  · dsimp only
    split_ifs
    · exact (ho.writeSet p _).erase m j
    · exact ho.writeSet p _
    · exact ho

theorem view_deleteResource (ho : h.Owned) (m : MapperAddr) (r j : String) (m' : MapperAddr)
    (k : String) :
    (deleteResource m r h j).view m' k =
      if m' = m ∧ k = j then prune r (h.view m j) else h.view m' k := by
  unfold deleteResource
  rcases hp : h.addr m j with _ | p
  · split_ifs with hmk
    · obtain ⟨rfl, rfl⟩ := hmk
      simp [Heap.view, hp, prune]
    · rfl
  · have hv : h.view m j = some (h.sets p) := by simp [Heap.view, hp]
    dsimp only
    by_cases hr : r ∈ h.sets p
    · by_cases he : (h.sets p).erase r = ∅
      · simp only [hr, he, Heap.writeSet_sets, Function.update_same, if_true,
          Heap.view_writeMap_erase, ho.view_writeSet hp, hv, prune]
        split_ifs <;> simp_all
      · simp only [hr, he, Heap.writeSet_sets, Function.update_same, if_true, if_false,
          ho.view_writeSet hp, hv, prune]
    · simp only [hr, if_false, hv, prune]
      split_ifs with hmk
      · obtain ⟨rfl, rfl⟩ := hmk
        exact hv
      · rfl

theorem view_removeClusterSet (h : Heap) (m : MapperAddr) (k : String) (m' : MapperAddr)
    (k' : String) :
    (removeClusterSet h m k).view m' k' = if m' = m ∧ k' = k ∧ k ≠ "" then none else h.view m' k' := by
  unfold removeClusterSet
  by_cases hk : k = "" <;> simp [hk, Heap.view_writeMap_erase]

theorem owned_removeClusterSet (ho : h.Owned) (m : MapperAddr) (k : String) :
    (removeClusterSet h m k).Owned := by
  unfold removeClusterSet
  split_ifs
  · exact ho
  · exact ho.erase m k

theorem owned_foldl_deleteResource (ho : h.Owned) (m : MapperAddr) (r : String)
    (ks : List String) : (ks.foldl (deleteResource m r) h).Owned :=
  foldl_invariant Heap.Owned (deleteResource m r) (fun _ j hs => owned_deleteResource hs m r j) ks ho

/-- The loop over distinct keys deletes `r` at each of them. -/
theorem view_foldl_deleteResource (ho : h.Owned) (m : MapperAddr) (r : String)
    {ks : List String} (hks : ks.Nodup) (m' : MapperAddr) (k : String) :
    (ks.foldl (deleteResource m r) h).view m' k =
      if m' = m ∧ k ∈ ks then prune r (h.view m k) else h.view m' k := by
  refine (foldl_pointwise (fun h k => h.view m' k) Heap.Owned (deleteResource m r)
    (fun _ o => if m' = m then prune r o else o) (fun _ j hs => owned_deleteResource hs m r j)
    (fun s j k hs => ?_) hks ho k).trans ?_
  · dsimp only
    rw [view_deleteResource hs]
    by_cases hk : k = j <;> by_cases hm : m' = m <;> simp [hk, hm]
  · by_cases hk : k ∈ ks <;> by_cases hm : m' = m <;> simp [hk, hm]

section Ranges

variable (order : RangeOrder)

theorem owned_removeResourceFromAllClusterSets (ho : h.Owned) (m : MapperAddr) (r : String) :
    (removeResourceFromAllClusterSets order h m r).Owned := by
  unfold removeResourceFromAllClusterSets
  split_ifs
  · exact ho
  · exact owned_foldl_deleteResource ho m r _

/-- `RemoveResourceFromAllClusterSets` deletes `r` at every key of the mapper. -/
theorem view_removeResourceFromAllClusterSets (ho : h.Owned) (m : MapperAddr) (r : String)
    (m' : MapperAddr) (k : String) :
    (removeResourceFromAllClusterSets order h m r).view m' k =
      if m' = m ∧ r ≠ "" then prune r (h.view m k) else h.view m' k := by
  unfold removeResourceFromAllClusterSets
  by_cases hr : r = ""
  · simp [hr]
  · rw [if_neg hr, view_foldl_deleteResource ho m r (order.nodup _)]
    simp only [order.mem, Finmap.mem_keys, Heap.mem_setToResources_iff]
    by_cases hm : m' = m
    · subst hm
      rcases hv : h.view m' k with _ | s <;> simp [hr, prune]
    · simp [hm]

theorem owned_moveResourceToClusterSet (ho : h.Owned) (m : MapperAddr) (r s : String) :
    (moveResourceToClusterSet order h m r s).Owned := by
  unfold moveResourceToClusterSet
  split_ifs
  · exact ho
  · exact owned_insertResource (owned_foldl_deleteResource ho m r _) m r s

/-- `MoveResourceToClusterSet` deletes `r` at every key but `s`, and inserts it
at `s`. -/
theorem view_moveResourceToClusterSet (ho : h.Owned) (m : MapperAddr) (r s : String)
    (m' : MapperAddr) (k : String) :
    (moveResourceToClusterSet order h m r s).view m' k =
      if m' = m ∧ r ≠ "" ∧ s ≠ "" then
        (if k = s then some (insert r ((h.view m s).getD ∅)) else prune r (h.view m k))
      else h.view m' k := by
  unfold moveResourceToClusterSet
  by_cases hrs : r = "" ∨ s = ""
  · rw [if_pos hrs, if_neg (by tauto)]
  rw [if_neg hrs, view_insertResource (owned_foldl_deleteResource ho m r _)]
  rw [not_or] at hrs
  simp only [view_foldl_deleteResource ho m r ((order.nodup _).filter _), List.mem_filter,
    order.mem, Finmap.mem_keys, Heap.mem_setToResources_iff]
  by_cases hm : m' = m
  · subst hm
    by_cases hks : k = s
    · subst hks
      simp [hrs]
    · rcases hv : h.view m' k with _ | t <;> simp [hks, hrs, hv, prune]
  · simp [hm]

end Ranges

/-! ## `Merge` -/

@[simp] theorem nextSet_updateClusterSetResources (h : Heap) (m : MapperAddr) (k : String)
    (p : SetAddr) : (updateClusterSetResources h m k p).nextSet = h.nextSet := by
  unfold updateClusterSetResources
  split_ifs <;> rfl

@[simp] theorem nextSet_updateWithNew (h : Heap) (m : MapperAddr) (k : String)
    (S : Finset String) : (updateWithNew h m k S).nextSet = h.nextSet + 1 :=
  nextSet_updateClusterSetResources _ m k _

theorem allocated_updateWithNew {m' : MapperAddr} (hal : h.Allocated m') (m : MapperAddr)
    (k : String) (S : Finset String) : (updateWithNew h m k S).Allocated m' := by
  intro k' p hp
  rw [nextSet_updateWithNew]
  unfold updateWithNew updateClusterSetResources at hp
  have hlt : ∀ q, h.addr m' k' = some q → q < h.nextSet + 1 :=
    fun q hq => Nat.lt_succ_of_lt (hal k' q hq)
  split_ifs at hp
  · exact hlt p hp
  · rw [Heap.addr_writeMap_erase] at hp
    split_ifs at hp
    exact hlt p hp
  · rw [Heap.addr_writeMap_insert] at hp
    split_ifs at hp
    · cases hp; exact Nat.lt_succ_self _
    · exact hlt p hp

theorem view_updateWithNew {m' : MapperAddr} (hal : h.Allocated m') (m : MapperAddr) (k : String)
    (S : Finset String) (k' : String) :
    (updateWithNew h m k S).view m' k' =
      if m' = m ∧ k' = k ∧ k ≠ "" then dropEmpty (some S) else h.view m' k' := by
  rw [updateWithNew, view_updateClusterSetResources, Heap.view_newSet h S (hal k')]
  simp [dropEmpty]

theorem owned_updateWithNew (ho : h.Owned) (m : MapperAddr) (k : String) (S : Finset String) :
    (updateWithNew h m k S).Owned :=
  owned_updateClusterSetResources (ho.newSet S) (Nat.lt_succ_self _)
    fun hq => absurd (ho.allocated _ _ _ hq) (Nat.lt_irrefl _)

/-- `UpdateClusterSetResources` keeps every mapper's type, and writes no mapper
but its own. -/
theorem frame_updateWithNew (h : Heap) (m : MapperAddr) (k : String) (S : Finset String)
    (m' : MapperAddr) :
    ((updateWithNew h m k S).mappers m').resourceType = (h.mappers m').resourceType ∧
      (m' ≠ m → (updateWithNew h m k S).mappers m' = h.mappers m') := by
  unfold updateWithNew updateClusterSetResources
  split_ifs <;> by_cases hm : m' = m <;> simp [hm]

section Merge

variable (A B : Finmap fun _ : String => Finset String) (r : MapperAddr)

/-- What `Merge` leaves at a key of the merged mapper. -/
def merged (k : String) : Option (Finset String) :=
  dropEmpty (Option.merge (· ∪ ·) (A.lookup k) (B.lookup k))

theorem allocated_mergeCurrent {m' : MapperAddr} (hal : h.Allocated m') (j : String) :
    (mergeCurrent A B r h j).Allocated m' := by
  unfold mergeCurrent
  split
  · exact allocated_updateWithNew hal _ _ _
  · exact allocated_updateWithNew hal _ _ _
  · exact hal

theorem allocated_mergeOther {m' : MapperAddr} (hal : h.Allocated m') (j : String) :
    (mergeOther A B r h j).Allocated m' := by
  unfold mergeOther
  split
  · split_ifs
    · exact hal
    · exact allocated_updateWithNew hal _ _ _
  · exact hal

theorem owned_mergeCurrent (ho : h.Owned) (j : String) : (mergeCurrent A B r h j).Owned := by
  unfold mergeCurrent
  split
  · exact owned_updateWithNew ho _ _ _
  · exact owned_updateWithNew ho _ _ _
  · exact ho

theorem owned_mergeOther (ho : h.Owned) (j : String) : (mergeOther A B r h j).Owned := by
  unfold mergeOther
  split
  · split_ifs
    · exact ho
    · exact owned_updateWithNew ho _ _ _
  · exact ho

theorem frame_mergeCurrent (h : Heap) (j : String) (m' : MapperAddr) :
    ((mergeCurrent A B r h j).mappers m').resourceType = (h.mappers m').resourceType ∧
      (m' ≠ r → (mergeCurrent A B r h j).mappers m' = h.mappers m') := by
  unfold mergeCurrent
  split
  · exact frame_updateWithNew h r j _ m'
  · exact frame_updateWithNew h r j _ m'
  · exact ⟨rfl, fun _ => rfl⟩

theorem frame_mergeOther (h : Heap) (j : String) (m' : MapperAddr) :
    ((mergeOther A B r h j).mappers m').resourceType = (h.mappers m').resourceType ∧
      (m' ≠ r → (mergeOther A B r h j).mappers m' = h.mappers m') := by
  unfold mergeOther
  split
  · split_ifs
    · exact ⟨rfl, fun _ => rfl⟩
    · exact frame_updateWithNew h r j _ m'
  · exact ⟨rfl, fun _ => rfl⟩

theorem view_mergeCurrent {m' : MapperAddr} (hal : h.Allocated m') (j k : String) :
    (mergeCurrent A B r h j).view m' k =
      if m' = r ∧ k = j ∧ k ≠ "" ∧ j ∈ A then merged A B k else h.view m' k := by
  unfold mergeCurrent
  rcases ha : A.lookup j with _ | a
  · simp [Finmap.lookup_eq_none.mp ha]
  · have hj : j ∈ A := Finmap.mem_of_lookup_eq_some ha
    rcases hb : B.lookup j with _ | b <;>
    · dsimp only
      rw [view_updateWithNew hal]
      by_cases hk : m' = r ∧ k = j ∧ j ≠ ""
      · obtain ⟨-, rfl, -⟩ := hk
        simp_all [merged, Option.merge]
      · rw [if_neg hk, if_neg (by rintro ⟨h₁, rfl, h₃, -⟩; exact hk ⟨h₁, rfl, h₃⟩)]

theorem view_mergeOther {m' : MapperAddr} (hal : h.Allocated m') (j k : String) :
    (mergeOther A B r h j).view m' k =
      if m' = r ∧ k = j ∧ k ≠ "" ∧ j ∉ A ∧ j ∈ B then merged A B k else h.view m' k := by
  unfold mergeOther
  rcases hb : B.lookup j with _ | b
  · simp [Finmap.lookup_eq_none.mp hb]
  · have hj : j ∈ B := Finmap.mem_of_lookup_eq_some hb
    dsimp only
    by_cases hA : j ∈ A
    · simp [hA]
    · rw [if_neg hA, view_updateWithNew hal]
      by_cases hk : m' = r ∧ k = j ∧ j ≠ ""
      · obtain ⟨-, rfl, -⟩ := hk
        simp_all [merged, Option.merge, Finmap.lookup_eq_none.mpr hA]
      · rw [if_neg hk, if_neg (by rintro ⟨h₁, rfl, h₃, -⟩; exact hk ⟨h₁, rfl, h₃⟩)]

theorem view_foldl_mergeCurrent {m' : MapperAddr} (hal : h.Allocated m') {ks : List String}
    (hks : ks.Nodup) (k : String) :
    (ks.foldl (mergeCurrent A B r) h).view m' k =
      if m' = r ∧ k ∈ ks ∧ k ≠ "" ∧ k ∈ A then merged A B k else h.view m' k := by
  refine (foldl_pointwise (fun h k => h.view m' k) (fun h => h.Allocated m') (mergeCurrent A B r)
    (fun k o => if m' = r ∧ k ≠ "" ∧ k ∈ A then merged A B k else o)
    (fun _ j hs => allocated_mergeCurrent A B r hs j) (fun s j k hs => ?_) hks hal k).trans ?_
  · dsimp only
    rw [view_mergeCurrent A B r hs]
    by_cases hk : k = j
    · subst hk; simp
    · simp [hk]
  · by_cases hk : k ∈ ks <;> simp [hk]

theorem view_foldl_mergeOther {m' : MapperAddr} (hal : h.Allocated m') {ks : List String}
    (hks : ks.Nodup) (k : String) :
    (ks.foldl (mergeOther A B r) h).view m' k =
      if m' = r ∧ k ∈ ks ∧ k ≠ "" ∧ k ∉ A ∧ k ∈ B then merged A B k else h.view m' k := by
  refine (foldl_pointwise (fun h k => h.view m' k) (fun h => h.Allocated m') (mergeOther A B r)
    (fun k o => if m' = r ∧ k ≠ "" ∧ k ∉ A ∧ k ∈ B then merged A B k else o)
    (fun _ j hs => allocated_mergeOther A B r hs j) (fun s j k hs => ?_) hks hal k).trans ?_
  · dsimp only
    rw [view_mergeOther A B r hs]
    by_cases hk : k = j
    · subst hk; simp
    · simp [hk]
  · by_cases hk : k ∈ ks <;> simp [hk]

/-- The two loops of `Merge` write `merged` into the mapper at `r`, at every key
but `""` of either mapping. -/
theorem view_mergeLoops (order : RangeOrder) {m' : MapperAddr} (hal : h.Allocated m')
    (k : String) :
    ((order.toList B.keys).foldl (mergeOther A B r)
        ((order.toList A.keys).foldl (mergeCurrent A B r) h)).view m' k =
      if m' = r ∧ k ≠ "" ∧ (k ∈ A ∨ k ∈ B) then merged A B k else h.view m' k := by
  rw [view_foldl_mergeOther A B r (foldl_invariant (fun h' : Heap => h'.Allocated m')
      (mergeCurrent A B r) (fun _ j hs => allocated_mergeCurrent A B r hs j) _ hal) (order.nodup _),
    view_foldl_mergeCurrent A B r hal (order.nodup _)]
  simp only [order.mem, Finmap.mem_keys]
  by_cases hm : m' = r <;> by_cases hk : k = "" <;> by_cases hA : k ∈ A <;> simp [hm, hk, hA]

end Merge

section MergeResult

variable (order : RangeOrder) (h : Heap) {m other : MapperAddr}

theorem merge_of_resourceType_ne
    (hne : (h.mappers m).resourceType ≠ (h.mappers other).resourceType) :
    merge order h m other = (h, m) := by
  simp [merge, hne]

theorem merge_of_left_empty (htype : (h.mappers m).resourceType = (h.mappers other).resourceType)
    (he : getAllMappings order h m = ∅) : merge order h m other = (h, other) := by
  simp [merge, htype, he]

theorem merge_of_right_empty (htype : (h.mappers m).resourceType = (h.mappers other).resourceType)
    (hA : getAllMappings order h m ≠ ∅) (he : getAllMappings order h other = ∅) :
    merge order h m other = (h, m) := by
  simp [merge, htype, hA, he]

theorem merge_of_nonempty (htype : (h.mappers m).resourceType = (h.mappers other).resourceType)
    (hA : getAllMappings order h m ≠ ∅) (hB : getAllMappings order h other ≠ ∅) :
    merge order h m other =
      ((order.toList (getAllMappings order h other).keys).foldl
        (mergeOther (getAllMappings order h m) (getAllMappings order h other) h.nextMapper)
        ((order.toList (getAllMappings order h m).keys).foldl
          (mergeCurrent (getAllMappings order h m) (getAllMappings order h other) h.nextMapper)
          (h.newMapper ⟨(h.mappers m).resourceType, ∅⟩)),
        h.nextMapper) := by
  simp [merge, htype, hA, hB, newClusterSetResourceMapper]

/-- The new mapper `Merge` builds has, at each key but `""`, the union of the
two sets, unless it is empty. -/
theorem view_merge_of_nonempty
    (htype : (h.mappers m).resourceType = (h.mappers other).resourceType)
    (hA : getAllMappings order h m ≠ ∅) (hB : getAllMappings order h other ≠ ∅) (k : String) :
    (merge order h m other).1.view h.nextMapper k =
      if k = "" then none
      else merged (getAllMappings order h m) (getAllMappings order h other) k := by
  rw [merge_of_nonempty order h htype hA hB,
    view_mergeLoops _ _ _ order fun k p hp => by simp [Finmap.lookup_empty] at hp]
  by_cases hk : k = ""
  · simp [hk, Heap.view_newMapper]
  by_cases hkAB : k ∈ getAllMappings order h m ∨ k ∈ getAllMappings order h other
  · simp [hk, hkAB]
  · rw [not_or, ← Finmap.lookup_eq_none, ← Finmap.lookup_eq_none] at hkAB
    simp [hk, hkAB, merged, Heap.view_newMapper, Option.merge, dropEmpty]

theorem merge_snd_of_nonempty
    (htype : (h.mappers m).resourceType = (h.mappers other).resourceType)
    (hA : getAllMappings order h m ≠ ∅) (hB : getAllMappings order h other ≠ ∅) :
    (merge order h m other).2 = h.nextMapper := by
  rw [merge_of_nonempty order h htype hA hB]

/-- The mapper `Merge` builds has the type of `m`, and no other mapper is
written. -/
theorem frame_merge_of_nonempty
    (htype : (h.mappers m).resourceType = (h.mappers other).resourceType)
    (hA : getAllMappings order h m ≠ ∅) (hB : getAllMappings order h other ≠ ∅) :
    ((merge order h m other).1.mappers h.nextMapper).resourceType = (h.mappers m).resourceType ∧
      ∀ m', m' ≠ h.nextMapper → (merge order h m other).1.mappers m' = h.mappers m' := by
  rw [merge_of_nonempty order h htype hA hB]
  generalize getAllMappings order h m = A
  generalize getAllMappings order h other = B
  have step : ∀ (f : Heap → String → Heap), (∀ s j m', ((f s j).mappers m').resourceType =
      (s.mappers m').resourceType ∧ (m' ≠ h.nextMapper → (f s j).mappers m' = s.mappers m')) →
      ∀ s j, ((s.mappers h.nextMapper).resourceType = (h.mappers m).resourceType ∧
        ∀ m', m' ≠ h.nextMapper → s.mappers m' = h.mappers m') →
      (((f s j).mappers h.nextMapper).resourceType = (h.mappers m).resourceType ∧
        ∀ m', m' ≠ h.nextMapper → (f s j).mappers m' = h.mappers m') :=
    fun f hf s j hs => ⟨(hf s j _).1.trans hs.1, fun m' hne => ((hf s j m').2 hne).trans (hs.2 m' hne)⟩
  exact foldl_invariant _ _ (step _ (frame_mergeOther A B _)) _
    (foldl_invariant _ _ (step _ (frame_mergeCurrent A B _)) _
      ⟨by simp, fun m' hne => by simp [Function.update_noteq hne]⟩)

/-- `Merge` returns one of its two mappers with the heap unchanged, or builds a
new mapper. -/
theorem merge_cases :
    (merge order h m other).1 = h ∨
      ((h.mappers m).resourceType = (h.mappers other).resourceType ∧
        getAllMappings order h m ≠ ∅ ∧ getAllMappings order h other ≠ ∅) := by
  by_cases htype : (h.mappers m).resourceType = (h.mappers other).resourceType
  · by_cases hA : getAllMappings order h m = ∅
    · exact .inl (by rw [merge_of_left_empty order h htype hA])
    · by_cases hB : getAllMappings order h other = ∅
      · exact .inl (by rw [merge_of_right_empty order h htype hA hB])
      · exact .inr ⟨htype, hA, hB⟩
  · exact .inl (by rw [merge_of_resourceType_ne order h htype])

theorem owned_merge (ho : h.Owned) : (merge order h m other).1.Owned := by
  rcases merge_cases order h with he | ⟨htype, hA, hB⟩
  · rw [he]
    exact ho
  · rw [merge_of_nonempty order h htype hA hB]
    exact foldl_invariant Heap.Owned _ (fun _ j hs => owned_mergeOther _ _ _ hs j) _
      (foldl_invariant Heap.Owned _ (fun _ j hs => owned_mergeCurrent _ _ _ hs j) _
        (ho.newMapper _))

/-- `Merge` writes no mapper but the one it builds. -/
theorem mappers_merge_of_ne {m' : MapperAddr} (hne : m' ≠ h.nextMapper) :
    (merge order h m other).1.mappers m' = h.mappers m' := by
  rcases merge_cases order h with he | ⟨htype, hA, hB⟩
  · rw [he]
  · exact (frame_merge_of_nonempty order h htype hA hB).2 m' hne

/-- The mapper `Merge` returns has the type of `m`. -/
theorem resourceType_merge :
    ((merge order h m other).1.mappers (merge order h m other).2).resourceType =
      (h.mappers m).resourceType := by
  by_cases htype : (h.mappers m).resourceType = (h.mappers other).resourceType
  · by_cases hA : getAllMappings order h m = ∅
    · rw [merge_of_left_empty order h htype hA]
      exact htype.symm
    · by_cases hB : getAllMappings order h other = ∅
      · rw [merge_of_right_empty order h htype hA hB]
      · rw [merge_snd_of_nonempty order h htype hA hB]
        exact (frame_merge_of_nonempty order h htype hA hB).1
  · rw [merge_of_resourceType_ne order h htype]

/-- `Merge` changes no mapper but the one it builds. -/
theorem view_merge_of_ne {m' : MapperAddr} (hal : h.Allocated m') (hne : m' ≠ h.nextMapper)
    (k : String) : (merge order h m other).1.view m' k = h.view m' k := by
  rcases merge_cases order h with he | ⟨htype, hA, hB⟩
  · rw [he]
  · have hal₀ : (h.newMapper ⟨(h.mappers m).resourceType, ∅⟩).Allocated m' := fun k p hp => by
      rw [Heap.addr_newMapper, if_neg hne] at hp
      exact hal k p hp
    rw [merge_of_nonempty order h htype hA hB, view_mergeLoops _ _ _ order hal₀,
      if_neg fun h' => hne h'.1]
    simp [hne, Heap.view]

end MergeResult

/-! ## `CopyFrom` -/

theorem owned_copyEntry (ho : h.Owned) (sourceMappings : Finmap fun _ : String => Finset String)
    (m : MapperAddr) (j : String) : (copyEntry sourceMappings m h j).Owned := by
  unfold copyEntry
  rcases sourceMappings.lookup j with _ | S
  · exact ho
  · exact (ho.newSet S).insert (Nat.lt_succ_self _)
      fun hq => absurd (ho.allocated _ _ _ hq) (Nat.lt_irrefl _)

theorem view_copyEntry_of_ne {m m' : MapperAddr} (hal : h.Allocated m') (hne : m' ≠ m)
    (sourceMappings : Finmap fun _ : String => Finset String) (j k : String) :
    (copyEntry sourceMappings m h j).view m' k = h.view m' k := by
  unfold copyEntry
  rcases sourceMappings.lookup j with _ | S
  · rfl
  · refine (Heap.view_writeMap_insert (h.newSet S) m j h.nextSet m' k).trans ?_
    rw [if_neg fun hmk => hne hmk.1]
    exact Heap.view_newSet h S (hal k)

section Copy

variable (order : RangeOrder)

theorem owned_copyFrom (ho : h.Owned) (m source : MapperAddr) :
    (copyFrom order h m source).Owned := by
  unfold copyFrom
  split_ifs
  · exact ho
  · refine foldl_invariant Heap.Owned _ (fun _ j hs => owned_copyEntry hs _ m j) _
      (ho.of_addr le_rfl fun {m' k p} hp => ?_)
    rw [Heap.addr_writeMap] at hp
    split_ifs at hp
    · simp [Finmap.lookup_empty] at hp
    · exact hp

/-- `CopyFrom` changes no mapper but `m`. -/
theorem view_copyFrom_of_ne {m m' : MapperAddr} (hal : h.Allocated m') (hne : m' ≠ m)
    (source : MapperAddr) (k : String) : (copyFrom order h m source).view m' k = h.view m' k := by
  unfold copyFrom
  split_ifs
  · rfl
  · have hal₁ : (h.writeMap m ∅).Allocated m' := by
      intro k p hp
      rw [Heap.addr_writeMap, if_neg hne] at hp
      exact hal k p hp
    dsimp only
    generalize getAllMappings order (h.writeMap m ∅) source = sm
    exact (foldl_invariant (fun h' : Heap => h'.Allocated m' ∧ h'.view m' k = h.view m' k)
      (copyEntry sm m) (fun _ j hs => ⟨allocated_copyEntry sm hs.1 j,
        (view_copyEntry_of_ne hs.1 hne sm j k).trans hs.2⟩) (order.toList sm.keys)
      ⟨hal₁, by rw [Heap.view_writeMap, if_neg hne]⟩).2

end Copy

end ClusterSetResourceMapper

end ClusterSetCache
