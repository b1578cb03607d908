import ClusterSetCache.Objects

/-!
# `ClusterSetResourceMapper`

A `ClusterSetResourceMapper` maps the name of a cluster set to the set of the
resources in it, as a `map[string]sets.Set[string]`.  A `sets.Set[string]` is a
Go map and so a reference: `m.setToResources[name] = resources` stores the
caller's set itself.  Two keys may then hold one set, the caller keeps a
reference to it, and a `Delete` through one key is seen through the other.
The model keeps these references.  A `Heap` holds every set and every mapper
by address, and `setToResources` maps a name to the address of its set.

Every method but `Merge` and `CopyFrom` holds `mutex` for its whole body.
`Merge` takes no lock of its own: it reads both mappers through
`GetAllMappings`, each under its read lock, and writes only the mapper it
builds.  So in a run of calls one after another the locks play no part.
`CopyFrom` alone takes a second lock while it holds its own; `MapperLock`
models that.  Here `copyFrom` is the body of `CopyFrom` once both locks are
granted.

Go's `range` over a map takes its keys in an order it leaves open, and an
entry deleted before the loop reaches it is skipped.  Every loop here takes the
keys in a `RangeOrder` and reads the entry when it reaches it.

A `ClusterSetMappingManager` holds one mapper of each resource type.

* `lookup_getAllMappings`: the map `GetAllMappings` returns has, at each key,
  the members of the set that key holds, in every range order.
* `oneSetTwoKeys`: one set of the caller under two keys.  After
  `RemoveResourceFromAllClusterSets` a key is left with the empty set
  (`removeResourceFromAllClusterSets_leaves_empty_set`).  A move leaves the
  resource in the other set (`moveResourceToClusterSet_shared_set`), and
  `Merge` of the mapper with itself drops the key with the empty set
  (`merge_self_drops_empty_set`).
-/

namespace ClusterSetCache

/-! ## Mappers and the heap -/

/-- `ResourceType`, a named string type. -/
abbrev ResourceType := String

/-- `ResourceTypeCluster`. -/
def resourceTypeCluster : ResourceType := "cluster"

/-- `ResourceTypeNamespace`. -/
def resourceTypeNamespace : ResourceType := "namespace"

/-- The address of a `sets.Set[string]`. -/
abbrev SetAddr := Nat

/-- The address of a `*ClusterSetResourceMapper`. -/
abbrev MapperAddr := Nat

/-- A `ClusterSetResourceMapper`, without its `mutex`. -/
structure ClusterSetResourceMapper where
  /-- `resourceType`. -/
  resourceType : ResourceType
  /-- `setToResources`: the set of each cluster set, by address. -/
  setToResources : Finmap fun _ : String => SetAddr

/-- The sets and the mappers of a program, by address. -/
structure Heap where
  /-- The members of each set. -/
  sets : SetAddr → Finset String
  /-- The next set address to allocate. -/
  nextSet : SetAddr
  /-- Each mapper. -/
  mappers : MapperAddr → ClusterSetResourceMapper
  /-- The next mapper address to allocate. -/
  nextMapper : MapperAddr

namespace Heap

/-- Nothing allocated. -/
def empty : Heap := ⟨fun _ => ∅, 0, fun _ => ⟨"", ∅⟩, 0⟩

/-- A new set with these members, at `nextSet`. -/
@[simps] def newSet (h : Heap) (s : Finset String) : Heap :=
  { h with sets := Function.update h.sets h.nextSet s, nextSet := h.nextSet + 1 }

/-- The set at `p` now has the members `s`. -/
@[simps] def writeSet (h : Heap) (p : SetAddr) (s : Finset String) : Heap :=
  { h with sets := Function.update h.sets p s }

/-- Mapper `m` now has the map `map`. -/
@[simps] def writeMap (h : Heap) (m : MapperAddr) (map : Finmap fun _ : String => SetAddr) :
    Heap :=
  { h with mappers := Function.update h.mappers m { h.mappers m with setToResources := map } }

/-- A new mapper at `nextMapper`. -/
@[simps] def newMapper (h : Heap) (mapper : ClusterSetResourceMapper) : Heap :=
  { h with
    mappers := Function.update h.mappers h.nextMapper mapper
    nextMapper := h.nextMapper + 1 }

@[simp] theorem writeMap_sets_eq (h : Heap) (m : MapperAddr)
    (map : Finmap fun _ : String => SetAddr) : (h.writeMap m map).sets = h.sets := rfl

@[simp] theorem newMapper_sets_eq (h : Heap) (mapper : ClusterSetResourceMapper) :
    (h.newMapper mapper).sets = h.sets := rfl

/-- The address of the set the key `k` of mapper `m` holds. -/
def addr (h : Heap) (m : MapperAddr) (k : String) : Option SetAddr :=
  (h.mappers m).setToResources.lookup k

/-- The members of the set the key `k` of mapper `m` holds. -/
def view (h : Heap) (m : MapperAddr) (k : String) : Option (Finset String) :=
  (h.addr m k).map h.sets

@[simp] theorem addr_newSet (h : Heap) (s : Finset String) (m : MapperAddr) (k : String) :
    (h.newSet s).addr m k = h.addr m k := rfl

@[simp] theorem addr_writeSet (h : Heap) (p : SetAddr) (s : Finset String) (m : MapperAddr)
    (k : String) : (h.writeSet p s).addr m k = h.addr m k := rfl

@[simp] theorem addr_writeMap (h : Heap) (m : MapperAddr) (map : Finmap fun _ : String => SetAddr)
    (m' : MapperAddr) (k : String) :
    (h.writeMap m map).addr m' k = if m' = m then map.lookup k else h.addr m' k := by
  by_cases hm : m' = m <;> simp [addr, hm]

@[simp] theorem addr_newMapper (h : Heap) (mapper : ClusterSetResourceMapper) (m : MapperAddr)
    (k : String) :
    (h.newMapper mapper).addr m k =
      if m = h.nextMapper then mapper.setToResources.lookup k else h.addr m k := by
  by_cases hm : m = h.nextMapper <;> simp [addr, hm]

@[simp] theorem resourceType_writeMap (h : Heap) (m : MapperAddr)
    (map : Finmap fun _ : String => SetAddr) (m' : MapperAddr) :
    ((h.writeMap m map).mappers m').resourceType = (h.mappers m').resourceType := by
  by_cases hm : m' = m <;> simp [hm]

theorem mem_setToResources_iff (h : Heap) (m : MapperAddr) (k : String) :
    k ∈ (h.mappers m).setToResources ↔ (h.view m k).isSome := by
  simp [view, addr, Finmap.lookup_isSome]

/-- Every set mapper `m` holds is allocated. -/
def Allocated (h : Heap) (m : MapperAddr) : Prop :=
  ∀ k p, h.addr m k = some p → p < h.nextSet

theorem view_writeMap (h : Heap) (m : MapperAddr) (map : Finmap fun _ : String => SetAddr)
    (m' : MapperAddr) (k : String) :
    (h.writeMap m map).view m' k = if m' = m then (map.lookup k).map h.sets else h.view m' k := by
  unfold view
  rw [addr_writeMap]
  split_ifs <;> rfl

theorem addr_writeMap_erase (h : Heap) (m : MapperAddr) (k : String) (m' : MapperAddr)
    (k' : String) :
    (h.writeMap m ((h.mappers m).setToResources.erase k)).addr m' k' =
      if m' = m ∧ k' = k then none else h.addr m' k' := by
  rw [addr_writeMap]
  by_cases hm : m' = m
  · subst hm
    by_cases hk : k' = k
    · subst hk; simp [Finmap.lookup_erase]
    · simp [hk, Finmap.lookup_erase_ne hk, addr]
  · simp [hm]

theorem addr_writeMap_insert (h : Heap) (m : MapperAddr) (k : String) (p : SetAddr)
    (m' : MapperAddr) (k' : String) :
    (h.writeMap m ((h.mappers m).setToResources.insert k p)).addr m' k' =
      if m' = m ∧ k' = k then some p else h.addr m' k' := by
  rw [addr_writeMap]
  by_cases hm : m' = m
  · subst hm
    by_cases hk : k' = k
    · subst hk; simp [Finmap.lookup_insert]
    · simp [hk, Finmap.lookup_insert_of_ne _ hk, addr]
  · simp [hm]

theorem view_writeMap_erase (h : Heap) (m : MapperAddr) (k : String) (m' : MapperAddr)
    (k' : String) :
    (h.writeMap m ((h.mappers m).setToResources.erase k)).view m' k' =
      if m' = m ∧ k' = k then none else h.view m' k' := by
  simp only [view, addr_writeMap_erase, writeMap_sets_eq]
  split_ifs <;> rfl

theorem view_writeMap_insert (h : Heap) (m : MapperAddr) (k : String) (p : SetAddr)
    (m' : MapperAddr) (k' : String) :
    (h.writeMap m ((h.mappers m).setToResources.insert k p)).view m' k' =
      if m' = m ∧ k' = k then some (h.sets p) else h.view m' k' := by
  simp only [view, addr_writeMap_insert, writeMap_sets_eq]
  split_ifs <;> rfl

/-- A new set is seen through no key that holds an allocated set. -/
theorem view_newSet (h : Heap) (s : Finset String) {m : MapperAddr} {k : String}
    (hk : ∀ p, h.addr m k = some p → p < h.nextSet) : (h.newSet s).view m k = h.view m k := by
  unfold view
  rw [addr_newSet]
  rcases hp : h.addr m k with _ | p
  · rfl
  · simp [Function.update_noteq (hk p hp).ne]

end Heap

/-! ## Loops over the keys -/

section Loops

variable {σ β : Type} (get : σ → String → Option β) (P : σ → Prop) (f : σ → String → σ)

/-- A loop over distinct keys whose body at `j` changes what `get` reads at `j`
alone, by `g`, and keeps `P`: afterwards `get` reads `g` of the old value at
each key of the loop, and the old value elsewhere. -/
theorem foldl_pointwise (g : String → Option β → Option β) (hP : ∀ s j, P s → P (f s j))
    (hf : ∀ s j k, P s → get (f s j) k = if k = j then g k (get s k) else get s k) :
    ∀ {ks : List String}, ks.Nodup → ∀ {s : σ}, P s → ∀ k,
      get (ks.foldl f s) k = if k ∈ ks then g k (get s k) else get s k := by
  intro ks
  induction ks with
  | nil => simp
  | cons j ks ih =>
    intro hks s hs k
    rw [List.nodup_cons] at hks
    rw [List.foldl_cons, ih hks.2 (hP s j hs), hf s j k hs]
    by_cases hk : k = j
    · subst hk; simp [hks.1]
    · simp [hk]

theorem foldl_invariant (hP : ∀ s j, P s → P (f s j)) :
    ∀ (ks : List String) {s : σ}, P s → P (ks.foldl f s) := by
  intro ks
  induction ks with
  | nil => exact id
  | cons j ks ih => exact fun hs => ih (hP _ j hs)

end Loops

/-! ## The methods -/

/-- `NewClusterSetResourceMapper`: a new mapper with an empty map. -/
def newClusterSetResourceMapper (h : Heap) (resourceType : ResourceType) : Heap × MapperAddr :=
  (h.newMapper ⟨resourceType, ∅⟩, h.nextMapper)

namespace ClusterSetResourceMapper

/-- `UpdateClusterSetResources`.  The map holds the caller's set itself, not a
copy of it. -/
def updateClusterSetResources (h : Heap) (m : MapperAddr) (clusterSetName : String)
    (resources : SetAddr) : Heap :=
  if clusterSetName = "" then h
  else if h.sets resources = ∅ then
    h.writeMap m ((h.mappers m).setToResources.erase clusterSetName)
  else h.writeMap m ((h.mappers m).setToResources.insert clusterSetName resources)

/-- `m.setToResources[clusterSetName].Insert(resourceName)`, after
`m.setToResources[clusterSetName] = sets.New[string]()` when the key is
missing: the end of `AddResourceToClusterSet` and of
`MoveResourceToClusterSet`. -/
def insertResource (h : Heap) (m : MapperAddr) (resourceName clusterSetName : String) : Heap :=
  match h.addr m clusterSetName with
  | some resources => h.writeSet resources (insert resourceName (h.sets resources))
  | none => (h.newSet {resourceName}).writeMap m
      ((h.mappers m).setToResources.insert clusterSetName h.nextSet)

/-- `AddResourceToClusterSet`. -/
def addResourceToClusterSet (h : Heap) (m : MapperAddr) (resourceName clusterSetName : String) :
    Heap :=
  if resourceName = "" ∨ clusterSetName = "" then h
  else insertResource h m resourceName clusterSetName

/-- The body of the loops of `RemoveResourceFromAllClusterSets` and
`MoveResourceToClusterSet` at one key: `resources.Delete(resourceName)`, and
`delete(m.setToResources, clusterSetName)` once the set is empty.  A key
deleted before the loop reaches it is skipped. -/
def deleteResource (m : MapperAddr) (resourceName : String) (h : Heap) (clusterSetName : String) :
    Heap :=
  match h.addr m clusterSetName with
  | none => h
  | some resources =>
    if resourceName ∈ h.sets resources then
      let h' := h.writeSet resources ((h.sets resources).erase resourceName)
      if h'.sets resources = ∅ then
        h'.writeMap m ((h'.mappers m).setToResources.erase clusterSetName)
      else h'
    else h

/-- `GetResourcesInClusterSet`: the members of the key's set, or none. -/
def getResourcesInClusterSet (h : Heap) (m : MapperAddr) (clusterSetName : String) :
    Finset String :=
  match h.addr m clusterSetName with
  | some resources => h.sets resources
  | none => ∅

theorem getResourcesInClusterSet_eq (h : Heap) (m : MapperAddr) (k : String) :
    getResourcesInClusterSet h m k = (h.view m k).getD ∅ := by
  unfold getResourcesInClusterSet Heap.view
  rcases h.addr m k with _ | p <;> rfl

/-- `RemoveClusterSet`. -/
def removeClusterSet (h : Heap) (m : MapperAddr) (clusterSetName : String) : Heap :=
  if clusterSetName = "" then h
  else h.writeMap m ((h.mappers m).setToResources.erase clusterSetName)

section Ranges

variable (order : RangeOrder)

/-- `RemoveResourceFromAllClusterSets`. -/
def removeResourceFromAllClusterSets (h : Heap) (m : MapperAddr) (resourceName : String) : Heap :=
  if resourceName = "" then h
  else (order.toList (h.mappers m).setToResources.keys).foldl (deleteResource m resourceName) h

/-- `MoveResourceToClusterSet`: the loop skips `newClusterSetName`. -/
def moveResourceToClusterSet (h : Heap) (m : MapperAddr) (resourceName newClusterSetName : String) :
    Heap :=
  if resourceName = "" ∨ newClusterSetName = "" then h
  else
    insertResource
      (((order.toList (h.mappers m).setToResources.keys).filter (· ≠ newClusterSetName)).foldl
        (deleteResource m resourceName) h)
      m resourceName newClusterSetName

/-- `GetClusterSetForResource`: the first key in range order whose set has the
resource, or `""`. -/
def getClusterSetForResource (h : Heap) (m : MapperAddr) (resourceName : String) : String :=
  ((order.toList (h.mappers m).setToResources.keys).find?
    fun clusterSetName => resourceName ∈ getResourcesInClusterSet h m clusterSetName).getD ""

/-- `result[clusterSetName] = resources.Clone()` in `GetAllMappings`.  The clone
is a value: nothing else holds it until a caller stores it. -/
def cloneEntry (h : Heap) (m : MapperAddr) (result : Finmap fun _ : String => Finset String)
    (clusterSetName : String) : Finmap fun _ : String => Finset String :=
  match h.view m clusterSetName with
  | some resources => result.insert clusterSetName resources
  | none => result

/-- `GetAllMappings`. -/
def getAllMappings (h : Heap) (m : MapperAddr) : Finmap fun _ : String => Finset String :=
  (order.toList (h.mappers m).setToResources.keys).foldl (cloneEntry h m) ∅

theorem lookup_cloneEntry (h : Heap) (m : MapperAddr)
    (acc : Finmap fun _ : String => Finset String) (j k : String) :
    (cloneEntry h m acc j).lookup k =
      if k = j then (h.view m k).or (acc.lookup k) else acc.lookup k := by
  unfold cloneEntry
  by_cases hk : k = j
  · subst hk; rcases h.view m k with _ | S <;> simp
  · rcases h.view m j with _ | S <;> simp [hk, Finmap.lookup_insert_of_ne _ hk]

/-- The map `GetAllMappings` returns has, at each key, the members of the set
the key holds, whatever the range order. -/
theorem lookup_getAllMappings (h : Heap) (m : MapperAddr) (k : String) :
    (getAllMappings order h m).lookup k = h.view m k := by
  refine (foldl_pointwise (fun acc k => Finmap.lookup k acc) (fun _ => True) (cloneEntry h m)
    (fun k o => (h.view m k).or o) (fun _ _ _ => trivial)
    (fun acc j k _ => lookup_cloneEntry h m acc j k) (order.nodup _) trivial k).trans ?_
  simp only [order.mem, Finmap.mem_keys, Heap.mem_setToResources_iff, Finmap.lookup_empty]
  rcases h.view m k with _ | S <;> simp

/-- `len(GetAllMappings()) == 0` exactly when the map has no key. -/
theorem getAllMappings_eq_empty_iff (h : Heap) (m : MapperAddr) :
    getAllMappings order h m = ∅ ↔ (h.mappers m).setToResources = ∅ := by
  constructor
  · intro he
    refine Finmap.ext_lookup fun k => ?_
    have := lookup_getAllMappings order h m k
    rw [he, Finmap.lookup_empty, Heap.view, Heap.addr, eq_comm, Option.map_eq_none'] at this
    rw [this, Finmap.lookup_empty]
  · intro he
    refine Finmap.ext_lookup fun k => ?_
    rw [lookup_getAllMappings, Heap.view, Heap.addr, he]
    rfl

/-- `merged.UpdateClusterSetResources(clusterSetName, resources)` in `Merge`,
where `resources` is a new set: a clone from `GetAllMappings`, or a `Union`. -/
def updateWithNew (h : Heap) (m : MapperAddr) (clusterSetName : String)
    (resources : Finset String) : Heap :=
  updateClusterSetResources (h.newSet resources) m clusterSetName h.nextSet

/-- The first loop of `Merge`, at a key of `currentMappings`. -/
def mergeCurrent (currentMappings otherMappings : Finmap fun _ : String => Finset String)
    (merged : MapperAddr) (h : Heap) (clusterSetName : String) : Heap :=
  match currentMappings.lookup clusterSetName, otherMappings.lookup clusterSetName with
  | some resources, some otherResources =>
    updateWithNew h merged clusterSetName (resources ∪ otherResources)
  | some resources, none => updateWithNew h merged clusterSetName resources
  | none, _ => h

/-- The second loop of `Merge`, at a key of `otherMappings`. -/
def mergeOther (currentMappings otherMappings : Finmap fun _ : String => Finset String)
    (merged : MapperAddr) (h : Heap) (clusterSetName : String) : Heap :=
  match otherMappings.lookup clusterSetName with
  | some resources =>
    if clusterSetName ∈ currentMappings then h else updateWithNew h merged clusterSetName resources
  | none => h

/-- `Merge`, with the address of the mapper it returns: `m` itself, `other`
itself, or a new mapper. -/
def merge (h : Heap) (m other : MapperAddr) : Heap × MapperAddr :=
  if (h.mappers m).resourceType ≠ (h.mappers other).resourceType then (h, m)
  else
    let currentMappings := getAllMappings order h m
    let otherMappings := getAllMappings order h other
    if currentMappings = ∅ then (h, other)
    else if otherMappings = ∅ then (h, m)
    else
      let new := newClusterSetResourceMapper h (h.mappers m).resourceType
      let h₂ := (order.toList currentMappings.keys).foldl
        (mergeCurrent currentMappings otherMappings new.2) new.1
      ((order.toList otherMappings.keys).foldl (mergeOther currentMappings otherMappings new.2) h₂,
        new.2)

/-- `m.setToResources[clusterSetName] = resources.Clone()` in `CopyFrom`. -/
def copyEntry (sourceMappings : Finmap fun _ : String => Finset String) (m : MapperAddr) (h : Heap)
    (clusterSetName : String) : Heap :=
  match sourceMappings.lookup clusterSetName with
  | some resources =>
    (h.newSet resources).writeMap m ((h.mappers m).setToResources.insert clusterSetName h.nextSet)
  | none => h

theorem view_copyEntry (sourceMappings : Finmap fun _ : String => Finset String) {m : MapperAddr}
    {h : Heap} (hal : h.Allocated m) (j k : String) :
    (copyEntry sourceMappings m h j).view m k =
      if k = j then (sourceMappings.lookup k).or (h.view m k) else h.view m k := by
  unfold copyEntry
  by_cases hk : k = j
  · subst hk
    rcases sourceMappings.lookup k with _ | S <;> simp [Heap.view_writeMap]
  · rcases sourceMappings.lookup j with _ | S
    · simp [hk]
    · rw [Heap.view_writeMap, if_pos rfl, Finmap.lookup_insert_of_ne _ hk, if_neg hk]
      exact Heap.view_newSet h S (hal k)

theorem allocated_copyEntry (sourceMappings : Finmap fun _ : String => Finset String)
    {m m' : MapperAddr} {h : Heap} (hal : h.Allocated m') (j : String) :
    (copyEntry sourceMappings m h j).Allocated m' := by
  unfold copyEntry
  rcases sourceMappings.lookup j with _ | S
  · exact hal
  · intro k p hp
    have hp' : (if m' = m ∧ k = j then some h.nextSet else h.addr m' k) = some p :=
      (Heap.addr_writeMap_insert (h.newSet S) m j h.nextSet m' k).symm.trans hp
    show p < h.nextSet + 1
    split_ifs at hp' with hmk
    · cases hp'
      exact Nat.lt_succ_self _
    · exact Nat.lt_succ_of_lt (hal k p hp')

/-- `CopyFrom`, with both of its locks granted: `m`'s map is replaced by an
empty one, then `source.GetAllMappings()` is read and each set cloned into it.
`MapperLock` shows that the locks are granted when `source` is another mapper,
and never when it is `m`. -/
def copyFrom (h : Heap) (m source : MapperAddr) : Heap :=
  if (h.mappers m).resourceType ≠ (h.mappers source).resourceType then h
  else
    let h₁ := h.writeMap m ∅
    let sourceMappings := getAllMappings order h₁ source
    (order.toList sourceMappings.keys).foldl (copyEntry sourceMappings m) h₁

/-- Copying from another mapper of the same type leaves `m` with the sets
`source` had. -/
theorem view_copyFrom {h : Heap} {m source : MapperAddr} (hne : m ≠ source)
    (htype : (h.mappers m).resourceType = (h.mappers source).resourceType) (k : String) :
    (copyFrom order h m source).view m k = h.view source k := by
  have hal : (h.writeMap m ∅).Allocated m := by
    intro k p hp
    simp [Finmap.lookup_empty] at hp
  rw [copyFrom, if_neg (not_not.mpr htype)]
  refine (foldl_pointwise (fun h k => h.view m k) (fun h => h.Allocated m) (copyEntry _ m)
    (fun k o => (Finmap.lookup k _).or o) (fun _ j hal => allocated_copyEntry _ hal j)
    (fun _ j k hal => view_copyEntry _ hal j k) (order.nodup _) hal k).trans ?_
  simp only [order.mem, Finmap.mem_keys, Heap.view_writeMap, if_pos rfl, Finmap.lookup_empty,
    Option.map_none', Option.or_none, lookup_getAllMappings, if_neg (Ne.symm hne)]
  split_ifs with hk
  · simp
  · rw [← Finmap.lookup_eq_none, lookup_getAllMappings, Heap.view_writeMap,
      if_neg (Ne.symm hne)] at hk
    exact hk.symm

end Ranges

end ClusterSetResourceMapper

/-! ## `ClusterSetMappingManager` -/

/-- A `ClusterSetMappingManager`: the addresses of its two mappers, which
`GetClusterMapper` and `GetNamespaceMapper` return. -/
structure ClusterSetMappingManager where
  /-- `clusterMapper`. -/
  clusterMapper : MapperAddr
  /-- `namespaceMapper`. -/
  namespaceMapper : MapperAddr

/-- `NewClusterSetMappingManager`: a new cluster mapper, then a new namespace
mapper. -/
def newClusterSetMappingManager (h : Heap) : Heap × ClusterSetMappingManager :=
  let cluster := newClusterSetResourceMapper h resourceTypeCluster
  let namespaceMapper := newClusterSetResourceMapper cluster.1 resourceTypeNamespace
  (namespaceMapper.1, ⟨cluster.2, namespaceMapper.2⟩)

/-- `GetMapperForResourceType`, with `none` for `nil`. -/
def ClusterSetMappingManager.getMapperForResourceType (mgr : ClusterSetMappingManager)
    (resourceType : ResourceType) : Option MapperAddr :=
  if resourceType = resourceTypeCluster then some mgr.clusterMapper
  else if resourceType = resourceTypeNamespace then some mgr.namespaceMapper
  else none

/-! ## One set under two keys -/

open ClusterSetResourceMapper

/-- A new cluster mapper, at address 0, whose keys `a` and `b` hold one set of
the caller, at address 0, with the members `members`:
`UpdateClusterSetResources("a", s)`, then `UpdateClusterSetResources("b", s)`. -/
def oneSetTwoKeys (members : Finset String) : Heap :=
  updateClusterSetResources
    (updateClusterSetResources
      ((newClusterSetResourceMapper Heap.empty resourceTypeCluster).1.newSet members) 0 "a" 0)
    0 "b" 0

/-- `RemoveResourceFromAllClusterSets("x")` on `oneSetTwoKeys {"x"}`. -/
def emptiedKey : Heap :=
  removeResourceFromAllClusterSets RangeOrder.sorted (oneSetTwoKeys {"x"}) 0 "x"

theorem sorted_toList_a_b : RangeOrder.sorted.toList {"a", "b"} = ["a", "b"] := by
  simp only [RangeOrder.sorted]
  rw [Finset.sort_insert]
  · simp
  · simp; decide
  · decide

/-- The loop empties the shared set at `a` and deletes `a`.  At `b` the set no
longer has `x`, so `b` stays, with the empty set: `GetAllMappings` reports it,
and `GetResourcesInClusterSet("b")` is empty while `b` is a key. -/
theorem removeResourceFromAllClusterSets_leaves_empty_set :
    (getAllMappings RangeOrder.sorted emptiedKey 0).lookup "b" = some ∅ ∧
      getResourcesInClusterSet emptiedKey 0 "b" = ∅ ∧
      "b" ∈ (emptiedKey.mappers 0).setToResources := by
  have hk : ((oneSetTwoKeys {"x"}).mappers 0).setToResources.keys = {"a", "b"} := by decide
  simp only [lookup_getAllMappings, getResourcesInClusterSet_eq, Heap.mem_setToResources_iff,
    emptiedKey, removeResourceFromAllClusterSets, hk, sorted_toList_a_b]
  decide

/-- Moving `r` to `b` deletes it from the shared set at `a`, which keeps `x`,
and inserts it into `b`'s set, which is the same set: `r` is in `a` again, and
`GetClusterSetForResource("r")` answers `a`. -/
theorem moveResourceToClusterSet_shared_set :
    "r" ∈ getResourcesInClusterSet
        (moveResourceToClusterSet RangeOrder.sorted (oneSetTwoKeys {"r", "x"}) 0 "r" "b") 0 "a" ∧
      getClusterSetForResource RangeOrder.sorted
        (moveResourceToClusterSet RangeOrder.sorted (oneSetTwoKeys {"r", "x"}) 0 "r" "b") 0 "r" =
        "a" := by
  have hk : ((oneSetTwoKeys {"r", "x"}).mappers 0).setToResources.keys = {"a", "b"} := by decide
  have hk' : ((moveResourceToClusterSet RangeOrder.sorted (oneSetTwoKeys {"r", "x"}) 0 "r"
      "b").mappers 0).setToResources.keys = {"a", "b"} := by
    simp only [moveResourceToClusterSet, hk, sorted_toList_a_b]
    decide
  simp only [getClusterSetForResource, hk']
  simp only [moveResourceToClusterSet, hk, sorted_toList_a_b]
  decide

/-- `emptiedKey.Merge(emptiedKey)`: both mappings are `{b: {}}`, not empty, so
a new mapper is built, and `UpdateClusterSetResources("b", {})` writes nothing
into it.  The result is empty, not the key-wise union `{b: {}}`. -/
theorem merge_self_drops_empty_set :
    (getAllMappings RangeOrder.sorted emptiedKey 0).lookup "b" = some ∅ ∧
      getAllMappings RangeOrder.sorted (merge RangeOrder.sorted emptiedKey 0 0).1
        (merge RangeOrder.sorted emptiedKey 0 0).2 = ∅ := by
  have hkeys : ((oneSetTwoKeys {"x"}).mappers 0).setToResources.keys = {"a", "b"} := by decide
  have hE : emptiedKey = ["a", "b"].foldl (deleteResource 0 "x") (oneSetTwoKeys {"x"}) := by
    simp only [emptiedKey, removeResourceFromAllClusterSets, hkeys, sorted_toList_a_b]
    rfl
  have hkeysE : (emptiedKey.mappers 0).setToResources.keys = {"b"} := by rw [hE]; decide
  have hA : getAllMappings RangeOrder.sorted emptiedKey 0 = Finmap.singleton "b" ∅ := by
    simp only [getAllMappings, hkeysE, RangeOrder.sorted, Finset.sort_singleton]
    rw [hE]
    decide
  refine ⟨by rw [hA]; rfl, ?_⟩
  rw [getAllMappings_eq_empty_iff]
  simp only [merge, hA]
  simp only [Finmap.keys_singleton, RangeOrder.sorted, Finset.sort_singleton]
  rw [hE]
  decide

end ClusterSetCache
