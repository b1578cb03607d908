import ClusterSetCache.Objects

/-!
# Subject maps

Both caches keep two maps of type `map[string]sets.String`, from a user or a
group to the names it may see.  They write them one way only:

```go
if m[name] == nil {
    m[name] = sets.NewString()
}
m[name] = m[name].Union(resourceNames)
```

which is `unionInto`.  What a key holds after some names are unioned into it
is `extend`: nothing changes for no names, and the key appears with the first
non-empty set.  `extend_extend` says two rounds are one round with the union,
which is what makes the rebuild a union over bindings.

`notifyWatchers` reads the maps once more, by a loop over all entries that
collects every key and every name (`allNames`).  The loop is `Finmap.foldl`,
whose order does not matter since union is commutative.
-/

namespace ClusterSetCache

/-- `map[string]sets.String`. -/
abbrev SubjectMap := Finmap fun _ : String => Finset String

namespace SubjectMap

/-! ## Writing a key -/

/-- `m[k] = m[k].Union(names)`, after `m[k] = sets.NewString()` for a new key. -/
def unionInto (m : SubjectMap) (k : String) (names : Finset String) : SubjectMap :=
  m.insert k ((m.lookup k).getD ∅ ∪ names)

/-- The entry of a key after `names` is unioned into it, where a union of no
names is not written at all. -/
def extend (o : Option (Finset String)) (names : Finset String) : Option (Finset String) :=
  if names = ∅ then o else some (o.getD ∅ ∪ names)

@[simp] theorem extend_empty (o : Option (Finset String)) : extend o ∅ = o := by
  simp [extend]

theorem extend_of_ne_empty (o : Option (Finset String)) {names : Finset String}
    (h : names ≠ ∅) : extend o names = some (o.getD ∅ ∪ names) := by
  simp [extend, h]

theorem extend_extend (o : Option (Finset String)) (X Y : Finset String) :
    extend (extend o X) Y = extend o (X ∪ Y) := by
  by_cases hX : X = ∅
  · simp [hX]
  by_cases hY : Y = ∅
  · simp [hY]
  have hXY : X ∪ Y ≠ ∅ := by simp [Finset.union_eq_empty, hX]
  simp [extend_of_ne_empty, hX, hY, hXY, Finset.union_assoc]

/-- Unioning in a subset of what is already there writes nothing new. -/
theorem extend_of_subset {X : Finset String} (names : Finset String)
    (h : names ⊆ X) : extend (extend none X) names = extend none X := by
  rw [extend_extend, Finset.union_eq_left.mpr h]

/-- A key holds `X` after a round exactly when `X` is the union and is not
empty. -/
theorem extend_none_eq_some {X Y : Finset String} :
    extend none X = some Y ↔ X ≠ ∅ ∧ Y = X := by
  by_cases hX : X = ∅ <;> simp [extend, hX, eq_comm]

theorem mem_getD_extend_none {X : Finset String} {n : String} :
    n ∈ (extend none X).getD ∅ ↔ n ∈ X := by
  by_cases hX : X = ∅ <;> simp [extend, hX]

theorem lookup_unionInto (m : SubjectMap) (k k' : String) (names : Finset String) :
    (m.unionInto k names).lookup k' =
      if k' = k then some ((m.lookup k).getD ∅ ∪ names) else m.lookup k' := by
  by_cases h : k' = k
  · subst h; simp [unionInto, Finmap.lookup_insert]
  · simp [unionInto, Finmap.lookup_insert_of_ne _ h, h]

/-! ## Reading every entry -/

/-- The union of every set of the map: the `names` loop of `notifyWatchers`. -/
def allNames (m : SubjectMap) : Finset String :=
  m.foldl (fun acc _ v => acc ∪ v)
    (fun _ _ _ _ _ => Finset.union_right_comm _ _ _) ∅

theorem mem_foldl_union (n : String) :
    ∀ (l : List (Sigma fun _ : String => Finset String)) (acc : Finset String),
      n ∈ l.foldl (fun d e => d ∪ e.2) acc ↔ n ∈ acc ∨ ∃ e ∈ l, n ∈ e.2
  | [], acc => by simp
  | e :: l, acc => by
    rw [List.foldl_cons, mem_foldl_union n l]
    simp only [Finset.mem_union, List.mem_cons, exists_eq_or_imp]
    tauto

theorem mem_allNames {m : SubjectMap} {n : String} :
    n ∈ allNames m ↔ ∃ k X, m.lookup k = some X ∧ n ∈ X := by
  induction m using Finmap.induction_on with
  | H s =>
    simp only [allNames, Finmap.foldl, AList.toFinmap_entries, Multiset.coe_foldl,
      mem_foldl_union, Finset.not_mem_empty, false_or, Finmap.lookup_eq_some_iff]
    constructor
    · rintro ⟨⟨k, X⟩, he, hn⟩
      exact ⟨k, X, he, hn⟩
    · rintro ⟨k, X, he, hn⟩
      exact ⟨⟨k, X⟩, he, hn⟩

end SubjectMap

end ClusterSetCache
