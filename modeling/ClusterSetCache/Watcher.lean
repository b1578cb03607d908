import ClusterSetCache.Objects

/-!
# The permission-aware watch: `GroupMembershipChanged`

A `ModernCacheWatcher` belongs to one user with its groups.  It keeps
`knownResources` (a `sync.Map` from name to resource version) and queues events
on `internalEvents`.  A notification is three sets: names, users and groups.
The watcher ignores it unless its user is in `users` or one of its groups is in
`groups`.  Otherwise it makes two passes.

* `handleResourceDeletions`: for every known name not in `names`, in `Range`
  order, delete it and queue `DELETED` with `ConvertResource(name)`.
* `handleResourceUpdates`: for every name in `names`, in sorted order, fetch
  it (a failed fetch is skipped), and unless the known version is the fetched
  one, record the fetched version and queue `ADDED` (for an unknown name) or
  `MODIFIED`.

Every send is a `select` between the queue, `time.After(eventTimeout)` and
`ctx.Done()`, so its outcome is a choice (`SendOutcome`).  The model takes the
choices as an argument `fate`: the outcome it gives each event.  The events of
one call are distinct, so this covers every run.  A timeout calls
`handleEventTimeout` and stops the pass, and so does a cancelled context.  The
other pass still runs.

The run lemmas assume every send is delivered (`allDelivered`).  The deletion
pass then removes the known names outside `names` and queues one `DELETED`
each.  The update pass records the fetched version of every fetchable name and
queues one event per name whose version changed (`updateEvent`).  Since the
names are sorted, each is visited once, and a name's entry is not touched
before its own visit (`handleResourceUpdates_eq`).
-/

namespace ClusterSetCache

/-! ## Events -/

/-- `watch.EventType`. -/
inductive EventType
  | added
  | modified
  | deleted
  | error
deriving DecidableEq

/-- The object of an event: a cluster set, or the `metav1.Status` of an
`ERROR`. -/
inductive EventObject
  | clusterSet (cs : ManagedClusterSet)
  | status (message : String)
deriving DecidableEq

/-- `watch.Event`. -/
structure Event where
  /-- `Type`. -/
  type : EventType
  /-- `Object`. -/
  object : EventObject
deriving DecidableEq

/-- How one bounded send on `internalEvents` ended. -/
inductive SendOutcome
  /-- `w.internalEvents <- event`. -/
  | delivered
  /-- `<-time.After(w.eventTimeout)`. -/
  | timedOut
  /-- `<-w.ctx.Done()`. -/
  | cancelled
deriving DecidableEq

/-- Every send goes through: no timeout, context live. -/
def allDelivered : Event → SendOutcome := fun _ => .delivered

/-- The three sets a watcher is notified with. -/
structure Notification where
  /-- `names`. -/
  names : Finset String
  /-- `users`. -/
  users : Finset String
  /-- `groups`. -/
  groups : Finset String

/-! ## The watcher -/

/-- The state of a `ModernCacheWatcher` that `GroupMembershipChanged` reads
and writes. -/
structure ModernCacheWatcher where
  /-- `user`. -/
  user : UserInfo
  /-- `knownResources`: name to resource version. -/
  knownResources : Finmap fun _ : String => String
  /-- The events queued on `internalEvents`, oldest first. -/
  internalEvents : List Event
  /-- The buffered `errors` channel, of capacity one. -/
  errors : Option String
  /-- How many times `handleEventTimeout` has called `authCache.RemoveWatcher`. -/
  removeWatcherCalls : Nat

namespace ModernCacheWatcher

/-- `knownResources.Delete(name)`. -/
def forget (w : ModernCacheWatcher) (name : String) : ModernCacheWatcher :=
  { w with knownResources := w.knownResources.erase name }

/-- `knownResources.Store(name, resourceVersion)`. -/
def remember (w : ModernCacheWatcher) (name resourceVersion : String) : ModernCacheWatcher :=
  { w with knownResources := w.knownResources.insert name resourceVersion }

/-- A delivered send. -/
def enqueue (w : ModernCacheWatcher) (event : Event) : ModernCacheWatcher :=
  { w with internalEvents := w.internalEvents ++ [event] }

/-- `handleEventTimeout`: `RemoveWatcher`, then the error if the channel has
room. -/
def handleEventTimeout (w : ModernCacheWatcher) : ModernCacheWatcher :=
  { w with
    removeWatcherCalls := w.removeWatcherCalls + 1
    errors := w.errors.orElse fun _ => some "event notification timeout" }

/-- One bounded send: the new state, and whether the pass goes on. -/
def send (fate : Event → SendOutcome) (event : Event) (w : ModernCacheWatcher) :
    ModernCacheWatcher × Bool :=
  match fate event with
  | .delivered => (w.enqueue event, true)
  | .timedOut => (w.handleEventTimeout, false)
  | .cancelled => (w, false)

@[simp] theorem send_allDelivered (event : Event) (w : ModernCacheWatcher) :
    send allDelivered event w = (w.enqueue event, true) := rfl

@[simp] theorem forget_user (w : ModernCacheWatcher) (n : String) : (w.forget n).user = w.user :=
  rfl

@[simp] theorem forget_internalEvents (w : ModernCacheWatcher) (n : String) :
    (w.forget n).internalEvents = w.internalEvents := rfl

@[simp] theorem forget_knownResources (w : ModernCacheWatcher) (n : String) :
    (w.forget n).knownResources = w.knownResources.erase n := rfl

@[simp] theorem remember_user (w : ModernCacheWatcher) (n v : String) :
    (w.remember n v).user = w.user := rfl

@[simp] theorem remember_internalEvents (w : ModernCacheWatcher) (n v : String) :
    (w.remember n v).internalEvents = w.internalEvents := rfl

@[simp] theorem remember_knownResources (w : ModernCacheWatcher) (n v : String) :
    (w.remember n v).knownResources = w.knownResources.insert n v := rfl

@[simp] theorem enqueue_user (w : ModernCacheWatcher) (e : Event) :
    (w.enqueue e).user = w.user := rfl

@[simp] theorem enqueue_internalEvents (w : ModernCacheWatcher) (e : Event) :
    (w.enqueue e).internalEvents = w.internalEvents ++ [e] := rfl

@[simp] theorem enqueue_knownResources (w : ModernCacheWatcher) (e : Event) :
    (w.enqueue e).knownResources = w.knownResources := rfl

end ModernCacheWatcher

open ModernCacheWatcher

/-! ## The two passes -/

/-- `ConvertResource(name)` of both caches: the stored set, or a placeholder
carrying only the name. -/
def convertResource (S : ClusterSetStore) (name : String) : ManagedClusterSet :=
  match S.get name with
  | .ok clusterSet => clusterSet
  | .error _ => ⟨name, ∅, ""⟩

theorem convertResource_name (S : ClusterSetStore) (name : String) :
    (convertResource S name).name = name := by
  unfold convertResource
  split
  · next h => exact (ClusterSetStore.get_eq_ok h).2
  · rfl

/-- The event `handleResourceDeletions` queues for a name. -/
def deleteEvent (S : ClusterSetStore) (name : String) : Event :=
  ⟨.deleted, .clusterSet (convertResource S name)⟩

/-- `handleResourceDeletions`, over the known names in `Range` order. -/
def handleResourceDeletions (S : ClusterSetStore) (fate : Event → SendOutcome)
    (accessibleNames : Finset String) : List String → ModernCacheWatcher → ModernCacheWatcher
  | [], w => w
  | name :: rest, w =>
    if name ∈ accessibleNames then handleResourceDeletions S fate accessibleNames rest w
    else
      match send fate (deleteEvent S name) (w.forget name) with
      | (w', true) => handleResourceDeletions S fate accessibleNames rest w'
      | (w', false) => w'

/-- `handleResourceUpdates`, over `accessibleNames.List()`. -/
def handleResourceUpdates (S : ClusterSetStore) (fate : Event → SendOutcome) :
    List String → ModernCacheWatcher → ModernCacheWatcher
  | [], w => w
  | name :: rest, w =>
    match S.get name with
    | .error _ => handleResourceUpdates S fate rest w
    | .ok object =>
      if w.knownResources.lookup name = some object.resourceVersion then
        handleResourceUpdates S fate rest w
      else
        let eventType : EventType :=
          if (w.knownResources.lookup name).isSome then .modified else .added
        match send fate ⟨eventType, .clusterSet object⟩
            (w.remember name object.resourceVersion) with
        | (w', true) => handleResourceUpdates S fate rest w'
        | (w', false) => w'

/-- Whether the watcher's subject takes part in a notification: `hasAccess`. -/
def ModernCacheWatcher.hasAccess (w : ModernCacheWatcher) (n : Notification) : Prop :=
  w.user.name ∈ n.users ∨ ∃ g ∈ w.user.groups, g ∈ n.groups

instance (w : ModernCacheWatcher) (n : Notification) : Decidable (w.hasAccess n) :=
  inferInstanceAs (Decidable (_ ∨ _))

/-- `GroupMembershipChanged`. -/
def groupMembershipChanged (S : ClusterSetStore) (order : RangeOrder)
    (fate : Event → SendOutcome) (n : Notification) (w : ModernCacheWatcher) :
    ModernCacheWatcher :=
  if w.hasAccess n then
    handleResourceUpdates S fate (RangeOrder.sorted.toList n.names)
      (handleResourceDeletions S fate n.names (order.toList w.knownResources.keys) w)
  else w

/-! ## The passes when every send goes through -/

/-- Known versions after the deletion pass over `names`. -/
def forgetOutside (N : Finset String) (names : List String)
    (K : Finmap fun _ : String => String) : Finmap fun _ : String => String :=
  names.foldl (fun K n => if n ∈ N then K else K.erase n) K

theorem lookup_forgetOutside (N : Finset String) (m : String) :
    ∀ (names : List String) (K : Finmap fun _ : String => String),
      (forgetOutside N names K).lookup m = if m ∈ names ∧ m ∉ N then none else K.lookup m
  | [], K => by simp [forgetOutside]
  | n :: rest, K => by
    have ih := lookup_forgetOutside N m rest (if n ∈ N then K else K.erase n)
    simp only [forgetOutside, List.foldl_cons] at ih ⊢
    rw [ih]
    by_cases hm : m = n
    · subst hm; by_cases hN : m ∈ N <;> simp [hN, Finmap.lookup_erase]
    · by_cases hN : n ∈ N <;> simp [hN, hm, Finmap.lookup_erase_ne hm]

theorem handleResourceDeletions_allDelivered (S : ClusterSetStore) (N : Finset String) :
    ∀ (names : List String) (w : ModernCacheWatcher),
      handleResourceDeletions S allDelivered N names w =
        { w with
          knownResources := forgetOutside N names w.knownResources
          internalEvents :=
            w.internalEvents ++ (names.filter fun n => n ∉ N).map (deleteEvent S) }
  | [], w => by simp [handleResourceDeletions, forgetOutside]
  | n :: rest, w => by
    by_cases hn : n ∈ N
    · simp [handleResourceDeletions, hn, handleResourceDeletions_allDelivered S N rest w,
        forgetOutside]
    · simp [handleResourceDeletions, hn, handleResourceDeletions_allDelivered S N rest,
        forgetOutside, ModernCacheWatcher.forget, ModernCacheWatcher.enqueue]

/-- The event `handleResourceUpdates` queues for a name, given the known
versions when it gets there. -/
def updateEvent (S : ClusterSetStore) (K : Finmap fun _ : String => String) (name : String) :
    Option Event :=
  match S.get name with
  | .error _ => none
  | .ok object =>
    if K.lookup name = some object.resourceVersion then none
    else some ⟨if (K.lookup name).isSome then .modified else .added, .clusterSet object⟩

/-- The version of a name once the update pass has visited it. -/
def updatedVersion (S : ClusterSetStore) (K : Finmap fun _ : String => String) (name : String) :
    Option String :=
  match S.get name with
  | .error _ => K.lookup name
  | .ok object => some object.resourceVersion

/-- Known versions after the update pass over `names`. -/
def recordFetched (S : ClusterSetStore) (names : List String)
    (K : Finmap fun _ : String => String) : Finmap fun _ : String => String :=
  names.foldl (fun K n =>
    match S.get n with
    | .error _ => K
    | .ok object => K.insert n object.resourceVersion) K

theorem updateEvent_congr (S : ClusterSetStore) {K K' : Finmap fun _ : String => String}
    {name : String} (h : K.lookup name = K'.lookup name) :
    updateEvent S K name = updateEvent S K' name := by
  simp [updateEvent, h]

theorem insert_eq_self_of_lookup {K : Finmap fun _ : String => String} {n v : String}
    (h : K.lookup n = some v) : K.insert n v = K :=
  Finmap.ext_lookup fun m => by
    by_cases hm : m = n
    · subst hm; rw [Finmap.lookup_insert, h]
    · rw [Finmap.lookup_insert_of_ne _ hm]

theorem lookup_recordFetched (S : ClusterSetStore) (m : String) :
    ∀ (names : List String) (K : Finmap fun _ : String => String),
      (recordFetched S names K).lookup m =
        if m ∈ names then updatedVersion S K m else K.lookup m
  | [], K => by simp [recordFetched]
  | n :: rest, K => by
    have ih := lookup_recordFetched S m rest
    simp only [recordFetched, List.foldl_cons] at ih ⊢
    rw [ih]
    cases hg : S.get n with
    | error e =>
      by_cases hm : m = n
      · subst hm; simp [updatedVersion, hg]
      · simp [hm]
    | ok object =>
      by_cases hm : m = n
      · subst hm; by_cases hr : m ∈ rest <;> simp [updatedVersion, hg, hr, Finmap.lookup_insert]
      · simp [hm, updatedVersion, Finmap.lookup_insert_of_ne _ hm]

theorem handleResourceUpdates_allDelivered (S : ClusterSetStore) :
    ∀ (names : List String) (w : ModernCacheWatcher), names.Nodup →
      handleResourceUpdates S allDelivered names w =
        { w with
          knownResources := recordFetched S names w.knownResources
          internalEvents :=
            w.internalEvents ++ names.filterMap (updateEvent S w.knownResources) }
  | [], w, _ => by simp [handleResourceUpdates, recordFetched]
  | n :: rest, w, hnd => by
    obtain ⟨hn, hrest⟩ := List.nodup_cons.mp hnd
    have hcongr : ∀ v, rest.filterMap (updateEvent S (w.knownResources.insert n v)) =
        rest.filterMap (updateEvent S w.knownResources) := fun v =>
      List.filterMap_congr fun m hm => updateEvent_congr S
        (Finmap.lookup_insert_of_ne _ (ne_of_mem_of_not_mem hm hn))
    cases hg : S.get n with
    | error e =>
      simp [handleResourceUpdates, hg, handleResourceUpdates_allDelivered S rest w hrest,
        recordFetched, updateEvent]
    | ok object =>
      by_cases hk : w.knownResources.lookup n = some object.resourceVersion
      · simp [handleResourceUpdates, hg, hk, handleResourceUpdates_allDelivered S rest w hrest,
          recordFetched, updateEvent, insert_eq_self_of_lookup hk]
      · simp [handleResourceUpdates, hg, hk, handleResourceUpdates_allDelivered S rest _ hrest,
          recordFetched, updateEvent, hcongr, ModernCacheWatcher.remember,
          ModernCacheWatcher.enqueue]

theorem updateEvent_eq_some {S : ClusterSetStore} {K : Finmap fun _ : String => String}
    {name : String} {e : Event} :
    updateEvent S K name = some e ↔
      (name ∉ K ∧ ∃ cs, S.get name = .ok cs ∧ e = ⟨.added, .clusterSet cs⟩) ∨
      (∃ cs v, K.lookup name = some v ∧ S.get name = .ok cs ∧ cs.resourceVersion ≠ v ∧
        e = ⟨.modified, .clusterSet cs⟩) := by
  unfold updateEvent
  cases hg : S.get name with
  | error err => simp
  | ok cs =>
    cases hk : K.lookup name with
    | none => simp [Finmap.lookup_eq_none.mp hk, eq_comm]
    | some v =>
      have hmem : name ∈ K := Finmap.mem_of_lookup_eq_some hk
      by_cases hv : v = cs.resourceVersion
      · simp [hv, hmem]
      · simp [hv, hmem, Ne.symm hv, eq_comm]

theorem updateEvent_object_name {S : ClusterSetStore} {K : Finmap fun _ : String => String}
    {name : String} {e : Event} (h : updateEvent S K name = some e) :
    ∃ cs, e.object = .clusterSet cs ∧ cs.name = name := by
  rcases updateEvent_eq_some.mp h with ⟨-, cs, hg, rfl⟩ | ⟨cs, v, -, hg, -, rfl⟩ <;>
    exact ⟨cs, rfl, (ClusterSetStore.get_eq_ok hg).2⟩

theorem deleteEvent_injective (S : ClusterSetStore) : Function.Injective (deleteEvent S) :=
  fun a b h => by
    have := congrArg (fun e : Event => match e.object with
      | .clusterSet cs => cs.name
      | .status m => m) h
    simpa [deleteEvent, convertResource_name] using this

/-- `GroupMembershipChanged` with every send delivered, for a subject that
takes part: the deletion pass then the update pass, each in closed form. -/
theorem groupMembershipChanged_of_hasAccess (S : ClusterSetStore) (order : RangeOrder)
    (n : Notification) {w : ModernCacheWatcher} (hacc : w.hasAccess n) :
    groupMembershipChanged S order allDelivered n w =
      { w with
        knownResources := recordFetched S (RangeOrder.sorted.toList n.names)
          (forgetOutside n.names (order.toList w.knownResources.keys) w.knownResources)
        internalEvents := w.internalEvents ++
          (((order.toList w.knownResources.keys).filter fun m => m ∉ n.names).map
              (deleteEvent S) ++
            (RangeOrder.sorted.toList n.names).filterMap (updateEvent S w.knownResources)) } := by
  have hups : (RangeOrder.sorted.toList n.names).filterMap (updateEvent S
        (forgetOutside n.names (order.toList w.knownResources.keys) w.knownResources)) =
      (RangeOrder.sorted.toList n.names).filterMap (updateEvent S w.knownResources) :=
    List.filterMap_congr fun m hm => updateEvent_congr S (by
      simp [lookup_forgetOutside, (RangeOrder.sorted.mem _ m).mp hm])
  simp only [groupMembershipChanged, hacc, if_true, handleResourceDeletions_allDelivered,
    handleResourceUpdates_allDelivered S _ _ (RangeOrder.sorted.nodup _), hups,
    List.append_assoc]

/-- The known versions after `GroupMembershipChanged` with every send delivered,
for a subject that takes part: the names of `names`, at their fetched
version, or at the known one where the fetch fails. -/
theorem lookup_groupMembershipChanged (S : ClusterSetStore) (order : RangeOrder)
    (n : Notification) {w : ModernCacheWatcher} (hacc : w.hasAccess n) (name : String) :
    (groupMembershipChanged S order allDelivered n w).knownResources.lookup name =
      if name ∈ n.names then updatedVersion S w.knownResources name else none := by
  rw [groupMembershipChanged_of_hasAccess S order n hacc]
  simp only [lookup_recordFetched, RangeOrder.sorted.mem]
  by_cases hm : name ∈ n.names
  · simp [hm, updatedVersion, lookup_forgetOutside]
  · simp only [hm, if_false, lookup_forgetOutside, order.mem, Finmap.mem_keys,
      not_false_eq_true, and_true]
    split_ifs with hk
    · rfl
    · exact Finmap.lookup_eq_none.mpr hk

/-- `GroupMembershipChanged` with every send delivered.  For a subject that
takes part it queues one `DELETED` for each known name outside `names`, one
`ADDED` for each name of `names` it did not know and can fetch, one `MODIFIED`
for each known name of `names` whose fetched version differs, and nothing else;
the known versions become those of the names in `names`, updated by every
fetch.  A notification the subject takes no part in changes nothing. -/
theorem groupMembershipChanged_allDelivered (S : ClusterSetStore) (order : RangeOrder)
    (n : Notification) (w : ModernCacheWatcher) :
    (w.hasAccess n →
      let w' := groupMembershipChanged S order allDelivered n w
      w'.user = w.user ∧ w'.errors = w.errors ∧
      w'.removeWatcherCalls = w.removeWatcherCalls ∧
      (∀ name, w'.knownResources.lookup name =
        if name ∈ n.names then
          match S.get name with
          | .error _ => w.knownResources.lookup name
          | .ok cs => some cs.resourceVersion
        else none) ∧
      ∃ queued, w'.internalEvents = w.internalEvents ++ queued ∧ queued.Nodup ∧
        ∀ e, e ∈ queued ↔
          (∃ name ∈ w.knownResources, name ∉ n.names ∧ e = deleteEvent S name) ∨
          (∃ name cs, name ∈ n.names ∧ name ∉ w.knownResources ∧ S.get name = .ok cs ∧
            e = ⟨.added, .clusterSet cs⟩) ∨
          (∃ name cs v, name ∈ n.names ∧ w.knownResources.lookup name = some v ∧
            S.get name = .ok cs ∧ cs.resourceVersion ≠ v ∧ e = ⟨.modified, .clusterSet cs⟩)) ∧
    (¬ w.hasAccess n → groupMembershipChanged S order allDelivered n w = w) := by
  refine ⟨fun hacc => ?_, fun hacc => by simp [groupMembershipChanged, hacc]⟩
  have hks : ∀ m, m ∈ order.toList w.knownResources.keys ↔ m ∈ w.knownResources :=
    fun m => (order.mem _ m).trans Finmap.mem_keys
  have hlookup := lookup_groupMembershipChanged S order n hacc
  rw [groupMembershipChanged_of_hasAccess S order n hacc] at hlookup ⊢
  refine ⟨rfl, rfl, rfl, hlookup, _, rfl, ?_, fun e => ?_⟩
  · refine List.Nodup.append (((order.nodup _).filter _).map (deleteEvent_injective S))
      ((RangeOrder.sorted.nodup _).filterMap fun a a' e ha ha' => ?_) ?_
    · obtain ⟨cs, he, hcs⟩ := updateEvent_object_name ha
      obtain ⟨cs', he', hcs'⟩ := updateEvent_object_name ha'
      rw [he] at he'
      cases he'
      exact hcs.symm.trans hcs'
    · intro e hd hu
      obtain ⟨a, -, rfl⟩ := List.mem_map.mp hd
      obtain ⟨b, -, hb⟩ := List.mem_filterMap.mp hu
      rcases updateEvent_eq_some.mp hb with ⟨-, cs, -, he⟩ | ⟨cs, v, -, -, -, he⟩ <;>
        simp [deleteEvent] at he
  · rw [List.mem_append, List.mem_map, List.mem_filterMap]
    simp only [List.mem_filter, hks, decide_eq_true_eq, RangeOrder.sorted.mem,
      updateEvent_eq_some]
    constructor
    · rintro (⟨name, ⟨hk, hn⟩, rfl⟩ | ⟨name, hn, (⟨hk, cs, hg, he⟩ | ⟨cs, v, hv, hg, hne, he⟩)⟩)
      · exact .inl ⟨name, hk, hn, rfl⟩
      · exact .inr (.inl ⟨name, cs, hn, hk, hg, he⟩)
      · exact .inr (.inr ⟨name, cs, v, hn, hv, hg, hne, he⟩)
    · rintro (⟨name, hk, hn, rfl⟩ | ⟨name, cs, hn, hk, hg, he⟩ |
        ⟨name, cs, v, hn, hv, hg, hne, he⟩)
      · exact .inl ⟨name, ⟨hk, hn⟩, rfl⟩
      · exact .inr ⟨name, hn, .inl ⟨hk, cs, hg, he⟩⟩
      · exact .inr ⟨name, hn, .inr ⟨cs, v, hv, hg, hne, he⟩⟩

/-- The watcher of `TestModernCacheWatcher_GroupMembershipChanged`: `test-user`
knows `resource1` at `v1` and `resource2` at `v2`. -/
def testWatcher : ModernCacheWatcher :=
  ⟨⟨"test-user", ["test-group"]⟩, (Finmap.singleton "resource2" "v2").insert "resource1" "v1",
    [], none, 0⟩

/-- The store of that test once `resource3` is added. -/
def testStore : ClusterSetStore :=
  ⟨[⟨"resource1", ∅, "v1"⟩, ⟨"resource2", ∅, "v2"⟩, ⟨"resource3", ∅, "v1"⟩], none, fun _ => none⟩

/-- The notification of that test. -/
def testNotification : Notification := ⟨{"resource1", "resource3"}, {"test-user"}, ∅⟩

theorem groupMembershipChanged_allDelivered_testNotification :
    let w' := groupMembershipChanged testStore RangeOrder.sorted allDelivered testNotification
      testWatcher
    w'.user = testWatcher.user ∧ w'.errors = testWatcher.errors ∧
    w'.removeWatcherCalls = testWatcher.removeWatcherCalls ∧
    (∀ name, w'.knownResources.lookup name =
      if name ∈ testNotification.names then
        match testStore.get name with
        | .error _ => testWatcher.knownResources.lookup name
        | .ok cs => some cs.resourceVersion
      else none) ∧
    ∃ queued, w'.internalEvents = testWatcher.internalEvents ++ queued ∧ queued.Nodup ∧
      ∀ e, e ∈ queued ↔
        (∃ name ∈ testWatcher.knownResources, name ∉ testNotification.names ∧
          e = deleteEvent testStore name) ∨
        (∃ name cs, name ∈ testNotification.names ∧ name ∉ testWatcher.knownResources ∧
          testStore.get name = .ok cs ∧ e = ⟨.added, .clusterSet cs⟩) ∨
        (∃ name cs v, name ∈ testNotification.names ∧
          testWatcher.knownResources.lookup name = some v ∧ testStore.get name = .ok cs ∧
          cs.resourceVersion ≠ v ∧ e = ⟨.modified, .clusterSet cs⟩) :=
  (groupMembershipChanged_allDelivered testStore RangeOrder.sorted testNotification
    testWatcher).1 (by decide)

end ClusterSetCache
