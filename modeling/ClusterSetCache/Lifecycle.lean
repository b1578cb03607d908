import Mathlib.Logic.Relation
import ClusterSetCache.Notify

/-!
# The life of a watch: `Start`, `Stop` and `run`

`Start` and `Stop` take the watcher's `mu`, so each is one step.  `Start`
returns at once if `started` is set; otherwise it sets it and launches
`go w.run()`.  `Stop` returns at once if `started` is clear; otherwise it
cancels the context and clears `started`.  Nothing else writes `started`.  So
`Stop` before the first `Start` changes nothing, and a `Start` after a `Stop`
launches `run` again.

`run` first emits `initialResources` (`emitInitialResources`).  Before each one
it checks, without blocking, for an error or a cancelled context, and either
returns from the burst, after emitting the error, or emits the resource.  Then
the main loop takes an error (emit it, return from `run`), an internal event
(emit it), or the cancelled context (return).  `defaultEmit` sends on
`resultChan` unless the context is done; Go's `select` may take either ready
case, so a cancelled context does not stop an emission.  Other goroutines write
`internalEvents` and `errors` only through `GroupMembershipChanged`.

`run` returns through its deferred calls, the last of which closes
`resultChan`.  Closing a closed channel panics, and so does a send on one; the
deferred `HandleCrash` has run by then, so the panic ends the process.  The
process is `Except String WatchState`: `.error msg` is the panic, and no step
leaves it.  `WatchStep` interleaves `Start`, `Stop`, `GroupMembershipChanged`
and the launched runs, each with its own program counter (`RunPc`).

* `valid_run`: in every state a watch reaches without a panic, `resultChan` is
  closed iff a launched run has returned, at most one has, and while the
  context is live `run` has been launched once if the watcher is started, else
  never.
* `start_stop_start_panics`: on every watcher, `Start`, `Stop` and `Start`
  again can end in the panic `close of closed channel`, once both launched
  runs have returned.
* `burst_error_then_event`: an error taken during the burst ends only
  `emitInitialResources`; the main loop goes on and emits the next internal
  event after the `ERROR`.
-/

namespace ClusterSetCache

/-! ## The watch -/

/-- `makeModernErrorEvent`: an `ERROR` whose status carries the error's text. -/
def makeModernErrorEvent (err : String) : Event := ⟨.error, .status err⟩

/-- Where a goroutine running `run` is. -/
inductive RunPc
  /-- In `emitInitialResources`, with these resources left. -/
  | burst (resources : List ManagedClusterSet)
  /-- In the main loop. -/
  | loop
  /-- Returned: the deferred `close(w.resultChan)` has run. -/
  | exited
deriving DecidableEq

/-- The fields of a `ModernCacheWatcher` that `Start`, `Stop` and `run` read
and write, with the goroutines `Start` launched. -/
structure WatchState where
  /-- `internalEvents`, `errors` and the rest that `GroupMembershipChanged` writes. -/
  watcher : ModernCacheWatcher
  /-- `initialResources`. -/
  initialResources : List ManagedClusterSet
  /-- `started`. -/
  started : Bool
  /-- Whether `cancel` has run: `ctx.Done()` is closed. -/
  cancelled : Bool
  /-- One entry per `go w.run()`, in launch order. -/
  runs : List RunPc
  /-- The events sent on `resultChan`, oldest first. -/
  resultChan : List Event
  /-- Whether `resultChan` has been closed. -/
  closed : Bool

namespace WatchState

/-- `NewModernCacheWatcher`: not started, with a live context. -/
def new (w : ModernCacheWatcher) (initialResources : List ManagedClusterSet) : WatchState :=
  ⟨w, initialResources, false, false, [], [], false⟩

/-- `Start`. -/
def start (s : WatchState) : WatchState :=
  if s.started then s else { s with started := true, runs := s.runs ++ [.burst s.initialResources] }

/-- `Stop`. -/
def stop (s : WatchState) : WatchState :=
  if s.started then { s with cancelled := true, started := false } else s

/-- `defaultEmit`: when the send is the case taken, the event reaches
`resultChan`, or the send panics if `resultChan` is closed; the other case,
`ctx.Done()`, is only ready once the context is cancelled. -/
def defaultEmit (s : WatchState) (delivered : Bool) (event : Event) : Except String WatchState :=
  if delivered then
    if s.closed then .error "send on closed channel"
    else .ok { s with resultChan := s.resultChan ++ [event] }
  else .ok s

/-- The cases `defaultEmit` may take. -/
def CanEmit (s : WatchState) (delivered : Bool) : Prop :=
  delivered = true ∨ s.cancelled = true

/-- The run at `pre ++ pc :: post` returns: its deferred `close(w.resultChan)`
panics if the channel is closed already. -/
def exit (s : WatchState) (pre post : List RunPc) : Except String WatchState :=
  if s.closed then .error "close of closed channel"
  else .ok { s with runs := pre ++ .exited :: post, closed := true }

/-- `Stop` is idempotent. -/
theorem stop_stop (s : WatchState) : s.stop.stop = s.stop := by
  unfold stop; split <;> simp_all

@[simp] theorem stop_cancelled (s : WatchState) :
    s.stop.cancelled = (s.cancelled || s.started) := by
  unfold stop; split <;> simp_all

@[simp] theorem stop_runs (s : WatchState) : s.stop.runs = s.runs := by
  unfold stop; split <;> rfl

@[simp] theorem stop_closed (s : WatchState) : s.stop.closed = s.closed := by
  unfold stop; split <;> rfl

theorem defaultEmit_of_open {s : WatchState} (h : s.closed = false) (event : Event) :
    s.defaultEmit true event = .ok { s with resultChan := s.resultChan ++ [event] } := by
  simp [defaultEmit, h]

/-- A send that does not panic changes only `resultChan`. -/
theorem defaultEmit_eq_ok {s t : WatchState} {delivered : Bool} {event : Event}
    (h : s.defaultEmit delivered event = .ok t) : ∃ l, t = { s with resultChan := l } := by
  unfold defaultEmit at h
  split_ifs at h <;> cases h
  exacts [⟨_, rfl⟩, ⟨s.resultChan, rfl⟩]

end WatchState

open WatchState

/-! ## Steps -/

/-- A step of the watch: a `Start` or `Stop` call, a `GroupMembershipChanged`
of another goroutine, or a step of one launched `run`.  A panicked process
takes no step. -/
inductive WatchStep : Except String WatchState → Except String WatchState → Prop
  /-- `Start`. -/
  | start {s : WatchState} : WatchStep (.ok s) (.ok s.start)
  /-- `Stop`. -/
  | stop {s : WatchState} : WatchStep (.ok s) (.ok s.stop)
  /-- `GroupMembershipChanged` queues events and, on a timeout, an error. -/
  | groupMembershipChanged {s : WatchState} (S : ClusterSetStore) (order : RangeOrder)
      (fate : Event → SendOutcome) (n : Notification) :
      WatchStep (.ok s) (.ok { s with watcher := groupMembershipChanged S order fate n s.watcher })
  /-- The burst finds an error: emit it and return from `emitInitialResources`. -/
  | burstError {s : WatchState} {pre post : List RunPc} {r : ManagedClusterSet}
      {rs : List ManagedClusterSet} {err : String} {delivered : Bool} :
      s.runs = pre ++ .burst (r :: rs) :: post → s.watcher.errors = some err →
      s.CanEmit delivered →
      WatchStep (.ok s)
        (WatchState.defaultEmit
          { s with watcher := { s.watcher with errors := none }, runs := pre ++ .loop :: post }
          delivered (makeModernErrorEvent err))
  /-- The burst finds the context cancelled: return from it. -/
  | burstDone {s : WatchState} {pre post : List RunPc} {r : ManagedClusterSet}
      {rs : List ManagedClusterSet} :
      s.runs = pre ++ .burst (r :: rs) :: post → s.cancelled = true →
      WatchStep (.ok s) (.ok { s with runs := pre ++ .loop :: post })
  /-- Neither is ready (`default`): emit the resource as `ADDED`. -/
  | burstEmit {s : WatchState} {pre post : List RunPc} {r : ManagedClusterSet}
      {rs : List ManagedClusterSet} {delivered : Bool} :
      s.runs = pre ++ .burst (r :: rs) :: post → s.watcher.errors = none →
      s.cancelled = false → s.CanEmit delivered →
      WatchStep (.ok s)
        (WatchState.defaultEmit { s with runs := pre ++ .burst rs :: post } delivered
          ⟨.added, .clusterSet r⟩)
  /-- The burst is over. -/
  | burstEnd {s : WatchState} {pre post : List RunPc} :
      s.runs = pre ++ .burst [] :: post →
      WatchStep (.ok s) (.ok { s with runs := pre ++ .loop :: post })
  /-- The loop takes an error: emit it and return from `run`. -/
  | loopError {s : WatchState} {pre post : List RunPc} {err : String} {delivered : Bool} :
      s.runs = pre ++ .loop :: post → s.watcher.errors = some err → s.CanEmit delivered →
      WatchStep (.ok s)
        ({ s with watcher := { s.watcher with errors := none } }.defaultEmit delivered
          (makeModernErrorEvent err) >>= fun t => t.exit pre post)
  /-- The loop takes an internal event: emit it. -/
  | loopEvent {s : WatchState} {pre post : List RunPc} {event : Event} {rest : List Event}
      {delivered : Bool} :
      s.runs = pre ++ .loop :: post → s.watcher.internalEvents = event :: rest →
      s.CanEmit delivered →
      WatchStep (.ok s)
        ({ s with watcher := { s.watcher with internalEvents := rest } }.defaultEmit delivered event)
  /-- The loop takes the cancelled context: return from `run`. -/
  | loopDone {s : WatchState} {pre post : List RunPc} :
      s.runs = pre ++ .loop :: post → s.cancelled = true → WatchStep (.ok s) (s.exit pre post)

/-! ## What every step keeps -/

/-- What holds in every state a watch reaches. -/
structure WatchState.Valid (s : WatchState) : Prop where
  /-- `resultChan` is closed iff a launched run has returned. -/
  closed_iff : s.closed = true ↔ RunPc.exited ∈ s.runs
  /-- At most one launched run has returned. -/
  exited_le : s.runs.count .exited ≤ 1
  /-- While the context is live, `run` was launched once if started, else never. -/
  launched : s.cancelled = false → s.runs.length = if s.started then 1 else 0

/-- A property of the live process; a panicked one has nothing left to keep. -/
def Live (P : WatchState → Prop) : Except String WatchState → Prop
  | .ok s => P s
  | .error _ => True

theorem valid_new (w : ModernCacheWatcher) (R : List ManagedClusterSet) :
    (WatchState.new w R).Valid :=
  ⟨by simp [WatchState.new], by simp [WatchState.new], fun _ => rfl⟩

/-- A step of one run that neither returns nor was returned keeps the
invariant. -/
theorem valid_replace {s t : WatchState} {pre post : List RunPc} {pc pc' : RunPc}
    (hs : s.Valid) (hruns : s.runs = pre ++ pc :: post) (hpc : pc ≠ .exited) (hpc' : pc' ≠ .exited)
    (hstarted : t.started = s.started) (hcancelled : t.cancelled = s.cancelled)
    (hclosed : t.closed = s.closed) (htruns : t.runs = pre ++ pc' :: post) : t.Valid := by
  have hcount : t.runs.count .exited = s.runs.count .exited := by
    simp [htruns, hruns, List.count_append, List.count_cons, Ne.symm hpc, Ne.symm hpc']
  refine ⟨?_, hcount ▸ hs.exited_le, fun hc => ?_⟩
  · rw [hclosed, hs.closed_iff, hruns, htruns]
    simp [Ne.symm hpc, Ne.symm hpc']
  · rw [htruns, hstarted, ← hs.launched (hcancelled ▸ hc), hruns]
    simp

/-- A send keeps the invariant, or panics. -/
theorem live_defaultEmit {s : WatchState} (hs : s.Valid) (delivered : Bool) (event : Event) :
    Live WatchState.Valid (s.defaultEmit delivered event) := by
  cases h : s.defaultEmit delivered event with
  | error => trivial
  | ok t =>
    obtain ⟨l, rfl⟩ := defaultEmit_eq_ok h
    exact ⟨hs.closed_iff, hs.exited_le, hs.launched⟩

/-- A run that returns closes `resultChan`, the first time, or panics. -/
theorem live_exit {s : WatchState} {pre post : List RunPc} {pc : RunPc} (hs : s.Valid)
    (hruns : s.runs = pre ++ pc :: post) :
    Live WatchState.Valid (s.exit pre post) := by
  unfold WatchState.exit
  split
  · trivial
  · next hc =>
    have hnone : RunPc.exited ∉ s.runs := fun h => hc (hs.closed_iff.mpr h)
    rw [hruns] at hnone
    simp only [List.mem_append, List.mem_cons, not_or] at hnone
    refine ⟨by simp, ?_, fun hc' => ?_⟩
    · simp [List.count_append, List.count_eq_zero_of_not_mem hnone.1,
        List.count_eq_zero_of_not_mem hnone.2.2]
    · rw [← hs.launched hc', hruns]
      simp

theorem valid_step {p q : Except String WatchState} (h : WatchStep p q)
    (hp : Live WatchState.Valid p) : Live WatchState.Valid q := by
  cases h with
  | start =>
    show (WatchState.start _).Valid
    unfold WatchState.start
    split
    · exact hp
    · next hst =>
      refine ⟨by simpa using hp.closed_iff, ?_, fun hc => by simpa [hst] using hp.launched hc⟩
      simpa [List.count_append] using hp.exited_le
  | stop =>
    refine ⟨by simpa using hp.closed_iff, by simpa using hp.exited_le, fun hc => ?_⟩
    simp only [stop_cancelled, Bool.or_eq_false_iff] at hc
    simpa [WatchState.stop, hc.2] using hp.launched hc.1
  | groupMembershipChanged => exact ⟨hp.closed_iff, hp.exited_le, hp.launched⟩
  | burstError hr | burstEmit hr =>
    apply live_defaultEmit
    exact valid_replace hp hr nofun (by nofun) rfl rfl rfl rfl
  | burstDone hr | burstEnd hr => exact valid_replace hp hr nofun (by nofun) rfl rfl rfl rfl
  | loopEvent hr => apply live_defaultEmit; exact ⟨hp.closed_iff, hp.exited_le, hp.launched⟩
  | loopError hr =>
    cases he : WatchState.defaultEmit _ _ _ with
    | error => trivial
    | ok t =>
      obtain ⟨l, rfl⟩ := defaultEmit_eq_ok he
      show Live _ (WatchState.exit _ _ _)
      exact live_exit ⟨hp.closed_iff, hp.exited_le, hp.launched⟩ hr
  | loopDone hr => exact live_exit hp hr

theorem live_run {p q : Except String WatchState} (h : Relation.ReflTransGen WatchStep p q)
    (hp : Live WatchState.Valid p) : Live WatchState.Valid q := by
  induction h with
  | refl => exact hp
  | tail _ step ih => exact valid_step step ih

/-- Every state a watch reaches without a panic is valid. -/
theorem valid_run {w : ModernCacheWatcher} {R : List ManagedClusterSet} {t : WatchState}
    (h : Relation.ReflTransGen WatchStep (.ok (WatchState.new w R)) (.ok t)) : t.Valid :=
  live_run h (valid_new w R)

/-! ## Restarting a stopped watch -/

/-- With the context cancelled, a run in its burst can return from it. -/
theorem burst_loop {s : WatchState} (pre post : List RunPc) {R : List ManagedClusterSet}
    (hr : s.runs = pre ++ .burst R :: post) (hc : s.cancelled = true) :
    WatchStep (.ok s) (.ok { s with runs := pre ++ .loop :: post }) := by
  cases R with
  | nil => exact .burstEnd hr
  | cons r rs => exact .burstDone hr hc

/-- `Start`, `Stop` and `Start` again, on any watcher: `Stop` clears `started`,
so the second `Start` launches `run` again.  Both runs return through the
cancelled context, and the second close of `resultChan` panics. -/
theorem start_stop_start_panics (w : ModernCacheWatcher) (R : List ManagedClusterSet) :
    Relation.ReflTransGen WatchStep (.ok (WatchState.new w R)) (.error "close of closed channel") :=
  .tail (.tail (.tail (.tail (.tail (.tail (.single .start) .stop) (burst_loop [] [] rfl rfl))
    (.loopDone rfl rfl)) .start) (burst_loop [.exited] [] rfl rfl)) (.loopDone rfl rfl)

/-! ## An error in the burst -/

/-- An error taken in the burst is emitted and ends only the burst: the run
stays in the main loop, which emits the next internal event after the
`ERROR`. -/
theorem burst_error_then_event {s : WatchState} {pre post : List RunPc} {r : ManagedClusterSet}
    {rs : List ManagedClusterSet} {err : String} {event : Event} {rest : List Event}
    (hr : s.runs = pre ++ .burst (r :: rs) :: post) (herr : s.watcher.errors = some err)
    (hev : s.watcher.internalEvents = event :: rest) (hclosed : s.closed = false) :
    ∃ t, Relation.ReflTransGen WatchStep (.ok s) (.ok t) ∧
      t.resultChan = s.resultChan ++ [makeModernErrorEvent err, event] ∧
      t.runs = pre ++ .loop :: post := by
  let s₁ : WatchState :=
    { s with
      watcher := { s.watcher with errors := none }, runs := pre ++ .loop :: post,
      resultChan := s.resultChan ++ [makeModernErrorEvent err] }
  have h₁ : WatchStep (.ok s) (.ok s₁) := by
    have h := @WatchStep.burstError s pre post r rs err true hr herr (.inl rfl)
    rw [defaultEmit_of_open] at h
    exacts [h, hclosed]
  have h₂ := @WatchStep.loopEvent s₁ pre post event rest true rfl hev (.inl rfl)
  rw [defaultEmit_of_open] at h₂
  exacts [⟨_, .tail (.single h₁) h₂, by simp [s₁], rfl⟩, hclosed]

/-! ## A watch of `alice` -/

/-- The sends of a `GroupMembershipChanged` in which every `DELETED` times out. -/
def deletedTimesOut : Event → SendOutcome := fun e =>
  if e.type = .deleted then .timedOut else .delivered

/-- On `alice`'s watch of `dev`: `Stop` before `Start` leaves the watch new and
the `Start` after it launches `run`; `Start`, `Stop`, `Start` ends in the panic
`close of closed channel`; and an error taken during the burst is followed on
`resultChan` by the next event, with `run` still in its main loop. -/
theorem watch_lifecycle_alice_fails :
    (WatchState.new aliceDevWatcher [⟨"dev", ∅, "1"⟩]).stop =
        WatchState.new aliceDevWatcher [⟨"dev", ∅, "1"⟩] ∧
      (WatchState.new aliceDevWatcher [⟨"dev", ∅, "1"⟩]).stop.start.runs =
        [.burst [⟨"dev", ∅, "1"⟩]] ∧
    Relation.ReflTransGen WatchStep (.ok (WatchState.new aliceDevWatcher [⟨"dev", ∅, "1"⟩]))
      (.error "close of closed channel") ∧
    ∃ t, Relation.ReflTransGen WatchStep
        (.ok (WatchState.new aliceDevWatcher [⟨"dev", ∅, "1"⟩])) (.ok t) ∧
      t.resultChan = [makeModernErrorEvent "event notification timeout",
        ⟨.added, .clusterSet ⟨"prod", ∅, "1"⟩⟩] ∧
      t.runs = [.loop] := by
  refine ⟨rfl, rfl, start_stop_start_panics _ _, ?_⟩
  -- `alice` now sees `prod` only: the `DELETED` of `dev` times out and queues
  -- the timeout error, and the update pass queues `ADDED` of `prod`.
  obtain ⟨herr, hev⟩ : (groupMembershipChanged twoSetsStore RangeOrder.sorted deletedTimesOut
        ⟨{"prod"}, {"alice"}, ∅⟩ aliceDevWatcher).errors = some "event notification timeout" ∧
      (groupMembershipChanged twoSetsStore RangeOrder.sorted deletedTimesOut
        ⟨{"prod"}, {"alice"}, ∅⟩ aliceDevWatcher).internalEvents =
        [⟨.added, .clusterSet ⟨"prod", ∅, "1"⟩⟩] := by
    have hacc : aliceDevWatcher.hasAccess ⟨{"prod"}, {"alice"}, ∅⟩ := by decide
    simp only [groupMembershipChanged, if_pos hacc, aliceDevWatcher, Finmap.keys_singleton,
      RangeOrder.sorted, Finset.sort_singleton]
    decide
  obtain ⟨t, ht, hres, hruns⟩ := @burst_error_then_event
    { (WatchState.new aliceDevWatcher [⟨"dev", ∅, "1"⟩]).start with
      watcher := groupMembershipChanged twoSetsStore RangeOrder.sorted deletedTimesOut
        ⟨{"prod"}, {"alice"}, ∅⟩ aliceDevWatcher } [] [] _ _ _ _ _ rfl herr hev rfl
  exact ⟨t, .head .start (.head (.groupMembershipChanged _ _ _ _) ht), hres, hruns⟩

end ClusterSetCache
