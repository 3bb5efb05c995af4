import FluxIP.Adapters.SnapshotCoordinator
import FluxIP.Adapters.SnapshotPublisher
import FluxIP.Async.Coalescer

/-!
# Snapshot triggers are conserved

The coordinator's triggers, timers and publish calls in any order, and the log
of what happened.  Seen from one provider the coordinator is a coalescer, so
what holds of a coalescer's words holds of every log.
-/

namespace FluxIP

open Async

/-! ## The coordinator and its runs -/

inductive CoordinatorObservation where
  | scheduled (providerId : Id) (causationId : Option Id)
  | publishCalled (accountId providerId : Id) (causationId : Option Id)
      (absorbedCausationIds : List Id)
  | publishSettled (providerId : Id)
  | pushed (providerId : Id) (snapshot : SnapshotPayload)
  | runOver (providerId : Id)
  deriving DecidableEq, Repr

/-- A run in progress; `settled` tells whether its publish call is. -/
structure ActiveRun where
  run : SnapshotRun
  settled : Bool
  deriving DecidableEq, Repr

structure CoordinatorSystem where
  coordinator : SnapshotCoordinator := {}
  runs : List ActiveRun := []
  log : List CoordinatorObservation := []

/-- What can happen next.  A publish call settles with its result or with an
exception; the `finally` block of the run follows some time later. -/
inductive CoordinatorEvent where
  | schedule (accountId : Id) (providerIds : List Id) (causationId : Option Id)
  | fire (timer : CollapseTimer)
  | settle (active : ActiveRun)
      (result : Except Err (Option PublishResult))
  | finish (active : ActiveRun)
  | stop

namespace CoordinatorSystem

/-- What a settled publish call makes the run push to the agent. -/
def pushesOf (providerId : Id) :
    Except Err (Option PublishResult) → List CoordinatorObservation
  | .ok (some result) =>
      if result.changed then [.pushed providerId result.snapshot] else []
  | _ => []

/-- The publish call a run begins with. -/
def callOf (run : SnapshotRun) : CoordinatorObservation :=
  .publishCalled run.accountId run.providerId run.causationId
    run.absorbedCausationIds

def fire (system : CoordinatorSystem) (timer : CollapseTimer) :
    CoordinatorSystem :=
  let coordinator := system.coordinator.fired timer
  match coordinator.beginRun timer.providerId with
  | none => { system with coordinator }
  | some (run, coordinator) =>
      { coordinator
        runs := system.runs ++ [⟨run, false⟩]
        log := system.log ++ [callOf run] }

def step (system : CoordinatorSystem) :
    CoordinatorEvent → Option CoordinatorSystem
  | .schedule accountId providerIds causationId => some
      { system with
        coordinator :=
          system.coordinator.schedule accountId providerIds causationId
        log := system.log ++
          (if system.coordinator.stopped then []
          else providerIds.eraseDups.map (.scheduled · causationId)) }
  | .fire timer =>
      if timer ∈ system.coordinator.timers then some (system.fire timer)
      else none
  | .settle active result =>
      if active ∈ system.runs ∧ active.settled = false then some
        { system with
          runs := system.runs.erase active ++ [⟨active.run, true⟩]
          log := system.log ++
            (.publishSettled active.run.providerId ::
              pushesOf active.run.providerId result) }
      else none
  | .finish active =>
      if active ∈ system.runs ∧ active.settled = true then some
        { coordinator := system.coordinator.finishRun active.run
          runs := system.runs.erase active
          log := system.log ++ [.runOver active.run.providerId] }
      else none
  | .stop => some { system with coordinator := system.coordinator.stop }

/-- The system after a sequence of events, if each of them can happen. -/
def follow (system : CoordinatorSystem) :
    List CoordinatorEvent → Option CoordinatorSystem
  | [] => some system
  | event :: events => (system.step event).bind (follow · events)

/-! ## The view of one provider -/

/-- What the log says about one provider. -/
def labelOf (providerId : Id) :
    CoordinatorObservation → Option (Coalescer.Label Id)
  | .scheduled other causationId =>
      if other = providerId then some (.trigger causationId) else none
  | .publishCalled _ other causationId absorbedCausationIds =>
      if other = providerId then
        some (.start (absorbedCausationIds ++ causationId.toList))
      else none
  | .publishSettled other =>
      if other = providerId then some .settle else none
  | .pushed _ _ => none
  | .runOver other => if other = providerId then some .finish else none

def labels (system : CoordinatorSystem) (providerId : Id) :
    List (Coalescer.Label Id) :=
  system.log.filterMap (labelOf providerId)

/-- The part of the system that belongs to one provider. -/
structure Slot where
  view : SnapshotCoordinator.View
  runs : List ActiveRun

def slot (system : CoordinatorSystem) (providerId : Id) : Slot where
  view := system.coordinator.view providerId
  runs := system.runs.filter (·.run.providerId = providerId)

/-- The slots a coalescer's state stands for.  A timer set after a dirty run
leaves the entry dirty. -/
inductive Slot.Tracks (providerId : Id) : Slot → Coalescer Id → Prop where
  | idle : Tracks providerId ⟨⟨none, none, []⟩, []⟩ .idle
  | waiting (entry handle : Nat) (accountId : Id) (causes : List Id)
      (dirty : Bool) :
      Tracks providerId
        ⟨⟨some entry, some ⟨accountId, causes, some handle, false, dirty⟩,
          [⟨handle, providerId⟩]⟩, []⟩
        (.waiting causes)
  | running (run : SnapshotRun) (accountId : Id) (settled : Bool)
      (again : Option (List Id)) (own : run.providerId = providerId) :
      Tracks providerId
        ⟨⟨some run.entry,
          some ⟨accountId, again.getD [], none, true, again.isSome⟩, []⟩,
          [⟨run, settled⟩]⟩
        (.running settled again)

/-- The provider's log is a word its coalescer accepts, and the provider's slot
is where the word leads. -/
def Follows (system : CoordinatorSystem) (providerId : Id) : Prop :=
  ∃ state, Coalescer.idle.follow (system.labels providerId) = some state ∧
    (system.slot providerId).Tracks providerId state

structure Conserving (system : CoordinatorSystem) : Prop where
  formed : system.coordinator.WellFormed
  follows : ∀ providerId, system.Follows providerId

variable {system next : CoordinatorSystem} {providerId : Id}

/-- One observation of a provider: the others see nothing of it. -/
theorem Conserving.observe (conserving : system.Conserving)
    (providerId : Id) (label : Coalescer.Label Id)
    (formed : next.coordinator.WellFormed)
    (others : ∀ other, other ≠ providerId →
      next.labels other = system.labels other ∧
        next.slot other = system.slot other)
    (seen : next.labels providerId = system.labels providerId ++ [label])
    (own : ∀ state, (system.slot providerId).Tracks providerId state →
      ∃ after, state.step label = some after ∧
        (next.slot providerId).Tracks providerId after) :
    next.Conserving := by
  refine ⟨formed, fun other => ?_⟩
  by_cases same : other = providerId
  · subst same
    obtain ⟨state, followed, tracks⟩ := conserving.follows other
    obtain ⟨after, stepped, tracksAfter⟩ := own state tracks
    refine ⟨after, ?_, tracksAfter⟩
    rw [seen]
    exact Coalescer.follow_snoc followed stepped
  · obtain ⟨labels, slot⟩ := others other same
    have before := conserving.follows other
    simpa only [Follows, labels, slot] using before

theorem Conserving.initial : ({} : CoordinatorSystem).Conserving where
  formed := ⟨fun _ _ held => by simp at held, fun _ _ _ held => by simp at held⟩
  follows providerId := ⟨.idle, rfl, .idle⟩

/-! ## Triggers -/

/-- One pass of `schedule`, with what the log says about it. -/
def scheduleOne (accountId : Id) (causationId : Option Id)
    (system : CoordinatorSystem) (providerId : Id) : CoordinatorSystem :=
  { system with
    coordinator := system.coordinator.scheduleOne accountId causationId
      providerId
    log := system.log ++ [.scheduled providerId causationId] }

theorem Conserving.scheduleOne (conserving : system.Conserving)
    (accountId : Id) (causationId : Option Id) :
    (system.scheduleOne accountId causationId providerId).Conserving := by
  have formed := conserving.formed
  have seen : (system.scheduleOne accountId causationId providerId).labels
      providerId = system.labels providerId ++ [.trigger causationId] := by
    simp [CoordinatorSystem.scheduleOne, labels, labelOf]
  refine conserving.observe providerId (.trigger causationId)
    (formed.scheduleOne accountId causationId) ?_ seen ?_
  · intro other apart
    constructor
    · simp [CoordinatorSystem.scheduleOne, labels, labelOf, Ne.symm apart]
    · simp only [slot, CoordinatorSystem.scheduleOne, Slot.mk.injEq, and_true]
      exact SnapshotCoordinator.view_scheduleOne_other formed apart accountId
        causationId
  · intro state tracks
    generalize before : system.slot providerId = slot at tracks
    have view := congrArg Slot.view before
    have runs := congrArg Slot.runs before
    cases tracks with
    | idle =>
        have after := SnapshotCoordinator.view_scheduleOne_idle view accountId
          causationId
        refine ⟨_, rfl, ?_⟩
        have now : (system.scheduleOne accountId causationId providerId).slot
            providerId = ⟨_, _⟩ := congrArg₂ Slot.mk after runs
        rw [now]
        exact .waiting _ _ _ _ _
    | waiting entry handle owner causes dirty =>
        have after := SnapshotCoordinator.view_scheduleOne_held view
          (.inr rfl) accountId causationId
        refine ⟨_, rfl, ?_⟩
        have now : (system.scheduleOne accountId causationId providerId).slot
            providerId = ⟨_, _⟩ := congrArg₂ Slot.mk after runs
        rw [now]
        exact .waiting _ _ _ _ _
    | running run owner settled again own =>
        have after := SnapshotCoordinator.view_scheduleOne_held view
          (.inl rfl) accountId causationId
        refine ⟨_, rfl, ?_⟩
        have now : (system.scheduleOne accountId causationId providerId).slot
            providerId = ⟨_, _⟩ := congrArg₂ Slot.mk after runs
        rw [now]
        exact .running run accountId settled
          (some (again.getD [] ++ causationId.toList)) own

theorem scheduleOne_foldl (accountId : Id) (causationId : Option Id)
    (providerIds : List Id) (system : CoordinatorSystem) :
    providerIds.foldl (scheduleOne accountId causationId) system =
      { system with
        coordinator := providerIds.foldl
          (SnapshotCoordinator.scheduleOne accountId causationId)
          system.coordinator
        log := system.log ++ providerIds.map (.scheduled · causationId) } := by
  induction providerIds generalizing system with
  | nil => simp
  | cons providerId providerIds ih =>
      rw [List.foldl_cons, ih]
      simp [CoordinatorSystem.scheduleOne]

theorem Conserving.scheduleAll (conserving : system.Conserving)
    (accountId : Id) (causationId : Option Id) (providerIds : List Id) :
    (providerIds.foldl (CoordinatorSystem.scheduleOne accountId causationId)
      system).Conserving := by
  induction providerIds generalizing system with
  | nil => exact conserving
  | cons providerId providerIds ih =>
      exact ih (conserving.scheduleOne accountId causationId)

/-! ## Runs -/

/-- A timer of a provider fires only while its coalescer is waiting. -/
theorem waiting_of_armed {timer : CollapseTimer}
    (armed : timer ∈ system.coordinator.timers) {state : Coalescer Id}
    (tracks : (system.slot timer.providerId).Tracks timer.providerId state) :
    ∃ entry accountId causes dirty, state = .waiting causes ∧
      system.slot timer.providerId =
        ⟨⟨some entry,
          some ⟨accountId, causes, some timer.handle, false, dirty⟩,
          [timer]⟩, []⟩ := by
  have member : timer ∈
      (system.slot timer.providerId).view.timers := by
    apply List.mem_filter.mpr
    exact ⟨armed, decide_eq_true rfl⟩
  generalize system.slot timer.providerId = slot at tracks member
  cases tracks with
  | idle => cases member
  | waiting entry handle accountId causes dirty =>
      have same := List.mem_singleton.mp member
      have handles : timer.handle = handle :=
        congrArg CollapseTimer.handle same
      subst handles
      exact ⟨entry, accountId, causes, dirty, rfl, rfl⟩
  | running run accountId settled again own => cases member

theorem getLast?_toList_dropLast (causes : List Id) :
    causes.dropLast ++ causes.getLast?.toList = causes := by
  cases last : causes.getLast? with
  | none =>
      have empty := List.getLast?_eq_none_iff.mp last
      simp [empty]
  | some cause =>
      obtain ⟨before, rfl⟩ := List.getLast?_eq_some_iff.mp last
      simp

theorem Conserving.fire (conserving : system.Conserving)
    (going : system.coordinator.stopped = false) {timer : CollapseTimer}
    (armed : timer ∈ system.coordinator.timers) :
    (system.fire timer).Conserving := by
  have formed := conserving.formed.fired timer
  obtain ⟨state, -, tracks⟩ := conserving.follows timer.providerId
  obtain ⟨entry, accountId, causes, dirty, -, before⟩ :=
    waiting_of_armed armed tracks
  have fired := SnapshotCoordinator.view_fired (congrArg Slot.view before)
  obtain ⟨coordinator, begun, after⟩ :=
    SnapshotCoordinator.beginRun_of_view fired going
  obtain ⟨held, -, -, record, rfl⟩ :=
    SnapshotCoordinator.beginRun_cases begun
  simp only [CoordinatorSystem.fire, begun]
  refine conserving.observe timer.providerId (.start causes)
    (formed.put record) ?_ ?_ ?_
  · intro other apart
    constructor
    · simp [labels, labelOf, callOf, Ne.symm apart]
    · have kept := SnapshotCoordinator.view_put_other formed held apart record
      rw [SnapshotCoordinator.view_fired_other apart] at kept
      simp [slot, kept, Ne.symm apart]
  · simp [labels, labelOf, callOf, getLast?_toList_dropLast]
  · intro state tracks
    obtain ⟨_, _, causes', _, rfl, again⟩ := waiting_of_armed armed tracks
    rw [before] at again
    have same : causes = causes' := by
      simp only [Slot.mk.injEq, SnapshotCoordinator.View.mk.injEq,
        Option.some.injEq, Pending.mk.injEq] at again
      exact again.1.2.1.2.1
    subst same
    refine ⟨.running false none, by simp [Coalescer.step], ?_⟩
    have idle := congrArg Slot.runs before
    simp only [slot] at idle
    simp only [slot, after, List.filter_append, idle, List.nil_append,
      List.filter_cons, decide_true, if_true, List.filter_nil]
    exact .running ⟨entry, accountId, timer.providerId, causes.getLast?,
      causes.dropLast⟩ accountId false none rfl

/-- A run in progress belongs to its provider's entry, and is its only run. -/
theorem running_of_active {active : ActiveRun}
    (member : active ∈ system.runs) {state : Coalescer Id}
    (tracks : (system.slot active.run.providerId).Tracks
      active.run.providerId state) :
    ∃ accountId again, state = .running active.settled again ∧
      system.slot active.run.providerId =
        ⟨⟨some active.run.entry,
          some ⟨accountId, again.getD [], none, true, again.isSome⟩, []⟩,
          [active]⟩ := by
  have own : active ∈ (system.slot active.run.providerId).runs := by
    apply List.mem_filter.mpr
    exact ⟨member, decide_eq_true rfl⟩
  generalize system.slot active.run.providerId = slot at tracks own
  cases tracks with
  | idle => cases own
  | waiting entry handle accountId causes dirty => cases own
  | running run accountId settled again isOwn =>
      have same := List.mem_singleton.mp own
      subst same
      exact ⟨accountId, again, rfl, rfl⟩

theorem labels_pushes (providerId owner : Id)
    (result : Except Err (Option PublishResult)) :
    (pushesOf owner result).filterMap (labelOf providerId) = [] := by
  cases result with
  | error error => rfl
  | ok published =>
      cases published with
      | none => rfl
      | some published =>
          cases changed : published.changed with
          | false => simp [pushesOf, changed]
          | true => simp [pushesOf, changed, labelOf]

/-- The runs of another provider stay when one run is taken off the list. -/
theorem filter_erase_other {runs : List ActiveRun} {active : ActiveRun}
    (apart : providerId ≠ active.run.providerId) :
    (runs.erase active).filter (·.run.providerId = providerId) =
      runs.filter (·.run.providerId = providerId) := by
  have absent : active ∉ runs.filter (·.run.providerId = providerId) := by
    intro member
    have own := (List.mem_filter.mp member).2
    exact apart (of_decide_eq_true own).symm
  rw [← List.erase_filter, List.erase_of_not_mem absent]

theorem Conserving.settle (conserving : system.Conserving)
    {active : ActiveRun} (member : active ∈ system.runs)
    (unsettled : active.settled = false)
    (result : Except Err (Option PublishResult)) :
    ({ system with
        runs := system.runs.erase active ++ [⟨active.run, true⟩]
        log := system.log ++
          (.publishSettled active.run.providerId ::
            pushesOf active.run.providerId result) } :
      CoordinatorSystem).Conserving := by
  refine conserving.observe active.run.providerId .settle conserving.formed
    ?_ ?_ ?_
  · intro other apart
    constructor
    · simp [labels, labelOf, labels_pushes, Ne.symm apart]
    · simp [slot, filter_erase_other apart, Ne.symm apart]
  · simp [labels, labelOf, labels_pushes]
  · intro state tracks
    obtain ⟨accountId, again, rfl, before⟩ := running_of_active member tracks
    rw [unsettled]
    refine ⟨.running true again, rfl, ?_⟩
    have view := congrArg Slot.view before
    have runs := congrArg Slot.runs before
    simp only [slot] at view runs
    simp only [slot, view, List.filter_append, ← List.erase_filter, runs,
      List.erase_cons_head, List.nil_append, List.filter_cons, decide_true,
      if_true, List.filter_nil]
    exact .running active.run accountId true again rfl

theorem Conserving.finish (conserving : system.Conserving)
    (going : system.coordinator.stopped = false) {active : ActiveRun}
    (member : active ∈ system.runs) (settled : active.settled = true) :
    ({ coordinator := system.coordinator.finishRun active.run
       runs := system.runs.erase active
       log := system.log ++ [.runOver active.run.providerId] } :
      CoordinatorSystem).Conserving := by
  have formed := conserving.formed
  obtain ⟨_, -, tracked⟩ := conserving.follows active.run.providerId
  obtain ⟨_, _, -, whole⟩ := running_of_active member tracked
  have held : system.coordinator.pending active.run.providerId =
      some active.run.entry :=
    congrArg (·.view.entry) whole
  refine conserving.observe active.run.providerId .finish
    (formed.finishRun active.run) ?_ ?_ ?_
  · intro other apart
    constructor
    · simp [labels, labelOf, Ne.symm apart]
    · have kept := SnapshotCoordinator.view_finishRun_other formed held apart
      simp [slot, kept, filter_erase_other apart]
  · simp [labels, labelOf]
  · intro state tracks
    obtain ⟨accountId, again, rfl, before⟩ := running_of_active member tracks
    rw [settled]
    have view := congrArg Slot.view before
    have runs := congrArg Slot.runs before
    simp only [slot] at view runs
    cases again with
    | none =>
        refine ⟨.idle, rfl, ?_⟩
        have after := SnapshotCoordinator.view_finishRun_clean view
        simp only [slot, after, ← List.erase_filter, runs,
          List.erase_cons_head]
        exact .idle
    | some causes =>
        refine ⟨.waiting causes, rfl, ?_⟩
        have after := SnapshotCoordinator.view_finishRun_dirty view going
        simp only [slot, after, ← List.erase_filter, runs,
          List.erase_cons_head, List.nil_append]
        exact .waiting _ _ _ _ _

/-! ## Whole runs -/

theorem stopped_fire (system : CoordinatorSystem) (timer : CollapseTimer) :
    (system.fire timer).coordinator.stopped = system.coordinator.stopped := by
  cases begun : (system.coordinator.fired timer).beginRun timer.providerId with
  | none =>
      simp only [CoordinatorSystem.fire, begun]
      rfl
  | some begun' =>
      obtain ⟨run, coordinator⟩ := begun'
      obtain ⟨-, -, going, record, rfl⟩ :=
        SnapshotCoordinator.beginRun_cases begun
      simp only [CoordinatorSystem.fire, begun]
      rfl

/-- A coordinator that is going has never been stopped. -/
theorem going_of_step {event : CoordinatorEvent}
    (stepped : system.step event = some next)
    (going : next.coordinator.stopped = false) :
    system.coordinator.stopped = false := by
  cases event with
  | schedule accountId providerIds causationId =>
      cases stepped
      simpa using going
  | fire timer =>
      simp only [CoordinatorSystem.step] at stepped
      split at stepped
      · cases stepped
        rwa [stopped_fire] at going
      · cases stepped
  | settle active result =>
      simp only [CoordinatorSystem.step] at stepped
      split at stepped
      · cases stepped
        exact going
      · cases stepped
  | finish active =>
      simp only [CoordinatorSystem.step] at stepped
      split at stepped
      · cases stepped
        simpa using going
      · cases stepped
  | stop =>
      cases stepped
      cases going

theorem going_of_follow {events : List CoordinatorEvent}
    (followed : system.follow events = some next)
    (going : next.coordinator.stopped = false) :
    system.coordinator.stopped = false := by
  induction events generalizing system with
  | nil =>
      cases followed
      exact going
  | cons event events ih =>
      obtain ⟨middle, stepped, rest⟩ := Option.bind_eq_some_iff.mp followed
      exact going_of_step stepped (ih rest)

theorem Conserving.step (conserving : system.Conserving)
    {event : CoordinatorEvent} (stepped : system.step event = some next)
    (going : next.coordinator.stopped = false) : next.Conserving := by
  have before := going_of_step stepped going
  cases event with
  | schedule accountId providerIds causationId =>
      have all := conserving.scheduleAll accountId causationId
        providerIds.eraseDups
      rw [scheduleOne_foldl] at all
      simp only [CoordinatorSystem.step, SnapshotCoordinator.schedule, before,
        Bool.false_eq_true, if_false, Option.some.injEq] at stepped
      rw [← stepped]
      exact all
  | fire timer =>
      simp only [CoordinatorSystem.step] at stepped
      split at stepped
      · rename_i armed
        cases stepped
        exact conserving.fire before armed
      · cases stepped
  | settle active result =>
      simp only [CoordinatorSystem.step] at stepped
      split at stepped
      · rename_i enabled
        cases stepped
        exact conserving.settle enabled.1 enabled.2 result
      · cases stepped
  | finish active =>
      simp only [CoordinatorSystem.step] at stepped
      split at stepped
      · rename_i enabled
        cases stepped
        exact conserving.finish before enabled.1 enabled.2
      · cases stepped
  | stop =>
      cases stepped
      cases going

theorem Conserving.follow {events : List CoordinatorEvent}
    (conserving : system.Conserving)
    (followed : system.follow events = some next)
    (going : next.coordinator.stopped = false) : next.Conserving := by
  induction events generalizing system with
  | nil =>
      cases followed
      exact conserving
  | cons event events ih =>
      obtain ⟨middle, stepped, rest⟩ := Option.bind_eq_some_iff.mp followed
      have between := conserving.step stepped (going_of_follow rest going)
      exact ih between rest

/-! ## The batches -/

/-- A publish call without a cause absorbs none. -/
def Batched : CoordinatorObservation → Prop
  | .publishCalled _ _ causationId absorbedCausationIds =>
      causationId = none → absorbedCausationIds = []
  | _ => True

theorem batched_begun {coordinator after : SnapshotCoordinator}
    {run : SnapshotRun}
    (begun : coordinator.beginRun providerId = some (run, after)) :
    Batched (callOf run) := by
  unfold SnapshotCoordinator.beginRun at begun
  cases held : coordinator.pending providerId with
  | none => simp [held] at begun
  | some entry =>
      cases stopped : coordinator.stopped with
      | true => simp [held, stopped] at begun
      | false =>
          simp only [held, stopped, Bool.false_eq_true, if_false,
            Option.some.injEq, Prod.mk.injEq] at begun
          obtain ⟨rfl, -⟩ := begun
          intro none
          have empty := List.getLast?_eq_none_iff.mp none
          simp [empty]

theorem batched_pushes (owner : Id)
    (result : Except Err (Option PublishResult)) :
    ∀ observation ∈ pushesOf owner result, Batched observation := by
  intro observation member
  cases result with
  | error error => cases member
  | ok published =>
      cases published with
      | none => cases member
      | some published =>
          simp only [pushesOf] at member
          split at member
          · cases List.mem_singleton.mp member
            trivial
          · cases member

theorem batched_fire (timer : CollapseTimer)
    (batched : ∀ observation ∈ system.log, Batched observation) :
    ∀ observation ∈ (system.fire timer).log, Batched observation := by
  cases begun : (system.coordinator.fired timer).beginRun timer.providerId with
  | none =>
      simp only [CoordinatorSystem.fire, begun]
      exact batched
  | some started =>
      simp only [CoordinatorSystem.fire, begun]
      intro observation member
      rcases List.mem_append.mp member with earlier | last
      · exact batched observation earlier
      · cases List.mem_singleton.mp last
        exact batched_begun begun

theorem batched_step {event : CoordinatorEvent}
    (stepped : system.step event = some next)
    (batched : ∀ observation ∈ system.log, Batched observation) :
    ∀ observation ∈ next.log, Batched observation := by
  cases event with
  | schedule accountId providerIds causationId =>
      cases stepped
      intro observation member
      rcases List.mem_append.mp member with earlier | later
      · exact batched observation earlier
      · split at later
        · cases later
        · obtain ⟨providerId, -, rfl⟩ := List.mem_map.mp later
          trivial
  | fire timer =>
      simp only [CoordinatorSystem.step] at stepped
      split at stepped
      · cases stepped
        exact batched_fire timer batched
      · cases stepped
  | settle active result =>
      simp only [CoordinatorSystem.step] at stepped
      split at stepped
      · cases stepped
        intro observation member
        rcases List.mem_append.mp member with earlier | later
        · exact batched observation earlier
        · rcases List.mem_cons.mp later with rfl | pushed
          · trivial
          · exact batched_pushes _ _ observation pushed
      · cases stepped
  | finish active =>
      simp only [CoordinatorSystem.step] at stepped
      split at stepped
      · cases stepped
        intro observation member
        rcases List.mem_append.mp member with earlier | later
        · exact batched observation earlier
        · cases List.mem_singleton.mp later
          trivial
      · cases stepped
  | stop =>
      cases stepped
      exact batched

theorem batched_follow {events : List CoordinatorEvent}
    (followed : system.follow events = some next)
    (batched : ∀ observation ∈ system.log, Batched observation) :
    ∀ observation ∈ next.log, Batched observation := by
  induction events generalizing system with
  | nil =>
      cases followed
      exact batched
  | cons event events ih =>
      obtain ⟨middle, stepped, rest⟩ := Option.bind_eq_some_iff.mp followed
      exact ih rest (batched_step stepped batched)

/-- The causation id and the absorbed ones of each publish call, in order. -/
def publishCalls (providerId : Id) :
    List CoordinatorObservation → List (Option Id × List Id)
  | [] => []
  | .publishCalled _ other causationId absorbedCausationIds :: log =>
      if other = providerId then
        (causationId, absorbedCausationIds) :: publishCalls providerId log
      else publishCalls providerId log
  | _ :: log => publishCalls providerId log

/-- The causation ids scheduled for a provider, in order of arrival. -/
def causesScheduled (providerId : Id) :
    List CoordinatorObservation → List Id
  | [] => []
  | .scheduled other causationId :: log =>
      if other = providerId then
        causationId.toList ++ causesScheduled providerId log
      else causesScheduled providerId log
  | _ :: log => causesScheduled providerId log

theorem publishCalls_eq (providerId : Id)
    {log : List CoordinatorObservation}
    (batched : ∀ observation ∈ log, Batched observation) :
    publishCalls providerId log =
      (Coalescer.batches (log.filterMap (labelOf providerId))).map
        fun causes => (causes.getLast?, causes.dropLast) := by
  induction log with
  | nil => rfl
  | cons observation log ih =>
      have rest := ih fun other member =>
        batched other (List.mem_cons_of_mem _ member)
      cases observation with
      | scheduled other causationId =>
          by_cases own : other = providerId <;>
            simp [publishCalls, labelOf, own, rest, Coalescer.batches]
      | publishCalled accountId other causationId absorbed =>
          have batch := batched _ List.mem_cons_self
          by_cases own : other = providerId
          · cases causationId with
            | none =>
                have empty := batch rfl
                simp [publishCalls, labelOf, own, rest, Coalescer.batches,
                  empty]
            | some causationId =>
                simp [publishCalls, labelOf, own, rest, Coalescer.batches]
          · simp [publishCalls, labelOf, own, rest]
      | publishSettled other =>
          by_cases own : other = providerId <;>
            simp [publishCalls, labelOf, own, rest, Coalescer.batches]
      | pushed other snapshot =>
          rw [List.filterMap_cons_none rfl]
          exact rest
      | runOver other =>
          by_cases own : other = providerId <;>
            simp [publishCalls, labelOf, own, rest, Coalescer.batches]

theorem causesScheduled_eq (providerId : Id)
    (log : List CoordinatorObservation) :
    causesScheduled providerId log =
      Coalescer.arrivals (log.filterMap (labelOf providerId)) := by
  induction log with
  | nil => rfl
  | cons observation log ih =>
      cases observation with
      | scheduled other causationId =>
          by_cases own : other = providerId <;>
            simp [causesScheduled, labelOf, own, ih, Coalescer.arrivals]
      | publishCalled accountId other causationId absorbed =>
          by_cases own : other = providerId <;>
            simp [causesScheduled, labelOf, own, ih, Coalescer.arrivals]
      | publishSettled other =>
          by_cases own : other = providerId <;>
            simp [causesScheduled, labelOf, own, ih, Coalescer.arrivals]
      | pushed other snapshot =>
          rw [List.filterMap_cons_none rfl]
          exact ih
      | runOver other =>
          by_cases own : other = providerId <;>
            simp [causesScheduled, labelOf, own, ih, Coalescer.arrivals]

/-! ## Conservation -/

/-- The coordinator calls the publisher for the provider. -/
def callsPublisher (providerId : Id) : CoordinatorObservation → Bool
  | .publishCalled _ other _ _ => other = providerId
  | _ => false

/-- A publish call of the coordinator for the provider settles. -/
def settlesPublish (providerId : Id) : CoordinatorObservation → Bool
  | .publishSettled other => other = providerId
  | _ => false

/-- The timer of the provider is set. -/
def TimerPending (system : CoordinatorSystem) (providerId : Id) : Prop :=
  ∃ timer ∈ system.coordinator.timers, timer.providerId = providerId

/-- A run of the provider is in progress, with one more to follow. -/
def DirtyRun (system : CoordinatorSystem) (providerId : Id) : Prop :=
  ∃ active ∈ system.runs, active.run.providerId = providerId ∧
    system.coordinator.pending providerId = some active.run.entry ∧
    (system.coordinator.entries active.run.entry).dirty = true

/-- The causation ids the provider's entry has collected. -/
def collectedCauses (system : CoordinatorSystem) (providerId : Id) :
    List Id :=
  match system.coordinator.pending providerId with
  | none => []
  | some entry => (system.coordinator.entries entry).causationIds

/-- What is owed to the triggers of one provider. -/
structure Conserves (system : CoordinatorSystem) (providerId : Id) :
    Prop where
  oneInFlight :
    system.log.countP (callsPublisher providerId) ≤
      system.log.countP (settlesPublish providerId) + 1
  followed : ∀ before causationId after,
    system.log = before ++ .scheduled providerId causationId :: after →
      (∃ later ∈ after, callsPublisher providerId later = true) ∨
        system.TimerPending providerId ∨ system.DirtyRun providerId
  handedOver : ∃ batches : List (List Id),
    publishCalls providerId system.log =
        batches.map (fun causes => (causes.getLast?, causes.dropLast)) ∧
      causesScheduled providerId system.log =
        batches.flatten ++ system.collectedCauses providerId
  noneIdle : ∀ entry, system.coordinator.pending providerId = some entry →
    system.TimerPending providerId ∨
      ∃ active ∈ system.runs, active.run.providerId = providerId

/-! ### What the coalescer's state says about the provider -/

section

variable {state : Coalescer Id}

theorem armed_of_slot {timer : CollapseTimer}
    (armed : timer ∈ (system.slot providerId).view.timers) :
    system.TimerPending providerId := by
  obtain ⟨member, own⟩ := List.mem_filter.mp armed
  exact ⟨timer, member, of_decide_eq_true own⟩

theorem active_of_slot {active : ActiveRun}
    (running : active ∈ (system.slot providerId).runs) :
    active ∈ system.runs ∧ active.run.providerId = providerId := by
  obtain ⟨member, own⟩ := List.mem_filter.mp running
  exact ⟨member, of_decide_eq_true own⟩

theorem record_of_slot {entry : Nat} {record : Pending}
    (held : (system.slot providerId).view.entry = some entry)
    (found : (system.slot providerId).view.record = some record) :
    system.coordinator.pending providerId = some entry ∧
      system.coordinator.entries entry = record := by
  simp only [slot, SnapshotCoordinator.view] at held found
  rw [held, Option.map_some, Option.some.injEq] at found
  exact ⟨held, found⟩

theorem pending_of_due
    (tracks : (system.slot providerId).Tracks providerId state)
    (due : state.due = true) :
    system.TimerPending providerId ∨ system.DirtyRun providerId := by
  generalize before : system.slot providerId = slot at tracks
  cases tracks with
  | idle => cases due
  | waiting entry handle accountId causes dirty =>
      left
      apply armed_of_slot
      rw [before]
      exact List.mem_singleton_self _
  | running run accountId settled again own =>
      right
      obtain ⟨held, record⟩ := record_of_slot
        (congrArg (·.view.entry) before) (congrArg (·.view.record) before)
      obtain ⟨member, -⟩ : (⟨run, settled⟩ : ActiveRun) ∈ system.runs ∧
          run.providerId = providerId := by
        apply active_of_slot
        rw [before]
        exact List.mem_singleton_self _
      refine ⟨⟨run, settled⟩, member, own, held, ?_⟩
      rw [record]
      exact due

theorem collectedCauses_eq
    (tracks : (system.slot providerId).Tracks providerId state) :
    system.collectedCauses providerId = state.collected := by
  generalize before : system.slot providerId = slot at tracks
  cases tracks with
  | idle =>
      have absent : system.coordinator.pending providerId = none :=
        congrArg (·.view.entry) before
      simp [collectedCauses, absent, Coalescer.collected]
  | waiting entry handle accountId causes dirty =>
      obtain ⟨held, record⟩ := record_of_slot
        (congrArg (·.view.entry) before) (congrArg (·.view.record) before)
      simp [collectedCauses, held, record, Coalescer.collected]
  | running run accountId settled again own =>
      obtain ⟨held, record⟩ := record_of_slot
        (congrArg (·.view.entry) before) (congrArg (·.view.record) before)
      simp [collectedCauses, held, record, Coalescer.collected]

theorem busy_of_entry
    (tracks : (system.slot providerId).Tracks providerId state) {entry : Nat}
    (held : system.coordinator.pending providerId = some entry) :
    system.TimerPending providerId ∨
      ∃ active ∈ system.runs, active.run.providerId = providerId := by
  generalize before : system.slot providerId = slot at tracks
  cases tracks with
  | idle =>
      have absent : system.coordinator.pending providerId = none :=
        congrArg (·.view.entry) before
      rw [absent] at held
      cases held
  | waiting entry handle accountId causes dirty =>
      left
      apply armed_of_slot
      rw [before]
      exact List.mem_singleton_self _
  | running run accountId settled again own =>
      right
      refine ⟨⟨run, settled⟩, ?_⟩
      apply active_of_slot
      rw [before]
      exact List.mem_singleton_self _

end

theorem countP_starts (providerId : Id) (log : List CoordinatorObservation) :
    (log.filterMap (labelOf providerId)).countP Coalescer.Label.starts =
      log.countP (callsPublisher providerId) := by
  rw [List.countP_filterMap]
  apply List.countP_congr
  intro observation _
  cases observation with
  | scheduled other causationId =>
      by_cases own : other = providerId <;>
        simp [labelOf, own, callsPublisher, Coalescer.Label.starts]
  | publishCalled accountId other causationId absorbed =>
      by_cases own : other = providerId <;>
        simp [labelOf, own, callsPublisher, Coalescer.Label.starts]
  | publishSettled other =>
      by_cases own : other = providerId <;>
        simp [labelOf, own, callsPublisher, Coalescer.Label.starts]
  | pushed other snapshot => simp [labelOf, callsPublisher]
  | runOver other =>
      by_cases own : other = providerId <;>
        simp [labelOf, own, callsPublisher, Coalescer.Label.starts]

theorem countP_settles (providerId : Id) (log : List CoordinatorObservation) :
    (log.filterMap (labelOf providerId)).countP Coalescer.Label.settles =
      log.countP (settlesPublish providerId) := by
  rw [List.countP_filterMap]
  apply List.countP_congr
  intro observation _
  cases observation with
  | scheduled other causationId =>
      by_cases own : other = providerId <;>
        simp [labelOf, own, settlesPublish, Coalescer.Label.settles]
  | publishCalled accountId other causationId absorbed =>
      by_cases own : other = providerId <;>
        simp [labelOf, own, settlesPublish, Coalescer.Label.settles]
  | publishSettled other =>
      by_cases own : other = providerId <;>
        simp [labelOf, own, settlesPublish, Coalescer.Label.settles]
  | pushed other snapshot => simp [labelOf, settlesPublish]
  | runOver other =>
      by_cases own : other = providerId <;>
        simp [labelOf, own, settlesPublish, Coalescer.Label.settles]

theorem inFlight_le_one (state : Coalescer Id) : state.inFlight ≤ 1 := by
  cases state with
  | idle => exact Nat.zero_le 1
  | waiting causes => exact Nat.zero_le 1
  | running settled again =>
      cases settled with
      | false => exact Nat.le_refl 1
      | true => exact Nat.zero_le 1

end CoordinatorSystem

open CoordinatorSystem in
/-- Before `stop`, every trigger of every provider is conserved. -/
theorem triggers_conserved (events : List CoordinatorEvent)
    (system : CoordinatorSystem)
    (followed : CoordinatorSystem.follow {} events = some system)
    (going : system.coordinator.stopped = false) (providerId : Id) :
    system.Conserves providerId := by
  have conserving := Conserving.initial.follow followed going
  have batched := batched_follow followed fun _ member => by cases member
  obtain ⟨state, word, tracks⟩ := conserving.follows providerId
  constructor
  · have counts := Coalescer.follow_inFlight word
    have few := inFlight_le_one state
    have none : (Coalescer.idle : Coalescer Id).inFlight = 0 := rfl
    rw [none, labels, countP_starts, countP_settles] at counts
    omega
  · intro before causationId after log
    have split : system.labels providerId =
        before.filterMap (labelOf providerId) ++
          .trigger causationId :: after.filterMap (labelOf providerId) := by
      simp [labels, log, labelOf]
    rw [split] at word
    rcases Coalescer.follow_served word with due | ⟨label, member, starts⟩
    · exact .inr (pending_of_due tracks due)
    · left
      have counted : 0 < (after.filterMap (labelOf providerId)).countP
          Coalescer.Label.starts := List.countP_pos_iff.mpr
            ⟨label, member, starts⟩
      rw [countP_starts] at counted
      exact List.countP_pos_iff.mp counted
  · have conserved := Coalescer.follow_conserves word
    refine ⟨Coalescer.batches (system.labels providerId),
      publishCalls_eq providerId batched, ?_⟩
    rw [causesScheduled_eq, collectedCauses_eq tracks]
    exact conserved
  · intro entry held
    exact busy_of_entry tracks held

/-- Two triggers before the timer fires and one during the run: the run that
follows is still to come. -/
theorem triggers_conserved_three :
    ∃ system, CoordinatorSystem.follow {}
        [.schedule 1 [7, 7] (some 11), .schedule 1 [7] (some 12),
          .fire ⟨0, 7⟩, .schedule 1 [7] (some 13)] = some system ∧
      system.Conserves 7 := by
  have goes : (CoordinatorSystem.follow {}
      [.schedule 1 [7, 7] (some 11), .schedule 1 [7] (some 12),
        .fire ⟨0, 7⟩, .schedule 1 [7] (some 13)]).map
      (·.coordinator.stopped) = some false := by decide +kernel
  obtain ⟨system, followed, going⟩ := Option.map_eq_some_iff.mp goes
  exact ⟨system, followed, triggers_conserved _ system followed going 7⟩

end FluxIP
