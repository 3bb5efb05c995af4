import FluxIP.Domain.Events
import Mathlib.Logic.Function.Basic

/-!
# The snapshot coordinator

The entries of the coordinator are objects: the map `pending` holds a reference
to one, and a run keeps the entry it was started for.
-/

namespace FluxIP

/-- The entry of a provider; `timer` is the handle `setTimeout` returned. -/
structure Pending where
  accountId : Id
  causationIds : List Id := []
  timer : Option Nat := none
  running : Bool := false
  dirty : Bool := false
  deriving DecidableEq, Repr

/-- A timer that has not fired yet; it calls `run(providerId)`. -/
structure CollapseTimer where
  handle : Nat
  providerId : Id
  deriving DecidableEq, Repr

/-- What a run hands to the publisher, with the entry it keeps. -/
structure SnapshotRun where
  entry : Nat
  accountId : Id
  providerId : Id
  causationId : Option Id
  absorbedCausationIds : List Id
  deriving DecidableEq, Repr

structure SnapshotCoordinator where
  entries : Nat → Pending := fun _ => { accountId := 0 }
  nextEntry : Nat := 0
  pending : Id → Option Nat := fun _ => none
  timers : List CollapseTimer := []
  nextTimer : Nat := 0
  stopped : Bool := false

namespace SnapshotCoordinator

def put (coordinator : SnapshotCoordinator) (entry : Nat) (record : Pending) :
    SnapshotCoordinator :=
  { coordinator with
    entries := Function.update coordinator.entries entry record }

/-- `this.pending.get(providerId) ?? { … }`, followed by `set`. -/
def obtain (coordinator : SnapshotCoordinator) (accountId providerId : Id) :
    Nat × SnapshotCoordinator :=
  match coordinator.pending providerId with
  | some entry => (entry, coordinator)
  | none =>
      (coordinator.nextEntry,
        { coordinator.put coordinator.nextEntry { accountId } with
          nextEntry := coordinator.nextEntry + 1
          pending := Function.update coordinator.pending providerId
            (some coordinator.nextEntry) })

/-- `entry.timer = setTimeout(…)` -/
def setTimeout (coordinator : SnapshotCoordinator) (entry : Nat)
    (providerId : Id) : SnapshotCoordinator :=
  { coordinator.put entry
      { coordinator.entries entry with timer := some coordinator.nextTimer } with
    timers := coordinator.timers ++ [⟨coordinator.nextTimer, providerId⟩]
    nextTimer := coordinator.nextTimer + 1 }

/-- The trigger's account and cause are noted in the entry. -/
def collect (coordinator : SnapshotCoordinator) (accountId : Id)
    (causationId : Option Id) (entry : Nat) : SnapshotCoordinator :=
  let record := coordinator.entries entry
  coordinator.put entry
    { record with
      accountId
      causationIds := record.causationIds ++ causationId.toList }

/-- A run in progress is asked for one more, else the timer is set. -/
def wake (coordinator : SnapshotCoordinator) (entry : Nat)
    (providerId : Id) : SnapshotCoordinator :=
  let record := coordinator.entries entry
  if record.running then
    coordinator.put entry { record with dirty := true }
  else
    match record.timer with
    | some _ => coordinator
    | none => coordinator.setTimeout entry providerId

/-- One pass of the loop of `schedule`. -/
def scheduleOne (accountId : Id) (causationId : Option Id)
    (coordinator : SnapshotCoordinator) (providerId : Id) :
    SnapshotCoordinator :=
  let obtained := coordinator.obtain accountId providerId
  (obtained.2.collect accountId causationId obtained.1).wake obtained.1
    providerId

def schedule (coordinator : SnapshotCoordinator) (accountId : Id)
    (providerIds : List Id) (causationId : Option Id) : SnapshotCoordinator :=
  if coordinator.stopped then coordinator
  else providerIds.eraseDups.foldl (scheduleOne accountId causationId)
    coordinator

/-- A timer fires: it is gone before `run` begins. -/
def fired (coordinator : SnapshotCoordinator) (timer : CollapseTimer) :
    SnapshotCoordinator :=
  { coordinator with timers := coordinator.timers.erase timer }

/-- `run` up to its call of the publisher. -/
def beginRun (coordinator : SnapshotCoordinator) (providerId : Id) :
    Option (SnapshotRun × SnapshotCoordinator) :=
  match coordinator.pending providerId with
  | none => none
  | some entry =>
      if coordinator.stopped then none
      else
        let record := coordinator.entries entry
        some
          ({ entry
             accountId := record.accountId
             providerId
             causationId := record.causationIds.getLast?
             absorbedCausationIds := record.causationIds.dropLast },
            coordinator.put entry { record with
              timer := none
              running := true
              dirty := false
              causationIds := [] })

/-- The `finally` block of `run`. -/
def finishRun (coordinator : SnapshotCoordinator) (run : SnapshotRun) :
    SnapshotCoordinator :=
  let record := { coordinator.entries run.entry with running := false }
  let coordinator := coordinator.put run.entry record
  if record.dirty ∧ ¬coordinator.stopped then
    coordinator.setTimeout run.entry run.providerId
  else
    { coordinator with
      pending := Function.update coordinator.pending run.providerId none }

/-- The timer belongs to an entry of the map. -/
def holdsTimer (coordinator : SnapshotCoordinator) (timer : CollapseTimer) :
    Bool :=
  (coordinator.pending timer.providerId).any fun entry =>
    (coordinator.entries entry).timer = some timer.handle

def stop (coordinator : SnapshotCoordinator) : SnapshotCoordinator :=
  { coordinator with
    stopped := true
    timers := coordinator.timers.filter (!coordinator.holdsTimer ·)
    pending := fun _ => none }

/-! ## Stopping

No operation but `stop` touches `stopped`. -/

@[simp] theorem stopped_put (coordinator : SnapshotCoordinator) (entry : Nat)
    (record : Pending) :
    (coordinator.put entry record).stopped = coordinator.stopped := rfl

@[simp] theorem stopped_setTimeout (coordinator : SnapshotCoordinator)
    (entry : Nat) (providerId : Id) :
    (coordinator.setTimeout entry providerId).stopped =
      coordinator.stopped := rfl

@[simp] theorem stopped_obtain (coordinator : SnapshotCoordinator)
    (accountId providerId : Id) :
    (coordinator.obtain accountId providerId).2.stopped =
      coordinator.stopped := by
  unfold obtain
  split <;> rfl

@[simp] theorem stopped_wake (coordinator : SnapshotCoordinator) (entry : Nat)
    (providerId : Id) :
    (coordinator.wake entry providerId).stopped = coordinator.stopped := by
  simp only [wake]
  split
  · rfl
  · split <;> rfl

@[simp] theorem stopped_scheduleOne (accountId : Id) (causationId : Option Id)
    (coordinator : SnapshotCoordinator) (providerId : Id) :
    (scheduleOne accountId causationId coordinator providerId).stopped =
      coordinator.stopped := by
  simp [scheduleOne, collect]

@[simp] theorem stopped_schedule (coordinator : SnapshotCoordinator)
    (accountId : Id) (providerIds : List Id) (causationId : Option Id) :
    (coordinator.schedule accountId providerIds causationId).stopped =
      coordinator.stopped := by
  have folded (coordinator : SnapshotCoordinator) (providerIds : List Id) :
      (providerIds.foldl (scheduleOne accountId causationId)
        coordinator).stopped = coordinator.stopped := by
    induction providerIds generalizing coordinator with
    | nil => rfl
    | cons providerId providerIds ih => simp [ih]
  unfold schedule
  split
  · rfl
  · exact folded coordinator _

@[simp] theorem stopped_finishRun (coordinator : SnapshotCoordinator)
    (run : SnapshotRun) :
    (coordinator.finishRun run).stopped = coordinator.stopped := by
  simp only [finishRun]
  split <;> rfl

/-- A stopped coordinator starts no run. -/
theorem beginRun_of_stopped {coordinator : SnapshotCoordinator}
    (stopped : coordinator.stopped = true) (providerId : Id) :
    coordinator.beginRun providerId = none := by
  unfold beginRun
  cases coordinator.pending providerId with
  | none => rfl
  | some entry => simp [stopped]

/-! ## The view of one provider -/

/-- The part of the coordinator that belongs to one provider. -/
structure View where
  entry : Option Nat
  record : Option Pending
  timers : List CollapseTimer

def view (coordinator : SnapshotCoordinator) (providerId : Id) : View where
  entry := coordinator.pending providerId
  record := (coordinator.pending providerId).map coordinator.entries
  timers := coordinator.timers.filter (·.providerId = providerId)

/-- References are allocated, and no two providers share an entry. -/
structure WellFormed (coordinator : SnapshotCoordinator) : Prop where
  allocated : ∀ providerId entry,
    coordinator.pending providerId = some entry →
      entry < coordinator.nextEntry
  apart : ∀ left right entry, coordinator.pending left = some entry →
    coordinator.pending right = some entry → left = right

variable {coordinator : SnapshotCoordinator} {providerId other : Id}
variable {entry : Nat}

theorem WellFormed.put (formed : coordinator.WellFormed) (record : Pending) :
    (coordinator.put entry record).WellFormed :=
  ⟨formed.allocated, formed.apart⟩

theorem WellFormed.setTimeout (formed : coordinator.WellFormed) :
    (coordinator.setTimeout entry providerId).WellFormed :=
  ⟨formed.allocated, formed.apart⟩

theorem WellFormed.drop (formed : coordinator.WellFormed) :
    ({ coordinator with
      pending := Function.update coordinator.pending providerId none } :
        SnapshotCoordinator).WellFormed where
  allocated owner entry held := by
    by_cases own : owner = providerId
    · subst own
      simp at held
    · simp only [ne_eq, own, not_false_eq_true, Function.update_of_ne] at held
      exact formed.allocated owner entry held
  apart left right entry heldLeft heldRight := by
    by_cases ownLeft : left = providerId
    · subst ownLeft
      simp at heldLeft
    · by_cases ownRight : right = providerId
      · subst ownRight
        simp at heldRight
      · simp only [ne_eq, ownLeft, ownRight, not_false_eq_true,
          Function.update_of_ne] at heldLeft heldRight
        exact formed.apart left right entry heldLeft heldRight

theorem WellFormed.obtain (formed : coordinator.WellFormed) (accountId : Id) :
    (coordinator.obtain accountId providerId).2.WellFormed := by
  unfold SnapshotCoordinator.obtain
  cases found : coordinator.pending providerId with
  | some entry => exact formed
  | none =>
      constructor
      · intro owner entry held
        by_cases own : owner = providerId
        · subst own
          simp at held
          simp [← held]
        · simp only [ne_eq, own, not_false_eq_true,
            Function.update_of_ne] at held
          have earlier := formed.allocated owner entry held
          exact Nat.lt_succ_of_lt earlier
      · intro left right entry heldLeft heldRight
        by_cases ownLeft : left = providerId <;>
          by_cases ownRight : right = providerId
        · rw [ownLeft, ownRight]
        · subst ownLeft
          simp only [Function.update_self, Option.some.injEq] at heldLeft
          simp only [ne_eq, ownRight, not_false_eq_true,
            Function.update_of_ne] at heldRight
          have earlier := formed.allocated right entry heldRight
          omega
        · subst ownRight
          simp only [Function.update_self, Option.some.injEq] at heldRight
          simp only [ne_eq, ownLeft, not_false_eq_true,
            Function.update_of_ne] at heldLeft
          have earlier := formed.allocated left entry heldLeft
          omega
        · simp only [ne_eq, ownLeft, ownRight, not_false_eq_true,
            Function.update_of_ne] at heldLeft heldRight
          exact formed.apart left right entry heldLeft heldRight

/-! ### What an operation leaves alone -/

theorem view_put_other (formed : coordinator.WellFormed)
    (held : coordinator.pending providerId = some entry)
    (apart : other ≠ providerId) (record : Pending) :
    (coordinator.put entry record).view other = coordinator.view other := by
  simp only [view, SnapshotCoordinator.put, View.mk.injEq, true_and, and_true]
  cases found : coordinator.pending other with
  | none => rfl
  | some otherEntry =>
      have different : otherEntry ≠ entry := by
        intro same
        subst same
        exact apart (formed.apart other providerId _ found held)
      simp [different]

theorem view_setTimeout_other (formed : coordinator.WellFormed)
    (held : coordinator.pending providerId = some entry)
    (apart : other ≠ providerId) :
    (coordinator.setTimeout entry providerId).view other =
      coordinator.view other := by
  have kept := view_put_other formed held apart
    { coordinator.entries entry with timer := some coordinator.nextTimer }
  simp only [view, View.mk.injEq] at kept
  simp only [view, SnapshotCoordinator.setTimeout, View.mk.injEq]
  refine ⟨kept.1, kept.2.1, ?_⟩
  simp [Ne.symm apart]

theorem obtain_held (coordinator : SnapshotCoordinator)
    (accountId providerId : Id) :
    (coordinator.obtain accountId providerId).2.pending providerId =
      some (coordinator.obtain accountId providerId).1 := by
  unfold SnapshotCoordinator.obtain
  cases found : coordinator.pending providerId with
  | some entry => exact found
  | none => simp

theorem view_obtain_other (formed : coordinator.WellFormed)
    (apart : other ≠ providerId) (accountId : Id) :
    (coordinator.obtain accountId providerId).2.view other =
      coordinator.view other := by
  unfold SnapshotCoordinator.obtain
  cases found : coordinator.pending providerId with
  | some entry => rfl
  | none =>
      simp only [view, SnapshotCoordinator.put, ne_eq, apart,
        not_false_eq_true, Function.update_of_ne, View.mk.injEq, true_and,
        and_true]
      cases foundOther : coordinator.pending other with
      | none => rfl
      | some otherEntry =>
          have earlier := formed.allocated other otherEntry foundOther
          have different : otherEntry ≠ coordinator.nextEntry := by omega
          simp [different]

theorem view_fired_other {timer : CollapseTimer}
    (apart : other ≠ timer.providerId) :
    (coordinator.fired timer).view other = coordinator.view other := by
  have absent : timer ∉ coordinator.timers.filter (·.providerId = other) := by
    intro member
    have own := (List.mem_filter.mp member).2
    exact apart (of_decide_eq_true own).symm
  simp only [view, fired, View.mk.injEq, true_and]
  rw [← List.erase_filter, List.erase_of_not_mem absent]

theorem view_wake_other (formed : coordinator.WellFormed)
    (held : coordinator.pending providerId = some entry)
    (apart : other ≠ providerId) :
    (coordinator.wake entry providerId).view other =
      coordinator.view other := by
  simp only [wake]
  split
  · exact view_put_other formed held apart _
  · split
    · rfl
    · exact view_setTimeout_other formed held apart

theorem view_scheduleOne_other (formed : coordinator.WellFormed)
    (apart : other ≠ providerId) (accountId : Id) (causationId : Option Id) :
    (scheduleOne accountId causationId coordinator providerId).view other =
      coordinator.view other := by
  have obtained : (coordinator.obtain accountId providerId).2.WellFormed :=
    formed.obtain accountId
  have held := obtain_held coordinator accountId providerId
  calc
    _ = ((coordinator.obtain accountId providerId).2.collect accountId
          causationId (coordinator.obtain accountId providerId).1).view
            other := view_wake_other (obtained.put _) held apart
    _ = (coordinator.obtain accountId providerId).2.view other :=
        view_put_other obtained held apart _
    _ = coordinator.view other := view_obtain_other formed apart accountId

theorem view_finishRun_other {run : SnapshotRun}
    (formed : coordinator.WellFormed)
    (held : coordinator.pending run.providerId = some run.entry)
    (apart : other ≠ run.providerId) :
    (coordinator.finishRun run).view other = coordinator.view other := by
  have kept := view_put_other formed held apart
    { coordinator.entries run.entry with running := false }
  simp only [finishRun]
  split
  · rw [view_setTimeout_other (formed.put _) held apart, kept]
  · rw [← kept]
    simp [view, apart]

theorem WellFormed.wake (formed : coordinator.WellFormed) :
    (coordinator.wake entry providerId).WellFormed := by
  simp only [SnapshotCoordinator.wake]
  split
  · exact formed.put _
  · split
    · exact formed
    · exact formed.setTimeout

theorem WellFormed.scheduleOne (formed : coordinator.WellFormed)
    (accountId : Id) (causationId : Option Id) :
    (SnapshotCoordinator.scheduleOne accountId causationId coordinator
      providerId).WellFormed := by
  have obtained : (coordinator.obtain accountId providerId).2.WellFormed :=
    formed.obtain accountId
  exact (obtained.put _).wake

theorem WellFormed.fired (formed : coordinator.WellFormed)
    (timer : CollapseTimer) : (coordinator.fired timer).WellFormed :=
  ⟨formed.allocated, formed.apart⟩

theorem WellFormed.finishRun (formed : coordinator.WellFormed)
    (run : SnapshotRun) : (coordinator.finishRun run).WellFormed := by
  simp only [SnapshotCoordinator.finishRun]
  split
  · exact (formed.put _).setTimeout
  · exact (formed.put _).drop

theorem beginRun_cases {run : SnapshotRun} {next : SnapshotCoordinator}
    (begun : coordinator.beginRun providerId = some (run, next)) :
    coordinator.pending providerId = some run.entry ∧
      run.providerId = providerId ∧ coordinator.stopped = false ∧
      ∃ record, next = coordinator.put run.entry record := by
  unfold beginRun at begun
  cases held : coordinator.pending providerId with
  | none => simp [held] at begun
  | some entry =>
      cases stopped : coordinator.stopped with
      | true => simp [held, stopped] at begun
      | false =>
          simp only [held, stopped, Bool.false_eq_true, ↓reduceIte,
            Option.some.injEq, Prod.mk.injEq] at begun
          obtain ⟨rfl, rfl⟩ := begun
          exact ⟨rfl, rfl, rfl, _, rfl⟩

/-! ### What an operation does to its own provider -/

theorem view_scheduleOne_idle
    (seen : coordinator.view providerId = ⟨none, none, []⟩)
    (accountId : Id) (causationId : Option Id) :
    (scheduleOne accountId causationId coordinator providerId).view
      providerId =
      ⟨some coordinator.nextEntry,
        some ⟨accountId, causationId.toList, some coordinator.nextTimer,
          false, false⟩,
        [⟨coordinator.nextTimer, providerId⟩]⟩ := by
  simp only [view, View.mk.injEq, Option.map_eq_none_iff] at seen
  obtain ⟨absent, -, timers⟩ := seen
  simp [scheduleOne, obtain, collect, wake, setTimeout, put, view, absent,
    timers]

theorem view_scheduleOne_held {accountId : Id} {causes : List Id}
    {timer : Option Nat} {running dirty : Bool} {timers : List CollapseTimer}
    (seen : coordinator.view providerId =
      ⟨some entry, some ⟨accountId, causes, timer, running, dirty⟩, timers⟩)
    (busy : running = true ∨ timer.isSome) (nextAccount : Id)
    (causationId : Option Id) :
    (scheduleOne nextAccount causationId coordinator providerId).view
      providerId =
      ⟨some entry,
        some ⟨nextAccount, causes ++ causationId.toList, timer, running,
          running || dirty⟩,
        timers⟩ := by
  simp only [view, View.mk.injEq] at seen
  obtain ⟨held, record, armed⟩ := seen
  rw [held, Option.map_some, Option.some.injEq] at record
  cases running with
  | true =>
      simp [scheduleOne, obtain, collect, wake, put, view, held, record, armed]
  | false =>
      cases timer with
      | none => simp at busy
      | some handle =>
          simp [scheduleOne, obtain, collect, wake, put, view, held, record,
            armed]

theorem view_fired {timer : CollapseTimer} {entry : Option Nat}
    {record : Option Pending}
    (seen : coordinator.view timer.providerId = ⟨entry, record, [timer]⟩) :
    (coordinator.fired timer).view timer.providerId = ⟨entry, record, []⟩ := by
  simp only [view, View.mk.injEq] at seen
  obtain ⟨held, found, armed⟩ := seen
  simp only [view, fired, View.mk.injEq]
  refine ⟨held, found, ?_⟩
  rw [← List.erase_filter, armed]
  simp

/-- The run a timer starts, with the view it leaves behind. -/
theorem beginRun_of_view {accountId : Id} {causes : List Id}
    {timer : Option Nat} {running dirty : Bool} {timers : List CollapseTimer}
    (seen : coordinator.view providerId =
      ⟨some entry, some ⟨accountId, causes, timer, running, dirty⟩, timers⟩)
    (going : coordinator.stopped = false) :
    ∃ next, coordinator.beginRun providerId =
        some (⟨entry, accountId, providerId, causes.getLast?,
          causes.dropLast⟩, next) ∧
      next.view providerId =
        ⟨some entry, some ⟨accountId, [], none, true, false⟩, timers⟩ := by
  simp only [view, View.mk.injEq] at seen
  obtain ⟨held, record, armed⟩ := seen
  rw [held, Option.map_some, Option.some.injEq] at record
  refine ⟨coordinator.put entry ⟨accountId, [], none, true, false⟩, ?_, ?_⟩
  · simp [beginRun, held, going, record]
  · simp [view, put, held, armed]

theorem view_finishRun_dirty {run : SnapshotRun} {accountId : Id}
    {causes : List Id} {timer : Option Nat} {running : Bool}
    {timers : List CollapseTimer}
    (seen : coordinator.view run.providerId =
      ⟨some run.entry, some ⟨accountId, causes, timer, running, true⟩, timers⟩)
    (going : coordinator.stopped = false) :
    (coordinator.finishRun run).view run.providerId =
      ⟨some run.entry,
        some ⟨accountId, causes, some coordinator.nextTimer, false, true⟩,
        timers ++ [⟨coordinator.nextTimer, run.providerId⟩]⟩ := by
  simp only [view, View.mk.injEq] at seen
  obtain ⟨held, record, armed⟩ := seen
  rw [held, Option.map_some, Option.some.injEq] at record
  simp [finishRun, setTimeout, put, view, held, record, armed, going]

theorem view_finishRun_clean {run : SnapshotRun} {accountId : Id}
    {causes : List Id} {timer : Option Nat} {running : Bool}
    {timers : List CollapseTimer}
    (seen : coordinator.view run.providerId =
      ⟨some run.entry, some ⟨accountId, causes, timer, running, false⟩,
        timers⟩) :
    (coordinator.finishRun run).view run.providerId =
      ⟨none, none, timers⟩ := by
  simp only [view, View.mk.injEq] at seen
  obtain ⟨held, record, armed⟩ := seen
  rw [held, Option.map_some, Option.some.injEq] at record
  simp [finishRun, put, view, record, armed]

end SnapshotCoordinator

end FluxIP
