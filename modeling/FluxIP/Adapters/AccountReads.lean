import FluxIP.Adapters.DebounceWorker
import FluxIP.Adapters.History
import FluxIP.Adapters.Steps
import FluxIP.Async.Lockstep
import FluxIP.Domain.DeliveryActions
import FluxIP.Domain.Snapshot

/-!
# Programs that read one account

Whoever reads the event store under one account sees that account's events and
no others: what it makes of them does not depend on the rest of the store.
-/

namespace FluxIP

open Async

/-- The events of one account in the order of their insertion. -/
def EventStore.eventsOf (store : EventStore) (accountId : Id) :
    List StoredEvent :=
  store.events.filter (·.accountId = accountId)

/-- The call reads under this account. -/
def Call.readsFor (accountId : Id) : Call → Prop
  | .store (.readStream params) => params.accountId = accountId
  | .store (.listAggregateIds owner _) => owner = accountId
  | _ => False

/-- The call reads under this account, draws an id or adds a job. -/
def Call.fansOutFor (accountId : Id) : Call → Prop
  | .clock .randomUUID => True
  | .queue (.addExecution _ _) => True
  | call => Call.readsFor accountId call

namespace EventStore

variable {left right : EventStore} {accountId : Id}

theorem readStream_of_eventsOf
    (same : left.eventsOf accountId = right.eventsOf accountId)
    {params : ReadStreamParams} (own : params.accountId = accountId) :
    left.readStream params = right.readStream params := by
  subst own
  have swap (store : EventStore) :
      (store.stream params.aggregateType params.aggregateId).filter
          (·.accountId = params.accountId) =
        (store.eventsOf params.accountId).filter
          (·.isOf params.aggregateType params.aggregateId) := by
    unfold stream eventsOf
    exact List.filter_comm _ _ _
  unfold readStream
  rw [swap, swap, same]

theorem listAggregateIds_of_eventsOf
    (same : left.eventsOf accountId = right.eventsOf accountId)
    (aggregateType : AggregateType) (rows : List Id) :
    left.listAggregateIds accountId aggregateType rows =
      right.listAggregateIds accountId aggregateType rows := by
  have split (store : EventStore) :
      (store.events.filter fun event =>
          event.accountId = accountId ∧ event.aggregateType = aggregateType) =
        (store.eventsOf accountId).filter
          (·.aggregateType = aggregateType) := by
    unfold eventsOf
    rw [List.filter_filter]
    apply List.filter_congr
    intro event _
    simp [Bool.and_comm]
  unfold listAggregateIds
  rw [split, split, same]

end EventStore

variable {accountId : Id} {α : Type}

/-! ## The calls of the programs -/

section Calls

variable {allowed : Call → Prop}

theorem loadAggregate_calls {State : Type} {params : ReadStreamParams}
    {initialState : State} {reducer : State → StoredEvent → State}
    (reads : ∀ call, Call.readsFor accountId call → allowed call)
    (own : params.accountId = accountId) :
    (loadAggregate params initialState reducer).Calls allowed := by
  apply Program.Calls.bind
  · exact (Backend.calls_call (.store (.readStream params))).mpr (reads _ own)
  · exact fun _ => trivial

theorem listAggregateIds_calls
    (reads : ∀ call, Call.readsFor accountId call → allowed call)
    (aggregateType : AggregateType) :
    (Backend.listAggregateIds accountId aggregateType).Calls allowed :=
  (Backend.calls_call (.store
    (.listAggregateIds accountId aggregateType))).mpr (reads _ rfl)

variable (reads : ∀ call, Call.readsFor accountId call → allowed call)

include reads

theorem listDeliveryActions_calls :
    (listDeliveryActions accountId).Calls allowed := by
  apply Program.Calls.bind (listAggregateIds_calls reads _)
  intro actionIds
  induction actionIds with
  | nil => trivial
  | cons actionId actionIds ih =>
      apply Program.Calls.bind (loadAggregate_calls reads rfl)
      intro loaded
      apply ih.bind
      exact fun _ => trivial

theorem snapshotMembers_calls (providerId : Id) (actionIds : List Id) :
    (snapshotMembers accountId providerId actionIds).Calls allowed := by
  induction actionIds with
  | nil => trivial
  | cons actionId actionIds ih =>
      apply Program.Calls.bind (loadAggregate_calls reads rfl)
      intro loaded
      apply ih.bind
      exact fun _ => trivial

theorem collectGroups_calls (text : SnapshotText)
    (cache : List (Id × Option SnapshotDevice)) (groups : SnapshotGroups)
    (members : List SnapshotMember) :
    (collectGroups text accountId cache groups members).Calls allowed := by
  induction members generalizing cache groups with
  | nil => trivial
  | cons member members ih =>
      unfold collectGroups
      split
      · exact ih _ _
      · apply Program.Calls.bind (loadAggregate_calls reads rfl)
        exact fun loaded => ih _ _

theorem buildSnapshotContent_calls (text : SnapshotText) (providerId : Id)
    (providerName : String) :
    (buildSnapshotContent text accountId providerId providerName).Calls
      allowed := by
  apply Program.Calls.bind (listAggregateIds_calls reads _)
  intro actionIds
  apply Program.Calls.bind (snapshotMembers_calls reads _ _)
  intro members
  apply Program.Calls.bind (collectGroups_calls reads _ _ _ _)
  exact fun _ => trivial

theorem relevantActionsOf_calls (ipClientId : Id) (actionIds : List Id) :
    (IpClientHistory.relevantActionsOf accountId ipClientId actionIds).Calls
      allowed := by
  induction actionIds with
  | nil => trivial
  | cons actionId actionIds ih =>
      apply Program.Calls.bind (loadAggregate_calls reads rfl)
      intro loaded
      apply ih.bind
      exact fun _ => trivial

theorem executionsOf_calls (relevantActions : List (Id × ActionState))
    (executionIds : List Id) :
    (IpClientHistory.executionsOf accountId relevantActions
      executionIds).Calls allowed := by
  induction executionIds with
  | nil => trivial
  | cons executionId executionIds ih =>
      apply Program.Calls.bind (loadAggregate_calls reads rfl)
      intro loaded
      apply ih.bind
      exact fun _ => trivial

theorem providersOf_calls (providerIds : List Id) :
    (IpClientHistory.providersOf accountId providerIds).Calls allowed := by
  induction providerIds with
  | nil => trivial
  | cons providerId providerIds ih =>
      apply Program.Calls.bind (loadAggregate_calls reads rfl)
      intro loaded
      apply ih.bind
      exact fun _ => trivial

theorem history_calls (ipClientId : Id) :
    (IpClientHistory.get accountId ipClientId).Calls allowed := by
  apply Program.Calls.bind (loadAggregate_calls reads rfl)
  intro loaded
  split
  · apply Program.Calls.bind (listAggregateIds_calls reads _)
    intro actionIds
    apply Program.Calls.bind (relevantActionsOf_calls reads _ _)
    intro relevantActions
    apply Program.Calls.bind (listAggregateIds_calls reads _)
    intro executionIds
    apply Program.Calls.bind (executionsOf_calls reads _ _)
    intro executions
    apply Program.Calls.bind (providersOf_calls reads _)
    exact fun _ => trivial
  · trivial

end Calls

theorem fanOutActionExecutions_calls (params : FanOutParams) :
    (fanOutActionExecutions params).Calls
      (Call.fansOutFor params.accountId) := by
  have reads : ∀ call, Call.readsFor params.accountId call →
      Call.fansOutFor params.accountId call := by
    intro call isRead
    cases call with
    | store call => exact isRead
    | _ => exact isRead.elim
  apply Program.Calls.bind (listAggregateIds_calls reads _)
  intro actionIds
  induction actionIds with
  | nil => trivial
  | cons actionId actionIds ih =>
      apply Program.Calls.bind
      · apply Program.Calls.bind (loadAggregate_calls reads rfl)
        intro loaded
        split
        · apply Program.Calls.bind
          · exact (Backend.calls_call (.clock .randomUUID)).mpr trivial
          intro executionId
          exact (Backend.calls_call (.queue (.addExecution _ _))).mpr trivial
        · trivial
      · exact fun _ => ih

/-! ## Two worlds -/

/-- The account has the same events in both worlds. -/
def SameEvents (accountId : Id) (left right : World) : Prop :=
  left.store.eventsOf accountId = right.store.eventsOf accountId

/-- Besides, the next id that is drawn is the same. -/
def SameDraws (accountId : Id) (left right : World) : Prop :=
  SameEvents accountId left right ∧ left.nextUUID = right.nextUUID

theorem outside_lockstep {related : World → World → Prop} {choice : Choice}
    {effect : Effect α} {left right : World} (relates : related left right)
    (same : (effect left).1 = (effect right).1)
    (next : related (effect left).2 (effect right).2) :
    (outside choice effect left).1 = (outside choice effect right).1 ∧
      related (outside choice effect left).2
        (outside choice effect right).2 := by
  unfold outside
  split
  · exact ⟨same, next⟩
  · exact ⟨rfl, relates⟩
  · exact ⟨rfl, next⟩

/-- A read answers alike where the account has the same events. -/
theorem reads_lockstep {related : World → World → Prop}
    (events : ∀ left right, related left right →
      SameEvents accountId left right)
    (elapses : ∀ left right elapsed, related left right →
      related (left.elapse elapsed) (right.elapse elapsed))
    {call : Call} (isRead : Call.readsFor accountId call) (choice : Choice)
    {left right : World} (relates : related left right) :
    Option.Rel (fun first second =>
        first.1 = second.1 ∧ related first.2 second.2)
      (semantics call choice left) (semantics call choice right) := by
  have relatesNext := elapses left right choice.elapsed relates
  have same := events _ _ relatesNext
  cases call with
  | store call =>
      cases call with
      | readStream params =>
          apply Option.Rel.some
          apply outside_lockstep relatesNext
          · exact congrArg Except.ok
              (EventStore.readStream_of_eventsOf same isRead)
          · exact relatesNext
      | listAggregateIds owner aggregateType =>
          cases isRead
          apply Option.Rel.some
          apply outside_lockstep relatesNext
          · exact congrArg Except.ok
              (EventStore.listAggregateIds_of_eventsOf same aggregateType
                choice.rows)
          · exact relatesNext
      | _ => exact isRead.elim
  | _ => exact isRead.elim

theorem readsFor_lockstep (accountId : Id) :
    Lockstep semantics (SameEvents accountId) (Call.readsFor accountId) := by
  intro call isRead choice left right relates
  exact reads_lockstep (fun _ _ => id) (fun _ _ _ => id) isRead choice relates

theorem fansOutFor_lockstep (accountId : Id) :
    Lockstep semantics (SameDraws accountId) (Call.fansOutFor accountId) := by
  intro call fansOut choice left right relates
  have events : ∀ left right, SameDraws accountId left right →
      SameEvents accountId left right := fun _ _ => And.left
  have reads (isRead : Call.readsFor accountId call) :=
    reads_lockstep events (fun _ _ _ => id) isRead choice relates
  cases call with
  | store call => exact reads fansOut
  | clock call =>
      cases call with
      | randomUUID =>
          apply Option.Rel.some
          exact ⟨congrArg Except.ok relates.2, relates.1,
            congrArg (· + 1) relates.2⟩
      | _ => exact fansOut.elim
  | queue call =>
      cases call with
      | addExecution jobId data =>
          apply Option.Rel.some
          have relatesNext : SameDraws accountId
              (left.elapse choice.elapsed) (right.elapse choice.elapsed) :=
            relates
          exact outside_lockstep relatesNext rfl relatesNext
      | _ => exact fansOut.elim
  | _ => exact fansOut.elim

end FluxIP
