import FluxIP.Adapters.Decisions
import FluxIP.Adapters.SnapshotBuild

/-!
# Changes are scheduled

Whether a command that changes what a provider's snapshot shows also hands the
provider to the snapshot scheduler.  A command runs alone, with an exception
possible at every call; what a snapshot shows is what `buildSnapshotContent`
returns on the event store before and after it.
-/

namespace FluxIP

open Async

/-- The account has this provider, and it is not deleted. -/
def ActiveProvider (store : EventStore) (accountId providerId : Id) : Prop :=
  ProviderStore.isActive accountId (providerState store accountId providerId) =
    true

/-- The snapshot of the provider shows something else. -/
def ContentChanges (text : SnapshotText) (before after : World)
    (accountId providerId : Id) : Prop :=
  ∃ content content', Builds text before accountId providerId content ∧
    Builds text after accountId providerId content' ∧ content ≠ content'

/-- The provider was among the ids of a call of the scheduler. -/
def PassedToScheduler (history : BackendHistory) (providerId : Id) : Prop :=
  ∃ accountId providerIds causationId answer,
    @Answered.mk backend Err
        (.process (.schedule accountId providerIds causationId)) answer ∈
      history ∧ providerId ∈ providerIds

/-- Every active provider whose content changes was passed to the scheduler. -/
def EveryChangeScheduled (text : SnapshotText) (before after : World)
    (history : BackendHistory) : Prop :=
  ∀ accountId providerId,
    ActiveProvider before.store accountId providerId →
    ActiveProvider after.store accountId providerId →
    ContentChanges text before after accountId providerId →
    PassedToScheduler history providerId

/-- The commands that change actions, devices or the name of a provider. -/
def BackendCommand.managesDelivery : BackendCommand → Bool
  | .action _ (.run _) => false
  | .action _ _ => true
  | .ipClient _ (.enable _) => true
  | .ipClient _ (.disable _) => true
  | .ipClient _ (.decommission _) => true
  | .settle _ => true
  | .provider (.patch _ _ _ _) => true
  | _ => false

/-- The command asks for another name of a provider. -/
def BackendCommand.renames (store : EventStore) : BackendCommand → Prop
  | .provider (.patch accountId providerId name _) =>
      TraefikProviders.requestedName name ≠
        (providerState store accountId providerId).name
  | _ => False

namespace ChangesScheduled

open SnapshotBuild

variable {text : SnapshotText} {before after store next : EventStore}
variable {accountId providerId : Id}

/-! ## What a change affects -/

/-- The provider has the name and the members it had, and these have the
devices they had. -/
structure Unaffected (text : SnapshotText) (before after : EventStore)
    (accountId providerId : Id) : Prop where
  name : (providerState before accountId providerId).name =
    (providerState after accountId providerId).name
  members : ∀ member, HasMember before accountId providerId member ↔
    HasMember after accountId providerId member
  devices : ∀ member, HasMember before accountId providerId member →
    deviceIn text before accountId member.ipClientId =
      deviceIn text after accountId member.ipClientId

/-- Only this stream changes. -/
def ChangesOnly (params : ReadStreamParams) (before after : EventStore) :
    Prop :=
  ∀ other, other ≠ params → before.readStream other = after.readStream other

/-- Every provider that is affected is among these. -/
def Covers (text : SnapshotText) (before after : EventStore)
    (providerIds : List Id) : Prop :=
  ∀ accountId providerId,
    Unaffected text before after accountId providerId ∨
      providerId ∈ providerIds

theorem Unaffected.refl (text : SnapshotText) (store : EventStore)
    (accountId providerId : Id) :
    Unaffected text store store accountId providerId :=
  ⟨rfl, fun _ => Iff.rfl, fun _ _ => rfl⟩

theorem covers_same (text : SnapshotText) (store : EventStore) :
    Covers text store store [] :=
  fun accountId providerId =>
    Or.inl (Unaffected.refl text store accountId providerId)

theorem append_changesOnly {input : AppendEventInput} {event : StoredEvent}
    (appended : store.append input = (.ok event, next)) :
    ChangesOnly input.params store next := by
  intro other different
  rcases EventStore.append_cases appended with
    ⟨_, ⟨⟩, ofType, ofId, -, ofAccount, -, -, -, rfl⟩ | ⟨conflict, -⟩
  · unfold EventStore.readStream
    rw [EventStore.stream_append_event, List.filter_append]
    have nothing : (if event.isOf other.aggregateType other.aggregateId then
        [event] else []).filter (·.accountId = other.accountId) = [] := by
      by_cases here : event.isOf other.aggregateType other.aggregateId = true
      · rw [if_pos here]
        simp only [List.filter_cons, List.filter_nil, decide_eq_true_eq]
        split
        · rename_i own
          obtain ⟨sameType, sameId⟩ := EventStore.isOf_iff.mp here
          refine absurd ?_ different
          obtain ⟨otherAccount, otherType, otherId⟩ := other
          simp only [AppendEventInput.params, ReadStreamParams.mk.injEq]
          exact ⟨own.symm.trans ofAccount, sameType.symm.trans ofType,
            sameId.symm.trans ofId⟩
        · rfl
      · rw [if_neg here]
        rfl
    rw [nothing, List.append_nil]
  · cases conflict

/-- An append at the position after the stream adds its event there. -/
theorem append_reads {input : AppendEventInput} {event : StoredEvent}
    (sequenced : store.Sequenced)
    (expected : input.expectedSequenceNumber =
      (store.readStream input.params).length + 1)
    (appended : store.append input = (.ok event, next)) :
    event.data = input.data ∧
      next.readStream input.params = store.readStream input.params ++
        [event] := by
  have sequencedNext := sequenced.append_loaded input.params sequenced
    (.refl store) rfl rfl rfl expected appended
  have reads := EventStore.readStream_append sequenced sequencedNext appended
    input.params
  rcases EventStore.append_cases appended with
    ⟨_, ⟨⟩, ofType, ofId, -, ofAccount, written, -⟩ | ⟨conflict, -⟩
  · refine ⟨written, ?_⟩
    rw [reads, if_pos ⟨EventStore.isOf_iff.mpr ⟨ofType, ofId⟩, ofAccount⟩]
  · cases conflict

/-! ## Actions -/

/-- A member of a provider comes from an action that delivers there. -/
theorem target_of_member {state : ActionState} {member : SnapshotMember}
    (contributes : state.snapshotMember providerId = some member) :
    Actions.deliveryTarget state = some providerId := by
  unfold ActionState.snapshotMember at contributes
  split at contributes
  · rename_i config isDelivery _ _ configured
    split at contributes
    · rename_i target
      rw [Actions.deliveryTarget, if_pos isDelivery, configured]
      exact congrArg some target
    · cases contributes
  · cases contributes

/-- A change of an action affects the providers it delivers to, before or
after. -/
theorem action_affects {actionId : Id}
    (changes : ChangesOnly ⟨accountId, .action, actionId⟩ before after)
    (owner providerId : Id) :
    Unaffected text before after owner providerId ∨
      Actions.deliveryTarget (actionIn before accountId actionId) =
          some providerId ∨
        Actions.deliveryTarget (actionIn after accountId actionId) =
          some providerId := by
  by_cases target :
      Actions.deliveryTarget (actionIn before accountId actionId) =
          some providerId ∨
        Actions.deliveryTarget (actionIn after accountId actionId) =
          some providerId
  · exact Or.inr target
  left
  obtain ⟨notBefore, notAfter⟩ := not_or.mp target
  have sameAction : ∀ otherId,
      (actionIn before owner otherId).snapshotMember providerId =
        (actionIn after owner otherId).snapshotMember providerId := by
    intro otherId
    by_cases own : owner = accountId ∧ otherId = actionId
    · obtain ⟨rfl, rfl⟩ := own
      have none : ∀ state : ActionState,
          Actions.deliveryTarget state ≠ some providerId →
          state.snapshotMember providerId = none := by
        intro state notTarget
        cases contributes : state.snapshotMember providerId with
        | none => rfl
        | some member => exact absurd (target_of_member contributes) notTarget
      rw [none _ notBefore, none _ notAfter]
    · have other := changes ⟨owner, .action, otherId⟩ (by simpa using own)
      unfold actionIn
      rw [other]
  constructor
  · unfold providerState
    rw [changes _ (by simp)]
  · intro member
    unfold HasMember
    simp only [sameAction]
  · intro member _
    unfold deviceIn ipClientIn
    rw [changes _ (by simp)]

/-! ## Devices -/

/-- The action delivers the device to the provider, unless it is skipped. -/
def Delivers (state : ActionState) (actionId ipClientId providerId : Id) :
    Prop :=
  ∃ action, state.deliveryAction actionId = some action ∧
    action.ipClientId = ipClientId ∧ action.traefikProviderId = providerId

theorem delivers_of_member {state : ActionState} {member : SnapshotMember}
    (actionId : Id)
    (contributes : state.snapshotMember providerId = some member) :
    Delivers state actionId member.ipClientId providerId := by
  unfold ActionState.snapshotMember at contributes
  split at contributes
  · rename_i ipClientId config isDelivery enabled client configured
    split at contributes
    · rename_i target
      cases contributes
      refine ⟨⟨actionId, ipClientId, config.traefikProviderId, config.group,
        state.status⟩, ?_, rfl, target⟩
      simp [ActionState.deliveryAction, isDelivery, enabled, client,
        configured]
    · cases contributes
  · cases contributes

/-- A change of a device affects the providers it is delivered to. -/
theorem device_affects {ipClientId : Id}
    (changes : ChangesOnly ⟨accountId, .ipClient, ipClientId⟩ before after)
    (owner providerId : Id) :
    Unaffected text before after owner providerId ∨
      ∃ actionId, Delivers (actionIn after accountId actionId) actionId
        ipClientId providerId := by
  by_cases delivered : ∃ actionId,
      Delivers (actionIn after accountId actionId) actionId ipClientId
        providerId
  · exact Or.inr delivered
  left
  have sameAction : ∀ actionId,
      actionIn before owner actionId = actionIn after owner actionId := by
    intro actionId
    unfold actionIn
    rw [changes _ (by simp)]
  constructor
  · unfold providerState
    rw [changes _ (by simp)]
  · intro member
    unfold HasMember
    simp only [sameAction]
  · rintro member ⟨actionId, contributes⟩
    rw [sameAction] at contributes
    have delivers := delivers_of_member actionId contributes
    have other := changes ⟨owner, .ipClient, member.ipClientId⟩ (by
      intro same
      cases same
      exact delivered ⟨actionId, delivers⟩)
    unfold deviceIn ipClientIn
    rw [other]

/-! ## What the commands read -/

theorem listDeliveryActions_finds {reading : Reading} (accountId : Id) :
    Finds reading store (listDeliveryActions accountId) fun actions =>
      ∀ actionId action,
        (actionIn store accountId actionId).deliveryAction actionId =
          some action → action ∈ actions := by
  have all : ∀ actionIds, Finds reading store
      (deliveryActionsOf accountId actionIds)
      (· = actionIds.filterMap fun actionId =>
        (actionIn store accountId actionId).deliveryAction actionId) := by
    intro actionIds
    induction actionIds with
    | nil => exact Finds.done rfl
    | cons actionId actionIds ih =>
        apply Finds.bind Finds.load
        rintro loaded rfl
        apply Finds.bind ih
        rintro rest rfl
        apply Finds.done
        rw [List.filterMap_cons]
        unfold actionIn
        split
        · rename_i nothing
          rw [nothing]
          rfl
        · rename_i action found
          rw [found]
          rfl
  apply Finds.bind Finds.list
  rintro ids ⟨rows, rfl⟩
  apply (all _).mono
  rintro actions rfl actionId action delivers
  apply List.mem_filterMap.mpr
  refine ⟨actionId, ?_, delivers⟩
  by_contra unlisted
  rw [actionIn_unlisted unlisted] at delivers
  cases delivers

theorem providersOfDevice_finds {reading : Reading}
    (accountId ipClientId : Id) :
    Finds reading store (providersOfDevice accountId ipClientId)
      fun providerIds => ∀ actionId providerId,
        Delivers (actionIn store accountId actionId) actionId ipClientId
          providerId → providerId ∈ providerIds := by
  apply Finds.bind (listDeliveryActions_finds accountId)
  intro actions complete
  apply Finds.done
  rintro actionId providerId ⟨action, delivers, rfl, rfl⟩
  simp only [List.mem_eraseDups, List.mem_map, List.mem_filter,
    decide_eq_true_eq]
  exact ⟨action, ⟨complete actionId action delivers, rfl⟩, rfl⟩

/-! ## Running alone -/

/-- The store is this one, and these providers were passed to the scheduler. -/
structure Reached (store : EventStore) (providerIds : List Id)
    (history : BackendHistory) (world : World) : Prop where
  store : world.store = store
  passed : ∀ providerId ∈ providerIds, PassedToScheduler history providerId

/-- No other party acts, and every call may fail. -/
abbrev alone : Contract backend Err Choice World := Reading.fallible.contract

/-- A postcondition that only matters where the program returns. -/
abbrev onReturn {α : Type} (holds : α → BackendHistory → World → Prop) :
    BackendHistory → Outcome Err α → World → Prop :=
  yielding holds (fun _ _ => True) fun _ _ => True

variable {α : Type} {program : Backend α} {history : BackendHistory}
variable {world : World} {providerIds : List Id}

theorem passed_later (passed : PassedToScheduler history providerId)
    (answered : Answered backend Err) :
    PassedToScheduler (history ++ [answered]) providerId := by
  obtain ⟨accountId, providerIds, causationId, answer, call, member⟩ := passed
  exact ⟨accountId, providerIds, causationId, answer,
    List.mem_append_left _ call, member⟩

/-- A program that does not write to the store. -/
theorem kept_spec
    (calls : program.Calls fun call => Call.keepsStore call = true)
    (here : Reached store providerIds history world) :
    program.Ensures semantics alone
      (ending (Reached store providerIds) (Reached store providerIds)
        (Reached store providerIds)) history world := by
  apply Program.Ensures.frame calls _ _ here
  · rintro history world _ here ⟨-, rfl⟩
    exact here
  · intro history world call choice answer after keeps _ here _ result
    refine ⟨⟨trivial, trivial⟩, ?_, ?_⟩
    · rw [store_frame result keeps]
      exact here.store
    · exact fun providerId member =>
        passed_later (here.passed providerId member) _

theorem keeps_spec
    (calls : program.Calls fun call => Call.keepsStore call = true)
    (here : Reached store providerIds history world) :
    program.Ensures semantics alone
      (onReturn fun _ => Reached store providerIds) history world :=
  (kept_spec calls here).weaken (fun _ _ => id) (fun _ _ _ => trivial)
    fun _ _ _ => trivial

/-- A program that reads. -/
theorem finds_spec {holds : α → Prop}
    (finds : Finds .fallible store program holds)
    (calls : program.Calls fun call => Call.keepsStore call = true)
    (here : Reached store providerIds history world) :
    program.Ensures semantics alone
      (onReturn fun value history world =>
        holds value ∧ Reached store providerIds history world)
      history world := by
  apply ((finds history world here.store).both (keeps_spec calls here)).mono
  intro history outcome world atEnd
  cases outcome with
  | returned value => exact ⟨atEnd.1.1, atEnd.2⟩
  | threw error => trivial
  | cut => trivial

theorem append_spec {input : AppendEventInput}
    (here : Reached store [] history world) :
    (Backend.append input).Ensures semantics alone
      (onReturn fun event history world =>
        ∃ next, store.append input = (.ok event, next) ∧
          Reached next [] history world) history world := by
  apply Backend.call_ensures (.store (.append input))
  rintro _ ⟨-, rfl⟩
  refine ⟨trivial, ?_⟩
  intro choice answer after _ result
  refine ⟨⟨trivial, trivial⟩, ?_⟩
  rintro _ ⟨-, rfl⟩
  cases answer with
  | error error => trivial
  | ok event =>
      rcases append_step result with
        ⟨inserted, next, appended, rfl, ⟨same, -⟩ | ⟨message, -, lost⟩⟩ |
        ⟨-, error, threw, -⟩
      · cases same
        rw [here.store] at appended
        exact ⟨next, appended, rfl, by simp⟩
      · cases lost
      · cases threw

theorem schedule_spec (accountId : Id) (providerIds : List Id)
    (causationId : Option Id) (here : Reached store [] history world) :
    (Backend.schedule accountId providerIds causationId).Ensures semantics
      alone (onReturn fun _ => Reached store providerIds) history world := by
  apply Backend.call_ensures
    (.process (.schedule accountId providerIds causationId))
  rintro _ ⟨-, rfl⟩
  refine ⟨trivial, ?_⟩
  intro choice answer after _ result
  refine ⟨⟨trivial, trivial⟩, ?_⟩
  rintro _ ⟨-, rfl⟩
  cases answer with
  | error error => trivial
  | ok value =>
      refine ⟨(store_frame result rfl).trans here.store, ?_⟩
      intro providerId member
      exact ⟨accountId, providerIds, causationId, .ok value, by simp, member⟩

/-! ## Commands -/

/-- The providers affected since the store was `before` were passed to the
scheduler. -/
def Informed (text : SnapshotText) (before : EventStore)
    (history : BackendHistory) (world : World) : Prop :=
  ∃ after providerIds, Covers text before after providerIds ∧
    Reached after providerIds history world

/-- A command that returns has informed the scheduler. -/
abbrev answers (text : SnapshotText) (before : EventStore) {α : Type} :
    BackendHistory → Outcome Err α → World → Prop :=
  onReturn fun _ => Informed text before

theorem informed_same (here : Reached store [] history world) :
    Informed text store history world :=
  ⟨store, [], covers_same text store, here⟩

theorem done_spec {value : α} (informed : Informed text before history world) :
    (Program.done value : Backend α).Ensures semantics alone
      (answers text before) history world := by
  apply Program.Ensures.done
  rintro _ ⟨-, rfl⟩
  exact informed

/-! ### Actions -/

section Actions

open Actions

theorem scheduleDelivery_spec {deps : ActionsRouteDeps}
    (scheduler : deps.snapshots = true) (states : List ActionState)
    (here : Reached store [] history world) :
    (scheduleDelivery deps accountId states).Ensures semantics alone
      (onReturn fun _ => Reached store (deliveryTargets states))
      history world := by
  unfold scheduleDelivery Program.onlyIf
  rw [scheduler, if_pos rfl]
  split
  · exact schedule_spec _ _ _ here
  · rename_i nothing
    have none : deliveryTargets states = [] := by simpa using nothing
    apply Program.Ensures.done
    rintro _ ⟨-, rfl⟩
    rw [none]
    exact here

theorem loadOwnedAction_reads (accountId actionId : Id) :
    (loadOwnedAction accountId actionId).Calls
      fun call => Backend.reads call = true := by
  apply Program.Calls.bind (loadAggregate_reads _ _ _)
  exact fun _ => trivial

theorem loadOwnedAction_finds {reading : Reading} (actionId : Id) :
    Finds reading store (loadOwnedAction accountId actionId)
      fun owned => ∀ loaded, owned = some loaded →
        loaded = replayed initialActionState actionReducer
          (store.readStream ⟨accountId, .action, actionId⟩) := by
  apply Finds.bind Finds.load
  rintro loaded rfl
  apply Finds.done
  intro found same
  split at same
  · cases same
    rfl
  · cases same

theorem currentState_finds {reading : Reading} (accountId actionId : Id) :
    Finds reading store (currentState accountId actionId)
      (· = actionIn store accountId actionId) := by
  apply Finds.bind Finds.load
  rintro loaded rfl
  exact Finds.done rfl

theorem mem_deliveryTargets {states : List ActionState} {state : ActionState}
    (member : state ∈ states) (target : deliveryTarget state = some providerId) :
    providerId ∈ deliveryTargets states := by
  unfold deliveryTargets
  rw [List.mem_eraseDups, List.mem_filterMap]
  exact ⟨state, member, target⟩

/-- An action that was changed is scheduled where it delivered and where it
delivers. -/
theorem action_informed {input : AppendEventInput} {event : StoredEvent}
    {actionId : Id} {states : List ActionState}
    (appended : store.append input = (.ok event, next))
    (toAction : input.params = ⟨accountId, .action, actionId⟩)
    (old : ∀ providerId,
      deliveryTarget (actionIn store accountId actionId) = some providerId →
      providerId ∈ deliveryTargets states)
    (new : ∀ providerId,
      deliveryTarget (actionIn next accountId actionId) = some providerId →
      providerId ∈ deliveryTargets states)
    (here : Reached next (deliveryTargets states) history world) :
    Informed text store history world := by
  have changes := append_changesOnly appended
  rw [toAction] at changes
  refine ⟨next, _, ?_, here⟩
  intro owner providerId
  rcases action_affects changes owner providerId with
    unaffected | targetBefore | targetAfter
  · exact Or.inl unaffected
  · exact Or.inr (old providerId targetBefore)
  · exact Or.inr (new providerId targetAfter)

/-- The event leaves the type and the config of an action alone. -/
def KeepsTarget (event : ActionEvent) : Prop :=
  ∀ (state : ActionState) (stored : StoredEvent),
    stored.data = .action event →
    deliveryTarget (actionReducer state stored) = deliveryTarget state

theorem keepsTarget_enabled (actionId : Id) :
    KeepsTarget (.enabled actionId) := by
  intro state stored written
  simp only [actionReducer, written]
  rfl

theorem keepsTarget_disabled (actionId : Id) :
    KeepsTarget (.disabled actionId) := by
  intro state stored written
  simp only [actionReducer, written]
  rfl

theorem keepsTarget_detached (now : Timestamp) :
    KeepsTarget (.detached now) := by
  intro state stored written
  simp only [actionReducer, written]
  rfl

variable {deps : ActionsRouteDeps}

theorem changeStatus_spec {actionId : Id} {event : ActionEvent} {atEnd : Nat}
    {afterwards : ActionState → Backend Unit}
    (scheduler : deps.snapshots = true) (sequenced : store.Sequenced)
    (keepsTarget : KeepsTarget event)
    (keeps : ∀ state, (afterwards state).Calls
      fun call => Call.keepsStore call = true)
    (here : Reached store [] history world) :
    (changeStatus deps accountId actionId event atEnd afterwards).Ensures
      semantics alone (answers text store) history world := by
  unfold changeStatus
  apply Program.Ensures.seq _ trivial
    (finds_spec (loadOwnedAction_finds actionId)
      (keepsStore_of_reads (loadOwnedAction_reads _ _)) here)
  rintro owned history world - ⟨found, here⟩
  split
  · exact done_spec (informed_same here)
  rename_i owned
  cases found owned rfl
  split
  · exact done_spec (informed_same here)
  apply Program.Ensures.seq _ trivial (append_spec here)
  rintro stored history world - ⟨next, appended, here⟩
  apply Program.Ensures.seq _ trivial
    (keeps_spec (keepsStore_of_quiet (refreshProjection_quiet _ _)) here)
  rintro - history world - here
  apply Program.Ensures.seq _ trivial (scheduleDelivery_spec scheduler _ here)
  rintro - history world - here
  apply Program.Ensures.seq _ trivial (keeps_spec (keeps _) here)
  rintro - history world - here
  apply done_spec
  obtain ⟨written, reads⟩ := append_reads sequenced rfl appended
  have same : deliveryTarget (actionIn next accountId actionId) =
      deliveryTarget (actionIn store accountId actionId) := by
    have grown : next.readStream ⟨accountId, .action, actionId⟩ =
        store.readStream ⟨accountId, .action, actionId⟩ ++ [stored] := reads
    unfold actionIn
    rw [grown]
    simp only [replayed, List.foldl_append]
    exact keepsTarget _ stored written
  apply action_informed appended rfl _ _ here
  · intro providerId target
    exact mem_deliveryTargets (List.mem_singleton.mpr rfl) target
  · intro providerId target
    exact mem_deliveryTargets (List.mem_singleton.mpr rfl)
      (same.symm.trans target)

theorem reconfigureValid_spec {actionId : Id} {body : ReconfigureBody}
    {config : Option ActionConfig} {now : Timestamp}
    (scheduler : deps.snapshots = true)
    (here : Reached store [] history world) :
    (reconfigureValid deps accountId actionId
      (replayed initialActionState actionReducer
        (store.readStream ⟨accountId, .action, actionId⟩)) body config
      now).Ensures semantics alone (answers text store) history world := by
  unfold reconfigureValid
  apply Program.Ensures.seq _ trivial (append_spec here)
  rintro stored history world - ⟨next, appended, here⟩
  apply Program.Ensures.seq _ trivial
    (keeps_spec (keepsStore_of_quiet (refreshProjection_quiet _ _)) here)
  rintro - history world - here
  apply Program.Ensures.seq _ trivial
    (finds_spec (currentState_finds accountId actionId)
      (keepsStore_of_reads (currentState_reads _ _)) here)
  rintro state history world - ⟨rfl, here⟩
  apply Program.Ensures.seq _ trivial (scheduleDelivery_spec scheduler _ here)
  rintro - history world - here
  apply Program.Ensures.seq _ trivial
    (keeps_spec (keepsStore_of_quiet (cleanupDropped_quiet _ _ _)) here)
  rintro - history world - here
  apply done_spec
  apply action_informed appended rfl _ _ here
  · intro providerId target
    exact mem_deliveryTargets (List.mem_cons_self ..) target
  · intro providerId target
    exact mem_deliveryTargets
      (List.mem_cons_of_mem _ (List.mem_singleton.mpr rfl)) target

theorem reconfigure_spec {actionId : Id} {body : ReconfigureBody}
    {now : Timestamp} (scheduler : deps.snapshots = true)
    (here : Reached store [] history world) :
    (reconfigure deps accountId actionId body now).Ensures semantics alone
      (answers text store) history world := by
  unfold reconfigure
  apply Program.Ensures.seq _ trivial
    (finds_spec (loadOwnedAction_finds actionId)
      (keepsStore_of_reads (loadOwnedAction_reads _ _)) here)
  rintro owned history world - ⟨found, here⟩
  split
  · exact done_spec (informed_same here)
  rename_i owned
  cases found owned rfl
  split
  · exact done_spec (informed_same here)
  apply Program.Ensures.seq _ trivial
    (keeps_spec (keepsStore_of_quiet (validateReconfigure_quiet _ _ _ _ _))
      here)
  rintro validation history world - here
  cases validation with
  | error status => exact done_spec (informed_same here)
  | ok config => exact reconfigureValid_spec scheduler here

/-- An event that went to the first position found the stream empty. -/
theorem nothing_of_first {input : AppendEventInput} {event : StoredEvent}
    (sequenced : store.Sequenced) (first : input.expectedSequenceNumber = 1)
    (appended : store.append input = (.ok event, next)) :
    store.readStream input.params = [] := by
  rcases EventStore.append_cases appended with
    ⟨_, -, -, -, -, -, -, -, free, -⟩ | ⟨conflict, -⟩
  · have empty : store.stream input.aggregateType input.aggregateId = [] := by
      by_contra some
      have positive := List.length_pos_iff.mpr some
      obtain ⟨other, member, position⟩ :=
        sequenced.occupied (Nat.le_refl 1) positive
      exact free other member (position.trans first.symm)
    have short := sequenced.readStream_length_le input.params
    rw [show store.stream input.params.aggregateType
      input.params.aggregateId = [] from empty] at short
    exact List.length_eq_zero_iff.mp (Nat.le_zero.mp short)
  · cases conflict

theorem actionIn_fresh {input : AppendEventInput} {event : StoredEvent}
    {actionId : Id} (sequenced : store.Sequenced)
    (toAction : input.params = ⟨accountId, .action, actionId⟩)
    (first : input.expectedSequenceNumber = 1)
    (appended : store.append input = (.ok event, next)) :
    actionIn store accountId actionId = initialActionState := by
  have nothing := nothing_of_first sequenced first appended
  rw [toAction] at nothing
  rw [actionIn, nothing]
  rfl

theorem attachValid_spec {ipClientId : Id} {type : ActionType}
    {addressFamilies : List AddressFamily} {config : ActionConfig}
    {now : Timestamp} (scheduler : deps.snapshots = true)
    (sequenced : store.Sequenced) (here : Reached store [] history world) :
    (attachValid deps accountId ipClientId type addressFamilies config
      now).Ensures semantics alone (answers text store) history world := by
  unfold attachValid
  apply Program.Ensures.seq _ trivial
    (keeps_spec ((Backend.calls_call _).mpr rfl) here)
  rintro actionId history world - here
  apply Program.Ensures.seq _ trivial (append_spec here)
  rintro stored history world - ⟨next, appended, here⟩
  apply Program.Ensures.seq _ trivial
    (keeps_spec (keepsStore_of_quiet (refreshProjection_quiet _ _)) here)
  rintro - history world - here
  apply Program.Ensures.seq _ trivial
    (finds_spec (currentState_finds accountId actionId)
      (keepsStore_of_reads (currentState_reads _ _)) here)
  rintro state history world - ⟨rfl, here⟩
  apply Program.Ensures.seq _ trivial (scheduleDelivery_spec scheduler _ here)
  rintro - history world - here
  apply done_spec
  apply action_informed appended rfl _ _ here
  · intro providerId target
    have none : actionIn store accountId actionId = initialActionState :=
      actionIn_fresh sequenced rfl rfl appended
    have nowhere := (congrArg deliveryTarget none).symm.trans target
    cases nowhere
  · intro providerId target
    exact mem_deliveryTargets (List.mem_singleton.mpr rfl) target

theorem attach_spec {ipClientId : Id} {body : AttachBody} {now : Timestamp}
    (scheduler : deps.snapshots = true) (sequenced : store.Sequenced)
    (here : Reached store [] history world) :
    (attach deps accountId ipClientId body now).Ensures semantics alone
      (answers text store) history world := by
  unfold attach
  split
  · exact done_spec (informed_same here)
  split
  · exact done_spec (informed_same here)
  apply Program.Ensures.seq _ trivial
    (keeps_spec (keepsStore_of_quiet (validateAttach_quiet _ _ _ _ _)) here)
  rintro validation history world - here
  cases validation with
  | error status => exact done_spec (informed_same here)
  | ok config => exact attachValid_spec scheduler sequenced here

end Actions

/-! ### Devices -/

section Devices

open IpClients

variable {ipClientId : Id}

/-- A device that was changed is scheduled where it is delivered. -/
theorem device_informed {input : AppendEventInput} {event : StoredEvent}
    (appended : store.append input = (.ok event, next))
    (toDevice : input.params = ⟨accountId, .ipClient, ipClientId⟩)
    (complete : ∀ actionId providerId,
      Delivers (actionIn next accountId actionId) actionId ipClientId
        providerId → providerId ∈ providerIds)
    (here : Reached next providerIds history world) :
    Informed text store history world := by
  have changes := append_changesOnly appended
  rw [toDevice] at changes
  refine ⟨next, _, ?_, here⟩
  intro owner providerId
  rcases device_affects changes owner providerId with
    unaffected | ⟨actionId, delivers⟩
  · exact Or.inl unaffected
  · exact Or.inr (complete actionId providerId delivers)

/-- What both schedulings of a device do with the providers they find. -/
theorem scheduleFound_spec (causationId : Option Id)
    (here : Reached store [] history world) :
    ((providersOfDevice accountId ipClientId).bind fun providerIds =>
      Program.onlyIf (providerIds ≠ [])
        (Backend.schedule accountId providerIds causationId)).Ensures
      semantics alone
      (onReturn fun _ history world => ∃ providerIds,
        (∀ actionId providerId,
          Delivers (actionIn store accountId actionId) actionId ipClientId
            providerId → providerId ∈ providerIds) ∧
        Reached store providerIds history world) history world := by
  apply Program.Ensures.seq _ trivial
    (finds_spec (providersOfDevice_finds accountId ipClientId)
      (keepsStore_of_reads (providersOfDevice_reads _ _)) here)
  rintro providerIds history world - ⟨complete, here⟩
  unfold Program.onlyIf
  split
  · apply (schedule_spec accountId providerIds causationId here).relax
    · exact fun _ _ _ here => ⟨providerIds, complete, here⟩
    · exact fun _ _ => id
    · exact fun _ _ => id
  · rename_i nothing
    have none : providerIds = [] := by simpa using nothing
    apply Program.Ensures.done
    rintro _ ⟨-, rfl⟩
    rw [← none] at here
    exact ⟨providerIds, complete, here⟩

theorem loadOwnedIpClient_reads (accountId ipClientId : Id) :
    (loadOwnedIpClient accountId ipClientId).Calls
      fun call => Backend.reads call = true := by
  apply Program.Calls.bind (loadAggregate_reads _ _ _)
  exact fun _ => trivial

theorem changeClientStatus_spec {deps : IpClientsRouteDeps}
    {event : IpClientEvent} {atEnd : Nat} (scheduler : deps.snapshots = true)
    (here : Reached store [] history world) :
    (changeStatus deps accountId ipClientId event atEnd).Ensures semantics
      alone (answers text store) history world := by
  unfold changeStatus
  apply Program.Ensures.seq _ trivial
    (keeps_spec (keepsStore_of_reads (loadOwnedIpClient_reads _ _)) here)
  rintro owned history world - here
  split
  · exact done_spec (informed_same here)
  split
  · exact done_spec (informed_same here)
  apply Program.Ensures.seq _ trivial (append_spec here)
  rintro stored history world - ⟨next, appended, here⟩
  apply Program.Ensures.seq _ trivial
    (keeps_spec (keepsStore_of_quiet (refreshProjection_quiet _ _)) here)
  rintro - history world - here
  unfold scheduleDeviceProviders Program.onlyIf
  rw [scheduler, if_pos rfl]
  apply Program.Ensures.seq _ trivial (scheduleFound_spec none here)
  rintro - history world - ⟨providerIds, complete, here⟩
  exact done_spec (device_informed appended rfl complete here)

theorem fanOut_keepsStore (params : FanOutParams) :
    (fanOutActionExecutions params).Calls
      fun call => Call.keepsStore call = true := by
  apply Program.Calls.bind
  · exact (Backend.calls_call _).mpr rfl
  intro actionIds
  apply fanOutToAll_calls
  · exact fun call isRead => keepsStore_of_read isRead
  · rfl
  · exact fun _ _ => rfl

theorem settle_spec {deps : DebounceWorkerDeps} {job : DebounceJobData}
    (scheduler : deps.snapshots = true)
    (here : Reached store [] history world) :
    (settle deps job).Ensures semantics alone (answers text store) history
      world := by
  unfold settle
  apply Program.Ensures.seq _ trivial
    (keeps_spec (keepsStore_of_reads (loadAggregate_reads _ _ _)) here)
  rintro loaded history world - here
  split
  · exact done_spec (informed_same here)
  unfold confirmChange
  apply Program.Ensures.seq _ trivial (append_spec here)
  rintro stored history world - ⟨next, appended, here⟩
  unfold publishChange
  apply Program.Ensures.seq _ trivial
    (keeps_spec (keepsStore_of_quiet (upsertIpClientProjection_calls _ _))
      here)
  rintro - history world - here
  unfold scheduleSnapshots
  rw [scheduler]
  apply Program.Ensures.seq _ trivial (scheduleFound_spec (some stored.id) here)
  rintro - history world - ⟨providerIds, complete, here⟩
  apply (keeps_spec (fanOut_keepsStore _) here).relax
  · exact fun _ _ _ here => device_informed appended rfl complete here
  · exact fun _ _ => id
  · exact fun _ _ => id

end Devices

/-! ### Renaming -/

section Renaming

/-- The provider is active under another name. -/
structure Renamed (before after : EventStore) (accountId providerId : Id) :
    Prop where
  wasActive : ActiveProvider before accountId providerId
  isActive : ActiveProvider after accountId providerId
  otherName : (providerState before accountId providerId).name ≠
    (providerState after accountId providerId).name

/-- The event is in the provider's stream, after those that were there. -/
def Recorded (event : TraefikProviderEvent) (accountId providerId : Id)
    (before : EventStore) (history : BackendHistory) (world : World) : Prop :=
  ∃ stored next,
    before.append (ProviderStore.appendInput accountId providerId
      (before.readStream ⟨accountId, .traefikProvider, providerId⟩).length
      event) = (.ok stored, next) ∧
    Reached next [] history world

variable {event : TraefikProviderEvent}

/-- How one pass of the append ends: a conflict leaves the store as it is. -/
def passEnds (event : TraefikProviderEvent) (accountId providerId : Id)
    (store : EventStore) (history : BackendHistory)
    (outcome : Outcome Err StoredEvent) (world : World) : Prop :=
  match outcome with
  | .returned _ => Recorded event accountId providerId store history world
  | .threw (.concurrency _ _ _) => Reached store [] history world
  | _ => True

theorem appendOnce_spec (here : Reached store [] history world) :
    (ProviderStore.appendOnce accountId providerId event).Ensures semantics
      alone (passEnds event accountId providerId store) history world := by
  unfold ProviderStore.appendOnce ProviderStore.load
  have loads : (loadAggregate
      ⟨accountId, .traefikProvider, providerId⟩ initialTraefikProviderState
        traefikProviderReducer).Calls
      fun call => Call.keepsStore call = true :=
    keepsStore_of_reads (loadAggregate_reads _ _ _)
  refine Program.Ensures.bind
    ((finds_spec Finds.load loads here).both (kept_spec loads here))
    trivial ?_ ?_ ?_
  · rintro history loaded world - ⟨⟨rfl, here⟩, -⟩
    apply Backend.call_ensures (.store (.append _))
    rintro _ ⟨-, rfl⟩
    refine ⟨trivial, ?_⟩
    intro choice answer after _ result
    refine ⟨⟨trivial, trivial⟩, ?_⟩
    rintro _ ⟨-, rfl⟩
    rcases append_step result with
      ⟨stored, next, appended, rfl, ⟨rfl, -⟩ | ⟨message, -, rfl⟩⟩ |
      ⟨rfl, error, rfl, -⟩
    · rw [here.store] at appended
      exact ⟨stored, next, appended, rfl, by simp⟩
    · trivial
    · cases error with
      | concurrency aggregateType aggregateId expectedSequenceNumber =>
          exact ⟨here.store, by simp⟩
      | _ => trivial
  · rintro history error world ⟨-, kept⟩
    cases error with
    | concurrency aggregateType aggregateId expectedSequenceNumber =>
        exact kept
    | _ => trivial
  · exact fun _ _ _ => trivial

theorem recorded_stays {program : Backend α}
    (calls : program.Calls fun call => Call.keepsStore call = true)
    (recorded : Recorded event accountId providerId store history world) :
    program.Ensures semantics alone
      (onReturn fun _ => Recorded event accountId providerId store) history
      world := by
  obtain ⟨stored, next, appended, here⟩ := recorded
  apply (keeps_spec calls here).relax
  · exact fun _ _ _ here => ⟨stored, next, appended, here⟩
  · exact fun _ _ => id
  · exact fun _ _ => id

theorem append_provider_spec (here : Reached store [] history world) :
    (ProviderStore.append accountId providerId event).Ensures semantics alone
      (onReturn fun _ => Recorded event accountId providerId store) history
      world := by
  unfold ProviderStore.append KeyedMutex.run
  apply Program.Ensures.seq _ trivial
    (keeps_spec ((Backend.calls_call _).mpr rfl) here)
  rintro ticket history world - here
  apply Program.Ensures.seq _ trivial
    (keeps_spec ((Backend.calls_call _).mpr rfl) here)
  rintro - history world - here
  have appends : (Program.tryCatch
      (ProviderStore.appendOnce accountId providerId event)
      (ProviderStore.retryConflict accountId providerId event)).Ensures
      semantics alone
      (onReturn fun _ => Recorded event accountId providerId store) history
      world := by
    apply (appendOnce_spec here).tryCatch trivial
    · rintro history stored world recorded _ ⟨-, rfl⟩
      exact recorded
    · rintro history error world - threw
      cases error with
      | concurrency aggregateType aggregateId expectedSequenceNumber =>
          apply (appendOnce_spec threw).mono
          intro history outcome world atEnd
          cases outcome with
          | returned stored => exact atEnd
          | threw error => trivial
          | cut => trivial
      | _ => exact Program.Ensures.fail fun _ _ => trivial
    · exact fun _ _ _ => trivial
  refine Program.Ensures.bind appends.attempt trivial ?_ ?_ ?_
  · rintro history outcome world - atEnd
    cases outcome with
    | ok stored =>
        apply Program.Ensures.seq _ trivial
          (recorded_stays ((Backend.calls_call _).mpr rfl) atEnd)
        rintro - history world - recorded
        apply Program.Ensures.done
        rintro _ ⟨-, rfl⟩
        exact recorded
    | error error =>
        apply Program.Ensures.seq (fun _ _ _ => True) trivial
        · have here : Reached world.store [] history world := ⟨rfl, by simp⟩
          apply (keeps_spec ((Backend.calls_call _).mpr rfl) here).relax
          · exact fun _ _ _ _ => trivial
          · exact fun _ _ => id
          · exact fun _ _ => id
        · rintro - history world - -
          exact Program.Ensures.fail fun _ _ => trivial
  · rintro history error world impossible
    exact impossible.elim
  · exact fun _ _ _ => trivial

open TraefikProviders

variable {name : String} {now : Timestamp} {deps : TraefikProvidersRouteDeps}

theorem Recorded.renamed (sequenced : store.Sequenced)
    (active : ActiveProvider store accountId providerId)
    (other : name ≠ (providerState store accountId providerId).name)
    (recorded : Recorded (.renamed name now) accountId providerId store
      history world) :
    Renamed store world.store accountId providerId := by
  obtain ⟨stored, next, appended, here⟩ := recorded
  obtain ⟨written, reads⟩ := append_reads sequenced rfl appended
  have grown : next.readStream ⟨accountId, .traefikProvider, providerId⟩ =
      store.readStream ⟨accountId, .traefikProvider, providerId⟩ ++ [stored] :=
    reads
  have folded : providerState next accountId providerId =
      { providerState store accountId providerId with name } := by
    unfold providerState
    rw [grown]
    simp only [replayed, List.foldl_append, List.foldl_cons, List.foldl_nil]
    rw [traefikProviderReducer, written]
    rfl
  rw [here.store]
  refine ⟨active, ?_, ?_⟩
  · unfold ActiveProvider at *
    rw [folded]
    exact active
  · rw [folded]
    exact other.symm

theorem loadActive_finds {reading : Reading} (accountId providerId : Id) :
    Finds reading store (ProviderStore.loadActive accountId providerId)
      fun loaded => ∀ provider, loaded = some provider →
        ActiveProvider store accountId providerId ∧
          provider.state = providerState store accountId providerId := by
  apply Finds.bind Finds.load
  rintro loaded rfl
  apply Finds.done
  intro provider found
  split at found
  · rename_i active
    cases found
    exact ⟨active, rfl⟩
  · cases found

theorem readView_reads (accountId providerId : Id) :
    (readView accountId providerId).Calls
      fun call => Backend.reads call = true := by
  apply Program.Calls.bind (ProviderStore.load_reads _ _)
  intro _
  apply Program.Calls.bind (listDeliveryActions_reads _)
  exact fun _ => trivial

/-- What `PATCH` has done when it succeeds. -/
def Patched (text : SnapshotText) (accountId providerId : Id) (name : String)
    (before : EventStore) (status : Nat) (history : BackendHistory)
    (world : World) : Prop :=
  (name = (providerState before accountId providerId).name →
    Informed text before history world) ∧
  (name ≠ (providerState before accountId providerId).name →
    status < 300 → Renamed before world.store accountId providerId)

theorem refuses_spec {status : Nat} (refusal : ¬ status < 300)
    (here : Reached store [] history world) :
    (Program.done status : Backend Nat).Ensures semantics alone
      (onReturn (Patched text accountId providerId name store)) history
      world := by
  apply Program.Ensures.done
  rintro _ ⟨-, rfl⟩
  exact ⟨fun _ => informed_same here,
    fun _ succeeded => absurd succeeded refusal⟩

theorem renameTo_spec {loaded : LoadedProvider} (sequenced : store.Sequenced)
    (active : ActiveProvider store accountId providerId)
    (same : loaded.state = providerState store accountId providerId)
    (here : Reached store [] history world) :
    (renameTo deps accountId providerId loaded name now).Ensures semantics
      alone (onReturn (Patched text accountId providerId name store)) history
      world := by
  unfold renameTo
  apply Program.Ensures.seq _ trivial
    (keeps_spec (keepsStore_of_reads (ProviderStore.listActive_reads _)) here)
  rintro providers history world - here
  dsimp only
  split
  · exact refuses_spec (by omega) here
  rw [same]
  by_cases unchanged : name = (providerState store accountId providerId).name
  · have skips : decide
        (name ≠ (providerState store accountId providerId).name) = false := by
      simpa using unchanged
    have nothing : (Program.onlyIf false
        (rename accountId providerId name now)).Calls
        fun call => Call.keepsStore call = true := trivial
    rw [skips]
    apply Program.Ensures.seq _ trivial (keeps_spec nothing here)
    rintro - history world - here
    apply Program.Ensures.seq _ trivial
      (keeps_spec (keepsStore_of_reads (readView_reads _ _)) here)
    rintro - history world - here
    apply Program.Ensures.done
    rintro _ ⟨-, rfl⟩
    exact ⟨fun _ => informed_same here, fun other => absurd unchanged other⟩
  · have renames : decide
        (name ≠ (providerState store accountId providerId).name) = true := by
      simpa using unchanged
    rw [renames]
    have appends : (rename accountId providerId name now).Ensures semantics
        alone
        (onReturn fun _ => Recorded (.renamed name now) accountId providerId
          store) history world := by
      unfold rename
      apply Program.Ensures.seq _ trivial (append_provider_spec here)
      rintro - history world - recorded
      apply Program.Ensures.done
      rintro _ ⟨-, rfl⟩
      exact recorded
    apply Program.Ensures.seq _ trivial appends
    rintro - history world - recorded
    apply Program.Ensures.seq _ trivial
      (recorded_stays (keepsStore_of_reads (readView_reads _ _)) recorded)
    rintro - history world - recorded
    apply Program.Ensures.done
    rintro _ ⟨-, rfl⟩
    exact ⟨fun same => absurd same unchanged,
      fun other _ => recorded.renamed sequenced active other⟩

theorem patch_spec {body connectionMode : Option String}
    (sequenced : store.Sequenced) (here : Reached store [] history world) :
    (patch deps accountId providerId body connectionMode now).Ensures
      semantics alone
      (onReturn (Patched text accountId providerId (requestedName body) store))
      history world := by
  unfold patch
  apply Program.Ensures.seq _ trivial
    (finds_spec (loadActive_finds accountId providerId)
      (keepsStore_of_reads (ProviderStore.loadActive_reads _ _)) here)
  rintro loaded history world - ⟨found, here⟩
  split
  · exact refuses_spec (by omega) here
  rename_i loaded
  obtain ⟨active, same⟩ := found loaded rfl
  split
  · exact refuses_spec (by omega) here
  split
  · exact refuses_spec (by omega) here
  · exact renameTo_spec sequenced active same here

/-! ### No call of the scheduler -/

/-- The call is none of the scheduler. -/
def Call.isUnscheduled : Call → Bool
  | .process (.schedule _ _ _) => false
  | _ => true

theorem unscheduled_of_reads {program : Backend α}
    (reads : program.Calls fun call => Backend.reads call = true) :
    program.Calls fun call => Call.isUnscheduled call = true := by
  apply reads.mono
  intro call isRead
  cases call with
  | process call => cases isRead
  | _ => rfl

theorem append_unscheduled (accountId providerId : Id)
    (event : TraefikProviderEvent) :
    (ProviderStore.append accountId providerId event).Calls
      fun call => Call.isUnscheduled call = true := by
  have once : (ProviderStore.appendOnce accountId providerId event).Calls
      fun call => Call.isUnscheduled call = true := by
    apply Program.Calls.bind
    · exact unscheduled_of_reads (ProviderStore.load_reads _ _)
    · exact fun _ => (Backend.calls_call _).mpr rfl
  apply Program.Calls.bind
  · exact (Backend.calls_call _).mpr rfl
  intro ticket
  apply Program.Calls.bind
  · exact (Backend.calls_call _).mpr rfl
  intro _
  refine Program.Calls.tryFinally (once.tryCatch ?_)
    ((Backend.calls_call _).mpr rfl)
  intro error
  cases error with
  | concurrency aggregateType aggregateId expectedSequenceNumber => exact once
  | _ => trivial

theorem patch_unscheduled (deps : TraefikProvidersRouteDeps)
    (accountId providerId : Id) (body connectionMode : Option String)
    (now : Timestamp) :
    (patch deps accountId providerId body connectionMode now).Calls
      fun call => Call.isUnscheduled call = true := by
  apply Program.Calls.bind
  · exact unscheduled_of_reads (ProviderStore.loadActive_reads _ _)
  intro loaded
  split
  · trivial
  split
  · trivial
  split
  · trivial
  apply Program.Calls.bind
  · exact unscheduled_of_reads (ProviderStore.listActive_reads _)
  intro providers
  dsimp only
  split
  · trivial
  apply Program.Calls.bind
  · unfold Program.onlyIf
    split
    · apply (append_unscheduled _ _ _).bind
      exact fun _ => trivial
    · trivial
  intro _
  apply Program.Calls.bind
  · exact unscheduled_of_reads (readView_reads _ _)
  · exact fun _ => trivial

theorem unscheduled_spec (providerId : Id)
    (calls : program.Calls fun call => Call.isUnscheduled call = true)
    (none : ¬ PassedToScheduler history providerId) :
    program.Ensures semantics alone
      (onReturn fun _ history _ => ¬ PassedToScheduler history providerId)
      history world := by
  have kept : program.Ensures semantics alone
      (ending (fun history _ => ¬ PassedToScheduler history providerId)
        (fun history _ => ¬ PassedToScheduler history providerId)
        fun history _ => ¬ PassedToScheduler history providerId)
      history world := by
    apply Program.Ensures.frame calls _ _ none
    · exact fun _ _ _ none _ => none
    · intro history world call choice answer after unscheduled _ none _ _
      refine ⟨⟨trivial, trivial⟩, ?_⟩
      rintro ⟨owner, ids, causationId, passed, member, isPassed⟩
      rcases List.mem_append.mp member with old | new
      · exact none ⟨owner, ids, causationId, passed, old, isPassed⟩
      · rw [List.mem_singleton] at new
        cases new
        cases unscheduled
  exact kept.weaken (fun _ _ => id) (fun _ _ _ => trivial)
    fun _ _ _ => trivial

end Renaming

/-! ## All commands -/

variable {deps : BackendDeps} {request : BackendRequest}

theorem answered_spec {program : Backend Nat}
    (spec : program.Ensures semantics alone (answers text before) history
      world) :
    (answered program).Ensures semantics alone (answers text before) history
      world := by
  apply Program.Ensures.seq _ trivial spec
  intro status history world _ informed
  exact done_spec informed

theorem unanswered_spec {program : Backend Unit}
    (spec : program.Ensures semantics alone (answers text before) history
      world) :
    (unanswered program).Ensures semantics alone (answers text before) history
      world := by
  apply Program.Ensures.seq _ trivial spec
  intro _ history world _ informed
  exact done_spec informed

theorem command_informs (actions : deps.actions.snapshots = true)
    (ipClients : deps.ipClients.snapshots = true)
    (debounce : deps.debounceSnapshots = true) (sequenced : store.Sequenced)
    {now : Timestamp} {command : BackendCommand}
    (manages : command.managesDelivery = true)
    (keepsName : ¬ command.renames store)
    (here : Reached store [] history world) :
    (command.program deps now).Ensures semantics alone (answers text store)
      history world := by
  cases command with
  | action accountId command =>
      cases command with
      | attach ipClientId body =>
          exact answered_spec (attach_spec actions sequenced here)
      | reconfigure actionId body =>
          exact answered_spec (reconfigure_spec actions here)
      | enable actionId =>
          apply answered_spec
          exact changeStatus_spec actions sequenced (keepsTarget_enabled _)
            (fun _ => trivial) here
      | disable actionId =>
          apply answered_spec
          exact changeStatus_spec actions sequenced (keepsTarget_disabled _)
            (fun _ => trivial) here
      | detach actionId =>
          apply answered_spec
          apply changeStatus_spec actions sequenced (keepsTarget_detached _)
            _ here
          exact fun state => keepsStore_of_quiet
            (Program.Calls.onlyIf (Actions.cleanup_quiet _ _ _))
      | run actionId => cases manages
  | ipClient accountId command =>
      cases command with
      | enable ipClientId =>
          exact answered_spec (changeClientStatus_spec ipClients here)
      | disable ipClientId =>
          exact answered_spec (changeClientStatus_spec ipClients here)
      | decommission ipClientId =>
          exact answered_spec (changeClientStatus_spec ipClients here)
      | _ => cases manages
  | settle job => exact unanswered_spec (settle_spec debounce here)
  | provider command =>
      cases command with
      | patch accountId providerId name connectionMode =>
          have spec : (TraefikProviders.patch deps.providers.routes accountId
              providerId name connectionMode now).Ensures semantics alone
              (onReturn (Patched text accountId providerId
                (TraefikProviders.requestedName name) store))
              history world := patch_spec sequenced here
          apply answered_spec
          apply spec.relax
          · intro status history world patched
            exact patched.1 (not_not.mp keepsName)
          · exact fun _ _ => id
          · exact fun _ _ => id
      | _ => cases manages
  | _ => cases manages

/-- The content of a provider that is not affected stays as it is. -/
theorem not_changes_of_unaffected [Std.TransCmp text.localeCompare]
    {first last : World}
    (unaffected : Unaffected text first.store last.store accountId providerId) :
    ¬ ContentChanges text first last accountId providerId := by
  rintro ⟨content, content', builds, builds', different⟩
  exact different (builds.congr builds' unaffected.name unaffected.members
    unaffected.devices)

theorem everyChangeScheduled_of_informed [Std.TransCmp text.localeCompare]
    {first last : World} (informed : Informed text first.store history last) :
    EveryChangeScheduled text first last history := by
  obtain ⟨after, providerIds, covers, here⟩ := informed
  intro accountId providerId _ _ changes
  rcases covers accountId providerId with unaffected | passed
  · rw [← here.store] at unaffected
    exact absurd changes (not_changes_of_unaffected unaffected)
  · exact here.passed providerId passed

/-- A provider that is active under another name is not passed on. -/
theorem not_everyChangeScheduled_of_renamed {first last : World}
    (renamed : Renamed first.store last.store accountId providerId)
    (unpassed : ¬ PassedToScheduler history providerId) :
    ¬ EveryChangeScheduled text first last history := by
  intro scheduled
  obtain ⟨content, builds⟩ := exists_builds text first accountId providerId
  obtain ⟨content', builds'⟩ := exists_builds text last accountId providerId
  have different : content ≠ content' := by
    intro same
    apply renamed.otherName
    rw [← builds.name, ← builds'.name, same]
  exact unpassed (scheduled accountId providerId renamed.wasActive
    renamed.isActive ⟨content, content', builds, builds', different⟩)

/-- A rename that succeeds goes unscheduled. -/
theorem rename_unscheduled {last : World} {deps : TraefikProvidersRouteDeps}
    {name connectionMode : Option String} {now : Timestamp}
    {answer : Option Nat} (sequenced : world.store.Sequenced)
    (renames : TraefikProviders.requestedName name ≠
      (providerState world.store accountId providerId).name)
    (execution : Execution semantics Eq (fun _ _ _ _ => True) []
      (answered (TraefikProviders.patch deps accountId providerId name
        connectionMode now)) world history (.returned answer) last)
    (succeeded : answer.all (· < 300) = true) :
    ¬ EveryChangeScheduled text world last history := by
  have start : Reached world.store [] [] world := ⟨rfl, by simp⟩
  have none : ¬ PassedToScheduler [] providerId := by
    rintro ⟨_, _, _, _, member, -⟩
    cases member
  have spec : (TraefikProviders.patch deps accountId providerId name
      connectionMode now).Ensures semantics alone
      (onReturn (Patched text accountId providerId
        (TraefikProviders.requestedName name) world.store)) [] world :=
    patch_spec sequenced start
  let Ends (status : Nat) (history : BackendHistory) (last : World) : Prop :=
    Patched text accountId providerId (TraefikProviders.requestedName name)
        world.store status history last ∧
      ¬ PassedToScheduler history providerId
  have ends : (answered (TraefikProviders.patch deps accountId providerId name
      connectionMode now)).Ensures semantics alone
      (onReturn fun answer history last =>
        ∃ status, answer = some status ∧ Ends status history last)
      [] world := by
    apply Program.Ensures.seq Ends trivial
    · apply (spec.both (unscheduled_spec providerId
        (patch_unscheduled _ _ _ _ _ _) none)).mono
      intro history outcome last atEnd
      cases outcome with
      | returned status => exact atEnd
      | threw error => trivial
      | cut => trivial
    · intro status history last _ atEnd
      apply Program.Ensures.done
      rintro _ ⟨-, rfl⟩
      exact ⟨status, rfl, atEnd⟩
  obtain ⟨status, rfl, patched, unpassed⟩ :=
    ends.sound (fun _ _ _ same => ⟨trivial, same⟩) trivial execution
  exact not_everyChangeScheduled_of_renamed
    (patched.2 renames (by simpa using succeeded)) unpassed

end ChangesScheduled

namespace ChangesScheduled

/-! ## A small account -/

/-- An account with one device, delivered to one provider by one action. -/
def deliveringWorld : World where
  store := EventStore.recorded 1
    [(.traefikProvider, 10, .traefikProvider
        (.created ⟨10, 1, "home", .agentInitiated, 0⟩)),
     (.ipClient, 20, .ipClient (.registered 20 1 "router" "hash" 0)),
     (.ipClient, 20, .ipClient (.ipChanged
        { previousIPv4 := none
          newIPv4 := some "192.0.2.7"
          previousIPv6 := none
          newIPv6 := none
          settledAt := 0 })),
     (.action, 30, .action (.attached
        { actionId := 30
          accountId := 1
          ipClientId := 20
          type := .traefikConfigDelivery
          addressFamilies := [.ipv4, .ipv6]
          config := .delivery ⟨10, "lan"⟩
          attachedAt := 0 }))]

theorem deliveringWorld_sequenced : deliveringWorld.store.Sequenced :=
  EventStore.recorded_sequenced _ _

/-- A collation that tells no texts apart. -/
instance transCmp_eq : Std.TransCmp fun (_ _ : String) => Ordering.eq where
  eq_swap := rfl
  isLE_trans := fun _ _ => rfl

def disableRequest : BackendRequest := ⟨0, 0, .action 1 (.disable 30)⟩

def renameRequest : BackendRequest :=
  ⟨0, 0, .provider (.patch 1 10 (some "away") none)⟩

/-- A request that runs alone, with every call answered. -/
def answersAlone (request : BackendRequest) (calls : Nat) :
    Outcome Err (Option Nat) × World :=
  (request.command.program exampleBackendDeps request.now).run semantics
    (List.replicate calls .ok) deliveringWorld

end ChangesScheduled

open ChangesScheduled in
/-- A command that changes actions, devices or names and succeeds has passed
every active provider whose content it changes to the scheduler, unless it gave
a provider another name. -/
theorem changes_are_scheduled {deps : BackendDeps}
    [Std.TransCmp deps.providers.server.publisher.text.localeCompare]
    {request : BackendRequest} {before after : World}
    {history : BackendHistory} {answer : Option Nat}
    (actions : deps.actions.snapshots = true)
    (ipClients : deps.ipClients.snapshots = true)
    (debounce : deps.debounceSnapshots = true)
    (sequenced : before.store.Sequenced)
    (manages : request.command.managesDelivery = true)
    (execution : Execution semantics Eq (fun _ _ _ _ => True) []
      (request.command.program deps request.now) before history
      (.returned answer) after)
    (succeeded : answer.all (· < 300) = true) :
    EveryChangeScheduled deps.providers.server.publisher.text before after
        history ↔
      ¬ request.command.renames before.store := by
  constructor
  · intro scheduled renames
    obtain ⟨number, now, command⟩ := request
    cases command with
    | provider command =>
        cases command with
        | patch accountId providerId name connectionMode =>
            exact rename_unscheduled sequenced renames execution succeeded
              scheduled
        | _ => exact renames
    | _ => exact renames
  · intro keepsName
    have start : Reached before.store [] [] before := ⟨rfl, by simp⟩
    have spec : (request.command.program deps request.now).Ensures semantics
        alone (answers deps.providers.server.publisher.text before.store)
        [] before :=
      command_informs actions ipClients debounce sequenced manages keepsName
        start
    have informed := spec.sound (fun _ _ _ same => ⟨trivial, same⟩) trivial
      execution
    exact everyChangeScheduled_of_informed informed

open ChangesScheduled in
/-- Disabling the action of a small account. -/
theorem changes_are_scheduled_disabling :
    (answersAlone disableRequest 9).1 = .returned (some 200) ∧
    ∃ history, EveryChangeScheduled
      exampleBackendDeps.providers.server.publisher.text deliveringWorld
      (answersAlone disableRequest 9).2 history := by
  have succeeds : (answersAlone disableRequest 9).1 = .returned (some 200) := by
    decide +kernel
  refine ⟨succeeds, ?_⟩
  obtain ⟨history, execution⟩ := Program.run_execution semantics
    (fun world : World => (rfl : world = world))
    (disableRequest.command.program exampleBackendDeps disableRequest.now)
    (List.replicate 9 .ok) deliveringWorld [] (fun _ _ _ _ _ => trivial)
  have execution : Execution semantics Eq (fun _ _ _ _ => True) []
      (disableRequest.command.program exampleBackendDeps disableRequest.now)
      deliveringWorld history (.returned (some 200))
      (answersAlone disableRequest 9).2 := succeeds ▸ execution
  exact ⟨history, (@changes_are_scheduled exampleBackendDeps transCmp_eq
    disableRequest deliveringWorld _ history (some 200) rfl rfl rfl
    deliveringWorld_sequenced rfl execution rfl).mpr id⟩

open ChangesScheduled in
/-- A provider given another name is not passed to the scheduler, although its
content shows the name. -/
theorem rename_is_not_scheduled :
    ¬ ∀ (deps : BackendDeps) (request : BackendRequest) (before after : World)
        (history : BackendHistory) (answer : Option Nat),
      Std.TransCmp deps.providers.server.publisher.text.localeCompare →
      deps.actions.snapshots = true →
      deps.ipClients.snapshots = true →
      deps.debounceSnapshots = true →
      before.store.Sequenced →
      request.command.managesDelivery = true →
      Execution semantics Eq (fun _ _ _ _ => True) []
        (request.command.program deps request.now) before history
        (.returned answer) after →
      answer.all (· < 300) = true →
      EveryChangeScheduled deps.providers.server.publisher.text before after
        history := by
  intro claim
  have succeeds : (answersAlone renameRequest 14).1 = .returned (some 200) := by
    decide +kernel
  obtain ⟨history, execution⟩ := Program.run_execution semantics
    (fun world : World => (rfl : world = world))
    (renameRequest.command.program exampleBackendDeps renameRequest.now)
    (List.replicate 14 .ok) deliveringWorld [] (fun _ _ _ _ _ => trivial)
  have execution : Execution semantics Eq (fun _ _ _ _ => True) []
      (renameRequest.command.program exampleBackendDeps renameRequest.now)
      deliveringWorld history (.returned (some 200))
      (answersAlone renameRequest 14).2 := succeeds ▸ execution
  have scheduled := claim exampleBackendDeps renameRequest deliveringWorld _
    history (some 200) transCmp_eq rfl rfl rfl deliveringWorld_sequenced rfl
    execution rfl
  exact rename_unscheduled deliveringWorld_sequenced (by decide +kernel)
    execution rfl scheduled

end FluxIP
