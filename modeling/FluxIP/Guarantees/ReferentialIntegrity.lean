import FluxIP.Adapters.Folds
import FluxIP.Adapters.References
import FluxIP.Guarantees.DecidedRuns

/-!
# Referential integrity

What actions refer to, while actions are attached, reconfigured and detached,
providers deleted and credentials revoked in any order.  Each side looks at the
other side's streams and then appends to its own, which no version of the
others guards.
-/

namespace FluxIP

open Async

/-- No action that is not detached refers to a provider that was deleted or to
a credential that was revoked. -/
def ReferencesHold (store : EventStore) (accountId : Id) : Prop :=
  ∀ actionId config,
    (actionIn store accountId actionId).status ≠ .detached →
    (actionIn store accountId actionId).config = some config →
    ∀ event ∈ store.readStream (config.reference accountId),
      event.data.removes (config.reference accountId).aggregateType = false

/-- Only the first event of a stream creates a provider or a credential. -/
def CreatedOnce (store : EventStore) : Prop :=
  ∀ params, ∀ event ∈ (store.readStream params).tail,
    event.data.creates = false

/-- The actions of the account are as the routes leave them. -/
def ActionsWellTyped (store : EventStore) (accountId : Id) : Prop :=
  ∀ actionId, (actionIn store accountId actionId).WellTyped

/-- The requests of the account that change actions, delete providers or revoke
credentials. -/
def BackendCommand.ofReferences (accountId : Id) : BackendCommand → Bool
  | .action owner _ => owner = accountId
  | .provider (.delete owner _) => owner = accountId
  | .account owner (.revokeCredential _) => owner = accountId
  | _ => false

/-- The request has read every removal of what the config names. -/
def configIsCurrent (accountId : Id) (store : EventStore)
    (history : BackendHistory) (config : ActionConfig) : Bool :=
  let params := config.reference accountId
  decide (HasSeen (·.data.removes params.aggregateType) store history params)

/-- The request has read every event by which an action names this. -/
def usesAreCurrent (accountId : Id) (store : EventStore)
    (history : BackendHistory) (params : ReadStreamParams) : Bool :=
  (store.listAggregateIds accountId .action []).all fun actionId =>
    let action : ReadStreamParams := ⟨accountId, .action, actionId⟩
    (store.readStream action).any (·.data.names params) →
      HasSeen (·.data.names params) store history action

/-- What was looked at before this is appended has not changed since. -/
def lookIsCurrent (accountId : Id) (store : EventStore)
    (history : BackendHistory) (input : AppendEventInput) : Bool :=
  match input.data with
  | .action (.attached data) =>
      configIsCurrent accountId store history data.config
  | .action (.reconfigured data) =>
      data.config.all (configIsCurrent accountId store history)
  | data =>
      !data.removes input.aggregateType ||
        usesAreCurrent accountId store history input.params

/-- The requests are of this kind, and what each has looked at is current when
it appends. -/
def looksAreCurrent (accountId : Id) (pool : BackendPool) :
    Move BackendRequest Choice → Bool
  | .start request => request.command.ofReferences accountId
  | .advance index _ =>
      match pool.threads[index]? with
      | some ⟨_, history, .await (.store (.append input)) _⟩ =>
          lookIsCurrent accountId pool.state.store history input
      | _ => true

/-- Only requests of this kind are made. -/
def startsReferences (accountId : Id) : Move BackendRequest Choice → Bool
  | .start request => request.command.ofReferences accountId
  | .advance _ _ => true

variable {deps : BackendDeps} {pool next : BackendPool}

namespace ReferentialIntegrity

variable {store after : EventStore} {accountId : Id}
variable {history : BackendHistory} {params : ReadStreamParams}
variable {input : AppendEventInput} {event : StoredEvent}

theorem readStream_nodup (sequenced : store.Sequenced)
    (params : ReadStreamParams) : (store.readStream params).Nodup := by
  have events : store.events.Nodup := List.Nodup.of_map _ sequenced.distinct
  unfold EventStore.readStream EventStore.stream
  apply (List.perm_insertionSort _ _).nodup_iff.mpr
  exact (events.filter _).filter _

/-! ## What is out of use stays out of use -/

theorem provider_staysDeleted {state : TraefikProviderState}
    {events : List StoredEvent} (deleted : state.status = .deleted)
    (others : ∀ event ∈ events, event.data.creates = false) :
    (events.foldl traefikProviderReducer state).status = .deleted := by
  induction events generalizing state with
  | nil => exact deleted
  | cons event events ih =>
      apply ih
      · have other := others event List.mem_cons_self
        unfold traefikProviderReducer
        split <;> simp_all [EventData.creates]
        split <;> rfl
      · exact fun event member => others event (List.mem_cons_of_mem _ member)

theorem credential_staysRevoked {state : ProviderCredentialState}
    {events : List StoredEvent} (revoked : state.status = .revoked)
    (others : ∀ event ∈ events, event.data.creates = false) :
    (events.foldl providerCredentialReducer state).status = .revoked := by
  induction events generalizing state with
  | nil => exact revoked
  | cons event events ih =>
      apply ih
      · have other := others event List.mem_cons_self
        unfold providerCredentialReducer
        split <;> simp_all [EventData.creates]
      · exact fun event member => others event (List.mem_cons_of_mem _ member)

/-- What was removed cannot be used. -/
theorem unusable_of_removed {seen : List StoredEvent}
    (createdOnce : ∀ event ∈ seen.tail, event.data.creates = false)
    (member : event ∈ seen)
    (removed : event.data.removes params.aggregateType = true) :
    ¬ Usable params seen := by
  obtain ⟨earlier, later, rfl⟩ := List.append_of_mem member
  have others : ∀ event ∈ later, event.data.creates = false := by
    intro other afterwards
    apply createdOnce
    cases earlier with
    | nil => exact afterwards
    | cons first earlier =>
        exact List.mem_append_right _ (List.mem_cons_of_mem _ afterwards)
  intro usable
  unfold EventData.removes at removed
  split at removed
  · rename_i deletedAt written
    have ofType := of_decide_eq_true removed
    unfold Usable at usable
    rw [ofType, List.foldl_append, List.foldl_cons] at usable
    have active := (of_decide_eq_true usable).2.2
    rw [provider_staysDeleted _ others] at active
    · cases active
    · simp only [traefikProviderReducer, written]
  · rename_i revokedAt written
    have ofType := of_decide_eq_true removed
    unfold Usable at usable
    simp only [ofType, Actions.activeToken, List.foldl_append,
      List.foldl_cons] at usable
    rw [credential_staysRevoked _ others] at usable
    · simp at usable
    · simp only [providerCredentialReducer, written]
  · cases removed

/-- Nothing was removed that was found usable, if the look is current. -/
theorem free_of_vetted (seen : SeenInOrder store history)
    (createdOnce : CreatedOnce store) (vetted : Vetted params history)
    (current : HasSeen (·.data.removes params.aggregateType) store history
      params) :
    ∀ event ∈ store.readStream params,
      event.data.removes params.aggregateType = false := by
  obtain ⟨read, isRead, complete⟩ := current
  obtain ⟨rest, grown⟩ := (seen params).2 read isRead
  intro event member
  by_contra removes
  have removed : event.data.removes params.aggregateType = true := by
    simpa using removes
  apply unusable_of_removed _ (complete event member removed) removed
  · exact vetted read isRead
  · intro other later
    apply createdOnce params
    rw [← grown]
    cases read with
    | nil => cases later
    | cons first read => exact List.mem_append_left rest later

/-! ## What an action uses -/

/-- What the routes look at of an action besides its status. -/
def setup (state : ActionState) :
    Option Id × Option Id × Option ActionType × Option ActionConfig :=
  (state.actionId, state.ipClientId, state.type, state.config)

theorem wellTyped_of_setup {left right : ActionState}
    (same : setup left = setup right) (wellTyped : right.WellTyped) :
    left.WellTyped := by
  simp only [setup, Prod.mk.injEq] at same
  obtain ⟨sameId, sameDevice, sameType, sameConfig⟩ := same
  obtain ⟨actionId, ipClientId, delivers⟩ := wellTyped
  constructor
  · rw [sameConfig, sameId]
    exact actionId
  · rw [sameId, sameDevice]
    exact ipClientId
  · rw [sameConfig, sameType]
    exact delivers

/-- An event that does not name what the config names does not set up the
action. -/
theorem setup_of_unnamed {state : ActionState} {config : ActionConfig}
    (has : (actionReducer state event).config = some config)
    (unnamed : event.data.names (config.reference accountId) = false) :
    setup (actionReducer state event) = setup state := by
  have own : (config.reference accountId).accountId = accountId := by
    cases config <;> rfl
  unfold actionReducer at has ⊢
  unfold EventData.names at unnamed
  split at has
  · rename_i data written
    cases has
    rw [written] at unnamed
    simp [own] at unnamed
  · rename_i data written
    rw [written] at unnamed
    cases given : data.config with
    | none => simp [setup]
    | some other =>
        rw [given] at has
        cases has
        simp [given, own] at unnamed
  all_goals rfl

/-- The config of an action is what the last event has named that set it up. -/
theorem named_or_setup {config : ActionConfig} {state : ActionState}
    {events : List StoredEvent}
    (has : (events.foldl actionReducer state).config = some config) :
    (∃ event ∈ events,
      event.data.names (config.reference accountId) = true) ∨
    setup (events.foldl actionReducer state) = setup state := by
  induction events generalizing state with
  | nil => exact .inr rfl
  | cons event events ih =>
      rcases ih has with ⟨named, member, names⟩ | same
      · exact .inl ⟨named, List.mem_cons_of_mem _ member, names⟩
      by_cases names :
          event.data.names (config.reference accountId) = true
      · exact .inl ⟨event, List.mem_cons_self, names⟩
      · right
        have here : (actionReducer state event).config = some config := by
          have sameConfig := congrArg (·.2.2.2) same
          exact sameConfig.symm.trans has
        exact same.trans (setup_of_unnamed here (by simpa using names))

/-- No action uses what none was seen to use, if the look is current. -/
theorem unused_now (sequenced : store.Sequenced)
    (seen : SeenInOrder store history)
    (detached : ∀ actionId, ∀ read ∈
        readsOf ⟨accountId, .action, actionId⟩ history,
      (actionOf read).status = .detached →
      (actionIn store accountId actionId).status = .detached)
    (wellTyped : ActionsWellTyped store accountId) {config : ActionConfig}
    (current : usesAreCurrent accountId store history
      (config.reference accountId) = true)
    (unused : Unused (config.reference accountId) history) (actionId : Id)
    (alive : (actionIn store accountId actionId).status ≠ .detached) :
    (actionIn store accountId actionId).config ≠ some config := by
  intro has
  have own : (config.reference accountId).accountId = accountId := by
    cases config <;> rfl
  have fold : (actionIn store accountId actionId) =
      actionOf (store.readStream ⟨accountId, .action, actionId⟩) := rfl
  rw [fold] at has
  have isNamed : (store.readStream ⟨accountId, .action, actionId⟩).any
      (·.data.names (config.reference accountId)) = true := by
    rcases named_or_setup has with ⟨named, member, names⟩ | same
    · exact List.any_eq_true.mpr ⟨named, member, names⟩
    · have sameConfig := congrArg (·.2.2.2) same
      exact absurd (has.symm.trans sameConfig) (Option.some_ne_none config)
  obtain ⟨named, member, names⟩ := List.any_eq_true.mp isNamed
  obtain ⟨stored, ofType, ofId, ofAccount⟩ :=
    EventStore.mem_readStream.mp member
  have isListed : actionId ∈ store.listAggregateIds accountId .action [] :=
    EventStore.mem_listAggregateIds.mpr ⟨named, stored, ofAccount, ofType, ofId⟩
  have hasSeen := List.all_eq_true.mp current actionId isListed
  dsimp only at hasSeen
  obtain ⟨read, isRead, complete⟩ := of_decide_eq_true hasSeen isNamed
  obtain ⟨rest, whole⟩ := (seen _).2 read isRead
  have unchanged : setup (actionOf (read ++ rest)) = setup (actionOf read) := by
    have foldRest : actionOf (read ++ rest) =
        rest.foldl actionReducer (actionOf read) := List.foldl_append
    rw [← whole, foldRest] at has
    rw [foldRest]
    rcases named_or_setup has with ⟨later, inRest, names⟩ | same
    · have inStream : later ∈
          store.readStream ⟨accountId, .action, actionId⟩ :=
        whole ▸ List.mem_append_right _ inRest
      have distinct := whole ▸ readStream_nodup sequenced
        ⟨accountId, .action, actionId⟩
      exact ((List.nodup_append.mp distinct).2.2 later
        (complete later inStream names) later inRest rfl).elim
    · exact same
  rw [whole] at unchanged
  have read' : read ∈ readsOf
      ⟨(config.reference accountId).accountId, .action, actionId⟩ history :=
    own.symm ▸ isRead
  apply unused actionId read read'
  · exact wellTyped_of_setup unchanged.symm (wellTyped actionId)
  · refine ⟨fun ended => alive (detached actionId read isRead ended), config,
      ?_, ?_⟩
    · have sameConfig := congrArg (·.2.2.2) unchanged
      exact sameConfig.symm.trans has
    · rw [own]

/-! ## The requests -/

/-- The calls of the requests of the references. -/
def ReferenceCalls (accountId : Id) (request : BackendRequest)
    (history : BackendHistory) (call : Call) : Prop :=
  request.command.ofReferences accountId = true →
    call.keepsAccounts ∧ LooksFirst accountId history call

theorem answered_looks {program : Backend Nat}
    (looks : program.Traces (LooksFirst accountId) anyEnd []) :
    (answered program).Traces (LooksFirst accountId) anyEnd [] :=
  looks.bind (fun _ _ _ => trivial) fun _ _ _ => trivial

theorem run_looks (actionId : Id) :
    (ActionRun.run accountId actionId).Traces (LooksFirst accountId) anyEnd
      [] := by
  apply Program.AlwaysTraces.of_calls (run_standsAside accountId actionId)
  intro history call aside input same
  subst same
  cases aside

theorem actionCommand_looks (deps : BackendDeps) (now : Timestamp)
    (command : ActionCommand) :
    (command.program deps accountId now).Traces (LooksFirst accountId) anyEnd
      [] := by
  have changes {actionId : Id} {event : ActionEvent} {atEnd : Nat}
      {afterwards : ActionState → Backend Unit}
      (change : command.change now = some (actionId, event))
      (calls : ∀ state, (afterwards state).Calls
        fun call => Backend.quiet call = true) :
      (Actions.changeStatus deps.actions accountId actionId event atEnd
        afterwards).Traces (LooksFirst accountId) anyEnd [] :=
    changeStatus_looks deps.actions actionId change atEnd calls []
  cases command with
  | attach ipClientId body => exact answered_looks (attach_looks _ _ _)
  | reconfigure actionId body =>
      exact answered_looks (reconfigure_looks _ _ _)
  | enable actionId => exact answered_looks (changes rfl fun _ => trivial)
  | disable actionId => exact answered_looks (changes rfl fun _ => trivial)
  | detach actionId =>
      apply answered_looks
      apply changes rfl
      exact fun state => Program.Calls.onlyIf (Actions.cleanup_quiet _ _ _)
  | run actionId => exact answered_looks (run_looks actionId)

theorem command_looks (deps : BackendDeps) (now : Timestamp)
    {command : BackendCommand}
    (ofReferences : command.ofReferences accountId = true) :
    (command.program deps now).Traces (LooksFirst accountId) anyEnd [] := by
  cases command with
  | action owner command =>
      cases of_decide_eq_true ofReferences
      exact actionCommand_looks deps now command
  | provider command =>
      cases command with
      | delete owner providerId =>
          cases of_decide_eq_true ofReferences
          exact answered_looks (delete_looks providerId)
      | _ => cases ofReferences
  | account owner command =>
      cases command with
      | revokeCredential credentialId =>
          cases of_decide_eq_true ofReferences
          exact answered_looks (revoke_looks credentialId)
      | _ => cases ofReferences
  | _ => cases ofReferences

theorem referenceCalls (deps : BackendDeps) (accountId : Id)
    (request : BackendRequest) :
    (request.command.program deps request.now).Traces
      (ReferenceCalls accountId request) anyEnd [] := by
  by_cases ofReferences : request.command.ofReferences accountId = true
  · have spares : (request.command.program deps request.now).Calls
        Call.keepsAccounts := by
      apply command_keepsAccounts
      intro owner close
      rw [close] at ofReferences
      cases ofReferences
    apply ((command_looks deps request.now ofReferences).calling
      spares).allows
    exact fun history call both _ => ⟨both.2, both.1⟩
  · exact (command_appends deps request.now request.command).allows
      fun _ _ _ isReference => (ofReferences isReference).elim

/-- What the requests of the references may insert into the stream of an
action. -/
theorem insertion_cases {credentials : Credentials} {now : Timestamp}
    {command : BackendCommand} {seen : List StoredEvent}
    (ofReferences : command.ofReferences accountId = true)
    (appends : Appends credentials now command input seen) :
    input.aggregateType ≠ .action ∨
      (∃ data, input =
        Actions.appendInput accountId data.actionId 0 (.attached data)) ∨
      (command.usesOwnVersion = true ∧ ∃ actionId version data, input =
        Actions.appendInput accountId actionId version (.reconfigured data)) ∨
      ∃ changing actionId version event,
        ActionCommand.change now changing = some (actionId, event) ∧
        input = Actions.appendInput accountId actionId version event ∧
        (actionOf seen).status ≠ .detached := by
  cases appends with
  | account kind => exact .inl (typed_of_ofAccount kind).2
  | attach =>
      cases of_decide_eq_true ofReferences
      exact .inr (.inl ⟨_, rfl⟩)
  | reconfigure =>
      cases of_decide_eq_true ofReferences
      exact .inr (.inr (.inl ⟨rfl, _, _, _, rfl⟩))
  | actionStatus change alive =>
      cases of_decide_eq_true ofReferences
      exact .inr (.inr (.inr ⟨_, _, _, _, change, rfl, alive⟩))
  | provider kind => exact .inl (typed_of_ofProvider kind).2
  | register => cases ofReferences
  | clientStatus change alive => cases ofReferences
  | rotate alive => cases ofReferences
  | preference => cases ofReferences
  | report presented authorized => cases ofReferences
  | settle confirmed => cases ofReferences
  | execute kind => cases ofReferences

/-! ## Runs -/

/-- What holds in every state of a run in which the looks are current. -/
structure Referring (deps : BackendDeps) (accountId : Id)
    (pool : BackendPool) : Prop where
  deciding : Deciding deps pool
  calls : pool.Traced (ReferenceCalls accountId)
  requests : pool.Asks fun request =>
    request.command.ofReferences accountId = true
  detached : ∀ actionId, pool.Knows
    (fun _ history =>
      ∃ seen ∈ readsOf ⟨accountId, .action, actionId⟩ history,
        (actionOf seen).status = .detached)
    fun world => (actionOf (world.store.readStream
      ⟨accountId, .action, actionId⟩)).status = .detached
  createdOnce : CreatedOnce pool.state.store
  wellTyped : ActionsWellTyped pool.state.store accountId
  hold : ReferencesHold pool.state.store accountId

/-- A request of the references, the event it inserts and what it has looked
at. -/
structure Inserting (deps : BackendDeps) (accountId : Id)
    (pool next : BackendPool) (index : Nat) (request : BackendRequest)
    (history : BackendHistory) (input : AppendEventInput)
    (event : StoredEvent) : Prop where
  atEnd : InsertionAtEnd deps pool next index request history input event
  ofReferences : request.command.ofReferences accountId = true
  vetted : VettedFor accountId history input
  current : lookIsCurrent accountId pool.state.store history input = true

variable {index : Nat} {request : BackendRequest} {choice : Choice}

/-- What an insertion does to the action to whose stream it goes. -/
inductive Changes (accountId : Id) (history : BackendHistory)
    (store : EventStore) (before after : ActionState) : Prop where
  | attached (data : ActionAttachedData) (first : before = initialActionState)
      (reduced : after = { before with
        actionId := some data.actionId
        accountId := some data.accountId
        ipClientId := some data.ipClientId
        type := some data.type
        addressFamilies := data.addressFamilies
        config := some data.config
        status := .enabled })
      (vetted : Vetted (data.config.reference accountId) history)
      (delivers : data.config.asDelivery.isSome = true →
        data.type = .traefikConfigDelivery)
      (current :
        configIsCurrent accountId store history data.config = true)
  | reconfigured (config : ActionConfig) (addressFamilies : List AddressFamily)
      (reduced : after = { before with
        addressFamilies := addressFamilies
        config := some config })
      (vetted : Vetted (config.reference accountId) history)
      (isThere : before.actionId.isSome = true)
      (delivers : config.asDelivery.isSome = true →
        before.type = some .traefikConfigDelivery)
      (current : configIsCurrent accountId store history config = true)
  | kept (same : setup after = setup before)
      (alive : after.status ≠ .detached → before.status ≠ .detached)
      (ends : before.status = .detached → after.status = .detached)

theorem Inserting.changes {actionId : Id}
    (inserting : Inserting deps accountId pool next index request history
      input event)
    (own : input.params = ⟨accountId, .action, actionId⟩) :
    Changes accountId history pool.state.store
      (actionIn pool.state.store accountId actionId)
      (actionIn next.state.store accountId actionId) := by
  obtain ⟨written, reduced⟩ := inserting.atEnd.reduces own
  obtain ⟨atEnd, ofReferences, vetted, current⟩ := inserting
  rw [reduced]
  rcases insertion_cases ofReferences atEnd.appends with
    other | ⟨data, rfl⟩ | ⟨ownVersion, _, version, data, rfl⟩ |
    ⟨changing, _, version, changed, change, rfl, alive⟩
  · exact absurd (congrArg ReadStreamParams.aggregateType own) other
  · have nothing := atEnd.nothing rfl
    rw [own] at nothing
    have first : actionIn pool.state.store accountId actionId =
        initialActionState := by
      unfold actionIn replayed
      rw [nothing]
      rfl
    obtain ⟨vets, delivers⟩ := vetted.attached data rfl
    refine .attached data first ?_ vets delivers current
    simp only [actionReducer, written, Actions.appendInput]
  · cases given : data.config with
    | none =>
        apply Changes.kept <;>
          simp only [actionReducer, written, Actions.appendInput, given,
            setup] <;> first | rfl | exact id
    | some config =>
        obtain ⟨vets, seen, first, isThere, delivers⟩ :=
          vetted.reconfigured data config rfl given
        have whole := atEnd.firstRead ownVersion seen first
        rw [own] at whole
        subst whole
        refine .reconfigured config
          (data.addressFamilies.getD
            (actionIn pool.state.store accountId actionId).addressFamilies)
          ?_ vets isThere delivers ?_
        · simp only [actionReducer, written, Actions.appendInput, given]
          rfl
        · simpa [lookIsCurrent, Actions.appendInput, given] using current
  · rw [own] at alive
    have aliveBefore :
        (actionIn pool.state.store accountId actionId).status ≠ .detached :=
      alive
    apply Changes.kept
    · cases changing <;> cases change <;>
        simp only [actionReducer, written, Actions.appendInput, setup]
    · exact fun _ => aliveBefore
    · exact fun ended => absurd ended aliveBefore

theorem Changes.wellTyped {before state : ActionState}
    (changes : Changes accountId history store before state)
    (wellTyped : before.WellTyped) : state.WellTyped := by
  cases changes with
  | attached data first reduced vetted delivers current =>
      subst reduced
      constructor
      · exact fun _ => rfl
      · exact fun _ => rfl
      · exact fun isDelivery => congrArg some (delivers isDelivery)
  | reconfigured config addressFamilies reduced vetted isThere delivers
      current =>
      subst reduced
      constructor
      · exact fun _ => isThere
      · exact wellTyped.ipClientId
      · exact delivers
  | kept same alive ends => exact wellTyped_of_setup same wellTyped

theorem Changes.ends {before state : ActionState}
    (changes : Changes accountId history store before state)
    (ended : before.status = .detached) : state.status = .detached := by
  cases changes with
  | attached data first reduced vetted delivers current =>
      rw [first] at ended
      cases ended
  | reconfigured config addressFamilies reduced vetted isThere delivers
      current =>
      subst reduced
      exact ended
  | kept same alive ends => exact ends ended

/-- What an action refers to after an insertion was not removed before. -/
theorem Changes.free {before state : ActionState} {config : ActionConfig}
    (changes : Changes accountId history store before state)
    (seen : SeenInOrder store history) (createdOnce : CreatedOnce store)
    (holds : before.status ≠ .detached → before.config = some config →
      ∀ event ∈ store.readStream (config.reference accountId),
        event.data.removes (config.reference accountId).aggregateType = false)
    (alive : state.status ≠ .detached) (has : state.config = some config) :
    ∀ event ∈ store.readStream (config.reference accountId),
      event.data.removes (config.reference accountId).aggregateType =
        false := by
  cases changes with
  | attached data first reduced vetted delivers current =>
      subst reduced
      cases has
      exact free_of_vetted seen createdOnce vetted (of_decide_eq_true current)
  | reconfigured config addressFamilies reduced vetted isThere delivers
      current =>
      subst reduced
      cases has
      exact free_of_vetted seen createdOnce vetted (of_decide_eq_true current)
  | kept same stays ends =>
      have sameConfig := congrArg (·.2.2.2) same
      exact holds (stays alive) (sameConfig.symm.trans has)

namespace Referring

variable {move : Move BackendRequest Choice}

theorem noDeletion (referring : Referring deps accountId pool)
    (move : Move BackendRequest Choice) : NoDeletion pool move := by
  apply noDeletion_of_calls
  intro thread member call resume awaiting
  have calls := referring.calls thread member
  rw [awaiting] at calls
  exact (calls.1 (referring.requests thread member)).1

theorem inserting (referring : Referring deps accountId pool)
    (insertion : Insertion pool next index request history input event)
    (current :
      looksAreCurrent accountId pool (.advance index choice) = true) :
    Inserting deps accountId pool next index request history input event := by
  obtain ⟨resume, found⟩ := insertion.running
  have member := List.mem_of_getElem? found
  have ofReferences := referring.requests _ member
  refine ⟨referring.deciding.atEnd insertion, ofReferences, ?_, ?_⟩
  · exact ((referring.calls _ member).1 ofReferences).2 input rfl
  · simpa [looksAreCurrent, found] using current

theorem changes_or_same (actionId : Id)
    (inserting : Inserting deps accountId pool next index request history
      input event) :
    Changes accountId history pool.state.store
        (actionIn pool.state.store accountId actionId)
        (actionIn next.state.store accountId actionId) ∨
      actionIn next.state.store accountId actionId =
        actionIn pool.state.store accountId actionId := by
  by_cases own : input.params = ⟨accountId, .action, actionId⟩
  · exact .inl (inserting.changes own)
  · exact .inr (inserting.atEnd.actionIn_other own)

theorem createdOnce_inserted (referring : Referring deps accountId pool)
    (inserting : Inserting deps accountId pool next index request history
      input event) : CreatedOnce next.state.store := by
  intro params other member
  by_cases own : input.params = params
  · subst own
    obtain ⟨written, grown⟩ := inserting.atEnd.grown
    rw [grown] at member
    cases before : pool.state.store.readStream input.params with
    | nil =>
        rw [before] at member
        cases member
    | cons first rest =>
        rw [before] at member
        rcases List.mem_append.mp member with old | new
        · apply referring.createdOnce input.params
          rw [before]
          exact old
        · rw [List.mem_singleton] at new
          subst new
          rw [written]
          exact inserting.vetted.creates
  · rw [inserting.atEnd.other own] at member
    exact referring.createdOnce params other member

theorem usesAreCurrent_of_removes
    (current : lookIsCurrent accountId store history input = true)
    (removes : input.data.removes input.aggregateType = true) :
    usesAreCurrent accountId store history input.params = true := by
  unfold lookIsCurrent at current
  split at current
  · rename_i data written
    rw [written] at removes
    cases removes
  · rename_i data written
    rw [written] at removes
    cases removes
  · simpa [removes] using current

/-- Nothing is removed that an action refers to. -/
theorem spares_used (referring : Referring deps accountId pool)
    (inserting : Inserting deps accountId pool next index request history
      input event) {actionId : Id} {config : ActionConfig}
    (own : input.params = config.reference accountId)
    (alive :
      (actionIn pool.state.store accountId actionId).status ≠ .detached)
    (has : (actionIn pool.state.store accountId actionId).config =
      some config) :
    input.data.removes input.aggregateType = false := by
  obtain ⟨resume, found⟩ := inserting.atEnd.insertion.running
  have member := List.mem_of_getElem? found
  by_contra removes
  have removed : input.data.removes input.aggregateType = true := by
    simpa using removes
  have current := usesAreCurrent_of_removes inserting.current removed
  have unused := inserting.vetted.removed removed
  rw [own] at current unused
  apply unused_now referring.deciding.sound.sequenced
    (referring.deciding.sound.seen _ member) _ referring.wellTyped current
    unused actionId alive has
  intro actionId read isRead ended
  exact referring.detached actionId _ member ⟨read, isRead, ended⟩

theorem hold_inserted (referring : Referring deps accountId pool)
    (inserting : Inserting deps accountId pool next index request history
      input event) : ReferencesHold next.state.store accountId := by
  obtain ⟨resume, found⟩ := inserting.atEnd.insertion.running
  have member := List.mem_of_getElem? found
  have seen := referring.deciding.sound.seen _ member
  intro actionId config alive has
  have isReference : (config.reference accountId).accountId = accountId ∧
      (config.reference accountId).aggregateType ≠ .action := by
    cases config <;> exact ⟨rfl, AggregateType.noConfusion⟩
  by_cases own : input.params = config.reference accountId
  · have different : input.params ≠ ⟨accountId, .action, actionId⟩ := by
      intro isAction
      have ofType := own.symm.trans isAction
      exact isReference.2 (congrArg ReadStreamParams.aggregateType ofType)
    rw [inserting.atEnd.actionIn_other different] at alive has
    obtain ⟨written, grown⟩ := inserting.atEnd.grown
    rw [own] at grown
    rw [grown]
    intro other member
    rcases List.mem_append.mp member with old | new
    · exact referring.hold actionId config alive has other old
    · rw [List.mem_singleton] at new
      subst new
      rw [written, ← own]
      exact referring.spares_used inserting own alive has
  · rw [inserting.atEnd.other own]
    rcases changes_or_same actionId inserting with changes | same
    · exact changes.free seen referring.createdOnce
        (referring.hold actionId config) alive has
    · rw [same] at alive has
      exact referring.hold actionId config alive has

theorem step (referring : Referring deps accountId pool)
    (current : looksAreCurrent accountId pool move = true)
    (moved : pool.step (backendService deps) move = some next) :
    Referring deps accountId next := by
  have noDeletion := referring.noDeletion move
  have inserts := noDeletion.inserts rfl moved
  constructor
  · exact referring.deciding.step noDeletion moved
  · exact referring.calls.step (referenceCalls deps accountId) moved
  · apply referring.requests.step _ moved
    intro request same
    subst same
    exact current
  · intro actionId
    apply knows_read rfl (referring.detached actionId) _ moved
    intro ended
    rcases inserts with same |
      ⟨index, choice, request, history, input, event, rfl, insertion⟩
    · rw [same]
      exact ended
    · rcases changes_or_same actionId
        (referring.inserting insertion current) with changes | same
      · exact changes.ends ended
      · have unchanged := congrArg ActionState.status same
        exact unchanged.trans ended
  · rcases inserts with same |
      ⟨index, choice, request, history, input, event, rfl, insertion⟩
    · rw [same]
      exact referring.createdOnce
    · exact referring.createdOnce_inserted
        (referring.inserting insertion current)
  · intro actionId
    rcases inserts with same |
      ⟨index, choice, request, history, input, event, rfl, insertion⟩
    · rw [same]
      exact referring.wellTyped actionId
    · rcases changes_or_same actionId
        (referring.inserting insertion current) with changes | same
      · exact changes.wellTyped (referring.wellTyped actionId)
      · rw [same]
        exact referring.wellTyped actionId
  · rcases inserts with same |
      ⟨index, choice, request, history, input, event, rfl, insertion⟩
    · rw [same]
      exact referring.hold
    · exact referring.hold_inserted (referring.inserting insertion current)

end Referring

theorem Referring.initial {world : World} (start : world.store.Sequenced)
    (createdOnce : CreatedOnce world.store)
    (wellTyped : ActionsWellTyped world.store accountId)
    (hold : ReferencesHold world.store accountId) :
    Referring deps accountId ⟨world, []⟩ where
  deciding := .initial start
  calls := fun _ member => by cases member
  requests := fun _ member => by cases member
  detached := fun _ => Pool.Knows.initial world
  createdOnce := createdOnce
  wellTyped := wellTyped
  hold := hold

/-! ## An example -/

/-- An account with a credential. -/
def withCredential : World where
  store := EventStore.recorded 1
    [(.providerCredential, 5, .providerCredential
      (.stored 5 1 "hetzner" "main" "token" "oken" 0))]

def attaches (number : Nat) : BackendRequest :=
  ⟨number, 0, .action 1 (.attach 2
    { type := some .hetznerCloudDnsUpdate
      addressFamilies := some [.ipv4]
      config := some
        { providerCredentialId := some 5
          zone := some "example.org"
          recordName := some "home" } })⟩

def revokes (number : Nat) : BackendRequest :=
  ⟨number, 0, .account 1 (.revokeCredential 5)⟩

/-- The action is attached, then the credential is to be revoked. -/
def inTurn : List (Move BackendRequest Choice) :=
  .start (attaches 0) :: CutOff.backendAdvances 0 6 ++
    .start (revokes 1) :: CutOff.backendAdvances 1 3

/-- The credential is revoked between the check and the append of `POST`. -/
def crossing : List (Move BackendRequest Choice) :=
  .start (attaches 0) :: .start (revokes 1) ::
    CutOff.backendAdvances 0 1 ++ CutOff.backendAdvances 1 3 ++
    CutOff.backendAdvances 0 2

theorem withCredential_start :
    withCredential.store.Sequenced ∧ CreatedOnce withCredential.store ∧
      ActionsWellTyped withCredential.store 1 ∧
      ReferencesHold withCredential.store 1 := by
  have unattached (actionId : Id) :
      actionIn withCredential.store 1 actionId = initialActionState := by
    apply actionIn_unlisted
    have nothing :
        withCredential.store.listAggregateIds 1 .action [] = [] := by
      decide +kernel
    rw [nothing]
    exact List.not_mem_nil
  refine ⟨EventStore.recorded_sequenced _ _, ?_, ?_, ?_⟩
  · intro params event member
    have short : (withCredential.store.readStream params).length ≤ 1 := by
      unfold EventStore.readStream EventStore.stream
      rw [List.length_insertionSort]
      exact (List.length_filter_le _ _).trans (List.length_filter_le _ _)
    have nothing : (withCredential.store.readStream params).tail = [] := by
      apply List.eq_nil_of_length_eq_zero
      rw [List.length_tail]
      omega
    rw [nothing] at member
    cases member
  · intro actionId
    rw [unattached]
    constructor <;> exact fun absent => by cases absent
  · intro actionId config alive has
    rw [unattached] at has
    cases has

end ReferentialIntegrity

/-- The moves of a run of these requests in which every look is current. -/
def LooksAreCurrent (accountId : Id) (pool : BackendPool)
    (move : Move BackendRequest Choice) : Prop :=
  looksAreCurrent accountId pool move = true

open ReferentialIntegrity in
/-- However attaching, reconfiguring and detaching actions, deleting providers
and revoking credentials interleave, no action that is not detached refers to
what was deleted or revoked, in every state of a run in which what each request
has looked at has not changed when it appends. -/
theorem references_hold {initial : World} {accountId : Id}
    (start : initial.store.Sequenced) (createdOnce : CreatedOnce initial.store)
    (wellTyped : ActionsWellTyped initial.store accountId)
    (hold : ReferencesHold initial.store accountId)
    (run : Pool.Run (backendService deps) (LooksAreCurrent accountId)
      ⟨initial, []⟩ pool) :
    ReferencesHold pool.state.store accountId := by
  suffices referring : Referring deps accountId pool from referring.hold
  apply run.invariant
  · exact .initial start createdOnce wellTyped hold
  · intro pool move next referring current moved
    exact referring.step current moved

open ReferentialIntegrity in
/-- A credential that an action uses is not revoked. -/
theorem references_hold_in_turn :
    ∃ pool : BackendPool,
      pool.returned 0 = some (attaches 0, some 201) ∧
      pool.returned 1 = some (revokes 1, some 409) ∧
      ReferencesHold pool.state.store 1 := by
  have ends : ((⟨withCredential, []⟩ : BackendPool).follow
      (backendService exampleBackendDeps) (looksAreCurrent 1) inTurn).map
      (fun pool => (pool.returned 0, pool.returned 1)) =
        some (some (attaches 0, some 201), some (revokes 1, some 409)) := by
    decide +kernel
  obtain ⟨pool, followed, returned⟩ := Option.map_eq_some_iff.mp ends
  have run : Pool.Run (backendService exampleBackendDeps) (LooksAreCurrent 1)
      ⟨withCredential, []⟩ pool :=
    Pool.run_of_follow (fun _ _ passed => passed) followed
  obtain ⟨start, createdOnce, wellTyped, hold⟩ := withCredential_start
  exact ⟨pool, congrArg Prod.fst returned, congrArg Prod.snd returned,
    references_hold start createdOnce wellTyped hold run⟩

open ReferentialIntegrity in
/-- A credential that is revoked between the check and the append of `POST`
leaves an action that refers to it. -/
theorem crossing_requests_break_a_reference :
    ¬ ∀ (deps : BackendDeps) (initial : World) (accountId : Id)
        (pool : BackendPool),
      initial.store.Sequenced → CreatedOnce initial.store →
      ActionsWellTyped initial.store accountId →
      ReferencesHold initial.store accountId →
      Pool.Run (backendService deps)
        (fun _ move => startsReferences accountId move = true)
        ⟨initial, []⟩ pool →
      ReferencesHold pool.state.store accountId := by
  intro claim
  have ends : ((⟨withCredential, []⟩ : BackendPool).follow
      (backendService exampleBackendDeps)
      (fun _ move => startsReferences 1 move) crossing).map (fun pool =>
        ((actionIn pool.state.store 1 0).status,
          (actionIn pool.state.store 1 0).config.map
            (ActionConfig.reference 1),
          (pool.state.store.readStream ⟨1, .providerCredential, 5⟩).map
            (·.data.removes .providerCredential))) =
        some (.enabled, some ⟨1, .providerCredential, 5⟩,
          [false, true]) := by
    decide +kernel
  obtain ⟨pool, followed, seen⟩ := Option.map_eq_some_iff.mp ends
  have run := Pool.run_of_follow (fun _ _ passed => passed) followed
  obtain ⟨start, createdOnce, wellTyped, hold⟩ := withCredential_start
  have holds := claim exampleBackendDeps withCredential 1 pool start
    createdOnce wellTyped hold run
  simp only [Prod.mk.injEq] at seen
  obtain ⟨alive, refers, removals⟩ := seen
  obtain ⟨config, has, named⟩ := Option.map_eq_some_iff.mp refers
  have removed : true ∈
      (pool.state.store.readStream ⟨1, .providerCredential, 5⟩).map
        (·.data.removes .providerCredential) := by
    rw [removals]
    decide
  obtain ⟨event, member, removes⟩ := List.mem_map.mp removed
  rw [← named] at member
  have kept := holds 0 config (by rw [alive]; decide) has event member
  rw [named, removes] at kept
  cases kept

end FluxIP
