import FluxIP.Adapters.Decisions
import FluxIP.Adapters.Steps

/-!
# Whom a command writes for

Every command but the trigger request and the opening of a stream is given
the account it works for, and appends for that account alone.  The closing of
an account apart, none of them deletes.
-/

namespace FluxIP

open Async

/-- The call changes no event and adds no execution job. -/
def Call.addsNothing : Call → Bool
  | .store (.append _) => false
  | .store (.deleteAccount _) => false
  | .queue (.addExecution _ _) => false
  | _ => true

theorem keepsStore_of_addsNothing {call : Call}
    (adds : Call.addsNothing call = true) : Call.keepsStore call = true := by
  cases call with
  | store call => cases call <;> first | rfl | cases adds
  | _ => rfl

theorem addsNothing_of_read {call : Call} (isRead : Backend.reads call = true) :
    Call.addsNothing call = true := by
  cases call with
  | store call => cases call <;> first | rfl | cases isRead
  | _ => first | rfl | cases isRead

theorem addsNothing_of_quiet {call : Call} (isQuiet : Backend.quiet call = true) :
    Call.addsNothing call = true := by
  cases call with
  | store call => cases call <;> first | rfl | cases isQuiet
  | queue call => cases isQuiet
  | _ => rfl

/-- The opening of a stream adds nothing. -/
theorem onSession_addsNothing (deps : GrpcAgentServerDeps)
    (call : SessionCall) (now : Timestamp) :
    (GrpcAgentServer.onSession deps call now).Calls
      fun call => Call.addsNothing call = true := by
  have reject : (GrpcAgentServer.reject deps call.source).Calls
      fun call => Call.addsNothing call = true := by
    apply Program.Calls.bind
    · unfold Program.onlyIf
      split
      · apply Program.Calls.bind
        · exact (Backend.calls_call _).mpr rfl
        intro count
        unfold Program.onlyIf
        split
        · exact (Backend.calls_call _).mpr rfl
        · trivial
      · trivial
    · exact fun _ => trivial
  have verify : (GrpcAgentServer.verify deps call).Calls
      fun call => Call.addsNothing call = true := by
    unfold GrpcAgentServer.verify
    dsimp only
    split
    · exact reject
    split
    · exact reject
    apply Program.Calls.bind
    · exact (Backend.calls_call _).mpr rfl
    intro account
    split
    · exact reject
    apply Program.Calls.bind
      ((ProviderStore.loadActive_reads _ _).mono fun _ => addsNothing_of_read)
    intro loaded
    split
    · exact reject
    · trivial
  apply Program.Calls.bind
  · unfold GrpcAgentServer.authenticate
    split
    · apply Program.Calls.bind
      · apply Program.Calls.bind
        · exact (Backend.calls_call _).mpr rfl
        · exact fun _ => trivial
      intro blocked
      split
      · trivial
      · exact verify
    · exact verify
  intro authentication
  cases authentication with
  | authenticated auth =>
      exact (Backend.calls_call (.memory (.openSession _ _ _ _))).mpr rfl
  | throttled => trivial
  | rejected => trivial

/-- A property of programs that composition keeps, and that the calls that add
nothing and the appends of one account have. -/
structure WritesFor (holds : (α : Type) → Backend α → Prop)
    (accountId : Id) : Prop where
  done : ∀ {α : Type} (value : α), holds α (.done value)
  fail : ∀ {α : Type} (error : Err), holds α (.fail error)
  bind : ∀ {α β : Type} {program : Backend α} {next : α → Backend β},
    holds α program → (∀ value, holds β (next value)) →
    holds β (program.bind next)
  attempt : ∀ {α : Type} {program : Backend α},
    holds α program → holds (Except Err α) program.attempt
  call : ∀ awaited : Call, Call.addsNothing awaited = true →
    holds awaited.Answer (Backend.call awaited)
  append : ∀ input : AppendEventInput, input.accountId = accountId →
    holds StoredEvent (Backend.append input)

/-- The account a command is given. -/
def ProviderCommand.accountId : ProviderCommand → Option Id
  | .post accountId _ _ => some accountId
  | .patch accountId _ _ _ => some accountId
  | .delete accountId _ => some accountId
  | .postToken accountId _ => some accountId
  | .deleteToken accountId _ _ => some accountId
  | .stream _ => none
  | .message auth _ _ => some auth.accountId
  | .heartbeat auth _ => some auth.accountId
  | .transportEnd auth _ => some auth.accountId
  | .closed auth _ => some auth.accountId
  | .coordinatorRun accountId _ _ => some accountId
  | .resync accountId _ => some accountId

def BackendCommand.accountId : BackendCommand → Option Id
  | .account accountId _ => some accountId
  | .ipClient accountId _ => some accountId
  | .action accountId _ => some accountId
  | .nicUpdate _ => none
  | .settle job => some job.accountId
  | .execute data _ _ => some data.accountId
  | .provider command => command.accountId

/-- The commands that add execution jobs. -/
def BackendCommand.addsExecutions : BackendCommand → Bool
  | .settle _ => true
  | .action _ (.run _) => true
  | _ => false

namespace WritesFor

variable {holds : (α : Type) → Backend α → Prop}
variable {accountId : Id} {now : Timestamp} {α : Type}

theorem spared (writes : WritesFor holds accountId) {program : Backend α}
    (calls : program.Calls fun call => Call.addsNothing call = true) :
    holds α program := by
  induction program with
  | done value => exact writes.done value
  | fail error => exact writes.fail error
  | await call resume ih =>
      rw [await_eq_bind]
      apply writes.bind (writes.attempt (writes.call call calls.1))
      intro answer
      exact ih answer (calls.2 answer)

theorem reads (writes : WritesFor holds accountId) {program : Backend α}
    (calls : program.Calls fun call => Backend.reads call = true) :
    holds α program :=
  writes.spared (calls.mono fun _ => addsNothing_of_read)

theorem quiet (writes : WritesFor holds accountId) {program : Backend α}
    (calls : program.Calls fun call => Backend.quiet call = true) :
    holds α program :=
  writes.spared (calls.mono fun _ => addsNothing_of_quiet)

theorem onlyIf (writes : WritesFor holds accountId) {condition : Bool}
    {body : Backend Unit} (first : holds Unit body) :
    holds Unit (Program.onlyIf condition body) := by
  cases condition with
  | false => exact writes.done ()
  | true => exact first

theorem tryCatch (writes : WritesFor holds accountId) {body : Backend α}
    {handler : Err → Backend α} (first : holds α body)
    (second : ∀ error, holds α (handler error)) :
    holds α (body.tryCatch handler) := by
  apply writes.bind (writes.attempt first)
  intro outcome
  cases outcome with
  | ok value => exact writes.done value
  | error error => exact second error

theorem locked (writes : WritesFor holds accountId) {key : MutexKey}
    {fn : Backend α} (first : holds α fn) :
    holds α (KeyedMutex.run key fn) := by
  apply writes.bind (writes.call (.memory (.join key)) rfl)
  intro ticket
  apply writes.bind (writes.call (.memory (.turn key ticket)) rfl)
  intro _
  apply writes.bind (writes.attempt first)
  intro outcome
  apply writes.bind (writes.call (.memory (.leave key ticket)) rfl)
  intro _
  cases outcome with
  | ok value => exact writes.done value
  | error error => exact writes.fail error

theorem retrying (writes : WritesFor holds accountId)
    {process : Nat → Backend Unit}
    (each : ∀ attempt, holds Unit (process attempt))
    (attempt remaining : Nat) :
    holds Unit (Program.retrying process attempt remaining) := by
  induction remaining generalizing attempt with
  | zero => exact writes.done ()
  | succ remaining ih =>
      apply writes.bind (writes.attempt (each attempt))
      intro outcome
      cases outcome with
      | ok value => exact writes.done ()
      | error error => exact ih (attempt + 1)

theorem answered (writes : WritesFor holds accountId) {program : Backend Nat}
    (first : holds Nat program) : holds (Option Nat) (answered program) :=
  writes.bind first fun _ => writes.done _

theorem unanswered (writes : WritesFor holds accountId)
    {α : Type} {program : Backend α} (first : holds α program) :
    holds (Option Nat) (unanswered program) :=
  writes.bind first fun _ => writes.done _

/-! ## The clients of an account -/

section IpClients

variable {deps : IpClientsRouteDeps} {ipClientId : Id}

theorem register (writes : WritesFor holds accountId)
    {label : Option String} :
    holds Nat (IpClients.register deps accountId label now) := by
  have account : (AccountService.getState accountId).Calls
      fun call => Backend.reads call = true := by
    apply Program.Calls.bind (loadAggregate_reads _ _ _)
    exact fun _ => trivial
  apply writes.bind (writes.reads account)
  intro account
  apply writes.bind (writes.reads (IpClients.countActiveIpClients_reads _))
  intro activeCount
  split
  · exact writes.done _
  apply writes.bind (writes.call (.clock .randomUUID) rfl)
  intro ipClientId
  apply writes.bind (writes.call (.clock .randomUUID) rfl)
  intro drawn
  apply writes.bind (writes.append _ rfl)
  intro _
  apply writes.bind (writes.quiet (IpClients.refreshProjection_quiet _ _))
  exact fun _ => writes.done _

theorem loadOwnedIpClient (writes : WritesFor holds accountId) :
    holds _ (IpClients.loadOwnedIpClient accountId ipClientId) := by
  apply writes.bind (writes.reads (loadAggregate_reads _ _ _))
  exact fun _ => writes.done _

theorem changeStatus (writes : WritesFor holds accountId)
    {event : IpClientEvent} {atEnd : Nat} :
    holds Nat (IpClients.changeStatus deps accountId ipClientId event
      atEnd) := by
  apply writes.bind writes.loadOwnedIpClient
  intro owned
  split
  · exact writes.done _
  split
  · exact writes.done _
  apply writes.bind (writes.append _ rfl)
  intro _
  apply writes.bind (writes.quiet (IpClients.refreshProjection_quiet _ _))
  intro _
  apply writes.bind
    (writes.quiet (IpClients.scheduleDeviceProviders_quiet _ _ _))
  exact fun _ => writes.done _

theorem rotateCredential (writes : WritesFor holds accountId) :
    holds Nat (IpClients.rotateCredential deps accountId ipClientId now) := by
  apply writes.bind writes.loadOwnedIpClient
  intro owned
  split
  · exact writes.done _
  split
  · exact writes.done _
  apply writes.bind (writes.call (.clock .randomUUID) rfl)
  intro drawn
  apply writes.bind (writes.append _ rfl)
  exact fun _ => writes.done _

theorem setNotificationPreference (writes : WritesFor holds accountId)
    {preference : Option NotificationPreference} :
    holds Nat (IpClients.setNotificationPreference accountId ipClientId
      preference) := by
  apply writes.bind writes.loadOwnedIpClient
  intro owned
  split
  · exact writes.done _
  split
  · exact writes.done _
  apply writes.bind (writes.append _ rfl)
  intro _
  apply writes.bind (writes.quiet (IpClients.refreshProjection_quiet _ _))
  exact fun _ => writes.done _

theorem ipClientCommand (writes : WritesFor holds accountId)
    {deps : BackendDeps} (command : IpClientCommand) :
    holds _ (command.program deps accountId now) := by
  cases command with
  | register label => exact writes.answered writes.register
  | enable ipClientId => exact writes.answered writes.changeStatus
  | disable ipClientId => exact writes.answered writes.changeStatus
  | decommission ipClientId => exact writes.answered writes.changeStatus
  | rotateCredential ipClientId =>
      exact writes.answered writes.rotateCredential
  | setNotificationPreference ipClientId preference =>
      exact writes.answered writes.setNotificationPreference

theorem report (writes : WritesFor holds accountId)
    {credentials : Credentials} {auth : BasicAuth} {request : NicUpdate} :
    holds Nat (Trigger.report credentials accountId auth request now) := by
  apply writes.bind (writes.reads (loadAggregate_reads _ _ _))
  intro loaded
  split
  · split
    · exact writes.done _
    apply writes.bind (writes.append _ rfl)
    intro _
    apply writes.bind (writes.call (.queue (.addSettlement _)) rfl)
    exact fun _ => writes.done _
  · exact writes.done _

end IpClients

/-! ## The actions of an account -/

section Actions

variable {deps : ActionsRouteDeps} {ipClientId actionId : Id}

theorem attach (writes : WritesFor holds accountId) {body : AttachBody} :
    holds Nat (Actions.attach deps accountId ipClientId body now) := by
  unfold Actions.attach
  split
  · exact writes.done _
  split
  · exact writes.done _
  apply writes.bind (writes.quiet (Actions.validateAttach_quiet _ _ _ _ _))
  intro validation
  split
  · exact writes.done _
  apply writes.bind (writes.call (.clock .randomUUID) rfl)
  intro actionId
  apply writes.bind (writes.append _ rfl)
  intro _
  apply writes.bind (writes.quiet (Actions.refreshProjection_quiet _ _))
  intro _
  apply writes.bind (writes.reads (Actions.currentState_reads _ _))
  intro state
  apply writes.bind (writes.quiet (Actions.scheduleDelivery_quiet _ _ _))
  exact fun _ => writes.done _

theorem loadOwnedAction (writes : WritesFor holds accountId) :
    holds _ (Actions.loadOwnedAction accountId actionId) := by
  apply writes.bind (writes.reads (loadAggregate_reads _ _ _))
  exact fun _ => writes.done _

theorem reconfigure (writes : WritesFor holds accountId)
    {body : ReconfigureBody} :
    holds Nat (Actions.reconfigure deps accountId actionId body now) := by
  apply writes.bind writes.loadOwnedAction
  intro owned
  split
  · exact writes.done _
  split
  · exact writes.done _
  apply writes.bind
    (writes.quiet (Actions.validateReconfigure_quiet _ _ _ _ _))
  intro validation
  split
  · exact writes.done _
  apply writes.bind (writes.append _ rfl)
  intro _
  apply writes.bind (writes.quiet (Actions.refreshProjection_quiet _ _))
  intro _
  apply writes.bind (writes.reads (Actions.currentState_reads _ _))
  intro state
  apply writes.bind (writes.quiet (Actions.scheduleDelivery_quiet _ _ _))
  intro _
  apply writes.bind (writes.quiet (Actions.cleanupDropped_quiet _ _ _))
  exact fun _ => writes.done _

theorem changeActionStatus (writes : WritesFor holds accountId)
    {event : ActionEvent} {atEnd : Nat}
    {afterwards : ActionState → Backend Unit}
    (calls : ∀ state, (afterwards state).Calls
      fun call => Backend.quiet call = true) :
    holds Nat (Actions.changeStatus deps accountId actionId event atEnd
      afterwards) := by
  apply writes.bind writes.loadOwnedAction
  intro owned
  split
  · exact writes.done _
  split
  · exact writes.done _
  apply writes.bind (writes.append _ rfl)
  intro _
  apply writes.bind (writes.quiet (Actions.refreshProjection_quiet _ _))
  intro _
  apply writes.bind (writes.quiet (Actions.scheduleDelivery_quiet _ _ _))
  intro _
  apply writes.bind (writes.quiet (calls _))
  exact fun _ => writes.done _

theorem run (writes : WritesFor holds accountId)
    (adds : ∀ jobId data, holds Unit (Backend.addExecution jobId data)) :
    holds Nat (ActionRun.run accountId actionId) := by
  apply writes.bind (writes.reads (loadAggregate_reads _ _ _))
  intro loaded
  split
  · exact writes.done _
  apply writes.bind (writes.reads (loadAggregate_reads _ _ _))
  intro client
  split
  · exact writes.done _
  apply writes.bind (writes.call (.clock .randomUUID) rfl)
  intro executionId
  apply writes.bind (writes.call (.clock .randomUUID) rfl)
  intro causationEventId
  apply writes.bind (adds _ _)
  exact fun _ => writes.done _

theorem actionCommand (writes : WritesFor holds accountId)
    {deps : BackendDeps} (command : ActionCommand)
    (adds : ∀ actionId, command = .run actionId →
      ∀ jobId data, holds Unit (Backend.addExecution jobId data)) :
    holds _ (command.program deps accountId now) := by
  cases command with
  | attach ipClientId body => exact writes.answered writes.attach
  | reconfigure actionId body => exact writes.answered writes.reconfigure
  | enable actionId =>
      exact writes.answered (writes.changeActionStatus fun _ => trivial)
  | disable actionId =>
      exact writes.answered (writes.changeActionStatus fun _ => trivial)
  | detach actionId =>
      apply writes.answered
      apply writes.changeActionStatus
      exact fun state => Program.Calls.onlyIf (Actions.cleanup_quiet _ _ _)
  | run actionId => exact writes.answered (writes.run (adds actionId rfl))

end Actions

/-! ## The account itself -/

section Accounts

variable {deps : BackendDeps}

theorem storeCredential (writes : WritesFor holds accountId)
    {body : ProviderCredentials.StoreBody} :
    holds Nat
      (ProviderCredentials.store deps.credentials accountId body now) := by
  unfold ProviderCredentials.store
  split
  · apply writes.bind
    · apply writes.bind
        (writes.call (.store (.listAggregateIds _ _)) rfl)
      exact fun ids => writes.reads (listActiveOf_reads _ ids)
    intro existing
    split
    · exact writes.done _
    apply writes.bind (writes.call (.clock .randomUUID) rfl)
    intro credentialId
    apply writes.bind (writes.append _ rfl)
    exact fun _ => writes.done _
  · exact writes.done _

theorem revokeCredential (writes : WritesFor holds accountId)
    {credentialId : Id} :
    holds Nat (ProviderCredentials.revoke accountId credentialId now) := by
  apply writes.bind (writes.reads (loadAggregate_reads _ _ _))
  intro loaded
  split
  · apply writes.bind (writes.call (.store (.listAggregateIds _ _)) rfl)
    intro actionIds
    apply writes.bind (writes.reads (usedByOf_reads _ _ _))
    intro used
    split
    · exact writes.done _
    apply writes.bind (writes.append _ rfl)
    exact fun _ => writes.done _
  · exact writes.done _

/-- A load, and an append that may follow it. -/
theorem loadedAppend (writes : WritesFor holds accountId) {State β : Type}
    {params : ReadStreamParams} {initialState : State}
    {reducer : State → StoredEvent → State}
    {next : LoadAggregateResult State → Backend β}
    (rest : ∀ loaded, (∃ value, next loaded = .done value) ∨
      ∃ input value, input.accountId = accountId ∧
        next loaded = (Backend.append input).bind fun _ => .done value) :
    holds β ((loadAggregate params initialState reducer).bind next) := by
  apply writes.bind (writes.reads (loadAggregate_reads _ _ _))
  intro loaded
  obtain ⟨value, same⟩ | ⟨input, value, own, same⟩ := rest loaded
  · rw [same]
    exact writes.done value
  · rw [same]
    apply writes.bind (writes.append input own)
    exact fun _ => writes.done value

theorem removeEach (writes : WritesFor holds accountId) {β : Type}
    {remove : β → Backend Unit} (each : ∀ job, holds Unit (remove job))
    (jobs : List β) :
    holds Unit (AccountClosureService.removeEach remove jobs) := by
  induction jobs with
  | nil => exact writes.done _
  | cons job jobs ih =>
      apply writes.bind
      · exact writes.tryCatch (each job) fun _ => writes.done _
      · exact fun _ => ih

theorem closeAccount (writes : WritesFor holds accountId)
    (deletes : holds Unit
      (Backend.call (.store (.deleteAccount accountId)))) :
    holds Unit (AccountClosureService.closeAccount accountId now) := by
  apply writes.bind (writes.reads (loadAggregate_reads _ _ _))
  intro loaded
  apply writes.bind (writes.append _ rfl)
  intro _
  apply writes.bind (writes.call (.memory (.terminateByAccount _ _)) rfl)
  intro _
  apply writes.bind
  · apply writes.bind (writes.call (.queue .getSettlements) rfl)
    intro jobs
    apply writes.removeEach
    intro job
    exact writes.call (.queue (.removeSettlement job)) rfl
  intro _
  apply writes.bind
  · apply writes.bind (writes.call (.queue .getExecutions) rfl)
    intro jobs
    apply writes.removeEach
    intro job
    exact writes.call (.queue (.removeExecution job.jobId)) rfl
  intro _
  apply writes.bind (writes.call (.redis (.purgeProjections _)) rfl)
  exact fun _ => deletes

theorem accountCommand (writes : WritesFor holds accountId)
    (command : AccountCommand)
    (deletes : command = .close → holds Unit
      (Backend.call (.store (.deleteAccount accountId)))) :
    holds _ (command.program deps accountId now) := by
  cases command with
  | provision =>
      apply writes.unanswered
      apply writes.loadedAppend
      intro loaded
      split
      · exact .inl ⟨_, rfl⟩
      · exact .inr ⟨_, _, rfl, rfl⟩
  | overrideDeviceLimit newLimit overriddenBy =>
      refine writes.bind ?_ fun _ => writes.done _
      apply writes.loadedAppend
      intro loaded
      split
      · exact .inl ⟨_, rfl⟩
      · exact .inr ⟨_, _, rfl, rfl⟩
  | close =>
      apply writes.bind (writes.closeAccount (deletes rfl))
      exact fun _ => writes.done _
  | storeCredential body => exact writes.answered writes.storeCredential
  | revokeCredential credentialId =>
      exact writes.answered writes.revokeCredential
  | postChannel type addresses =>
      apply writes.answered
      unfold NotificationChannel.post
      split
      · exact writes.done _
      split
      · apply writes.loadedAppend
        intro loaded
        split
        · exact .inl ⟨_, rfl⟩
        · exact .inr ⟨_, _, rfl, rfl⟩
      · exact writes.done _
  | putChannel addresses =>
      apply writes.answered
      unfold NotificationChannel.put
      split
      · apply writes.loadedAppend
        intro loaded
        split
        · exact .inr ⟨_, _, rfl, rfl⟩
        · exact .inl ⟨_, rfl⟩
      · exact writes.done _
  | deleteChannel =>
      apply writes.answered
      apply writes.loadedAppend
      intro loaded
      split
      · exact .inr ⟨_, _, rfl, rfl⟩
      · exact .inl ⟨_, rfl⟩

end Accounts

/-! ## Settlements and executions -/

theorem fanOutToAll (writes : WritesFor holds accountId)
    (adds : ∀ jobId data, holds Unit (Backend.addExecution jobId data))
    {params : FanOutParams} (actionIds : List Id) :
    holds Unit (FluxIP.fanOutToAll params actionIds) := by
  induction actionIds with
  | nil => exact writes.done ()
  | cons actionId actionIds ih =>
      apply writes.bind
      · apply writes.bind (writes.reads (loadAggregate_reads _ _ _))
        intro loaded
        split
        · apply writes.bind (writes.call (.clock .randomUUID) rfl)
          exact fun _ => adds _ _
        · exact writes.done ()
      · exact fun _ => ih

theorem settle {deps : DebounceWorkerDeps} {job : DebounceJobData}
    (writes : WritesFor holds job.accountId)
    (adds : ∀ jobId data, holds Unit (Backend.addExecution jobId data)) :
    holds Unit (settle deps job) := by
  apply writes.bind (writes.reads (loadAggregate_reads _ _ _))
  intro loaded
  split
  · exact writes.done _
  apply writes.bind (writes.append _ rfl)
  intro event
  apply writes.bind (writes.quiet (upsertIpClientProjection_calls _ _))
  intro _
  apply writes.bind
  · exact writes.quiet (Program.Calls.onlyIf (scheduleSnapshots_calls _ _ _))
  intro _
  apply writes.bind (writes.call (.store (.listAggregateIds _ _)) rfl)
  exact fun actionIds => writes.fanOutToAll adds actionIds

section Executions

variable {deps : ActionExecutionWorkerDeps} {delivery : Delivery}

theorem appendExecutionEvent (writes : WritesFor holds accountId)
    {executionId : Id} {event : ActionExecutionEvent} :
    holds Unit (appendExecutionEvent accountId executionId event) := by
  apply writes.bind
  · apply writes.bind (writes.reads (loadAggregate_reads _ _ _))
    exact fun _ => writes.done _
  intro position
  apply writes.bind (writes.append _ rfl)
  exact fun _ => writes.done _

theorem refreshExecution (writes : WritesFor holds accountId)
    {executionId : Id} :
    holds Unit (refreshExecutionProjection accountId executionId) := by
  apply writes.bind (writes.reads (loadAggregate_reads _ _ _))
  intro loaded
  unfold upsertExecutionProjection
  split
  · exact writes.done _
  · exact writes.call (.redis (.hset _ _ _)) rfl

theorem maybeSendNotification
    (writes : WritesFor holds delivery.data.accountId)
    {outcome : ExecutionOutcome} :
    holds Unit (maybeSendNotification deps delivery outcome) := by
  refine writes.tryCatch ?_ fun _ => writes.done _
  apply writes.bind (writes.reads (loadAggregate_reads _ _ _))
  intro client
  split
  · apply writes.bind (writes.reads (loadAggregate_reads _ _ _))
    intro loaded
    dsimp only
    split
    · exact writes.done _
    split
    · apply writes.bind (writes.call (.send _ _) rfl)
      exact fun _ => writes.appendExecutionEvent
    · exact writes.done _
  · exact writes.done _

theorem bookkeeping (writes : WritesFor holds delivery.data.accountId)
    {ipValues : IpValuesUsed} :
    holds Unit
      (appendFirewallRuleAppliedEventBestEffort delivery ipValues) := by
  have one : holds _ (appendFirewallRuleApplied delivery ipValues) := by
    apply writes.bind (writes.reads (loadAggregate_reads _ _ _))
    intro loaded
    apply writes.bind (writes.append _ rfl)
    exact fun _ => writes.done _
  apply writes.bind (writes.attempt one)
  intro first
  split
  · apply writes.bind (writes.attempt one)
    exact fun _ => writes.done _
  · exact writes.done _

theorem executeAndRecord (writes : WritesFor holds delivery.data.accountId)
    {type : ActionType} {config : ActionConfig} {action : ActionState}
    {executor : ActionExecutor type} :
    holds Unit
      (executeAndRecord deps delivery type config action executor) := by
  apply writes.bind (writes.reads (resolveExecutorConfig_reads _ _ _ _))
  intro resolvedConfig
  apply writes.bind (writes.call (.process (.invoke _)) rfl)
  intro _
  apply writes.bind
  · apply writes.quiet
    apply (executor.external _ _).mono
    exact fun _ => Call.quiet_of_ofExecutor
  intro result
  apply writes.bind writes.appendExecutionEvent
  intro _
  apply writes.bind (writes.onlyIf writes.bookkeeping)
  intro _
  apply writes.bind writes.refreshExecution
  exact fun _ => writes.maybeSendNotification

theorem recordFailure (writes : WritesFor holds delivery.data.accountId)
    {error : Err} : holds Unit (recordFailure deps delivery error) := by
  apply writes.bind writes.appendExecutionEvent
  intro _
  apply writes.bind writes.refreshExecution
  intro _
  apply writes.bind (writes.onlyIf writes.maybeSendNotification)
  exact fun _ => writes.fail _

theorem processExecution
    (writes : WritesFor holds delivery.data.accountId) :
    holds Unit (processExecution deps delivery) := by
  apply writes.bind writes.appendExecutionEvent
  intro _
  apply writes.bind (writes.reads (loadAggregate_reads _ _ _))
  intro loaded
  unfold executeAction
  split
  · split
    · apply writes.bind writes.appendExecutionEvent
      intro _
      apply writes.bind writes.refreshExecution
      exact fun _ => writes.maybeSendNotification
    split
    · exact writes.fail _
    · apply writes.tryCatch writes.executeAndRecord
      exact fun _ => writes.recordFailure
  · exact writes.done _

theorem executionJob {data : ActionExecutionJobData} {attempts : Nat}
    {clock : Nat → AttemptClock} (writes : WritesFor holds data.accountId) :
    holds Unit (executionJob deps data attempts clock) := by
  apply writes.retrying
  intro attempt
  apply processExecution
  exact writes

end Executions

/-! ## Providers -/

section Providers

variable {providerId : Id} {event : TraefikProviderEvent}

theorem providerAppend (writes : WritesFor holds accountId) :
    holds StoredEvent (ProviderStore.append accountId providerId event) := by
  have once : holds StoredEvent
      (ProviderStore.appendOnce accountId providerId event) := by
    apply writes.bind (writes.reads (ProviderStore.load_reads _ _))
    exact fun loaded => writes.append _ rfl
  apply writes.locked
  apply writes.tryCatch once
  intro error
  cases error with
  | concurrency aggregateType aggregateId expectedSequenceNumber => exact once
  | thrown message => exact writes.fail _

section Routes

variable {deps : TraefikProvidersRouteDeps}

theorem issue (writes : WritesFor holds accountId) :
    holds Unit (TraefikProviders.issue deps accountId providerId now) := by
  apply writes.bind (writes.call (.clock .randomUUID) rfl)
  intro drawn
  apply writes.bind (writes.call (.clock .randomUUID) rfl)
  intro tokenId
  apply writes.bind writes.providerAppend
  exact fun _ => writes.done _

theorem post (writes : WritesFor holds accountId)
    {name connectionMode : Option String} :
    holds Nat
      (TraefikProviders.post deps accountId name connectionMode now) := by
  unfold TraefikProviders.post
  split
  · exact writes.done _
  split
  · exact writes.done _
  split
  · exact writes.done _
  apply writes.bind (writes.reads (ProviderStore.listActive_reads _))
  intro existing
  split
  · exact writes.done _
  apply writes.bind (writes.call (.clock .randomUUID) rfl)
  intro drawn
  apply writes.bind writes.providerAppend
  intro _
  apply writes.bind writes.issue
  exact fun _ => writes.done _

theorem patch (writes : WritesFor holds accountId)
    {name connectionMode : Option String} :
    holds Nat (TraefikProviders.patch deps accountId providerId name
      connectionMode now) := by
  apply writes.bind (writes.reads (ProviderStore.loadActive_reads _ _))
  intro loaded
  split
  · exact writes.done _
  split
  · exact writes.done _
  split
  · exact writes.done _
  apply writes.bind (writes.reads (ProviderStore.listActive_reads _))
  intro providers
  dsimp only
  split
  · exact writes.done _
  apply writes.bind
  · apply writes.onlyIf
    apply writes.bind writes.providerAppend
    exact fun _ => writes.done _
  intro _
  apply writes.bind
  · apply writes.bind (writes.reads (ProviderStore.load_reads _ _))
    intro _
    apply writes.bind (writes.reads (listDeliveryActions_reads _))
    exact fun _ => writes.done _
  · exact fun _ => writes.done _

theorem delete (writes : WritesFor holds accountId) :
    holds Nat (TraefikProviders.delete accountId providerId now) := by
  apply writes.bind (writes.reads (ProviderStore.loadActive_reads _ _))
  intro loaded
  split
  · exact writes.done _
  apply writes.bind (writes.reads (listDeliveryActions_reads _))
  intro actions
  split
  · exact writes.done _
  apply writes.bind writes.providerAppend
  intro _
  apply writes.bind (writes.call (.memory (.terminateByProvider _ _)) rfl)
  exact fun _ => writes.done _

theorem postToken (writes : WritesFor holds accountId) :
    holds Nat
      (TraefikProviders.postToken deps accountId providerId now) := by
  apply writes.bind (writes.reads (ProviderStore.loadActive_reads _ _))
  intro loaded
  split
  · exact writes.done _
  split
  · exact writes.done _
  apply writes.bind writes.issue
  exact fun _ => writes.done _

theorem deleteToken (writes : WritesFor holds accountId) {tokenId : Id} :
    holds Nat
      (TraefikProviders.deleteToken accountId providerId tokenId now) := by
  apply writes.bind (writes.reads (ProviderStore.loadActive_reads _ _))
  intro loaded
  split
  · exact writes.done _
  apply writes.bind
  · apply writes.onlyIf
    apply writes.bind writes.providerAppend
    exact fun _ => writes.done _
  intro _
  apply writes.bind (writes.call (.memory (.terminateByToken _ _ _)) rfl)
  exact fun _ => writes.done _

end Routes

variable {deps : GrpcAgentServerDeps} {auth : AgentAuth} {sessionId : Id}

theorem publish (writes : WritesFor holds accountId)
    {deps : SnapshotPublisherDeps} {causationId : Option Id}
    {absorbedCausationIds : List Id} :
    holds _ (SnapshotPublisher.publish deps accountId providerId causationId
      absorbedCausationIds now) := by
  apply writes.locked
  apply writes.bind (writes.reads (ProviderStore.loadActive_reads _ _))
  intro loaded
  split
  · exact writes.done _
  apply writes.bind (writes.reads (buildSnapshotContent_reads _ _ _ _))
  intro content
  split
  · exact writes.done _
  apply writes.bind
  · unfold SnapshotPublisher.correlationIdOf
    split
    · exact writes.done _
    · exact writes.call (.clock .randomUUID) rfl
  intro correlationId
  unfold SnapshotPublisher.publishNew
  split
  · apply writes.bind writes.providerAppend
    exact fun _ => writes.done _
  · apply writes.bind writes.providerAppend
    exact fun _ => writes.done _

theorem coordinatorRun (writes : WritesFor holds accountId)
    {causationIds : List Id} :
    holds Unit
      (SnapshotCoordinator.run deps accountId providerId causationIds now) := by
  refine writes.tryCatch ?_ fun _ => writes.done _
  apply writes.bind writes.publish
  intro result
  split
  · exact writes.done _
  · exact writes.onlyIf (writes.call (.memory (.push _ _)) rfl)

theorem resync (writes : WritesFor holds accountId) :
    holds Unit
      (SnapshotCoordinator.resync deps accountId providerId now) := by
  refine writes.tryCatch ?_ fun _ => writes.done _
  apply writes.bind writes.publish
  intro result
  split
  · exact writes.done _
  · exact writes.call (.memory (.push _ _)) rfl

theorem sendCurrentSnapshot (writes : WritesFor holds auth.accountId) :
    holds Unit
      (AgentSessionHandler.sendCurrentSnapshot deps auth sessionId now) := by
  apply writes.bind
  · apply writes.bind writes.publish
    exact fun _ => writes.done _
  intro snapshot
  split
  · exact writes.done _
  · exact writes.call (.memory (.sendAgent _ _)) rfl

theorem onReport (writes : WritesFor holds auth.accountId)
    {report : ReportMessage} :
    holds Unit (AgentSessionHandler.onReport auth report now) := by
  unfold AgentSessionHandler.onReport
  split
  · exact writes.done _
  · apply writes.bind writes.providerAppend
    exact fun _ => writes.done _

theorem afterProcess (writes : WritesFor holds auth.accountId)
    {processing : Agents.Processing} :
    holds Unit (AgentSessionHandler.afterProcess deps auth sessionId now
      processing) := by
  cases processing with
  | finished => exact writes.done _
  | connected data =>
      apply writes.bind writes.providerAppend
      intro _
      apply writes.bind (writes.call (.memory (.recordConnected _)) rfl)
      intro _
      apply writes.bind (writes.reads (ProviderStore.loadActive_reads _ _))
      intro loaded
      apply writes.bind (writes.call (.memory (.sendAgent _ _)) rfl)
      intro _
      apply writes.bind writes.sendCurrentSnapshot
      exact fun _ => writes.call (.memory (.startHeartbeat _ _)) rfl
  | reported report => exact writes.onReport
  | syncRequested => exact writes.sendCurrentSnapshot

theorem handle (writes : WritesFor holds auth.accountId)
    {message : AgentMessage} :
    holds Unit
      (AgentSessionHandler.handle deps auth sessionId message now) := by
  apply writes.locked
  apply writes.tryCatch
  · apply writes.bind (writes.call (.memory (.process _ _ _)) rfl)
    exact fun _ => writes.afterProcess
  · exact fun _ => writes.call (.memory (.terminate _ _)) rfl

theorem afterClosed (writes : WritesFor holds auth.accountId) :
    holds Unit (AgentSessionHandler.afterClosed auth sessionId now) := by
  apply writes.bind (writes.call (.memory (.closed _)) rfl)
  intro effective
  apply writes.bind (writes.locked (writes.done _))
  intro _
  apply writes.bind (writes.call (.memory (.claimDisconnect _)) rfl)
  intro claimed
  apply writes.onlyIf
  apply writes.bind (writes.reads (ProviderStore.load_reads _ _))
  intro stillThere
  split
  · exact writes.done _
  · refine writes.tryCatch ?_ fun _ => writes.done _
    apply writes.bind writes.providerAppend
    exact fun _ => writes.done _

theorem providerCommand {deps : ProviderServiceDeps}
    (writes : WritesFor holds accountId) (command : ProviderCommand)
    (given : command.accountId = some accountId) :
    holds _ (command.program deps now) := by
  cases command with
  | stream call => cases given
  | post accountId name connectionMode =>
      cases given
      exact writes.answered writes.post
  | patch accountId providerId name connectionMode =>
      cases given
      exact writes.answered writes.patch
  | delete accountId providerId =>
      cases given
      exact writes.answered writes.delete
  | postToken accountId providerId =>
      cases given
      exact writes.answered writes.postToken
  | deleteToken accountId providerId tokenId =>
      cases given
      exact writes.answered writes.deleteToken
  | message auth sessionId received =>
      cases given
      exact writes.unanswered writes.handle
  | heartbeat auth sessionId =>
      exact writes.unanswered (writes.call (.memory (.heartbeat _ _)) rfl)
  | transportEnd auth sessionId =>
      exact writes.unanswered (writes.call (.memory (.finish _)) rfl)
  | closed auth sessionId =>
      cases given
      exact writes.unanswered writes.afterClosed
  | coordinatorRun accountId providerId causationIds =>
      cases given
      exact writes.unanswered writes.coordinatorRun
  | resync accountId providerId =>
      cases given
      exact writes.unanswered writes.resync

end Providers

/-- What a command writes is written for the account it is given. -/
theorem command {deps : BackendDeps} (writes : WritesFor holds accountId)
    (command : BackendCommand) (given : command.accountId = some accountId)
    (adds : command.addsExecutions = true →
      ∀ jobId data, holds Unit (Backend.addExecution jobId data))
    (deletes : command = .account accountId .close → holds Unit
      (Backend.call (.store (.deleteAccount accountId)))) :
    holds _ (command.program deps now) := by
  cases command with
  | account account command =>
      cases given
      apply writes.accountCommand
      intro close
      subst close
      exact deletes rfl
  | ipClient account command =>
      cases given
      exact writes.ipClientCommand command
  | action account command =>
      cases given
      apply writes.actionCommand command
      rintro actionId rfl
      exact adds rfl
  | nicUpdate request => cases given
  | settle job =>
      cases given
      exact writes.unanswered (writes.settle (adds rfl))
  | execute data attempts clocks =>
      cases given
      exact writes.unanswered writes.executionJob
  | provider command => exact writes.providerCommand command given

theorem nicUpdate (writes : ∀ accountId, WritesFor holds accountId)
    {credentials : Credentials} {request : NicUpdate} :
    holds Nat (Trigger.nicUpdate credentials request now) := by
  unfold Trigger.nicUpdate
  split
  · exact (writes 0).done _
  apply (writes 0).bind
  · exact (writes 0).call (.store (.resolveAccountId _ _)) rfl
  intro account
  cases account with
  | none => exact (writes 0).done _
  | some accountId => exact (writes accountId).report

/-- What is written for any account. -/
theorem anyCommand {deps : BackendDeps}
    (writes : ∀ accountId, WritesFor holds accountId)
    (command : BackendCommand)
    (adds : command.addsExecutions = true →
      ∀ jobId data, holds Unit (Backend.addExecution jobId data))
    (deletes : ∀ accountId, command = .account accountId .close → holds Unit
      (Backend.call (.store (.deleteAccount accountId)))) :
    holds _ (command.program deps now) := by
  cases given : command.accountId with
  | some accountId =>
      exact (writes accountId).command command given adds (deletes accountId)
  | none =>
      cases command with
      | nicUpdate request => exact (writes 0).answered (nicUpdate writes)
      | provider command =>
          cases command with
          | stream call =>
              exact (writes 0).unanswered
                ((writes 0).spared (onSession_addsNothing _ _ _))
          | _ => cases given
      | _ => cases given

end WritesFor

/-! ## The calls of a command -/

/-- The call appends nothing for this account. -/
def Call.sparesAccount (accountId : Id) : Call → Prop
  | .store (.append input) => input.accountId ≠ accountId
  | _ => True

variable {accountId : Id}

theorem sparesAccount_of_addsNothing {call : Call}
    (adds : Call.addsNothing call = true) :
    Call.sparesAccount accountId call := by
  cases call with
  | store call => cases call <;> first | trivial | cases adds
  | _ => trivial

/-- What is written for another account spares this one. -/
theorem calls_sparesAccount {other : Id} (apart : other ≠ accountId) :
    WritesFor (fun _ program =>
      program.Calls (Call.sparesAccount accountId)) other where
  done _ := trivial
  fail _ := trivial
  bind := Program.Calls.bind
  attempt := Program.Calls.attempt
  call awaited adds :=
    (Backend.calls_call awaited).mpr (sparesAccount_of_addsNothing adds)
  append input same := by
    apply (Backend.calls_call (.store (.append input))).mpr
    show input.accountId ≠ accountId
    rw [same]
    exact apart

/-- The call deletes no account. -/
def Call.keepsAccounts (call : Call) : Prop :=
  ∀ owner, call ≠ .store (.deleteAccount owner)

/-- Nothing but the closing of an account deletes. -/
theorem calls_keepAccounts :
    WritesFor (fun _ program => program.Calls Call.keepsAccounts)
      accountId where
  done _ := trivial
  fail _ := trivial
  bind := Program.Calls.bind
  attempt := Program.Calls.attempt
  call awaited adds := by
    apply (Backend.calls_call awaited).mpr
    intro owner same
    rw [same] at adds
    cases adds
  append input _ := by
    apply (Backend.calls_call (.store (.append input))).mpr
    intro owner same
    cases same

theorem command_keepsAccounts {deps : BackendDeps} {now : Timestamp}
    {command : BackendCommand}
    (staysOpen : ∀ owner, command ≠ .account owner .close) :
    (command.program deps now).Calls Call.keepsAccounts := by
  apply WritesFor.anyCommand (fun _ => calls_keepAccounts) command
  · intro _ jobId data
    apply (Backend.calls_call _).mpr
    intro owner same
    cases same
  · exact fun owner close => absurd close (staysOpen owner)

end FluxIP
