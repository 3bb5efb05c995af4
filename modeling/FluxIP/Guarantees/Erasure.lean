import FluxIP.Adapters.Ownership
import FluxIP.Guarantees.CutOff

/-!
# Erasure of an account

Closing an account deletes its events as its last step.  Operations of the
account may be in progress all the while, each cut at any of its awaits.
-/

namespace FluxIP

open Async

/-- Some event is recorded for what the message leads to. -/
def Agents.Processing.records : Agents.Processing → Bool
  | .connected _ => true
  | .reported report => (AgentSessionHandler.reportEvent report 0).isSome
  | _ => false

namespace Erasure

/-! ## When the events of an account stay deleted -/

/-- What a call of this command answers once the account has no events: reads
find nothing of it, and messages on its sessions lead to no record. -/
def FindsNothing (accountId : Id) (command : BackendCommand) :
    Answered backend Err → Prop
  | ⟨.store (.readStream params), .ok events⟩ =>
      params.accountId = accountId → events = []
  | ⟨.store (.listAggregateIds account _), .ok ids⟩ =>
      account = accountId → ids = []
  | ⟨.store (.resolveAccountId _ _), .ok account⟩ => account ≠ some accountId
  | ⟨.memory (.process _ _ _), .ok processing⟩ =>
      command.accountId = some accountId → processing.records = false
  | _ => True

/-- The rest of a command appends nothing for the account once the account has
no events. -/
def Quits {α : Type} (accountId : Id) (command : BackendCommand)
    (program : Backend α) : Prop :=
  program.CallsGiven (FindsNothing accountId command)
    (Call.sparesAccount accountId)

/-- The deletion of the account's events, answered. -/
def deleted (accountId : Id) : Answered backend Err :=
  ⟨.store (.deleteAccount accountId), .ok ()⟩

/-- The events of the account have been deleted. -/
def Erased (accountId : Id) (pool : BackendPool) : Prop :=
  ∃ thread ∈ pool.threads, deleted accountId ∈ thread.history

def ProviderCommand.isRoute : ProviderCommand → Bool
  | .post _ _ _ => true
  | .patch _ _ _ _ => true
  | .delete _ _ => true
  | .postToken _ _ => true
  | .deleteToken _ _ _ => true
  | _ => false

/-- An API request or an execution job of the account. -/
def begins (accountId : Id) : BackendCommand → Bool
  | .account account _ => account = accountId
  | .ipClient account _ => account = accountId
  | .action account _ => account = accountId
  | .nicUpdate _ => false
  | .settle _ => false
  | .execute data _ _ => data.accountId = accountId
  | .provider command =>
      ProviderCommand.isRoute command ∧ command.accountId = some accountId

/-- Once the events are deleted no API request and no execution job of the
account begins, and no message on a session of the account leads to a record;
and when they are deleted, every other operation in progress quits. -/
def Erases (accountId : Id) (pool : BackendPool) :
    Move BackendRequest Choice → Prop
  | .start request =>
      Erased accountId pool → begins accountId request.command = false
  | .advance index choice =>
      ∀ request history call resume,
        pool.threads[index]? = some ⟨request, history, .await call resume⟩ →
        (∀ sessionId message now,
          call = .memory (.process sessionId message now) →
          Erased accountId pool →
          request.command.accountId = some accountId →
          (pool.state.agents.process sessionId message now).1.records =
            false) ∧
        (call = .store (.deleteAccount accountId) → choice.fate = .ok →
          ∀ position thread, position ≠ index →
            pool.threads[position]? = some thread →
            Quits accountId thread.request.command thread.program)

/-! ## Programs that quit -/

section Quits

variable {accountId : Id} {command : BackendCommand} {now : Timestamp}
variable {α β : Type}

namespace Quits

theorem of_spares {program : Backend α}
    (calls : program.Calls (Call.sparesAccount accountId)) :
    Quits accountId command program :=
  .of_calls calls

theorem of_addsNothing {program : Backend α}
    (calls : program.Calls fun call => Call.addsNothing call = true) :
    Quits accountId command program :=
  of_spares (calls.mono fun _ => sparesAccount_of_addsNothing)

theorem of_reads {program : Backend α}
    (calls : program.Calls fun call => Backend.reads call = true) :
    Quits accountId command program :=
  of_addsNothing (calls.mono fun _ => addsNothing_of_read)

/-- A load finds an aggregate without events. -/
theorem load {State : Type} {aggregateType : AggregateType}
    {aggregateId : Id} {initialState : State}
    {reducer : State → StoredEvent → State}
    {next : LoadAggregateResult State → Backend β}
    (rest : Quits accountId command
      (next (replayed initialState reducer []))) :
    Quits accountId command
      ((loadAggregate ⟨accountId, aggregateType, aggregateId⟩ initialState
        reducer).bind next) := by
  refine ⟨trivial, ?_⟩
  intro answer given
  cases answer with
  | error error => trivial
  | ok events =>
      have nothing : events = [] := given rfl
      subst nothing
      exact rest

theorem locked {key : MutexKey} {fn : Backend α}
    (first : Quits accountId command fn) :
    Quits accountId command (KeyedMutex.run key fn) := by
  apply Program.CallsGiven.bind
  · exact .of_calls ((Backend.calls_call (.memory (.join key))).mpr trivial)
  intro ticket
  apply Program.CallsGiven.bind
  · exact .of_calls
      ((Backend.calls_call (.memory (.turn key ticket))).mpr trivial)
  intro _
  apply Program.CallsGiven.bind first.attempt
  intro outcome
  apply Program.CallsGiven.bind
  · exact .of_calls
      ((Backend.calls_call (.memory (.leave key ticket))).mpr trivial)
  intro _
  cases outcome <;> trivial

theorem onlyIf {condition : Bool} {body : Backend Unit}
    (first : Quits accountId command body) :
    Quits accountId command (Program.onlyIf condition body) := by
  cases condition with
  | false => trivial
  | true => exact first

end Quits

/-- What another account is written for. -/
theorem quits_other {deps : BackendDeps} {other : Id}
    (apart : other ≠ accountId) (given : command.accountId = some other) :
    Quits accountId command (command.program deps now) := by
  apply Quits.of_spares
  apply (calls_sparesAccount apart).command command given
  · exact fun _ _ _ => (Backend.calls_call _).mpr trivial
  · exact fun _ => (Backend.calls_call _).mpr trivial

theorem settle_quits {deps : DebounceWorkerDeps} {job : DebounceJobData}
    (own : job.accountId = accountId) :
    Quits accountId command (settle deps job) := by
  subst own
  apply Quits.load
  exact .done _

theorem nicUpdate_quits {credentials : Credentials} {request : NicUpdate} :
    Quits accountId command (Trigger.nicUpdate credentials request now) := by
  unfold Trigger.nicUpdate
  split
  · exact .done _
  apply Program.CallsGiven.perform trivial
  intro account given
  cases account with
  | none => exact .done _
  | some other =>
      have apart : other ≠ accountId := fun same => given (same ▸ rfl)
      exact Quits.of_spares (calls_sparesAccount apart).report

section Providers

variable {providerId : Id} {auth : AgentAuth} {sessionId : Id}
variable {deps : GrpcAgentServerDeps}

theorem publish_quits {deps : SnapshotPublisherDeps}
    {causationId : Option Id} {absorbedCausationIds : List Id} :
    Quits accountId command (SnapshotPublisher.publish deps accountId
      providerId causationId absorbedCausationIds now) := by
  apply Quits.locked
  unfold SnapshotPublisher.publishCurrent ProviderStore.loadActive
    ProviderStore.load
  simp only [Program.monadBind_eq_bind, Program.bind_assoc,
    Program.pure_eq_done, Program.done_bind]
  apply Quits.load
  exact .done _

theorem push_quits {payload : SnapshotPayload} :
    Quits accountId command
      (Backend.memory (.push providerId (.snapshot payload))) :=
  .of_calls ((Backend.calls_call (.memory (.push _ _))).mpr trivial)

theorem coordinatorRun_quits {causationIds : List Id} :
    Quits accountId command (SnapshotCoordinator.run deps accountId
      providerId causationIds now) := by
  apply Program.CallsGiven.tryCatch
  · apply Program.CallsGiven.bind publish_quits
    intro result
    split
    · exact .done _
    · exact Quits.onlyIf push_quits
  · exact fun _ => .done _

theorem resync_quits :
    Quits accountId command
      (SnapshotCoordinator.resync deps accountId providerId now) := by
  apply Program.CallsGiven.tryCatch
  · apply Program.CallsGiven.bind publish_quits
    intro result
    split
    · exact .done _
    · exact push_quits
  · exact fun _ => .done _

theorem sendCurrentSnapshot_quits (own : auth.accountId = accountId) :
    Quits accountId command
      (AgentSessionHandler.sendCurrentSnapshot deps auth sessionId now) := by
  subst own
  apply Program.CallsGiven.bind
  · apply Program.CallsGiven.bind publish_quits
    exact fun _ => .done _
  intro snapshot
  split
  · exact .done _
  · exact .of_calls ((Backend.calls_call (.memory (.sendAgent _ _))).mpr
      trivial)

theorem handle_quits {message : AgentMessage}
    (own : auth.accountId = accountId)
    (given : command.accountId = some accountId) :
    Quits accountId command
      (AgentSessionHandler.handle deps auth sessionId message now) := by
  apply Quits.locked
  apply Program.CallsGiven.tryCatch
  · apply Program.CallsGiven.perform trivial
    intro processing answered
    have unrecorded : processing.records = false := answered given
    cases processing with
    | finished => exact .done _
    | connected data => cases unrecorded
    | reported report =>
        have nothing : AgentSessionHandler.reportEvent report now = none := by
          unfold Agents.Processing.records at unrecorded
          unfold AgentSessionHandler.reportEvent at *
          cases result : report.result <;> simp [result] at unrecorded ⊢
        show Quits accountId command
          (AgentSessionHandler.onReport auth report now)
        unfold AgentSessionHandler.onReport
        rw [nothing]
        exact .done _
    | syncRequested => exact sendCurrentSnapshot_quits own
  · exact fun _ => .of_calls
      ((Backend.calls_call (.memory (.terminate _ _))).mpr trivial)

theorem afterClosed_quits (own : auth.accountId = accountId) :
    Quits accountId command
      (AgentSessionHandler.afterClosed auth sessionId now) := by
  subst own
  apply Program.CallsGiven.perform trivial
  intro effective _
  apply Program.CallsGiven.bind
  · exact Quits.locked (.done _)
  intro _
  apply Program.CallsGiven.perform trivial
  intro claimed _
  apply Quits.onlyIf
  apply Quits.load
  exact .done _

/-- Sessions, runs and resyncs of the account. -/
theorem providerCommand_quits {deps : ProviderServiceDeps}
    {command : ProviderCommand}
    (notRoute : ProviderCommand.isRoute command = false)
    (given : command.accountId = some accountId) :
    Quits accountId (.provider command) (command.program deps now) := by
  cases command with
  | post account name connectionMode => cases notRoute
  | patch account providerId name connectionMode => cases notRoute
  | delete account providerId => cases notRoute
  | postToken account providerId => cases notRoute
  | deleteToken account providerId tokenId => cases notRoute
  | stream call => cases given
  | message auth sessionId received =>
      apply Program.CallsGiven.bind
      · exact handle_quits (Option.some.inj given) given
      · exact fun _ => .done _
  | heartbeat auth sessionId =>
      apply Quits.of_spares
      apply Program.Calls.bind
      · exact (Backend.calls_call (.memory (.heartbeat _ _))).mpr trivial
      · exact fun _ => trivial
  | transportEnd auth sessionId =>
      apply Quits.of_spares
      apply Program.Calls.bind
      · exact (Backend.calls_call (.memory (.finish _))).mpr trivial
      · exact fun _ => trivial
  | closed auth sessionId =>
      apply Program.CallsGiven.bind
      · exact afterClosed_quits (Option.some.inj given)
      · exact fun _ => .done _
  | coordinatorRun account providerId causationIds =>
      cases given
      apply Program.CallsGiven.bind coordinatorRun_quits
      exact fun _ => .done _
  | resync account providerId =>
      cases given
      apply Program.CallsGiven.bind resync_quits
      exact fun _ => .done _

end Providers

/-- Whatever else begins once the account has no events quits. -/
theorem command_quits {deps : BackendDeps}
    (quiet : begins accountId command = false) :
    Quits accountId command (command.program deps now) := by
  cases given : command.accountId with
  | some other =>
      by_cases apart : other = accountId
      · subst apart
        cases command with
        | account account command =>
            cases given
            simp [begins] at quiet
        | ipClient account command =>
            cases given
            simp [begins] at quiet
        | action account command =>
            cases given
            simp [begins] at quiet
        | nicUpdate request => cases given
        | settle job =>
            apply Program.CallsGiven.bind
            · exact settle_quits (Option.some.inj given)
            · exact fun _ => .done _
        | execute data attempts clocks =>
            cases given
            simp [begins] at quiet
        | provider command =>
            apply providerCommand_quits
            · have sameGiven : command.accountId = some other := given
              simpa [begins, sameGiven] using quiet
            · exact given
      · exact quits_other apart given
  | none =>
      cases command with
      | nicUpdate request =>
          apply Program.CallsGiven.bind nicUpdate_quits
          exact fun _ => .done _
      | provider command =>
          cases command with
          | stream call =>
              apply Quits.of_addsNothing
              apply Program.Calls.bind (onSession_addsNothing _ _ _)
              exact fun _ => trivial
          | _ => cases given
      | _ => cases given

end Quits

/-! ## The deletion comes last -/

section Deletion

variable {accountId : Id} {request : BackendRequest} {now : Timestamp}
variable {history : BackendHistory} {α β : Type}

def Undeleted (accountId : Id) (history : BackendHistory) : Prop :=
  deleted accountId ∉ history

def ElseThanDeletion (accountId : Id) (call : Call) : Prop :=
  call ≠ .store (.deleteAccount accountId)

/-- No call follows the deletion. -/
def Last (accountId : Id) (_ : BackendRequest) (history : BackendHistory)
    (_ : Call) : Prop :=
  Undeleted accountId history

/-- A closing of the account returns after the deletion. -/
def EndsErased (accountId : Id) (request : BackendRequest)
    (history : BackendHistory) (result : Except Err (Option Nat)) : Prop :=
  request.command = .account accountId .close →
    ∀ value, result = .ok value → deleted accountId ∈ history

theorem undeleted_traces {program : Backend α}
    (calls : program.Calls (ElseThanDeletion accountId))
    (here : Undeleted accountId history) :
    program.Traces (Last accountId request)
      (fun history _ => Undeleted accountId history) history := by
  apply Program.Traces.of_quiet (Undeleted accountId) calls
  · intro history call answer other undeleted member
    rcases List.mem_append.mp member with old | new
    · exact undeleted old
    · rw [List.mem_singleton] at new
      exact other (congrArg Answered.call new).symm
  · exact fun _ _ undeleted _ => undeleted
  · exact here

/-- What comes before the deletion. -/
theorem undeleted_then {program : Backend α} {next : α → Backend β}
    {post : β → BackendHistory → Prop}
    (calls : program.Calls (ElseThanDeletion accountId))
    (here : Undeleted accountId history)
    (rest : ∀ value history, Undeleted accountId history →
      (next value).Traces (Last accountId request) (onReturn post) history) :
    (program.bind next).Traces (Last accountId request) (onReturn post)
      history :=
  (undeleted_traces calls here).bind
    (fun history value undeleted => rest value history undeleted)
    fun _ _ _ => trivial

theorem calls_undeleting (other : Id) :
    WritesFor (fun _ program =>
      program.Calls (ElseThanDeletion accountId)) other where
  done _ := trivial
  fail _ := trivial
  bind := Program.Calls.bind
  attempt := Program.Calls.attempt
  call awaited keeps := by
    apply (Backend.calls_call awaited).mpr
    intro same
    subst same
    cases keeps
  append input _ := by
    apply (Backend.calls_call (.store (.append input))).mpr
    intro same
    cases same

theorem closeAccount_traces (here : Undeleted accountId history) :
    (AccountClosureService.closeAccount accountId now).Traces
      (Last accountId request)
      (onReturn fun _ history => deleted accountId ∈ history) history := by
  have writes := @calls_undeleting accountId accountId
  apply undeleted_then (writes.reads (loadAggregate_reads _ _ _)) here
  intro loaded history here
  apply undeleted_then (writes.append _ rfl) here
  intro _ history here
  apply undeleted_then
    (writes.call (.memory (.terminateByAccount _ _)) rfl) here
  intro _ history here
  apply undeleted_then ?_ here
  · intro _ history here
    apply undeleted_then ?_ here
    · intro _ history here
      apply undeleted_then
        (writes.call (.redis (.purgeProjections _)) rfl) here
      intro _ history here
      refine ⟨here, ?_⟩
      intro answer
      cases answer with
      | error error => trivial
      | ok value => exact List.mem_append_right _ (List.mem_singleton_self _)
    · apply writes.bind (writes.call (.queue .getExecutions) rfl)
      intro jobs
      apply writes.removeEach
      intro job
      exact writes.call (.queue (.removeExecution job.jobId)) rfl
  · apply writes.bind (writes.call (.queue .getSettlements) rfl)
    intro jobs
    apply writes.removeEach
    intro job
    exact writes.call (.queue (.removeSettlement job)) rfl

/-- Only the closing of the account deletes its events. -/
theorem command_undeleting {deps : BackendDeps} {command : BackendCommand}
    (staysOpen : command ≠ .account accountId .close) :
    (command.program deps now).Calls (ElseThanDeletion accountId) := by
  apply WritesFor.anyCommand calls_undeleting command
  · intro _ jobId data
    apply (Backend.calls_call _).mpr
    intro same
    cases same
  · intro other close
    apply (Backend.calls_call _).mpr
    intro same
    cases same
    exact staysOpen close

theorem program_traces (deps : BackendDeps) (request : BackendRequest) :
    ((backendService deps).program request).Traces (Last accountId request)
      (EndsErased accountId request) [] := by
  have start : Undeleted accountId [] := List.not_mem_nil
  by_cases closes : request.command = .account accountId .close
  · show (request.command.program deps request.now).Traces _ _ _
    rw [closes]
    apply (closeAccount_traces start).bind
    · exact fun history _ erased _ _ _ => erased
    · intro history error _ _ value impossible
      cases impossible
  · apply (undeleted_traces (command_undeleting closes) start).mono
    exact fun _ _ _ same => absurd same closes

end Deletion

/-! ## What stays deleted -/

section Steps

variable {accountId : Id} {call : Call} {answer : Except Err call.Answer}
variable {choice : Choice} {world next : World} {command : BackendCommand}

/-- The store has no event of the account. -/
def Unrecorded (accountId : Id) (store : EventStore) : Prop :=
  ∀ event ∈ store.events, event.accountId ≠ accountId

theorem Unrecorded.readStream {store : EventStore}
    (unrecorded : Unrecorded accountId store) {params : ReadStreamParams}
    (own : params.accountId = accountId) : store.readStream params = [] := by
  apply List.eq_nil_iff_forall_not_mem.mpr
  intro event member
  have found := EventStore.mem_readStream.mp member
  exact unrecorded event found.1 (found.2.2.2.trans own)

theorem Unrecorded.listAggregateIds {store : EventStore}
    (unrecorded : Unrecorded accountId store) {aggregateType : AggregateType}
    {rows : List Id} :
    store.listAggregateIds accountId aggregateType rows = [] := by
  apply List.eq_nil_iff_forall_not_mem.mpr
  intro aggregateId member
  obtain ⟨event, found, own, -⟩ :=
    EventStore.mem_listAggregateIds.mp member
  exact unrecorded event found own

theorem Unrecorded.resolveAccountId {store : EventStore}
    (unrecorded : Unrecorded accountId store) {aggregateType : AggregateType}
    {aggregateId : Id} :
    store.resolveAccountId aggregateType aggregateId ≠ some accountId := by
  intro resolved
  obtain ⟨event, first, own⟩ := Option.map_eq_some_iff.mp resolved
  have found := EventStore.mem_stream.mp (List.mem_of_head? first)
  exact unrecorded event found.1 own

theorem Unrecorded.step (unrecorded : Unrecorded accountId world.store)
    (spares : Call.sparesAccount accountId call)
    (result : semantics call choice world = some (answer, next)) :
    Unrecorded accountId next.store := by
  cases call with
  | store call =>
      cases call with
      | append input =>
          rcases append_step result with
            ⟨event, store, appended, rfl, -⟩ | ⟨rfl, -⟩
          · rcases EventStore.append_cases appended with
              ⟨_, ⟨⟩, -, -, -, account, -, -, -, rfl⟩ | ⟨conflict, -⟩
            · intro other member
              rcases List.mem_append.mp member with old | new
              · exact unrecorded other old
              · rw [List.mem_singleton] at new
                rw [new, account]
                exact spares
            · cases conflict
          · exact unrecorded
      | deleteAccount account =>
          have fewer : ∀ event ∈ (world.store.deleteAccount account).events,
              event.accountId ≠ accountId :=
            fun event member => unrecorded event (List.mem_of_mem_filter member)
          rcases outside_cases (Option.some.inj result) with
            ⟨-, effect⟩ | ⟨message, -, -, rfl⟩ | ⟨message, -, -, rfl⟩
          · cases effect
            exact fewer
          · exact unrecorded
          · exact fewer
      | _ => rw [store_frame result rfl]; exact unrecorded
  | _ => rw [store_frame result rfl]; exact unrecorded

/-- What is answered while the account has no events. -/
theorem findsNothing_step (unrecorded : Unrecorded accountId world.store)
    (unheard : ∀ sessionId message now,
      call = .memory (.process sessionId message now) →
      command.accountId = some accountId →
      (world.agents.process sessionId message now).1.records = false)
    (result : semantics call choice world = some (answer, next)) :
    FindsNothing accountId command ⟨call, answer⟩ := by
  cases answer with
  | error error =>
      cases call with
      | store call => cases call <;> trivial
      | memory call => cases call <;> trivial
      | _ => trivial
  | ok value =>
      cases call with
      | store call =>
          cases call with
          | append input => trivial
          | deleteAccount account => trivial
          | readStream params =>
              intro own
              rcases readStream_step result with ⟨-, found | ⟨-, _, failed⟩⟩
              · cases found
                exact unrecorded.readStream own
              · cases failed
          | listAggregateIds account aggregateType =>
              intro own
              subst own
              rcases listAggregateIds_step result with
                ⟨-, found | ⟨_, failed⟩⟩
              · cases found
                exact unrecorded.listAggregateIds
              · cases failed
          | resolveAccountId aggregateType aggregateId =>
              rcases outside_cases (Option.some.inj result) with
                ⟨-, effect⟩ | ⟨message, -, failed, -⟩ |
                ⟨message, -, lost, -⟩
              · cases effect
                exact unrecorded.resolveAccountId
              · cases failed
              · cases lost
      | memory call =>
          cases call with
          | process sessionId message now =>
              intro given
              cases result
              exact unheard sessionId message now rfl given
          | _ => trivial
      | _ => trivial

/-- The deletion, answered. -/
theorem deletion_step
    (same : (⟨call, answer⟩ : Answered backend Err) = deleted accountId)
    (result : semantics call choice world = some (answer, next)) :
    choice.fate = .ok ∧ Unrecorded accountId next.store := by
  cases same
  rcases outside_cases (Option.some.inj result) with
    ⟨fate, effect⟩ | ⟨message, -, failed, -⟩ | ⟨message, -, lost, -⟩
  · refine ⟨fate, ?_⟩
    cases effect
    intro event member
    simpa using (List.mem_filter.mp member).2
  · cases failed
  · cases lost

end Steps

/-- The account has no events, and every operation in progress quits. -/
structure Gone (accountId : Id) (pool : BackendPool) : Prop where
  unrecorded : Unrecorded accountId pool.state.store
  quits : ∀ thread ∈ pool.threads,
    Quits accountId thread.request.command thread.program

section Runs

variable {deps : BackendDeps} {accountId : Id} {pool next : BackendPool}

theorem Gone.start {request : BackendRequest} (gone : Gone accountId pool)
    (quiet : begins accountId request.command = false) :
    Gone accountId ⟨pool.state, pool.threads ++
      [⟨request, [], (backendService deps).program request⟩]⟩ := by
  refine ⟨gone.unrecorded, ?_⟩
  intro thread member
  rcases List.mem_append.mp member with old | new
  · exact gone.quits thread old
  · rw [List.mem_singleton] at new
    subst new
    exact command_quits quiet

/-- One step of a run: from the deletion on, the account stays gone. -/
theorem gone_step {move : Move BackendRequest Choice}
    (traced : pool.TracedTo (Last accountId) (EndsErased accountId))
    (here : Erased accountId pool → Gone accountId pool)
    (isAllowed : Erases accountId pool move)
    (moved : pool.step (backendService deps) move = some next) :
    Erased accountId next → Gone accountId next := by
  cases move with
  | start request =>
      obtain ⟨-, -, rfl⟩ := Pool.step_start moved
      intro erased
      obtain ⟨thread, member, deletion⟩ := erased
      rcases List.mem_append.mp member with old | new
      · have earlier : Erased accountId pool := ⟨thread, old, deletion⟩
        exact (here earlier).start (isAllowed earlier)
      · rw [List.mem_singleton] at new
        subst new
        cases deletion
  | advance index choice =>
      obtain ⟨request, history, call, resume, answer, world, found, result,
        rfl⟩ := Pool.step_advance moved
      obtain ⟨unheard, others⟩ := isAllowed _ _ _ _ found
      have current := List.mem_of_getElem? found
      intro erased
      by_cases earlier : Erased accountId pool
      · have gone := here earlier
        obtain ⟨spares, rest⟩ := gone.quits _ current
        refine ⟨gone.unrecorded.step spares result, ?_⟩
        intro thread member
        rcases List.mem_or_eq_of_mem_set member with old | rfl
        · exact gone.quits thread old
        · apply rest answer
          apply findsNothing_step gone.unrecorded ?_ result
          exact fun sessionId message now same given =>
            unheard sessionId message now same earlier given
      · -- the deletion is what this step was answered
        have deletion :
            (⟨call, answer⟩ : Answered backend Err) = deleted accountId := by
          obtain ⟨thread, member, deletion⟩ := erased
          rcases List.mem_or_eq_of_mem_set member with old | rfl
          · exact absurd ⟨thread, old, deletion⟩ earlier
          · rcases List.mem_append.mp deletion with before | now
            · exact absurd ⟨_, current, before⟩ earlier
            · exact (List.mem_singleton.mp now).symm
        obtain ⟨fate, unrecorded⟩ := deletion_step deletion result
        refine ⟨unrecorded, ?_⟩
        intro thread member
        obtain ⟨position, bound, atPosition⟩ := List.getElem_of_mem member
        by_cases own : position = index
        · subst own
          rw [List.getElem_set_self] at atPosition
          subst atPosition
          -- no call follows the deletion
          have after := (traced _ current).2 answer
          rw [deletion] at after
          show Quits accountId request.command (resume answer)
          cases ends : resume answer with
          | done value => trivial
          | fail error => trivial
          | await call resume =>
              rw [ends] at after
              exact absurd (List.mem_append_right _
                (List.mem_singleton_self _)) after.1
        · rw [List.getElem_set_ne (Ne.symm own)] at atPosition
          have sameCall : call = .store (.deleteAccount accountId) :=
            congrArg Answered.call deletion
          apply others sameCall fate position thread own
          rw [← atPosition]
          exact List.getElem?_eq_getElem _

theorem gone_run (run : Pool.Run (backendService deps) (Erases accountId)
    ⟨{}, []⟩ pool) : Erased accountId pool → Gone accountId pool := by
  have both : pool.TracedTo (Last accountId) (EndsErased accountId) ∧
      (Erased accountId pool → Gone accountId pool) := by
    apply run.invariant
    · refine ⟨?_, ?_⟩
      · intro thread member
        cases member
      · intro erased
        obtain ⟨thread, member, -⟩ := erased
        cases member
    · intro pool move next here isAllowed moved
      exact ⟨here.1.step (program_traces deps) moved,
        gone_step here.1 here.2 isAllowed moved⟩
  exact both.2

end Runs

end Erasure

open Erasure in
/-- Once a closing of the account has returned, and as long as no operation
of the account was about to write or is begun to, the store has no event of
the account. -/
theorem erasure_is_complete {deps : BackendDeps} {accountId : Id}
    {pool : BackendPool} {request : BackendRequest}
    {history : BackendHistory} {status : Option Nat}
    (run : Pool.Run (backendService deps) (Erases accountId) ⟨{}, []⟩ pool)
    (closes : request.command = .account accountId .close)
    (resolved : ⟨request, history, .done status⟩ ∈ pool.threads) :
    ∀ event ∈ pool.state.store.events, event.accountId ≠ accountId := by
  have traced : pool.TracedTo (Last accountId) (EndsErased accountId) :=
    run.tracedTo (program_traces deps)
  have erased : deleted accountId ∈ history :=
    traced _ resolved closes status rfl
  exact (gone_run run ⟨_, resolved, erased⟩).unrecorded

namespace Erasure

/-! ### Closings on their own, and with a report in progress -/

/-- The program has returned or thrown. -/
def finished (thread : Thread backend Err BackendRequest (Option Nat)) :
    Bool :=
  match thread.program with
  | .await _ _ => false
  | _ => true

def deletes (answered : Answered backend Err) : Bool :=
  match answered.call with
  | .store (.deleteAccount _) => true
  | _ => false

/-- The thread with this index takes a message of a session next. -/
def hears (pool : BackendPool) (index : Nat) : Bool :=
  match pool.threads[index]? with
  | some ⟨_, _, .await (.memory (.process _ _ _)) _⟩ => true
  | _ => false

/-- One operation after the other: none begins after a deletion, and none
advances while another one is in progress. -/
def oneByOne (pool : BackendPool) : Move BackendRequest Choice → Bool
  | .start _ => pool.threads.all fun thread => !thread.history.any deletes
  | .advance index _ =>
      !hears pool index &&
        (List.range pool.threads.length).all fun position =>
          position == index || pool.threads[position]?.all finished

theorem erases_of_oneByOne {accountId : Id} (pool : BackendPool)
    (move : Move BackendRequest Choice)
    (passed : oneByOne pool move = true) : Erases accountId pool move := by
  cases move with
  | start request =>
      intro erased
      obtain ⟨thread, member, deletion⟩ := erased
      have none := List.all_eq_true.mp passed thread member
      have some : thread.history.any deletes = true :=
        List.any_eq_true.mpr ⟨_, deletion, rfl⟩
      simp [some] at none
  | advance index choice =>
      intro request history call resume found
      obtain ⟨silent, alone⟩ := Bool.and_eq_true_iff.mp passed
      constructor
      · intro sessionId message now same
        subst same
        simp [hears, found] at silent
      · intro _ _ position thread other there
        have bound := (List.getElem?_eq_some_iff.mp there).1
        have done := List.all_eq_true.mp alone position
          (List.mem_range.mpr bound)
        have ends : finished thread = true := by
          simpa [other, there] using done
        unfold Quits
        unfold finished at ends
        cases program : thread.program with
        | done value => trivial
        | fail error => trivial
        | await call resume => simp [program] at ends

/-- An account is provisioned and closed. -/
def closingAlone : List (Move BackendRequest Choice) :=
  .start provisionRequest :: CutOff.backendAdvances 0 2 ++
    .start ⟨1, 0, .account 1 .close⟩ :: CutOff.backendAdvances 1 7

/-- No API request of the account begins once its closing has begun. -/
def noNewRequest (accountId : Id) (pool : BackendPool) :
    Move BackendRequest Choice → Bool
  | .start request =>
      !pool.threads.any
        (·.request.command = .account accountId .close) ||
        match request.command with
        | .settle _ => true
        | .execute _ _ _ => true
        | .provider command => !ProviderCommand.isRoute command
        | _ => false
  | .advance _ _ => true

def closeRequest : BackendRequest :=
  ⟨3, 0, .account 1 .close⟩

/-- A report waits for its append while the account is closed. -/
def reportDuringClosing : List (Move BackendRequest Choice) :=
  .start provisionRequest :: CutOff.backendAdvances 0 2 ++
    .start CutOff.registerRequest :: CutOff.backendAdvances 1 7 ++
    .start CutOff.reportRequest :: CutOff.backendAdvances 2 2 ++
    .start closeRequest :: CutOff.backendAdvances 3 7 ++
    CutOff.backendAdvances 2 2

end Erasure

open Erasure in
theorem erasure_is_complete_alone :
    ∃ (pool : BackendPool) (history : BackendHistory),
      ⟨⟨1, 0, .account 1 .close⟩, history, .done (some 200)⟩ ∈
        pool.threads ∧
      ∀ event ∈ pool.state.store.events, event.accountId ≠ 1 := by
  have ends : ((⟨{}, []⟩ : BackendPool).follow
      (backendService exampleBackendDeps) oneByOne closingAlone).map
        (·.returned 1) =
      some (some (⟨1, 0, .account 1 .close⟩, some 200)) := by
    decide +kernel
  obtain ⟨pool, followed, closed⟩ := Option.map_eq_some_iff.mp ends
  obtain ⟨history, resolved⟩ := Pool.mem_of_returned closed
  have run : Pool.Run (backendService exampleBackendDeps) (Erases 1)
      ⟨{}, []⟩ pool := Pool.run_of_follow erases_of_oneByOne followed
  exact ⟨pool, history, resolved, erasure_is_complete run rfl resolved⟩

open Erasure in
/-- The report in progress is finished, and its event is there. -/
theorem report_outlives_the_account :
    ∃ pool : BackendPool,
      Pool.Run (backendService exampleBackendDeps)
        (fun pool move => noNewRequest 1 pool move = true) ⟨{}, []⟩ pool ∧
      (∃ history, ⟨closeRequest, history, .done (some 200)⟩ ∈
        pool.threads) ∧
      (∀ thread ∈ pool.threads, finished thread = true) ∧
      ∃ event ∈ pool.state.store.events, event.accountId = 1 := by
  have ends : ((⟨{}, []⟩ : BackendPool).follow
      (backendService exampleBackendDeps) (noNewRequest 1)
      reportDuringClosing).map (fun pool => (pool.returned 3,
        pool.threads.all finished,
        pool.state.store.events.map (·.accountId))) =
      some (some (closeRequest, some 200), true, [1]) := by
    decide +kernel
  obtain ⟨pool, followed, outcome⟩ := Option.map_eq_some_iff.mp ends
  simp only [Prod.mk.injEq] at outcome
  obtain ⟨closed, allFinished, accounts⟩ := outcome
  refine ⟨pool, Pool.run_of_follow (fun _ _ passed => passed) followed,
    Pool.mem_of_returned closed, List.all_eq_true.mp allFinished, ?_⟩
  have present : 1 ∈ pool.state.store.events.map (·.accountId) := by
    rw [accounts]
    exact List.mem_singleton_self 1
  exact List.mem_map.mp present

end FluxIP
