import FluxIP.Adapters.ProviderPrograms
import FluxIP.Async.Traces

/-!
# What the commands of the provider service record

Which events each command may append, and to which provider's stream.  The
events of a session depend on what its program has been answered: a report is
recorded only after `process` has taken it, a disconnect only after `onClosed`
has claimed it.
-/

namespace FluxIP

open Async

/-- The memory call was answered so. -/
def Got (call : MemoryCall) (value : call.Answer)
    (history : BackendHistory) : Prop :=
  @Answered.mk backend Err (.memory call) (.ok value) ∈ history

theorem got_lasting (call : MemoryCall) (value : call.Answer) :
    Lasting (Got call value) :=
  fun _ _ got => List.mem_append_left _ got

theorem got_last (call : MemoryCall) (value : call.Answer)
    (history : BackendHistory) :
    Got call value
      (history ++ [@Answered.mk backend Err (.memory call) (.ok value)]) :=
  List.mem_append_right _ (List.mem_singleton.mpr rfl)

/-- The event belongs to publishing a snapshot. -/
def TraefikProviderEvent.ofPublisher : TraefikProviderEvent → Bool
  | .snapshotPublished _ => true
  | .snapshotPublishFailed _ => true
  | _ => false

def TraefikProviderEvent.issuesToken : TraefikProviderEvent → Bool
  | .tokenIssued _ => true
  | _ => false

/-- The events a command may append to the stream of a provider after what it
has awaited. -/
inductive ProviderCommand.Records (now : Timestamp) (history : BackendHistory) :
    ProviderCommand → Id → TraefikProviderEvent → Prop where
  | create {accountId name connectionMode} (providerId : Id)
      (requested : String) : Records now history
        (.post accountId name connectionMode) providerId
        (.created ⟨providerId, accountId, requested, .agentInitiated, now⟩)
  | firstToken {accountId name connectionMode providerId event}
      (issues : event.issuesToken = true) : Records now history
        (.post accountId name connectionMode) providerId event
  | rename {accountId providerId name connectionMode} (requested : String) :
      Records now history (.patch accountId providerId name connectionMode)
        providerId (.renamed requested now)
  | delete {accountId providerId} :
      Records now history (.delete accountId providerId) providerId
        (.deleted now)
  | token {accountId providerId event}
      (issues : event.issuesToken = true) :
      Records now history (.postToken accountId providerId) providerId event
  | revoke {accountId providerId tokenId} :
      Records now history (.deleteToken accountId providerId tokenId)
        providerId (.tokenRevoked ⟨tokenId, now⟩)
  | connected {auth sessionId received data}
      (got : Got (.process sessionId received now) (.connected data)
        history) :
      Records now history (.message auth sessionId received)
        auth.providerId (.agentConnected data)
  | reported {auth sessionId received report event}
      (got : Got (.process sessionId received now) (.reported report)
        history)
      (isEvent : AgentSessionHandler.reportEvent report now = some event) :
      Records now history (.message auth sessionId received)
        auth.providerId event
  | sent {auth sessionId received event}
      (publishes : event.ofPublisher = true) :
      Records now history (.message auth sessionId received)
        auth.providerId event
  | disconnected {auth sessionId effective}
      (closed : Got (.closed sessionId) effective history)
      (claimed : Got (.claimDisconnect sessionId) true history) :
      Records now history (.closed auth sessionId) auth.providerId
        (.agentDisconnected ⟨sessionId, effective.disconnect, now⟩)
  | run {accountId providerId causationIds event}
      (publishes : event.ofPublisher = true) :
      Records now history (.coordinatorRun accountId providerId causationIds)
        providerId event
  | resync {accountId providerId event}
      (publishes : event.ofPublisher = true) :
      Records now history (.resync accountId providerId) providerId event

/-- The call appends such events to the streams of providers, and deletes
nothing. -/
def Call.recordsOnly (may : Id → TraefikProviderEvent → Prop) : Call → Prop
  | .store (.append input) => ∃ accountId providerId version event,
      input = ProviderStore.appendInput accountId providerId version event ∧
        may providerId event
  | .store (.deleteAccount _) => False
  | _ => True

/-- What a command may call after what it has awaited. -/
def Recording (now : Timestamp) (command : ProviderCommand)
    (history : BackendHistory) (call : Call) : Prop :=
  call.recordsOnly (command.Records now history)

variable {may : Id → TraefikProviderEvent → Prop}
variable {accountId providerId : Id} {now : Timestamp} {α β : Type}

theorem recordsOnly_mono {call : Call}
    {permitted : Id → TraefikProviderEvent → Prop}
    (records : call.recordsOnly may)
    (implies : ∀ providerId event, may providerId event →
      permitted providerId event) : call.recordsOnly permitted := by
  cases call with
  | store call =>
      cases call with
      | append input =>
          obtain ⟨accountId, providerId, version, event, same, allowed⟩ :=
            records
          exact ⟨accountId, providerId, version, event, same,
            implies _ _ allowed⟩
      | deleteAccount accountId => exact records
      | _ => trivial
  | _ => trivial

theorem recordsOnly_of_read {call : Call}
    (isRead : Backend.reads call = true) : call.recordsOnly may := by
  cases call with
  | store call =>
      cases call with
      | append input => cases isRead
      | deleteAccount accountId => cases isRead
      | _ => trivial
  | _ => trivial

theorem recordsOnly_of_reads {program : Backend α}
    (reads : program.Calls fun call => Backend.reads call = true) :
    program.Calls (Call.recordsOnly may) :=
  reads.mono fun _ => recordsOnly_of_read

/-- One call that does not concern the event store. -/
theorem recordsOnly_call (awaited : Call)
    (aside : awaited.recordsOnly may) :
    @Program.Calls backend Err _ (Call.recordsOnly may)
      (Backend.call awaited) :=
  (Backend.calls_call awaited).mpr aside

theorem recordsOnly_mutex {key : MutexKey} {fn : Backend α}
    (calls : fn.Calls (Call.recordsOnly may)) :
    (KeyedMutex.run key fn).Calls (Call.recordsOnly may) := by
  apply Program.Calls.bind (recordsOnly_call (.memory (.join key)) trivial)
  intro ticket
  apply Program.Calls.bind
    (recordsOnly_call (.memory (.turn key ticket)) trivial)
  intro _
  exact calls.tryFinally
    (recordsOnly_call (.memory (.leave key ticket)) trivial)

theorem recordsOnly_append {event : TraefikProviderEvent}
    (allowed : may providerId event) :
    (ProviderStore.append accountId providerId event).Calls
      (Call.recordsOnly may) := by
  have once : (ProviderStore.appendOnce accountId providerId event).Calls
      (Call.recordsOnly may) := by
    apply Program.Calls.bind
      (recordsOnly_of_reads (ProviderStore.load_reads _ _))
    intro loaded
    exact recordsOnly_call (.store (.append _)) ⟨_, _, _, _, rfl, allowed⟩
  apply recordsOnly_mutex
  apply once.tryCatch
  intro error
  cases error with
  | concurrency aggregateType aggregateId expected => exact once
  | _ => trivial

/-! ## Snapshots -/

section

variable (publishes : ∀ event : TraefikProviderEvent,
  event.ofPublisher = true → may providerId event)

include publishes

theorem publish_records (deps : SnapshotPublisherDeps)
    (causationId : Option Id) (absorbedCausationIds : List Id) :
    (SnapshotPublisher.publish deps accountId providerId causationId
      absorbedCausationIds now).Calls (Call.recordsOnly may) := by
  apply recordsOnly_mutex
  apply Program.Calls.bind
    (recordsOnly_of_reads (ProviderStore.loadActive_reads _ _))
  intro loaded
  split
  · trivial
  apply Program.Calls.bind
    (recordsOnly_of_reads (buildSnapshotContent_reads _ _ _ _))
  intro content
  split
  · trivial
  apply Program.Calls.bind
  · cases causationId with
    | none => exact recordsOnly_call (.clock .randomUUID) trivial
    | some causationId => trivial
  intro correlationId
  unfold SnapshotPublisher.publishNew
  split
  · apply Program.Calls.bind (recordsOnly_append (publishes _ rfl))
    exact fun _ => trivial
  · apply Program.Calls.bind (recordsOnly_append (publishes _ rfl))
    exact fun _ => trivial

theorem coordinatorRun_records (deps : GrpcAgentServerDeps)
    (causationIds : List Id) :
    (SnapshotCoordinator.run deps accountId providerId causationIds now).Calls
      (Call.recordsOnly may) := by
  apply Program.Calls.tryCatch
  · apply Program.Calls.bind (publish_records publishes _ _ _)
    intro result
    split
    · trivial
    · exact Program.Calls.onlyIf (recordsOnly_call (.memory _) trivial)
  · exact fun _ => trivial

theorem resync_records (deps : GrpcAgentServerDeps) :
    (SnapshotCoordinator.resync deps accountId providerId now).Calls
      (Call.recordsOnly may) := by
  apply Program.Calls.tryCatch
  · apply Program.Calls.bind (publish_records publishes _ _ _)
    intro result
    split
    · trivial
    · exact recordsOnly_call (.memory _) trivial
  · exact fun _ => trivial

end

theorem sendCurrentSnapshot_records {auth : AgentAuth}
    (publishes : ∀ event : TraefikProviderEvent,
      event.ofPublisher = true → may auth.providerId event)
    (deps : GrpcAgentServerDeps) (sessionId : Id) :
    (AgentSessionHandler.sendCurrentSnapshot deps auth sessionId now).Calls
      (Call.recordsOnly may) := by
  apply Program.Calls.bind
  · apply Program.Calls.bind (publish_records publishes _ _ _)
    exact fun _ => trivial
  intro snapshot
  split
  · trivial
  · exact recordsOnly_call (.memory _) trivial

/-! ## The routes -/

theorem issue_records {deps : TraefikProvidersRouteDeps}
    (issues : ∀ event : TraefikProviderEvent,
      event.issuesToken = true → may providerId event) :
    (TraefikProviders.issue deps accountId providerId now).Calls
      (Call.recordsOnly may) := by
  apply Program.Calls.bind (recordsOnly_call (.clock .randomUUID) trivial)
  intro drawn
  apply Program.Calls.bind (recordsOnly_call (.clock .randomUUID) trivial)
  intro tokenId
  apply Program.Calls.bind (recordsOnly_append (issues _ rfl))
  exact fun _ => trivial

theorem post_records {deps : TraefikProvidersRouteDeps}
    {name connectionMode : Option String}
    (creates : ∀ providerId requested, may providerId (.created
      ⟨providerId, accountId, requested, .agentInitiated, now⟩))
    (issues : ∀ providerId (event : TraefikProviderEvent),
      event.issuesToken = true → may providerId event) :
    (TraefikProviders.post deps accountId name connectionMode now).Calls
      (Call.recordsOnly may) := by
  unfold TraefikProviders.post
  split
  · trivial
  split
  · trivial
  split
  · trivial
  apply Program.Calls.bind
    (recordsOnly_of_reads (ProviderStore.listActive_reads _))
  intro existing
  split
  · trivial
  apply Program.Calls.bind (recordsOnly_call (.clock .randomUUID) trivial)
  intro providerId
  apply Program.Calls.bind (recordsOnly_append (creates _ _))
  intro _
  apply Program.Calls.bind (issue_records (issues _))
  exact fun _ => trivial

theorem patch_records {deps : TraefikProvidersRouteDeps}
    {name connectionMode : Option String}
    (renames : ∀ requested, may providerId (.renamed requested now)) :
    (TraefikProviders.patch deps accountId providerId name connectionMode
      now).Calls (Call.recordsOnly may) := by
  apply Program.Calls.bind
    (recordsOnly_of_reads (ProviderStore.loadActive_reads _ _))
  intro loaded
  split
  · trivial
  split
  · trivial
  split
  · trivial
  apply Program.Calls.bind
    (recordsOnly_of_reads (ProviderStore.listActive_reads _))
  intro providers
  dsimp only
  split
  · trivial
  apply Program.Calls.bind
  · apply Program.Calls.onlyIf
    apply Program.Calls.bind (recordsOnly_append (renames _))
    exact fun _ => trivial
  intro _
  apply Program.Calls.bind
  · apply Program.Calls.bind
      (recordsOnly_of_reads (ProviderStore.load_reads _ _))
    intro _
    apply Program.Calls.bind
      (recordsOnly_of_reads (listDeliveryActions_reads _))
    exact fun _ => trivial
  · exact fun _ => trivial

theorem delete_records (deletes : may providerId (.deleted now)) :
    (TraefikProviders.delete accountId providerId now).Calls
      (Call.recordsOnly may) := by
  apply Program.Calls.bind
    (recordsOnly_of_reads (ProviderStore.loadActive_reads _ _))
  intro loaded
  split
  · trivial
  apply Program.Calls.bind
    (recordsOnly_of_reads (listDeliveryActions_reads _))
  intro actions
  split
  · trivial
  apply Program.Calls.bind (recordsOnly_append deletes)
  intro _
  apply Program.Calls.bind (recordsOnly_call (.memory _) trivial)
  exact fun _ => trivial

theorem postToken_records {deps : TraefikProvidersRouteDeps}
    (issues : ∀ event : TraefikProviderEvent,
      event.issuesToken = true → may providerId event) :
    (TraefikProviders.postToken deps accountId providerId now).Calls
      (Call.recordsOnly may) := by
  apply Program.Calls.bind
    (recordsOnly_of_reads (ProviderStore.loadActive_reads _ _))
  intro loaded
  split
  · trivial
  split
  · trivial
  apply Program.Calls.bind (issue_records issues)
  exact fun _ => trivial

theorem deleteToken_records {tokenId : Id}
    (revokes : may providerId (.tokenRevoked ⟨tokenId, now⟩)) :
    (TraefikProviders.deleteToken accountId providerId tokenId now).Calls
      (Call.recordsOnly may) := by
  apply Program.Calls.bind
    (recordsOnly_of_reads (ProviderStore.loadActive_reads _ _))
  intro loaded
  split
  · trivial
  apply Program.Calls.bind
  · apply Program.Calls.onlyIf
    apply Program.Calls.bind (recordsOnly_append revokes)
    exact fun _ => trivial
  intro _
  apply Program.Calls.bind (recordsOnly_call (.memory _) trivial)
  exact fun _ => trivial

/-! ## Opening a stream -/

theorem onSession_records {deps : GrpcAgentServerDeps} {call : SessionCall} :
    (GrpcAgentServer.onSession deps call now).Calls
      (Call.recordsOnly may) := by
  have rejects (source : String) : (GrpcAgentServer.reject deps source).Calls
      (Call.recordsOnly may) := by
    apply Program.Calls.bind
    · apply Program.Calls.onlyIf
      apply Program.Calls.bind (recordsOnly_call (.redis _) trivial)
      intro count
      exact Program.Calls.onlyIf (recordsOnly_call (.redis _) trivial)
    · exact fun _ => trivial
  have verifies : (GrpcAgentServer.verify deps call).Calls
      (Call.recordsOnly may) := by
    unfold GrpcAgentServer.verify
    dsimp only
    split
    · exact rejects _
    split
    · exact rejects _
    apply Program.Calls.bind (recordsOnly_call
      (.store (.resolveAccountId _ _)) trivial)
    intro account
    split
    · exact rejects _
    apply Program.Calls.bind
      (recordsOnly_of_reads (ProviderStore.loadActive_reads _ _))
    intro loaded
    split
    · exact rejects _
    · trivial
  apply Program.Calls.bind
  · unfold GrpcAgentServer.authenticate
    split
    · apply Program.Calls.bind
      · apply Program.Calls.bind (recordsOnly_call (.redis _) trivial)
        exact fun _ => trivial
      intro blocked
      split
      · trivial
      · exact verifies
    · exact verifies
  intro authentication
  cases authentication with
  | throttled => trivial
  | rejected => trivial
  | authenticated auth =>
      exact recordsOnly_call (.memory (.openSession _ _ _ _)) trivial

/-! ## Sessions -/

variable {command : ProviderCommand}

theorem recording_of_calls {program : Backend α}
    (calls : ∀ history, program.Calls
      (Call.recordsOnly (command.Records now history))) :
    program.AlwaysTraces (Recording now command) := by
  have all : program.Calls fun call : Call => ∀ history,
      call.recordsOnly (command.Records now history) := by
    induction program with
    | done value => trivial
    | fail error => trivial
    | await call resume ih =>
        exact ⟨fun history => (calls history).1,
          fun answer => ih answer fun history => (calls history).2 answer⟩
  exact Program.AlwaysTraces.of_calls all fun history _ records =>
    records history

/-- What a program may record because of an answer it has. -/
theorem recording_after {assertion : BackendHistory → Prop}
    {program : Backend α} (lasting : Lasting assertion)
    (calls : program.Calls (Call.recordsOnly fun providerId event =>
      ∀ history, assertion history →
        command.Records now history providerId event))
    {history : BackendHistory} (here : assertion history) :
    program.Traces (Recording now command) anyEnd history := by
  apply (Program.Traces.of_calls assertion calls lasting ?_ here).mono
  · exact fun _ _ _ => trivial
  intro history call holds records
  exact recordsOnly_mono records fun _ _ allowed => allowed history holds

theorem recording_call (awaited : Call)
    (aside : ∀ history, awaited.recordsOnly (command.Records now history)) :
    @Program.AlwaysTraces backend Err _ (Recording now command)
      (Backend.call awaited) :=
  recording_of_calls fun history => recordsOnly_call awaited (aside history)

theorem recording_mutex {key : MutexKey} {fn : Backend α}
    (traces : fn.AlwaysTraces (Recording now command)) :
    (KeyedMutex.run key fn).AlwaysTraces (Recording now command) := by
  apply Program.AlwaysTraces.bind
    (recording_call (.memory (.join key)) fun _ => trivial)
  intro ticket
  apply Program.AlwaysTraces.bind
    (recording_call (.memory (.turn key ticket)) fun _ => trivial)
  intro _
  apply Program.AlwaysTraces.bind traces.attempt
  intro outcome
  apply Program.AlwaysTraces.bind
    (recording_call (.memory (.leave key ticket)) fun _ => trivial)
  intro _
  cases outcome with
  | ok value => exact .done value
  | error error => exact .fail error

/-- After a memory call its answer is in the history. -/
theorem memory_gets (awaited : MemoryCall) (history : BackendHistory) :
    (Backend.memory awaited).Traces (Recording now command)
      (onReturn fun value => Got awaited value) history := by
  refine ⟨trivial, ?_⟩
  intro answer
  cases answer with
  | error error => trivial
  | ok value => exact got_last awaited value history

variable {deps : GrpcAgentServerDeps} {auth : AgentAuth} {sessionId : Id}
variable {received : AgentMessage}

/-- What may be recorded after a message, by what became of it. -/
theorem afterProcess_records (processing : Agents.Processing) :
    (AgentSessionHandler.afterProcess deps auth sessionId now processing).Calls
      (Call.recordsOnly fun providerId event => ∀ history,
        Got (.process sessionId received now) processing history →
        (ProviderCommand.message auth sessionId received).Records now history
          providerId event) := by
  have publishes : ∀ event : TraefikProviderEvent,
      event.ofPublisher = true → ∀ history,
        Got (.process sessionId received now) processing history →
        (ProviderCommand.message auth sessionId received).Records now history
          auth.providerId event :=
    fun _ isPublication _ _ => .sent isPublication
  cases processing with
  | finished => trivial
  | connected data =>
      apply Program.Calls.bind
        (recordsOnly_append fun _ got => .connected got)
      intro _
      apply Program.Calls.bind (recordsOnly_call (.memory _) trivial)
      intro _
      apply Program.Calls.bind
        (recordsOnly_of_reads (ProviderStore.loadActive_reads _ _))
      intro loaded
      apply Program.Calls.bind (recordsOnly_call (.memory _) trivial)
      intro _
      apply Program.Calls.bind (sendCurrentSnapshot_records publishes _ _)
      intro _
      exact recordsOnly_call (.memory _) trivial
  | reported report =>
      simp only [AgentSessionHandler.afterProcess,
        AgentSessionHandler.onReport]
      split
      · trivial
      · rename_i event isEvent
        apply Program.Calls.bind
          (recordsOnly_append fun _ got => .reported got isEvent)
        exact fun _ => trivial
  | syncRequested => exact sendCurrentSnapshot_records publishes _ _

theorem process_records :
    (AgentSessionHandler.process deps auth sessionId received
      now).AlwaysTraces
        (Recording now (.message auth sessionId received)) := by
  intro history
  apply (memory_gets (.process sessionId received now) history).bind
  · intro history processing got
    exact recording_after
      (got_lasting (.process sessionId received now) processing)
      (afterProcess_records processing) got
  · exact fun _ _ _ => trivial

theorem handle_records :
    (AgentSessionHandler.handle deps auth sessionId received now).AlwaysTraces
      (Recording now (.message auth sessionId received)) := by
  apply recording_mutex
  apply process_records.tryCatch
  exact fun _ => recording_call (.memory _) fun _ => trivial

theorem recordDisconnect_records {effective : CloseReason} :
    (AgentSessionHandler.recordDisconnect auth sessionId effective now).Calls
      (Call.recordsOnly fun providerId event => ∀ history,
        Got (.closed sessionId) effective history ∧
          Got (.claimDisconnect sessionId) true history →
        (ProviderCommand.closed auth sessionId).Records now history providerId
          event) := by
  apply Program.Calls.bind
    (recordsOnly_of_reads (ProviderStore.load_reads _ _))
  intro stillThere
  split
  · trivial
  · apply Program.Calls.tryCatch
    · apply Program.Calls.bind
        (recordsOnly_append fun _ got => .disconnected got.1 got.2)
      exact fun _ => trivial
    · exact fun _ => trivial

/-- A disconnect is recorded by the one who has claimed it. -/
theorem afterClosed_records :
    (AgentSessionHandler.afterClosed auth sessionId now).AlwaysTraces
      (Recording now (.closed auth sessionId)) := by
  intro history
  have waits : (KeyedMutex.run (.chain sessionId) (pure ())).Calls
      (Call.recordsOnly fun _ _ => False) :=
    recordsOnly_mutex (Program.calls_done ())
  apply (memory_gets (.closed sessionId) history).bind
  · intro history effective closed
    have lasting := got_lasting (.closed sessionId) effective
    apply (Program.Traces.of_calls (Got (.closed sessionId) effective) waits
      lasting ?_ closed).bind
    · intro history _ closed
      apply ((memory_gets (.claimDisconnect sessionId) history).keeping
        lasting closed).bind
      · intro history claimed got
        cases claimed with
        | false => trivial
        | true =>
            exact recording_after
              (Lasting.and lasting
                (got_lasting (.claimDisconnect sessionId) true))
              recordDisconnect_records got
      · exact fun _ _ _ => trivial
    · exact fun _ _ _ => trivial
    · exact fun _ _ _ records =>
        recordsOnly_mono records fun _ _ never => never.elim
  · exact fun _ _ _ => trivial

/-! ## Every command -/

theorem command_records (deps : ProviderServiceDeps) (now : Timestamp)
    (command : ProviderCommand) :
    (command.program deps now).AlwaysTraces (Recording now command) := by
  cases command <;> simp only [ProviderCommand.program]
  case post =>
    apply Program.AlwaysTraces.bind _ fun _ => .done _
    exact recording_of_calls fun _ =>
      post_records .create fun _ _ issues => .firstToken issues
  case patch =>
    apply Program.AlwaysTraces.bind _ fun _ => .done _
    exact recording_of_calls fun _ => patch_records .rename
  case delete =>
    apply Program.AlwaysTraces.bind _ fun _ => .done _
    exact recording_of_calls fun _ => delete_records .delete
  case postToken =>
    apply Program.AlwaysTraces.bind _ fun _ => .done _
    exact recording_of_calls fun _ =>
      postToken_records fun _ issues => .token issues
  case deleteToken =>
    apply Program.AlwaysTraces.bind _ fun _ => .done _
    exact recording_of_calls fun _ => deleteToken_records .revoke
  case stream =>
    apply Program.AlwaysTraces.bind _ fun _ => .done _
    exact recording_of_calls fun _ => onSession_records
  case message => exact handle_records.bind fun _ => .done _
  case heartbeat =>
    exact (recording_call (.memory (.heartbeat _ _)) fun _ => trivial).bind
      fun _ => .done _
  case transportEnd =>
    exact (recording_call (.memory (.finish _)) fun _ => trivial).bind
      fun _ => .done _
  case closed => exact afterClosed_records.bind fun _ => .done _
  case coordinatorRun =>
    apply Program.AlwaysTraces.bind _ fun _ => .done _
    exact recording_of_calls fun _ =>
      coordinatorRun_records (fun _ publishes => .run publishes) _ _
  case resync =>
    apply Program.AlwaysTraces.bind _ fun _ => .done _
    exact recording_of_calls fun _ =>
      resync_records (fun _ publishes => .resync publishes) _

end FluxIP
