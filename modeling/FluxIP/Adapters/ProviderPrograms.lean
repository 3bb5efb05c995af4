import FluxIP.Adapters.ProviderService
import FluxIP.Domain.CloseReasons

/-!
# What the programs of the provider service are made of

Every program of the service is put together, by sequencing and by handing
back exceptions, from a few kinds of calls.  A property of programs that the
pieces have and the composition keeps therefore holds of every program.
-/

namespace FluxIP

open Async

/-- A step other than an append, a snapshot that is sent, and the steps of an
account's closure. -/
def Call.plain : Call → Bool
  | .store (.append _) => false
  | .store (.deleteAccount _) => false
  | .memory (.sendAgent _ (.snapshot _)) => false
  | .memory (.push _ (.snapshot _)) => false
  | .memory (.terminateByAccount _ _) => false
  | _ => true

/-- A step on the mutex of a provider's publisher. -/
def Call.atPublisher : Call → Bool
  | .memory (.join (.publisher _)) => true
  | .memory (.turn (.publisher _) _) => true
  | .memory (.leave (.publisher _) _) => true
  | _ => false

/-- The session whose message or whose end the call is a step of. -/
def Call.session? : Call → Option Id
  | .memory (.join (.chain sessionId)) => some sessionId
  | .memory (.turn (.chain sessionId) _) => some sessionId
  | .memory (.leave (.chain sessionId) _) => some sessionId
  | .memory (.process sessionId _ _) => some sessionId
  | .memory (.recordConnected sessionId) => some sessionId
  | .memory (.sendAgent sessionId _) => some sessionId
  | .memory (.startHeartbeat sessionId _) => some sessionId
  | .memory (.terminate sessionId _) => some sessionId
  | .memory (.closed sessionId) => some sessionId
  | .memory (.claimDisconnect sessionId) => some sessionId
  | _ => none

/-- The call terminates a session as a superseded one. -/
def Call.supersedes : Call → Bool
  | .memory (.terminate _ reason) => reason.supersedes
  | .memory (.terminateByToken _ _ reason) => reason.supersedes
  | .memory (.terminateByProvider _ reason) => reason.supersedes
  | .memory (.terminateByAccount _ reason) => reason.supersedes
  | _ => false

def TraefikProviderEvent.publishes : TraefikProviderEvent → Bool
  | .snapshotPublished _ => true
  | _ => false

/-- The event says that an agent is there, or no longer. -/
def TraefikProviderEvent.ofPresence : TraefikProviderEvent → Bool
  | .agentConnected _ => true
  | .agentDisconnected _ => true
  | _ => false

/-- A property of programs that composition keeps and that the pieces have from
which everything but messages and ends of sessions is made. -/
structure Outer (holds : (α : Type) → Backend α → Prop) : Prop where
  done : ∀ {α : Type} (value : α), holds α (.done value)
  fail : ∀ {α : Type} (error : Err), holds α (.fail error)
  bind : ∀ {α β : Type} {program : Backend α} {next : α → Backend β},
    holds α program → (∀ value, holds β (next value)) →
    holds β (program.bind next)
  attempt : ∀ {α : Type} {program : Backend α},
    holds α program → holds (Except Err α) program.attempt
  call : ∀ awaited : Call, Call.plain awaited = true →
    Call.atPublisher awaited = false → Call.session? awaited = none →
    Call.supersedes awaited = false →
    holds awaited.Answer (Backend.call awaited)
  append : ∀ accountId providerId event,
    TraefikProviderEvent.publishes event = false →
    TraefikProviderEvent.ofPresence event = false →
    holds StoredEvent (ProviderStore.append accountId providerId event)
  publish : ∀ deps accountId providerId causationId absorbedCausationIds now,
    holds (Option PublishResult) (SnapshotPublisher.publish deps accountId
      providerId causationId absorbedCausationIds now)

/-- And from the pieces from which the messages and the end of this session are
made. -/
structure Within (sessionId : Id) (holds : (α : Type) → Backend α → Prop) :
    Prop extends Outer holds where
  session : ∀ awaited : Call, Call.plain awaited = true →
    Call.session? awaited = some sessionId →
    Call.supersedes awaited = false →
    holds awaited.Answer (Backend.call awaited)
  presence : ∀ accountId providerId event,
    TraefikProviderEvent.ofPresence event = true →
    holds StoredEvent (ProviderStore.append accountId providerId event)

/-- A property of programs that composition keeps; publishing a snapshot is one
piece. -/
structure Closed (holds : (α : Type) → Backend α → Prop) : Prop where
  done : ∀ {α : Type} (value : α), holds α (.done value)
  fail : ∀ {α : Type} (error : Err), holds α (.fail error)
  bind : ∀ {α β : Type} {program : Backend α} {next : α → Backend β},
    holds α program → (∀ value, holds β (next value)) →
    holds β (program.bind next)
  attempt : ∀ {α : Type} {program : Backend α},
    holds α program → holds (Except Err α) program.attempt
  call : ∀ awaited : Call, Call.plain awaited = true →
    Call.atPublisher awaited = false →
    holds awaited.Answer (Backend.call awaited)
  append : ∀ accountId providerId event,
    TraefikProviderEvent.publishes event = false →
    holds StoredEvent (ProviderStore.append accountId providerId event)
  publish : ∀ deps accountId providerId causationId absorbedCausationIds now,
    holds (Option PublishResult) (SnapshotPublisher.publish deps accountId
      providerId causationId absorbedCausationIds now)

/-- A property that composition keeps and that any step and any append of a
provider has. -/
structure Composed (holds : (α : Type) → Backend α → Prop) : Prop where
  done : ∀ {α : Type} (value : α), holds α (.done value)
  fail : ∀ {α : Type} (error : Err), holds α (.fail error)
  bind : ∀ {α β : Type} {program : Backend α} {next : α → Backend β},
    holds α program → (∀ value, holds β (next value)) →
    holds β (program.bind next)
  attempt : ∀ {α : Type} {program : Backend α},
    holds α program → holds (Except Err α) program.attempt
  call : ∀ awaited : Call, Call.plain awaited = true →
    holds awaited.Answer (Backend.call awaited)
  append : ∀ accountId providerId event,
    holds StoredEvent (ProviderStore.append accountId providerId event)

/-- The programs of a command that send snapshots have the property. -/
structure Delivers (holds : (α : Type) → Backend α → Prop)
    (deps : ProviderServiceDeps) (now : Timestamp)
    (command : ProviderCommand) : Prop where
  process : ∀ auth sessionId received,
    command = .message auth sessionId received →
    holds Unit
      (AgentSessionHandler.process deps.server auth sessionId received now)
  run : ∀ accountId providerId causationIds,
    command = .coordinatorRun accountId providerId causationIds →
    holds Unit (SnapshotCoordinator.run deps.server accountId providerId
      causationIds now)
  resync : ∀ accountId providerId,
    command = .resync accountId providerId →
    holds Unit
      (SnapshotCoordinator.resync deps.server accountId providerId now)

/-- The programs of a command that are not made of the outer pieces alone have
the property. -/
structure Completes (holds : (α : Type) → Backend α → Prop)
    (deps : ProviderServiceDeps) (now : Timestamp)
    (command : ProviderCommand) : Prop where
  handle : ∀ auth sessionId received,
    command = .message auth sessionId received →
    holds Unit
      (AgentSessionHandler.handle deps.server auth sessionId received now)
  closed : ∀ auth sessionId, command = .closed auth sessionId →
    holds Unit (AgentSessionHandler.afterClosed auth sessionId now)
  run : ∀ accountId providerId causationIds,
    command = .coordinatorRun accountId providerId causationIds →
    holds Unit (SnapshotCoordinator.run deps.server accountId providerId
      causationIds now)
  resync : ∀ accountId providerId,
    command = .resync accountId providerId →
    holds Unit
      (SnapshotCoordinator.resync deps.server accountId providerId now)

variable {holds : (α : Type) → Backend α → Prop}
variable {accountId providerId : Id} {now : Timestamp}

/-- A read, put together from one call. -/
theorem await_eq_bind {α : Type} (call : Call)
    (resume : Except Err call.Answer → Backend α) :
    @Program.await backend Err α call resume =
      (Backend.call call).attempt.bind resume := by
  refine congrArg (@Program.await backend Err α call) (funext ?_)
  intro answer
  cases answer with
  | ok value => rfl
  | error error => rfl

theorem plain_of_reads {call : Call} (isRead : Backend.reads call = true) :
    Call.plain call = true ∧ Call.atPublisher call = false ∧
      Call.session? call = none := by
  cases call with
  | store call =>
      cases call <;> first | exact ⟨rfl, rfl, rfl⟩ | cases isRead
  | _ => cases isRead

theorem supersedes_of_reads {call : Call}
    (isRead : Backend.reads call = true) : Call.supersedes call = false := by
  cases call with
  | store call => rfl
  | _ => cases isRead

namespace Outer

theorem of_reads {α : Type} (outer : Outer holds) {program : Backend α}
    (reads : program.Calls fun call => Backend.reads call = true) :
    holds α program := by
  induction program with
  | done value => exact outer.done value
  | fail error => exact outer.fail error
  | await call resume ih =>
      obtain ⟨plain, aside, outside⟩ := plain_of_reads reads.1
      rw [await_eq_bind]
      apply outer.bind
      · apply outer.attempt
        exact outer.call call plain aside outside (supersedes_of_reads reads.1)
      intro answer
      exact ih answer (reads.2 answer)

theorem onlyIf (outer : Outer holds) {condition : Bool}
    {body : Backend Unit} (first : holds Unit body) :
    holds Unit (Program.onlyIf condition body) := by
  cases condition with
  | false => exact outer.done ()
  | true => exact first

theorem tryCatch {α : Type} (outer : Outer holds) {body : Backend α}
    {handler : Err → Backend α} (first : holds α body)
    (second : ∀ error, holds α (handler error)) :
    holds α (body.tryCatch handler) := by
  apply outer.bind (outer.attempt first)
  intro outcome
  cases outcome with
  | ok value => exact outer.done value
  | error error => exact second error

/-! ## The routes -/

theorem issue (outer : Outer holds) {deps : TraefikProvidersRouteDeps} :
    holds Unit (TraefikProviders.issue deps accountId providerId now) := by
  apply outer.bind (outer.call _ rfl rfl rfl rfl)
  intro drawn
  apply outer.bind (outer.call _ rfl rfl rfl rfl)
  intro tokenId
  apply outer.bind (outer.append _ _ _ rfl rfl)
  exact fun _ => outer.done _

theorem post (outer : Outer holds) {deps : TraefikProvidersRouteDeps}
    {name connectionMode : Option String} :
    holds Nat (TraefikProviders.post deps accountId name connectionMode
      now) := by
  unfold TraefikProviders.post
  split
  · exact outer.done _
  split
  · exact outer.done _
  split
  · exact outer.done _
  apply outer.bind (outer.of_reads (ProviderStore.listActive_reads _))
  intro existing
  split
  · exact outer.done _
  apply outer.bind (outer.call _ rfl rfl rfl rfl)
  intro drawn
  apply outer.bind (outer.append _ _ _ rfl rfl)
  intro _
  apply outer.bind outer.issue
  exact fun _ => outer.done _

theorem renameTo (outer : Outer holds) {deps : TraefikProvidersRouteDeps}
    {loaded : LoadedProvider} {name : String} :
    holds Nat (TraefikProviders.renameTo deps accountId providerId loaded name
      now) := by
  apply outer.bind (outer.of_reads (ProviderStore.listActive_reads _))
  intro providers
  dsimp only
  split
  · exact outer.done _
  apply outer.bind
  · apply outer.onlyIf
    apply outer.bind (outer.append _ _ _ rfl rfl)
    exact fun _ => outer.done _
  intro _
  apply outer.bind
  · apply outer.bind (outer.of_reads (ProviderStore.load_reads _ _))
    intro _
    apply outer.bind (outer.of_reads (listDeliveryActions_reads _))
    exact fun _ => outer.done _
  · exact fun _ => outer.done _

theorem patch (outer : Outer holds) {deps : TraefikProvidersRouteDeps}
    {name connectionMode : Option String} :
    holds Nat (TraefikProviders.patch deps accountId providerId name
      connectionMode now) := by
  apply outer.bind (outer.of_reads (ProviderStore.loadActive_reads _ _))
  intro loaded
  split
  · exact outer.done _
  split
  · exact outer.done _
  split
  · exact outer.done _
  · exact outer.renameTo

theorem delete (outer : Outer holds) :
    holds Nat (TraefikProviders.delete accountId providerId now) := by
  apply outer.bind (outer.of_reads (ProviderStore.loadActive_reads _ _))
  intro loaded
  split
  · exact outer.done _
  apply outer.bind (outer.of_reads (listDeliveryActions_reads _))
  intro actions
  split
  · exact outer.done _
  apply outer.bind (outer.append _ _ _ rfl rfl)
  intro _
  apply outer.bind (outer.call _ rfl rfl rfl rfl)
  exact fun _ => outer.done _

theorem postToken (outer : Outer holds)
    {deps : TraefikProvidersRouteDeps} :
    holds Nat (TraefikProviders.postToken deps accountId providerId now) := by
  apply outer.bind (outer.of_reads (ProviderStore.loadActive_reads _ _))
  intro loaded
  split
  · exact outer.done _
  split
  · exact outer.done _
  apply outer.bind outer.issue
  exact fun _ => outer.done _

theorem deleteToken (outer : Outer holds) {tokenId : Id} :
    holds Nat
      (TraefikProviders.deleteToken accountId providerId tokenId now) := by
  apply outer.bind (outer.of_reads (ProviderStore.loadActive_reads _ _))
  intro loaded
  split
  · exact outer.done _
  apply outer.bind
  · apply outer.onlyIf
    apply outer.bind (outer.append _ _ _ rfl rfl)
    exact fun _ => outer.done _
  intro _
  apply outer.bind (outer.call _ rfl rfl rfl rfl)
  exact fun _ => outer.done _

/-! ## Snapshots -/

theorem coordinatorRun (outer : Outer holds) {deps : GrpcAgentServerDeps}
    {causationIds : List Id}
    (push : ∀ payload, holds Unit (Backend.memory
      (.push providerId (.snapshot payload)))) :
    holds Unit (SnapshotCoordinator.run deps accountId providerId causationIds
      now) := by
  apply outer.tryCatch
  · apply outer.bind (outer.publish ..)
    intro result
    split
    · exact outer.done _
    · exact outer.onlyIf (push _)
  · exact fun _ => outer.done _

theorem resync (outer : Outer holds) {deps : GrpcAgentServerDeps}
    (push : ∀ payload, holds Unit (Backend.memory
      (.push providerId (.snapshot payload)))) :
    holds Unit
      (SnapshotCoordinator.resync deps accountId providerId now) := by
  apply outer.tryCatch
  · apply outer.bind (outer.publish ..)
    intro result
    split
    · exact outer.done _
    · exact push _
  · exact fun _ => outer.done _

/-! ## Streams and sessions -/

variable {auth : AgentAuth} {sessionId : Id}

theorem reject (outer : Outer holds) {deps : GrpcAgentServerDeps}
    {source : String} :
    holds Authentication (GrpcAgentServer.reject deps source) := by
  apply outer.bind
  · apply outer.onlyIf
    apply outer.bind (outer.call _ rfl rfl rfl rfl)
    intro count
    exact outer.onlyIf (outer.call (.redis (.expire _ _)) rfl rfl rfl rfl)
  · exact fun _ => outer.done _

theorem verify (outer : Outer holds) {deps : GrpcAgentServerDeps}
    {call : SessionCall} :
    holds Authentication (GrpcAgentServer.verify deps call) := by
  unfold GrpcAgentServer.verify
  dsimp only
  split
  · exact outer.reject
  split
  · exact outer.reject
  apply outer.bind (outer.call _ rfl rfl rfl rfl)
  intro account
  split
  · exact outer.reject
  apply outer.bind (outer.of_reads (ProviderStore.loadActive_reads _ _))
  intro loaded
  split
  · exact outer.reject
  · exact outer.done _

theorem onSession (outer : Outer holds) {deps : GrpcAgentServerDeps}
    {call : SessionCall} :
    holds Unit (GrpcAgentServer.onSession deps call now) := by
  apply outer.bind
  · unfold GrpcAgentServer.authenticate
    split
    · apply outer.bind
      · apply outer.bind (outer.call _ rfl rfl rfl rfl)
        exact fun _ => outer.done _
      intro blocked
      split
      · exact outer.done _
      · exact outer.verify
    · exact outer.verify
  intro authentication
  cases authentication with
  | throttled => exact outer.done _
  | rejected => exact outer.done _
  | authenticated auth =>
      exact outer.call (.memory (.openSession _ _ _ _)) rfl rfl rfl rfl

theorem onReport (outer : Outer holds) {report : ReportMessage} :
    holds Unit (AgentSessionHandler.onReport auth report now) := by
  unfold AgentSessionHandler.onReport AgentSessionHandler.reportEvent
  cases report.result with
  | ignoredStale => exact outer.done _
  | ok =>
      apply outer.bind (outer.append _ _ _ rfl rfl)
      exact fun _ => outer.done _
  | error =>
      apply outer.bind (outer.append _ _ _ rfl rfl)
      exact fun _ => outer.done _

theorem sendCurrentSnapshot (outer : Outer holds)
    {deps : GrpcAgentServerDeps}
    (send : ∀ payload, holds Unit (Backend.memory
      (.sendAgent sessionId (.snapshot payload)))) :
    holds Unit
      (AgentSessionHandler.sendCurrentSnapshot deps auth sessionId now) := by
  apply outer.bind
  · apply outer.bind (outer.publish ..)
    exact fun _ => outer.done _
  intro snapshot
  split
  · exact outer.done _
  · exact send _

/-! ## Commands -/

theorem command (outer : Outer holds) {deps : ProviderServiceDeps}
    {command : ProviderCommand}
    (completes : Completes holds deps now command) :
    holds (Option Nat) (command.program deps now) := by
  cases command <;> simp only [ProviderCommand.program]
  case post => exact outer.bind outer.post fun _ => outer.done _
  case patch => exact outer.bind outer.patch fun _ => outer.done _
  case delete => exact outer.bind outer.delete fun _ => outer.done _
  case postToken => exact outer.bind outer.postToken fun _ => outer.done _
  case deleteToken => exact outer.bind outer.deleteToken fun _ => outer.done _
  case stream => exact outer.bind outer.onSession fun _ => outer.done _
  case message =>
    exact outer.bind (completes.handle _ _ _ rfl) fun _ => outer.done _
  case heartbeat =>
    exact outer.bind (outer.call (.memory (.heartbeat _ _)) rfl rfl rfl rfl)
      fun _ => outer.done _
  case transportEnd =>
    exact outer.bind (outer.call (.memory (.finish _)) rfl rfl rfl rfl)
      fun _ => outer.done _
  case closed =>
    exact outer.bind (completes.closed _ _ rfl) fun _ => outer.done _
  case coordinatorRun =>
    exact outer.bind (completes.run _ _ _ rfl) fun _ => outer.done _
  case resync =>
    exact outer.bind (completes.resync _ _ rfl) fun _ => outer.done _

end Outer

namespace Within

variable {auth : AgentAuth} {sessionId : Id}

/-- A turn on the message chain of a session. -/
theorem chain {α : Type} (within : Within sessionId holds)
    {fn : Backend α} (first : holds α fn) :
    holds α (KeyedMutex.run (.chain sessionId) fn) := by
  apply within.bind (within.session _ rfl rfl rfl)
  intro ticket
  apply within.bind (within.session _ rfl rfl rfl)
  intro _
  apply within.bind (within.attempt first)
  intro outcome
  apply within.bind (within.session _ rfl rfl rfl)
  intro _
  cases outcome with
  | ok value => exact within.done value
  | error error => exact within.fail error

theorem afterClosed (within : Within sessionId holds) :
    holds Unit (AgentSessionHandler.afterClosed auth sessionId now) := by
  apply within.bind (within.session _ rfl rfl rfl)
  intro effective
  apply within.bind (within.chain (within.done _))
  intro _
  apply within.bind (within.session _ rfl rfl rfl)
  intro claimed
  apply within.onlyIf
  apply within.bind (within.of_reads (ProviderStore.load_reads _ _))
  intro stillThere
  split
  · exact within.done _
  · apply within.tryCatch
    · apply within.bind (within.presence _ _ _ rfl)
      exact fun _ => within.done _
    · exact fun _ => within.done _

/-- The snapshot a session sends itself is the one piece the composition does
not cover. -/
theorem afterProcess (within : Within sessionId holds)
    {deps : GrpcAgentServerDeps} {processing : Agents.Processing}
    (snapshot : holds Unit
      (AgentSessionHandler.sendCurrentSnapshot deps auth sessionId now)) :
    holds Unit (AgentSessionHandler.afterProcess deps auth sessionId now
      processing) := by
  cases processing with
  | finished => exact within.done _
  | connected data =>
      apply within.bind (within.presence _ _ _ rfl)
      intro _
      apply within.bind (within.session _ rfl rfl rfl)
      intro _
      apply within.bind (within.of_reads (ProviderStore.loadActive_reads _ _))
      intro loaded
      apply within.bind (within.session _ rfl rfl rfl)
      intro _
      apply within.bind snapshot
      exact fun _ => within.session (.memory (.startHeartbeat _ _)) rfl rfl rfl
  | reported report => exact within.onReport
  | syncRequested => exact snapshot

theorem process (within : Within sessionId holds) {deps : GrpcAgentServerDeps}
    {message : AgentMessage}
    (snapshot : holds Unit
      (AgentSessionHandler.sendCurrentSnapshot deps auth sessionId now)) :
    holds Unit
      (AgentSessionHandler.process deps auth sessionId message now) := by
  apply within.bind (within.session (.memory (.process _ _ _)) rfl rfl rfl)
  exact fun processing => within.afterProcess snapshot

theorem handle (within : Within sessionId holds) {deps : GrpcAgentServerDeps}
    {message : AgentMessage}
    (process : holds Unit
      (AgentSessionHandler.process deps auth sessionId message now)) :
    holds Unit
      (AgentSessionHandler.handle deps auth sessionId message now) := by
  apply within.chain
  apply within.tryCatch process
  exact fun _ => within.session (.memory (.terminate _ _)) rfl rfl rfl

end Within

namespace Closed

theorem outer (closed : Closed holds) : Outer holds where
  done := closed.done
  fail := closed.fail
  bind := closed.bind
  attempt := closed.attempt
  call awaited plain aside _ _ := closed.call awaited plain aside
  append accountId providerId event other _ :=
    closed.append accountId providerId event other
  publish := closed.publish

theorem within (closed : Closed holds) (sessionId : Id) :
    Within sessionId holds where
  toOuter := closed.outer
  session awaited plain ofSession _ := by
    apply closed.call awaited plain
    cases awaited with
    | memory call =>
        cases call with
        | join key => cases key <;> first | rfl | cases ofSession
        | turn key ticket => cases key <;> first | rfl | cases ofSession
        | leave key ticket => cases key <;> first | rfl | cases ofSession
        | _ => rfl
    | _ => cases ofSession
  presence accountId providerId event isPresence := by
    apply closed.append
    cases event <;> first | rfl | cases isPresence

theorem tryCatch {α : Type} (closed : Closed holds) {body : Backend α}
    {handler : Err → Backend α} (first : holds α body)
    (second : ∀ error, holds α (handler error)) :
    holds α (body.tryCatch handler) :=
  closed.outer.tryCatch first second

/-! ## Every command -/

theorem delivers (closed : Closed holds) {deps : ProviderServiceDeps}
    {command : ProviderCommand}
    (send : ∀ sessionId payload, holds Unit (Backend.memory
      (.sendAgent sessionId (.snapshot payload))))
    (push : ∀ providerId payload, holds Unit (Backend.memory
      (.push providerId (.snapshot payload)))) :
    Delivers holds deps now command where
  process _ sessionId _ _ :=
    (closed.within sessionId).process
      (closed.outer.sendCurrentSnapshot (send sessionId))
  run _ _ _ _ := closed.outer.coordinatorRun (push _)
  resync _ _ _ := closed.outer.resync (push _)

theorem command (closed : Closed holds) {deps : ProviderServiceDeps}
    {command : ProviderCommand}
    (delivers : Delivers holds deps now command) :
    holds (Option Nat) (command.program deps now) :=
  closed.outer.command
    { handle := fun auth sessionId received same =>
        (closed.within sessionId).handle
          (delivers.process auth sessionId received same)
      closed := fun _ sessionId _ => (closed.within sessionId).afterClosed
      run := delivers.run
      resync := delivers.resync }

end Closed

namespace Composed

theorem of_reads {α : Type} (composed : Composed holds) {program : Backend α}
    (reads : program.Calls fun call => Backend.reads call = true) :
    holds α program := by
  induction program with
  | done value => exact composed.done value
  | fail error => exact composed.fail error
  | await call resume ih =>
      rw [await_eq_bind]
      apply composed.bind
      · exact composed.attempt
          (composed.call call (plain_of_reads reads.1).1)
      intro answer
      exact ih answer (reads.2 answer)

theorem mutex {α : Type} (composed : Composed holds) {key : MutexKey}
    {fn : Backend α} (first : holds α fn) :
    holds α (KeyedMutex.run key fn) := by
  apply composed.bind (composed.call _ rfl)
  intro ticket
  apply composed.bind (composed.call _ rfl)
  intro _
  apply composed.bind (composed.attempt first)
  intro outcome
  apply composed.bind (composed.call _ rfl)
  intro _
  cases outcome with
  | ok value => exact composed.done value
  | error error => exact composed.fail error

theorem publish (composed : Composed holds) (deps : SnapshotPublisherDeps)
    (accountId providerId : Id) (causationId : Option Id)
    (absorbedCausationIds : List Id) (now : Timestamp) :
    holds (Option PublishResult) (SnapshotPublisher.publish deps accountId
      providerId causationId absorbedCausationIds now) := by
  apply composed.mutex
  apply composed.bind
    (composed.of_reads (ProviderStore.loadActive_reads _ _))
  intro loaded
  split
  · exact composed.done _
  apply composed.bind (composed.of_reads (buildSnapshotContent_reads _ _ _ _))
  intro content
  split
  · exact composed.done _
  apply composed.bind
  · cases causationId with
    | none => exact composed.call (.clock .randomUUID) rfl
    | some causationId => exact composed.done _
  intro correlationId
  unfold SnapshotPublisher.publishNew
  split
  · apply composed.bind (composed.append _ _ _)
    exact fun _ => composed.done _
  · apply composed.bind (composed.append _ _ _)
    exact fun _ => composed.done _

theorem closed (composed : Composed holds) : Closed holds where
  done := composed.done
  fail := composed.fail
  bind := composed.bind
  attempt := composed.attempt
  call awaited plain _ := composed.call awaited plain
  append accountId providerId event _ :=
    composed.append accountId providerId event
  publish := composed.publish

end Composed

end FluxIP
