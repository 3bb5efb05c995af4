import FluxIP.Adapters.BackendService
import FluxIP.Adapters.ProviderPrograms
import FluxIP.Async.Traces

/-!
# What the commands decide on

Every append of the backend names the position after what its program has
read of the stream: the commands of an account, its clients and its actions
use the version they loaded when they began, the others one they load right
before the append.  These are properties of the programs alone, for any
answers their calls might get.
-/

namespace FluxIP

open Async

/-! ## What a program has read -/

/-- What the call answered, if it read this stream. -/
def readAnswer (params : ReadStreamParams) :
    Answered backend Err → Option (List StoredEvent)
  | ⟨.store (.readStream asked), .ok events⟩ =>
      if asked = params then some events else none
  | _ => none

/-- The answers to the reads of one stream, oldest first. -/
def readsOf (params : ReadStreamParams) (history : BackendHistory) :
    List (List StoredEvent) :=
  history.filterMap (readAnswer params)

/-- The stream an append goes to, as its writer reads it. -/
def AppendEventInput.params (input : AppendEventInput) : ReadStreamParams :=
  ⟨input.accountId, input.aggregateType, input.aggregateId⟩

/-- The first read of the stream answered `seen`. -/
def FirstRead (params : ReadStreamParams) (seen : List StoredEvent)
    (history : BackendHistory) : Prop :=
  (readsOf params history).head? = some seen

@[simp] theorem readsOf_append (params : ReadStreamParams)
    (history : BackendHistory) (answered : Answered backend Err) :
    readsOf params (history ++ [answered]) =
      readsOf params history ++ (readAnswer params answered).toList := by
  unfold readsOf
  rw [List.filterMap_append]
  congr 1

theorem firstRead_lasting (params : ReadStreamParams)
    (seen : List StoredEvent) : Lasting (FirstRead params seen) := by
  intro history answered first
  unfold FirstRead at *
  rw [readsOf_append, List.head?_append, first]
  rfl

/-! ## Decisions -/

/-- The state a client's events fold to. -/
def ipClientOf (events : List StoredEvent) : IpClientState :=
  events.foldl ipClientReducer initialIpClientState

/-- The position is at most one past what was seen of the stream. -/
def AppendEventInput.Follows (input : AppendEventInput)
    (seen : List StoredEvent) : Prop :=
  1 ≤ input.expectedSequenceNumber ∧
    input.expectedSequenceNumber ≤ seen.length + 1

/-- The command appends at the version it loaded when it began. -/
def BackendCommand.usesOwnVersion : BackendCommand → Bool
  | .execute _ _ _ => false
  | .provider _ => false
  | _ => true

def BackendCommand.isProvider : BackendCommand → Bool
  | .provider _ => true
  | _ => false

/-- What the position of an append is taken from. -/
def BackendCommand.basis (command : BackendCommand)
    (reads : List (List StoredEvent)) : List StoredEvent :=
  if command.usesOwnVersion then reads.head?.getD []
  else reads.getLast?.getD []

/-- A report is appended by a trigger request for the client whose password
verifies against what was seen, a change by the client's settlement; both see
it enabled. -/
def Guarded (credentials : Credentials) (command : BackendCommand)
    (input : AppendEventInput) (seen : List StoredEvent) : Prop :=
  match input.data with
  | .ipClient (.ipReportReceived _) =>
      ∃ request auth, command = .nicUpdate request ∧
        request.credentials = some auth ∧
        auth.username = input.aggregateId ∧
        Trigger.authorizes credentials (ipClientOf seen) auth.password = true
  | .ipClient (.ipChanged _) =>
      (∃ job, command = .settle job) ∧ (ipClientOf seen).status = .enabled
  | .traefikProvider _ => command.isProvider = true
  | _ => True

/-! ## What a command may append -/

/-- The state an action's events fold to. -/
def actionOf (events : List StoredEvent) : ActionState :=
  events.foldl actionReducer initialActionState

/-- The type of the aggregates whose streams hold such events. -/
def EventData.aggregateType : EventData → AggregateType
  | .account _ => .account
  | .ipClient _ => .ipClient
  | .action _ => .action
  | .actionExecution _ => .actionExecution
  | .providerCredential _ => .providerCredential
  | .notificationChannel _ => .notificationChannel
  | .traefikProvider _ => .traefikProvider

/-- The event goes to a stream of its type. -/
def AppendEventInput.typed (input : AppendEventInput) : Bool :=
  input.aggregateType = input.data.aggregateType

/-- An event of an account, its credentials or its channel. -/
def AppendEventInput.ofAccount (input : AppendEventInput) : Bool :=
  input.typed &&
    match input.data with
    | .account _ => true
    | .providerCredential _ => true
    | .notificationChannel _ => true
    | _ => false

/-- An event of an execution or of what it has applied. -/
def AppendEventInput.ofExecution (input : AppendEventInput) : Bool :=
  input.typed &&
    match input.data with
    | .actionExecution _ => true
    | .action (.firewallRuleApplied _) => true
    | _ => false

def AppendEventInput.ofProvider (input : AppendEventInput) : Bool :=
  input.typed &&
    match input.data with
    | .traefikProvider _ => true
    | _ => false

/-- The change of status a command makes to a client. -/
def IpClientCommand.change (now : Timestamp) :
    IpClientCommand → Option (Id × IpClientEvent)
  | .enable ipClientId => some (ipClientId, .enabled ipClientId)
  | .disable ipClientId => some (ipClientId, .disabled ipClientId)
  | .decommission ipClientId => some (ipClientId, .decommissioned now)
  | _ => none

/-- The change of status a command makes to an action. -/
def ActionCommand.change (now : Timestamp) :
    ActionCommand → Option (Id × ActionEvent)
  | .enable actionId => some (actionId, .enabled actionId)
  | .disable actionId => some (actionId, .disabled actionId)
  | .detach actionId => some (actionId, .detached now)
  | _ => none

/-- What a command may append when it has seen these events of the stream. -/
inductive Appends (credentials : Credentials) (now : Timestamp) :
    BackendCommand → AppendEventInput → List StoredEvent → Prop where
  | account {accountId command input seen}
      (kind : input.ofAccount = true) :
      Appends credentials now (.account accountId command) input seen
  | register {accountId label ipClientId credentialHash seen} :
      Appends credentials now (.ipClient accountId (.register label))
        (IpClients.appendInput accountId ipClientId 0 (.registered ipClientId
          accountId (IpClients.requestedLabel label) credentialHash now)) seen
  | clientStatus {accountId command ipClientId event seen}
      (change : command.change now = some (ipClientId, event))
      (alive : (ipClientOf seen).status ≠ .decommissioned) :
      Appends credentials now (.ipClient accountId command)
        (IpClients.appendInput accountId ipClientId seen.length event) seen
  | rotate {accountId ipClientId credentialHash seen}
      (alive : (ipClientOf seen).status ≠ .decommissioned) :
      Appends credentials now
        (.ipClient accountId (.rotateCredential ipClientId))
        (IpClients.appendInput accountId ipClientId seen.length
          (.credentialRotated credentialHash now)) seen
  | preference {accountId ipClientId chosen seen} :
      Appends credentials now (.ipClient accountId
          (.setNotificationPreference ipClientId (some chosen)))
        (IpClients.appendInput accountId ipClientId seen.length
          (.notificationPreferenceSet chosen)) seen
  | report {request auth accountId seen}
      (presented : request.credentials = some auth)
      (authorized : Trigger.authorizes credentials (ipClientOf seen)
        auth.password = true) :
      Appends credentials now (.nicUpdate request)
        (Trigger.reportInput accountId auth.username seen.length request now)
        seen
  | settle {job change seen}
      (confirmed : (replayed initialIpClientState ipClientReducer
        seen).confirmedChange now = some change) :
      Appends credentials now (.settle job)
        (ipChangedInput job seen.length change) seen
  | attach {accountId ipClientId body data seen} :
      Appends credentials now (.action accountId (.attach ipClientId body))
        (Actions.appendInput accountId data.actionId 0 (.attached data)) seen
  | reconfigure {accountId actionId body data seen} :
      Appends credentials now (.action accountId (.reconfigure actionId body))
        (Actions.appendInput accountId actionId seen.length
          (.reconfigured data)) seen
  | actionStatus {accountId command actionId event seen}
      (change : command.change now = some (actionId, event))
      (alive : (actionOf seen).status ≠ .detached) :
      Appends credentials now (.action accountId command)
        (Actions.appendInput accountId actionId seen.length event) seen
  | execute {data attempts clocks input seen}
      (kind : input.ofExecution = true) :
      Appends credentials now (.execute data attempts clocks) input seen
  | provider {command input seen} (kind : input.ofProvider = true) :
      Appends credentials now (.provider command) input seen

/-- An append goes to the position after its basis and was allowed by it; the
provider commands alone use the mutexes and the sessions. -/
def DecidedBy (guard : AppendEventInput → List StoredEvent → Prop)
    (command : BackendCommand) (history : BackendHistory) (call : Call) :
    Prop :=
  (∀ input, call = .store (.append input) →
    input.Follows (command.basis (readsOf input.params history)) ∧
      guard input (command.basis (readsOf input.params history))) ∧
  (call.onProviders = true → command.isProvider = true)

def Decided (credentials : Credentials) (command : BackendCommand)
    (history : BackendHistory) (call : Call) : Prop :=
  DecidedBy (Guarded credentials command) command history call

/-- The call neither appends nor uses a mutex or a session. -/
def Call.standsAside (call : Call) : Bool :=
  match call with
  | .store (.append _) => false
  | call => !call.onProviders

variable {guard : AppendEventInput → List StoredEvent → Prop}
variable {credentials : Credentials} {command : BackendCommand}
variable {history : BackendHistory} {α β : Type}

theorem DecidedBy.mono {weaker : AppendEventInput → List StoredEvent → Prop}
    {call : Call} (decided : DecidedBy guard command history call)
    (implies : ∀ input seen, guard input seen → weaker input seen) :
    DecidedBy weaker command history call := by
  refine ⟨?_, decided.2⟩
  intro input same
  obtain ⟨follows, guarded⟩ := decided.1 input same
  exact ⟨follows, implies _ _ guarded⟩

theorem decided_of_standsAside {call : Call}
    (quiet : Call.standsAside call = true) :
    DecidedBy guard command history call := by
  constructor
  · intro input same
    rw [same] at quiet
    cases quiet
  · intro turns
    cases call with
    | memory call =>
        cases call with
        | terminateByAccount accountId reason => cases turns
        | _ => cases quiet
    | _ => cases turns

/-- An append that goes where it belongs. -/
theorem decided_append {input : AppendEventInput}
    (follows : input.Follows (command.basis (readsOf input.params history)))
    (guarded : guard input
      (command.basis (readsOf input.params history))) :
    DecidedBy guard command history (.store (.append input)) := by
  constructor
  · intro other same
    cases same
    exact ⟨follows, guarded⟩
  · intro turns
    cases turns

theorem standsAside_of_read {call : Call} (isRead : Backend.reads call = true) :
    Call.standsAside call = true := by
  cases call with
  | store call => cases call <;> first | rfl | cases isRead
  | _ => cases isRead

theorem standsAside_of_reads {program : Backend α}
    (reads : program.Calls fun call => Backend.reads call = true) :
    program.Calls fun call => Call.standsAside call = true :=
  reads.mono fun _ => standsAside_of_read

theorem call_traces {allowed : BackendHistory → Call → Prop}
    (awaited : Call) (isAllowed : allowed history awaited) :
    @Program.Traces backend Err awaited.Answer allowed anyEnd
      (Backend.call awaited) history :=
  @Program.Traces.perform backend Err allowed history awaited anyEnd
    isAllowed fun _ => trivial

/-- A program that appends nothing decides nothing. -/
theorem quiet_decides {program : Backend α}
    (quiet : program.Calls fun call => Call.standsAside call = true) :
    program.AlwaysTraces (DecidedBy guard command) :=
  Program.AlwaysTraces.of_calls quiet
    fun _ _ standsAside => decided_of_standsAside standsAside

/-! ## Commands that use their own version -/

/-- The program decides well once it has seen the stream so. -/
def DecidesOn (guard : AppendEventInput → List StoredEvent → Prop)
    (command : BackendCommand)
    (params : ReadStreamParams) (seen : List StoredEvent)
    (program : Backend α) : Prop :=
  ∀ history, FirstRead params seen history →
    program.Traces (DecidedBy guard command) anyEnd history

namespace DecidesOn

variable {params : ReadStreamParams} {seen : List StoredEvent}

theorem quiet {program : Backend α}
    (calls : program.Calls fun call => Call.standsAside call = true) :
    DecidesOn guard command params seen program :=
  fun history _ => quiet_decides calls history

theorem done (value : α) :
    DecidesOn guard command params seen (.done value : Backend α) :=
  quiet trivial

/-- Calls that append nothing may come between the load and the append. -/
theorem after {program : Backend α} {next : α → Backend β}
    (calls : program.Calls fun call => Call.standsAside call = true)
    (rest : ∀ value, DecidesOn guard command params seen (next value)) :
    DecidesOn guard command params seen (program.bind next) := by
  intro history first
  have kept : program.Traces (DecidedBy guard command)
      (fun history _ => FirstRead params seen history) history :=
    Program.Traces.of_calls _ calls (firstRead_lasting params seen)
      (fun _ _ _ quiet => decided_of_standsAside quiet) first
  exact kept.bind (fun history value first => rest value history first)
    fun _ _ _ => trivial

theorem append {input : AppendEventInput}
    {next : StoredEvent → Backend β}
    (own : command.usesOwnVersion = true)
    (toStream : input.params = params)
    (expected : input.expectedSequenceNumber = seen.length + 1)
    (guarded : guard input seen)
    (calls : ∀ event, (next event).Calls
      fun call => Call.standsAside call = true) :
    DecidesOn guard command params seen
      ((Backend.append input).bind next) := by
  intro history first
  have basis : command.basis (readsOf input.params history) = seen := by
    unfold FirstRead at first
    simp [BackendCommand.basis, own, toStream, first]
  have here : (Backend.append input).Traces (DecidedBy guard command)
      anyEnd history := by
    apply call_traces (.store (.append input))
    apply decided_append
    · rw [basis]
      exact ⟨by omega, by omega⟩
    · rw [basis]
      exact guarded
  exact here.bind (fun history event _ => quiet_decides (calls event) history)
    fun _ _ _ => trivial

end DecidesOn

/-- The load with which a command begins. -/
theorem load_decides {State : Type} {params : ReadStreamParams}
    {initialState : State} {reducer : State → StoredEvent → State}
    {next : LoadAggregateResult State → Backend β}
    (unread : readsOf params history = [])
    (rest : ∀ seen, DecidesOn guard command params seen
      (next (replayed initialState reducer seen))) :
    ((loadAggregate params initialState reducer).bind next).Traces
      (DecidedBy guard command) anyEnd history := by
  refine ⟨decided_of_standsAside rfl, ?_⟩
  intro answer
  cases answer with
  | error error => trivial
  | ok events =>
      apply rest events
      unfold FirstRead
      rw [readsOf_append, unread]
      simp [readAnswer]

/-- The first event of a new stream needs no load. -/
theorem appendFirst_decides {input : AppendEventInput}
    {next : StoredEvent → Backend β}
    (expected : input.expectedSequenceNumber = 1)
    (guarded : ∀ seen, guard input seen)
    (calls : ∀ event, (next event).Calls
      fun call => Call.standsAside call = true) :
    ((Backend.append input).bind next).AlwaysTraces
      (DecidedBy guard command) := by
  apply Program.AlwaysTraces.bind
  · intro history
    apply call_traces (.store (.append input))
    apply decided_append
    · exact ⟨by omega, by omega⟩
    · exact guarded _
  · exact fun event => quiet_decides (calls event)

theorem standsAside_of_quiet {program : Backend α}
    (calls : program.Calls fun call => Backend.quiet call = true) :
    program.Calls fun call => Call.standsAside call = true := by
  apply calls.mono
  intro call isQuiet
  cases call with
  | store call => cases call <;> first | rfl | cases isQuiet
  | memory call => cases isQuiet
  | _ => rfl

/-- What is made of the value at the end changes nothing. -/
theorem ended_traces {program : Backend α} {value : α → β}
    (traces : program.Traces (DecidedBy guard command) anyEnd history) :
    (program.bind fun result => (.done (value result) : Backend β)).Traces
      (DecidedBy guard command) anyEnd history :=
  traces.bind (fun _ _ _ => trivial) fun _ _ _ => trivial

/-! ## The commands of a client -/

section IpClients

variable {deps : IpClientsRouteDeps} {accountId ipClientId : Id}
variable {now : Timestamp}

theorem loadOwnedIpClient_decides
    {next : Option (LoadAggregateResult IpClientState) → Backend β}
    (absent : ∀ seen, DecidesOn guard command
      ⟨accountId, .ipClient, ipClientId⟩ seen (next none))
    (owned : ∀ seen, DecidesOn guard command
      ⟨accountId, .ipClient, ipClientId⟩ seen
      (next (some (replayed initialIpClientState ipClientReducer seen)))) :
    ((IpClients.loadOwnedIpClient accountId ipClientId).bind next).Traces
      (DecidedBy guard command) anyEnd [] := by
  unfold IpClients.loadOwnedIpClient loadIpClient
  simp only [Program.monadBind_eq_bind, Program.bind_assoc,
    Program.pure_eq_done, Program.done_bind]
  apply load_decides rfl
  intro seen
  split
  · exact owned seen
  · exact absent seen

theorem register_decides (label : Option String)
    (guarded : ∀ ipClientId credentialHash seen, guard
      (IpClients.appendInput accountId ipClientId 0 (.registered ipClientId
        accountId (IpClients.requestedLabel label) credentialHash now))
      seen) :
    (IpClients.register deps accountId label now).Traces
      (DecidedBy guard command) anyEnd [] := by
  have account : (AccountService.getState accountId).Calls
      fun call => Backend.reads call = true := by
    apply Program.Calls.bind (loadAggregate_reads _ _ _)
    exact fun _ => trivial
  refine Program.AlwaysTraces.bind
    (quiet_decides (standsAside_of_reads account)) ?_ []
  intro account
  apply Program.AlwaysTraces.bind
  · exact quiet_decides (standsAside_of_reads
      (IpClients.countActiveIpClients_reads _))
  intro activeCount
  split
  · exact .done _
  apply Program.AlwaysTraces.bind
  · exact quiet_decides ((Backend.calls_call _).mpr rfl)
  intro ipClientId
  apply Program.AlwaysTraces.bind
  · exact quiet_decides ((Backend.calls_call _).mpr rfl)
  intro drawn
  apply appendFirst_decides
  · rfl
  · exact guarded _ _
  intro _
  apply Program.Calls.bind
  · exact standsAside_of_quiet (IpClients.refreshProjection_quiet _ _)
  · exact fun _ => trivial

theorem changeStatus_decides {event : IpClientEvent} {atEnd : Nat}
    (own : command.usesOwnVersion = true)
    (guarded : ∀ seen, (ipClientOf seen).status ≠ .decommissioned → guard
      (IpClients.appendInput accountId ipClientId seen.length event) seen) :
    (IpClients.changeStatus deps accountId ipClientId event atEnd).Traces
      (DecidedBy guard command) anyEnd [] := by
  apply loadOwnedIpClient_decides
  · exact fun _ => .done _
  intro seen
  dsimp only
  split
  · exact .done _
  rename_i alive
  apply DecidesOn.append own
  · rfl
  · rfl
  · exact guarded seen alive
  intro _
  apply Program.Calls.bind
  · exact standsAside_of_quiet (IpClients.refreshProjection_quiet _ _)
  intro _
  apply Program.Calls.bind
  · exact standsAside_of_quiet
      (IpClients.scheduleDeviceProviders_quiet _ _ _)
  · exact fun _ => trivial

theorem rotateCredential_decides (own : command.usesOwnVersion = true)
    (guarded : ∀ credentialHash seen,
      (ipClientOf seen).status ≠ .decommissioned → guard
        (IpClients.appendInput accountId ipClientId seen.length
          (.credentialRotated credentialHash now)) seen) :
    (IpClients.rotateCredential deps accountId ipClientId now).Traces
      (DecidedBy guard command) anyEnd [] := by
  apply loadOwnedIpClient_decides
  · exact fun _ => .done _
  intro seen
  dsimp only
  split
  · exact .done _
  rename_i alive
  apply DecidesOn.after
  · exact (Backend.calls_call _).mpr rfl
  intro drawn
  apply DecidesOn.append own
  · rfl
  · rfl
  · exact guarded _ seen alive
  exact fun _ => trivial

theorem setNotificationPreference_decides
    (own : command.usesOwnVersion = true)
    (preference : Option NotificationPreference)
    (guarded : ∀ chosen seen, preference = some chosen → guard
      (IpClients.appendInput accountId ipClientId seen.length
        (.notificationPreferenceSet chosen)) seen) :
    (IpClients.setNotificationPreference accountId ipClientId
      preference).Traces (DecidedBy guard command) anyEnd [] := by
  apply loadOwnedIpClient_decides
  · exact fun _ => .done _
  intro seen
  dsimp only
  split
  · exact .done _
  rename_i chosen
  apply DecidesOn.append own
  · rfl
  · rfl
  · exact guarded chosen seen rfl
  intro _
  apply Program.Calls.bind
  · exact standsAside_of_quiet (IpClients.refreshProjection_quiet _ _)
  · exact fun _ => trivial

theorem ipClientCommand_decides {deps : BackendDeps}
    (ipClientCommand : IpClientCommand)
    (guarded : ∀ input seen,
      Appends credentials now (.ipClient accountId ipClientCommand) input
        seen → guard input seen) :
    (ipClientCommand.program deps accountId now).Traces
      (DecidedBy guard (.ipClient accountId ipClientCommand)) anyEnd [] := by
  have changes {ipClientId : Id} {event : IpClientEvent} {atEnd : Nat}
      (change : ipClientCommand.change now = some (ipClientId, event)) :
      (IpClients.changeStatus deps.ipClients accountId ipClientId event
        atEnd).Traces
          (DecidedBy guard (.ipClient accountId ipClientCommand)) anyEnd [] :=
    changeStatus_decides rfl fun seen alive =>
      guarded _ _ (.clientStatus change alive)
  cases ipClientCommand with
  | register label =>
      apply ended_traces
      exact register_decides label fun _ _ _ => guarded _ _ .register
  | enable ipClientId => exact ended_traces (changes rfl)
  | disable ipClientId => exact ended_traces (changes rfl)
  | decommission ipClientId => exact ended_traces (changes rfl)
  | rotateCredential ipClientId =>
      apply ended_traces
      exact rotateCredential_decides rfl fun _ _ alive =>
        guarded _ _ (.rotate alive)
  | setNotificationPreference ipClientId preference =>
      apply ended_traces
      apply setNotificationPreference_decides rfl preference
      intro chosen seen same
      subst same
      exact guarded _ _ .preference

end IpClients

/-! ## Reports and their settlement -/

theorem nicUpdate_decides (request : NicUpdate) (now : Timestamp)
    (guarded : ∀ input seen,
      Appends credentials now (.nicUpdate request) input seen →
      guard input seen) :
    (Trigger.nicUpdate credentials request now).Traces
      (DecidedBy guard (.nicUpdate request)) anyEnd [] := by
  cases presented : request.credentials with
  | none => simp only [Trigger.nicUpdate, presented]; trivial
  | some auth =>
      simp only [Trigger.nicUpdate, presented]
      refine ⟨decided_of_standsAside rfl, ?_⟩
      intro answer
      rcases answer with error | account
      · trivial
      cases account with
      | none => trivial
      | some accountId =>
          apply load_decides
          · rfl
          intro seen
          split
          · rename_i authorized
            split
            · exact .done _
            apply DecidesOn.append rfl
            · rfl
            · rfl
            · exact guarded _ seen (.report presented authorized)
            intro _
            apply Program.Calls.bind
            · exact (Backend.calls_call _).mpr rfl
            · exact fun _ => trivial
          · exact .done _

theorem settle_decides (deps : DebounceWorkerDeps) (job : DebounceJobData)
    (guarded : ∀ input seen,
      Appends credentials deps.settledAt (.settle job) input seen →
      guard input seen) :
    (settle deps job).Traces (DecidedBy guard (.settle job)) anyEnd [] := by
  apply load_decides rfl
  intro seen
  split
  · exact .done _
  rename_i change confirmed
  unfold confirmChange
  apply DecidesOn.append rfl
  · rfl
  · rfl
  · exact guarded _ seen (.settle confirmed)
  intro event
  apply Program.Calls.bind
  · exact standsAside_of_quiet (upsertIpClientProjection_calls _ _)
  intro _
  apply Program.Calls.bind
  · exact standsAside_of_quiet
      (Program.Calls.onlyIf (scheduleSnapshots_calls _ _ _))
  intro _
  apply Program.Calls.bind
  · exact (Backend.calls_call _).mpr rfl
  intro actionIds
  apply fanOutToAll_calls
  · exact fun call isRead => standsAside_of_read isRead
  · rfl
  · exact fun _ _ => rfl

/-! ## The commands of an action -/

section Actions

variable {deps : ActionsRouteDeps} {accountId actionId ipClientId : Id}
variable {now : Timestamp}

theorem loadOwnedAction_decides
    {next : Option (LoadAggregateResult ActionState) → Backend β}
    (absent : ∀ seen, DecidesOn guard command
      ⟨accountId, .action, actionId⟩ seen (next none))
    (owned : ∀ seen, DecidesOn guard command
      ⟨accountId, .action, actionId⟩ seen
      (next (some (replayed initialActionState actionReducer seen)))) :
    ((Actions.loadOwnedAction accountId actionId).bind next).Traces
      (DecidedBy guard command) anyEnd [] := by
  unfold Actions.loadOwnedAction loadAction
  simp only [Program.monadBind_eq_bind, Program.bind_assoc,
    Program.pure_eq_done, Program.done_bind]
  apply load_decides rfl
  intro seen
  split
  · exact owned seen
  · exact absent seen

theorem attach_decides (body : AttachBody)
    (guarded : ∀ actionId data seen, ActionAttachedData.actionId data =
      actionId → guard (Actions.appendInput accountId actionId 0
        (.attached data)) seen) :
    (Actions.attach deps accountId ipClientId body now).Traces
      (DecidedBy guard command) anyEnd [] := by
  unfold Actions.attach
  split
  · trivial
  split
  · trivial
  refine Program.AlwaysTraces.bind (quiet_decides
    (standsAside_of_quiet (Actions.validateAttach_quiet _ _ _ _ _))) ?_ []
  intro validation
  split
  · exact .done _
  apply Program.AlwaysTraces.bind
  · exact quiet_decides ((Backend.calls_call _).mpr rfl)
  intro actionId
  apply appendFirst_decides
  · rfl
  · exact fun seen => guarded _ _ seen rfl
  intro _
  apply standsAside_of_quiet
  apply Program.Calls.bind (Actions.refreshProjection_quiet _ _)
  intro _
  apply Program.Calls.bind
  · exact Backend.quiet_of_reads (Actions.currentState_reads _ _)
  intro state
  apply Program.Calls.bind (Actions.scheduleDelivery_quiet _ _ _)
  exact fun _ => trivial

theorem reconfigure_decides (own : command.usesOwnVersion = true)
    (body : ReconfigureBody)
    (guarded : ∀ data seen, guard (Actions.appendInput accountId actionId
      seen.length (.reconfigured data)) seen) :
    (Actions.reconfigure deps accountId actionId body now).Traces
      (DecidedBy guard command) anyEnd [] := by
  apply loadOwnedAction_decides
  · exact fun _ => .done _
  intro seen
  dsimp only
  split
  · exact .done _
  apply DecidesOn.after
  · exact standsAside_of_quiet (Actions.validateReconfigure_quiet _ _ _ _ _)
  intro validation
  split
  · exact .done _
  unfold Actions.reconfigureValid
  apply DecidesOn.append own
  · rfl
  · rfl
  · exact guarded _ seen
  intro _
  apply standsAside_of_quiet
  apply Program.Calls.bind (Actions.refreshProjection_quiet _ _)
  intro _
  apply Program.Calls.bind
  · exact Backend.quiet_of_reads (Actions.currentState_reads _ _)
  intro state
  apply Program.Calls.bind (Actions.scheduleDelivery_quiet _ _ _)
  intro _
  apply Program.Calls.bind (Actions.cleanupDropped_quiet _ _ _)
  exact fun _ => trivial

theorem changeActionStatus_decides {event : ActionEvent} {atEnd : Nat}
    {afterwards : ActionState → Backend Unit}
    (own : command.usesOwnVersion = true)
    (guarded : ∀ seen, (actionOf seen).status ≠ .detached → guard
      (Actions.appendInput accountId actionId seen.length event) seen)
    (calls : ∀ state, (afterwards state).Calls
      fun call => Backend.quiet call = true) :
    (Actions.changeStatus deps accountId actionId event atEnd
      afterwards).Traces (DecidedBy guard command) anyEnd [] := by
  apply loadOwnedAction_decides
  · exact fun _ => .done _
  intro seen
  dsimp only
  split
  · exact .done _
  rename_i alive
  apply DecidesOn.append own
  · rfl
  · rfl
  · exact guarded seen alive
  intro _
  apply standsAside_of_quiet
  apply Program.Calls.bind (Actions.refreshProjection_quiet _ _)
  intro _
  apply Program.Calls.bind (Actions.scheduleDelivery_quiet _ _ _)
  intro _
  apply Program.Calls.bind (calls _)
  exact fun _ => trivial

theorem run_standsAside (accountId actionId : Id) :
    (ActionRun.run accountId actionId).Calls
      fun call => Call.standsAside call = true := by
  apply Program.Calls.bind
  · exact standsAside_of_reads (loadAggregate_reads _ _ _)
  intro loaded
  split
  · trivial
  apply Program.Calls.bind
  · exact standsAside_of_reads (loadAggregate_reads _ _ _)
  intro client
  split
  · trivial
  apply Program.Calls.bind
  · exact (Backend.calls_call _).mpr rfl
  intro executionId
  apply Program.Calls.bind
  · exact (Backend.calls_call _).mpr rfl
  intro causationEventId
  apply Program.Calls.bind
  · exact (Backend.calls_call _).mpr rfl
  · exact fun _ => trivial

theorem actionCommand_decides {deps : BackendDeps}
    (actionCommand : ActionCommand)
    (guarded : ∀ input seen,
      Appends credentials now (.action accountId actionCommand) input seen →
      guard input seen) :
    (actionCommand.program deps accountId now).Traces
      (DecidedBy guard (.action accountId actionCommand)) anyEnd [] := by
  have changes {actionId : Id} {event : ActionEvent} {atEnd : Nat}
      {afterwards : ActionState → Backend Unit}
      (change : actionCommand.change now = some (actionId, event))
      (calls : ∀ state, (afterwards state).Calls
        fun call => Backend.quiet call = true) :
      (Actions.changeStatus deps.actions accountId actionId event atEnd
        afterwards).Traces
          (DecidedBy guard (.action accountId actionCommand)) anyEnd [] :=
    changeActionStatus_decides rfl
      (fun seen alive => guarded _ _ (.actionStatus change alive)) calls
  cases actionCommand with
  | attach ipClientId body =>
      apply ended_traces
      apply attach_decides body
      intro actionId data seen same
      subst same
      exact guarded _ _ .attach
  | reconfigure actionId body =>
      apply ended_traces
      exact reconfigure_decides rfl body fun _ _ => guarded _ _ .reconfigure
  | enable actionId => exact ended_traces (changes rfl fun _ => trivial)
  | disable actionId => exact ended_traces (changes rfl fun _ => trivial)
  | detach actionId =>
      apply ended_traces
      apply changes rfl
      exact fun state => Program.Calls.onlyIf (Actions.cleanup_quiet _ _ _)
  | run actionId =>
      exact ended_traces (quiet_decides (run_standsAside _ _) [])

end Actions

/-! ## The commands of an account -/

section Accounts

variable {deps : BackendDeps} {accountId : Id} {now : Timestamp}

theorem removeEach_standsAside {remove : α → Backend Unit}
    (calls : ∀ job, (remove job).Calls
      fun call => Call.standsAside call = true) (jobs : List α) :
    (AccountClosureService.removeEach remove jobs).Calls
      fun call => Call.standsAside call = true := by
  induction jobs with
  | nil => trivial
  | cons job jobs ih =>
      apply Program.Calls.bind
      · exact (calls job).tryCatch fun _ => trivial
      · exact fun _ => ih

variable (guarded : ∀ input seen, AppendEventInput.ofAccount input = true →
  guard input seen)

include guarded in
theorem closeAccount_decides (own : command.usesOwnVersion = true) :
    (AccountClosureService.closeAccount accountId now).Traces
      (DecidedBy guard command) anyEnd [] := by
  apply load_decides rfl
  intro seen
  apply DecidesOn.append own
  · rfl
  · rfl
  · exact guarded _ seen rfl
  intro _
  apply Program.Calls.bind
  · exact (Backend.calls_call _).mpr rfl
  intro _
  apply Program.Calls.bind
  · apply Program.Calls.bind
    · exact (Backend.calls_call _).mpr rfl
    intro jobs
    apply removeEach_standsAside
    exact fun job =>
      (Backend.calls_call (.queue (.removeSettlement job))).mpr rfl
  intro _
  apply Program.Calls.bind
  · apply Program.Calls.bind
    · exact (Backend.calls_call _).mpr rfl
    intro jobs
    apply removeEach_standsAside
    exact fun job =>
      (Backend.calls_call (.queue (.removeExecution job.jobId))).mpr rfl
  intro _
  apply Program.Calls.bind
  · exact (Backend.calls_call _).mpr rfl
  · exact fun _ => (Backend.calls_call _).mpr rfl

theorem listActiveOf_reads (accountId : Id) (ids : List Id) :
    (ProviderCredentials.listActiveOf accountId ids).Calls
      fun call => Backend.reads call = true := by
  induction ids with
  | nil => trivial
  | cons id ids ih =>
      apply Program.Calls.bind (loadAggregate_reads _ _ _)
      intro loaded
      apply ih.bind
      exact fun _ => trivial

theorem usedByOf_reads (accountId credentialId : Id) (actionIds : List Id) :
    (ProviderCredentials.usedByOf accountId credentialId actionIds).Calls
      fun call => Backend.reads call = true := by
  induction actionIds with
  | nil => trivial
  | cons actionId actionIds ih =>
      apply Program.Calls.bind (loadAggregate_reads _ _ _)
      intro loaded
      apply ih.bind
      exact fun _ => trivial

include guarded in
theorem storeCredential_decides
    (body : ProviderCredentials.StoreBody) :
    (ProviderCredentials.store deps.credentials accountId body now).Traces
      (DecidedBy guard command) anyEnd [] := by
  unfold ProviderCredentials.store
  split
  · refine Program.AlwaysTraces.bind (quiet_decides ?_) ?_ []
    · apply Program.Calls.bind
      · exact (Backend.calls_call _).mpr rfl
      · exact fun ids => standsAside_of_reads (listActiveOf_reads _ ids)
    intro existing
    split
    · exact .done _
    apply Program.AlwaysTraces.bind
    · exact quiet_decides ((Backend.calls_call _).mpr rfl)
    intro credentialId
    apply appendFirst_decides
    · rfl
    · exact fun seen => guarded _ seen rfl
    · exact fun _ => trivial
  · trivial

include guarded in
theorem revokeCredential_decides (own : command.usesOwnVersion = true)
    (credentialId : Id) :
    (ProviderCredentials.revoke accountId credentialId now).Traces
      (DecidedBy guard command) anyEnd [] := by
  apply load_decides rfl
  intro seen
  split
  · apply DecidesOn.after
    · exact (Backend.calls_call _).mpr rfl
    intro actionIds
    apply DecidesOn.after
    · exact standsAside_of_reads (usedByOf_reads _ _ _)
    intro used
    split
    · exact .done _
    apply DecidesOn.append own
    · rfl
    · rfl
    · exact guarded _ seen rfl
    · exact fun _ => trivial
  · exact .done _

include guarded in
theorem channel_decides (own : command.usesOwnVersion = true)
    {event : NotificationChannelEvent} {status : Nat}
    {seen : List StoredEvent} :
    DecidesOn guard command
      ⟨accountId, .notificationChannel, accountId⟩ seen
      ((Backend.append (NotificationChannel.appendInput accountId seen.length
        event)).bind fun _ => (pure status : Backend Nat)) := by
  apply DecidesOn.append own
  · rfl
  · rfl
  · exact guarded _ seen rfl
  · exact fun _ => trivial

include guarded in
theorem accountCommand_decides (own : command.usesOwnVersion = true)
    (accountCommand : AccountCommand) :
    (accountCommand.program deps accountId now).Traces
      (DecidedBy guard command) anyEnd [] := by
  cases accountCommand with
  | provision =>
      apply ended_traces
      apply load_decides rfl
      intro seen
      split
      · exact .done _
      intro history _
      refine appendFirst_decides ?_ ?_ ?_ history
      · rfl
      · exact fun seen => guarded _ seen rfl
      · exact fun _ => trivial
  | overrideDeviceLimit newLimit overriddenBy =>
      apply ended_traces
      apply load_decides rfl
      intro seen
      split
      · exact .done _
      apply DecidesOn.append own
      · rfl
      · rfl
      · exact guarded _ seen rfl
      · exact fun _ => trivial
  | close =>
      exact ended_traces (closeAccount_decides guarded own)
  | storeCredential body =>
      exact ended_traces (storeCredential_decides guarded body)
  | revokeCredential credentialId =>
      exact ended_traces (revokeCredential_decides guarded own credentialId)
  | postChannel type addresses =>
      apply ended_traces
      unfold NotificationChannel.post
      split
      · trivial
      split
      · apply load_decides rfl
        intro seen
        split
        · exact .done _
        · exact channel_decides guarded own
      · trivial
  | putChannel addresses =>
      apply ended_traces
      unfold NotificationChannel.put
      split
      · apply load_decides rfl
        intro seen
        split
        · exact channel_decides guarded own
        · exact .done _
      · trivial
  | deleteChannel =>
      apply ended_traces
      apply load_decides rfl
      intro seen
      split
      · exact channel_decides guarded own
      · exact .done _

end Accounts

/-! ## Commands that load right before each append -/

/-- A load and the append it is for, with nothing between them. -/
theorem loadedAppend_decides {State : Type} {params : ReadStreamParams}
    {initialState : State} {reducer : State → StoredEvent → State}
    {input : LoadAggregateResult State → AppendEventInput}
    (fresh : command.usesOwnVersion = false)
    (toStream : ∀ loaded, (input loaded).params = params)
    (expected : ∀ loaded,
      (input loaded).expectedSequenceNumber = loaded.version + 1)
    (guarded : ∀ loaded seen, guard (input loaded) seen) :
    ((loadAggregate params initialState reducer).bind
      fun loaded => Backend.append (input loaded)).AlwaysTraces
        (DecidedBy guard command) := by
  intro history
  refine ⟨decided_of_standsAside rfl, ?_⟩
  intro answer
  cases answer with
  | error error => trivial
  | ok events =>
      apply call_traces (.store (.append _))
      have basis : command.basis (readsOf
          (input (replayed initialState reducer events)).params
          (history ++ [⟨.store (.readStream params), .ok events⟩])) =
          events := by
        simp [BackendCommand.basis, fresh, toStream, readAnswer]
        rfl
      have position := expected (replayed initialState reducer events)
      apply decided_append
      · rw [basis]
        refine ⟨?_, ?_⟩
        · omega
        · exact position.le
      · exact guarded _ _

section Providers

variable {accountId providerId : Id} {event : TraefikProviderEvent}

theorem fresh_of_isProvider (isProvider : command.isProvider = true) :
    command.usesOwnVersion = false := by
  cases command <;> first | rfl | cases isProvider

/-- A call of a provider command that is no append. -/
theorem providerCall_decides (isProvider : command.isProvider = true)
    (awaited : Call)
    (noAppend : ∀ input, awaited ≠ .store (.append input)) :
    (Backend.call awaited).AlwaysTraces (DecidedBy guard command) := by
  intro history
  apply call_traces awaited
  exact ⟨fun input same => absurd same (noAppend input), fun _ => isProvider⟩

variable (guarded : ∀ input seen, AppendEventInput.ofProvider input = true →
  guard input seen)

include guarded in
theorem providerAppend_decides (isProvider : command.isProvider = true) :
    (ProviderStore.append accountId providerId event).AlwaysTraces
      (DecidedBy guard command) := by
  have once : (ProviderStore.appendOnce accountId providerId
      event).AlwaysTraces (DecidedBy guard command) := by
    apply loadedAppend_decides (fresh_of_isProvider isProvider)
    · exact fun _ => rfl
    · exact fun _ => rfl
    · exact fun _ seen => guarded _ seen rfl
  have memory (awaited : MemoryCall) : (Backend.memory awaited).AlwaysTraces
      (DecidedBy guard command) :=
    providerCall_decides isProvider (.memory awaited) (by rintro input ⟨⟩)
  apply Program.AlwaysTraces.bind (memory _)
  intro ticket
  apply Program.AlwaysTraces.bind (memory _)
  intro _
  apply Program.AlwaysTraces.bind
  · apply Program.AlwaysTraces.attempt
    apply once.tryCatch
    intro error
    cases error with
    | concurrency aggregateType aggregateId expectedSequenceNumber =>
        exact once
    | thrown message => exact .fail _
  intro outcome
  apply Program.AlwaysTraces.bind (memory _)
  intro _
  cases outcome with
  | ok value => exact .done _
  | error error => exact .fail _

include guarded in
theorem decides_composed (isProvider : command.isProvider = true) :
    Composed fun _ program =>
      program.AlwaysTraces (DecidedBy guard command) where
  done := .done
  fail := .fail
  bind := .bind
  attempt := .attempt
  call awaited plain := by
    apply providerCall_decides isProvider
    rintro input rfl
    cases plain
  append _ _ _ := providerAppend_decides guarded isProvider

include guarded in
theorem providerCommand_decidesBy {deps : ProviderServiceDeps}
    {now : Timestamp} (providerCommand : ProviderCommand) :
    (providerCommand.program deps now).AlwaysTraces
      (DecidedBy guard (.provider providerCommand)) := by
  have closed : Closed fun _ program => program.AlwaysTraces
      (DecidedBy guard (.provider providerCommand)) :=
    (decides_composed guarded rfl).closed
  apply closed.command
  apply closed.delivers
  · exact fun _ _ => providerCall_decides rfl (.memory _) (by rintro input ⟨⟩)
  · exact fun _ _ => providerCall_decides rfl (.memory _) (by rintro input ⟨⟩)

end Providers

section Executions

variable {deps : ActionExecutionWorkerDeps} {delivery : Delivery}
variable (guarded : ∀ input seen, AppendEventInput.ofExecution input = true →
  guard input seen)

include guarded in
theorem appendExecutionEvent_decides {accountId executionId : Id}
    {event : ActionExecutionEvent} (fresh : command.usesOwnVersion = false) :
    (appendExecutionEvent accountId executionId event).AlwaysTraces
      (DecidedBy guard command) := by
  have loaded : ((loadExecution accountId executionId).bind fun loaded =>
      Backend.append
        { aggregateType := .actionExecution
          aggregateId := executionId
          accountId
          expectedSequenceNumber := loaded.version + 1
          data := .actionExecution event }).AlwaysTraces
      (DecidedBy guard command) := by
    apply loadedAppend_decides fresh
    · exact fun _ => rfl
    · exact fun _ => rfl
    · exact fun _ seen => guarded _ seen rfl
  have whole : (Program.bind _ fun _ => (.done () : Backend Unit)).AlwaysTraces
      (DecidedBy guard command) :=
    loaded.bind fun _ => .done _
  simpa only [Program.bind_assoc, appendExecutionEvent, nextSequence,
    Program.monadBind_eq_bind, Program.pure_eq_done, Program.done_bind]
    using whole

theorem refreshExecution_decides {accountId executionId : Id} :
    (refreshExecutionProjection accountId executionId).AlwaysTraces
      (DecidedBy guard command) := by
  apply quiet_decides
  apply Program.Calls.bind
  · exact standsAside_of_reads (loadAggregate_reads _ _ _)
  intro loaded
  unfold upsertExecutionProjection
  split
  · trivial
  · exact (Backend.calls_call _).mpr rfl

include guarded in
theorem maybeSendNotification_decides {outcome : ExecutionOutcome}
    (fresh : command.usesOwnVersion = false) :
    (maybeSendNotification deps delivery outcome).AlwaysTraces
      (DecidedBy guard command) := by
  refine Program.AlwaysTraces.tryCatch ?_ fun _ => .done _
  apply Program.AlwaysTraces.bind
  · exact quiet_decides (standsAside_of_reads (loadAggregate_reads _ _ _))
  intro client
  split
  · apply Program.AlwaysTraces.bind
    · exact quiet_decides (standsAside_of_reads (loadAggregate_reads _ _ _))
    intro loaded
    dsimp only
    split
    · exact .done _
    split
    · apply Program.AlwaysTraces.bind
      · exact quiet_decides ((Backend.calls_call _).mpr rfl)
      · exact fun _ => appendExecutionEvent_decides guarded fresh
    · exact .done _
  · exact .done _

include guarded in
theorem appendFirewallRuleApplied_decides {ipValues : IpValuesUsed}
    (fresh : command.usesOwnVersion = false) :
    (appendFirewallRuleApplied delivery ipValues).AlwaysTraces
      (DecidedBy guard command) := by
  have loaded : ((loadAction delivery.data.accountId
      delivery.data.actionId).bind fun loaded => Backend.append
        { aggregateType := .action
          aggregateId := delivery.data.actionId
          accountId := delivery.data.accountId
          expectedSequenceNumber := loaded.version + 1
          data := .action (.firewallRuleApplied
            (firewallRuleAppliedData delivery ipValues)) }).AlwaysTraces
      (DecidedBy guard command) := by
    apply loadedAppend_decides fresh
    · exact fun _ => rfl
    · exact fun _ => rfl
    · exact fun _ seen => guarded _ seen rfl
  have whole : (Program.bind _ fun _ => (.done () : Backend Unit)).AlwaysTraces
      (DecidedBy guard command) :=
    loaded.bind fun _ => .done _
  simpa only [Program.bind_assoc, appendFirewallRuleApplied,
    Program.monadBind_eq_bind, Program.pure_eq_done] using whole

include guarded in
theorem bookkeeping_decides {ipValues : IpValuesUsed}
    (fresh : command.usesOwnVersion = false) :
    (appendFirewallRuleAppliedEventBestEffort delivery ipValues).AlwaysTraces
      (DecidedBy guard command) := by
  have one : (appendFirewallRuleApplied delivery
      ipValues).attempt.AlwaysTraces (DecidedBy guard command) :=
    (appendFirewallRuleApplied_decides guarded fresh).attempt
  apply Program.AlwaysTraces.bind one
  intro first
  split
  · apply Program.AlwaysTraces.bind one
    exact fun _ => .done _
  · exact .done _

theorem resolveApiToken_reads (accountId providerCredentialId : Id) :
    (resolveApiToken accountId providerCredentialId).Calls
      fun call => Backend.reads call = true := by
  apply Program.Calls.bind (loadAggregate_reads _ _ _)
  intro credential
  split <;> trivial

theorem resolveExecutorConfig_reads (accountId : Id) (config : ActionConfig)
    (firewallOwnedEntries : FamilyValues) (type : ActionType) :
    (resolveExecutorConfig deps accountId config firewallOwnedEntries
      type).Calls fun call => Backend.reads call = true := by
  cases type with
  | hetznerCloudDnsUpdate =>
      simp only [resolveExecutorConfig]
      split
      · apply Program.Calls.bind (resolveApiToken_reads _ _)
        exact fun _ => trivial
      · trivial
  | hetznerCloudFirewallRuleUpdate =>
      simp only [resolveExecutorConfig]
      split
      · apply Program.Calls.bind (resolveApiToken_reads _ _)
        exact fun _ => trivial
      · trivial
  | traefikConfigDelivery => trivial

include guarded in
theorem executeAndRecord_decides {type : ActionType} {config : ActionConfig}
    {action : ActionState} {executor : ActionExecutor type}
    (fresh : command.usesOwnVersion = false) :
    (executeAndRecord deps delivery type config action
      executor).AlwaysTraces (DecidedBy guard command) := by
  apply Program.AlwaysTraces.bind
  · exact quiet_decides (standsAside_of_reads
      (resolveExecutorConfig_reads _ _ _ _))
  intro resolvedConfig
  apply Program.AlwaysTraces.bind
  · exact quiet_decides ((Backend.calls_call _).mpr rfl)
  intro _
  apply Program.AlwaysTraces.bind
  · apply quiet_decides
    apply standsAside_of_quiet
    apply (executor.external _ _).mono
    exact fun _ => Call.quiet_of_ofExecutor
  intro result
  apply Program.AlwaysTraces.bind (appendExecutionEvent_decides guarded fresh)
  intro _
  apply Program.AlwaysTraces.bind
  · exact .onlyIf (bookkeeping_decides guarded fresh)
  intro _
  apply Program.AlwaysTraces.bind refreshExecution_decides
  exact fun _ => maybeSendNotification_decides guarded fresh

include guarded in
theorem recordFailure_decides {error : Err}
    (fresh : command.usesOwnVersion = false) :
    (recordFailure deps delivery error).AlwaysTraces
      (DecidedBy guard command) := by
  apply Program.AlwaysTraces.bind (appendExecutionEvent_decides guarded fresh)
  intro _
  apply Program.AlwaysTraces.bind refreshExecution_decides
  intro _
  apply Program.AlwaysTraces.bind
  · exact .onlyIf (maybeSendNotification_decides guarded fresh)
  · exact fun _ => .fail _

include guarded in
theorem processExecution_decides (fresh : command.usesOwnVersion = false) :
    (processExecution deps delivery).AlwaysTraces
      (DecidedBy guard command) := by
  apply Program.AlwaysTraces.bind (appendExecutionEvent_decides guarded fresh)
  intro _
  apply Program.AlwaysTraces.bind
  · exact quiet_decides (standsAside_of_reads (loadAggregate_reads _ _ _))
  intro loaded
  unfold executeAction
  split
  · split
    · apply Program.AlwaysTraces.bind (appendExecutionEvent_decides guarded fresh)
      intro _
      apply Program.AlwaysTraces.bind refreshExecution_decides
      exact fun _ => maybeSendNotification_decides guarded fresh
    split
    · exact .fail _
    · apply Program.AlwaysTraces.tryCatch (executeAndRecord_decides guarded fresh)
      exact fun _ => recordFailure_decides guarded fresh
  · exact .done _

include guarded in
theorem executionJob_decides {data : ActionExecutionJobData} {attempts : Nat}
    {clock : Nat → AttemptClock} (fresh : command.usesOwnVersion = false) :
    (executionJob deps data attempts clock).AlwaysTraces
      (DecidedBy guard command) :=
  .retrying (fun _ => processExecution_decides guarded fresh) 1 attempts

end Executions

/-! ## Every command -/

/-- What a command appends is what it may append on what it has seen. -/
theorem command_appends (deps : BackendDeps) (now : Timestamp)
    (command : BackendCommand) :
    (command.program deps now).Traces (DecidedBy
      (Appends deps.ipClients.credentials now command) command) anyEnd [] := by
  cases command with
  | account accountId command =>
      exact accountCommand_decides (fun _ _ kind => .account kind) rfl command
  | ipClient accountId command =>
      exact ipClientCommand_decides command fun _ _ appends => appends
  | action accountId command =>
      exact actionCommand_decides command fun _ _ appends => appends
  | nicUpdate request =>
      exact ended_traces (nicUpdate_decides request now
        fun _ _ appends => appends)
  | settle job =>
      exact ended_traces (settle_decides _ job fun _ _ appends => appends)
  | execute data attempts clocks =>
      exact ended_traces (executionJob_decides (fun _ _ kind => .execute kind)
        rfl [])
  | provider command =>
      exact providerCommand_decidesBy (fun _ _ kind => .provider kind) command
        []

theorem guarded_of_provider (isProvider : command.isProvider = true)
    (input : AppendEventInput) (seen : List StoredEvent)
    (kind : input.ofProvider = true) :
    Guarded credentials command input seen := by
  unfold Guarded
  split <;> simp_all [AppendEventInput.ofProvider]

theorem Appends.guarded {now : Timestamp} {input : AppendEventInput}
    {seen : List StoredEvent}
    (appends : Appends credentials now command input seen) :
    Guarded credentials command input seen := by
  cases appends with
  | account kind =>
      unfold Guarded
      split <;> simp_all [AppendEventInput.ofAccount]
  | register => trivial
  | @clientStatus accountId command ipClientId event seen change alive =>
      cases command <;> cases change <;> trivial
  | rotate alive => trivial
  | preference => trivial
  | report presented authorized =>
      exact ⟨_, _, rfl, presented, rfl, authorized⟩
  | settle confirmed =>
      refine ⟨⟨_, rfl⟩, ?_⟩
      unfold LoadAggregateResult.confirmedChange at confirmed
      split at confirmed
      · assumption
      · cases confirmed
  | attach => trivial
  | reconfigure => trivial
  | @actionStatus accountId command actionId event seen change alive =>
      cases command <;> cases change <;> trivial
  | execute kind =>
      unfold Guarded
      split <;> simp_all [AppendEventInput.ofExecution]
  | provider kind => exact guarded_of_provider rfl _ _ kind

theorem command_decides (deps : BackendDeps) (now : Timestamp)
    (command : BackendCommand) :
    (command.program deps now).Traces
      (Decided deps.ipClients.credentials command) anyEnd [] := by
  apply (command_appends deps now command).allows
  exact fun _ _ decided =>
    DecidedBy.mono decided fun _ _ appends => appends.guarded

theorem providerCommand_decides {deps : ProviderServiceDeps}
    {now : Timestamp} (providerCommand : ProviderCommand) :
    (providerCommand.program deps now).AlwaysTraces
      (Decided credentials (.provider providerCommand)) :=
  providerCommand_decidesBy (guarded_of_provider rfl) providerCommand

end FluxIP
