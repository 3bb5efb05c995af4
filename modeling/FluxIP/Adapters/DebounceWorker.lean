import FluxIP.Domain.DeliveryActions

/-!
# The debounce worker and the execution fan-out
-/

namespace FluxIP

open Async

/-! ## The fan-out -/

structure FanOutParams where
  accountId : Id
  ipClientId : Id
  causationEventId : Id
  triggeredBy : TriggeredBy
  ipValues : IpValuesUsed
  deriving DecidableEq, Repr

/-- The fan-out enqueues an execution of the action. -/
def ActionState.receives (state : ActionState) (ipClientId : Id) : Bool :=
  state.ipClientId = some ipClientId ∧ state.status = .enabled ∧
    state.type ≠ some .traefikConfigDelivery

/-- One pass of the loop of `fanOutActionExecutions`. -/
def fanOutTo (params : FanOutParams) (actionId : Id) : Backend Unit := do
  let loaded ← loadAction params.accountId actionId
  if loaded.state.receives params.ipClientId then
    let executionId ← Backend.ulid
    Backend.addExecution (.exec params.causationEventId actionId)
      { accountId := params.accountId
        executionId
        actionId
        ipClientId := params.ipClientId
        causationEventId := params.causationEventId
        triggeredBy := params.triggeredBy
        ipValues := params.ipValues }
  else pure ()

def fanOutToAll (params : FanOutParams) : List Id → Backend Unit
  | [] => pure ()
  | actionId :: actionIds => do
      fanOutTo params actionId
      fanOutToAll params actionIds

def fanOutActionExecutions (params : FanOutParams) : Backend Unit := do
  let actionIds ← Backend.listAggregateIds params.accountId .action
  fanOutToAll params actionIds

/-! ## The settlement -/

/-- `snapshots` tells whether a snapshot scheduler is configured, `settledAt`
is what the job reads from the clock. -/
structure DebounceWorkerDeps where
  snapshots : Bool
  settledAt : Timestamp
  deriving DecidableEq, Repr

/-- The data of the last report in the stream. -/
def lastReport (events : List StoredEvent) :
    Option IpClientIpReportReceivedData :=
  events.reverse.findSome? fun event =>
    match event.data with
    | .ipClient (.ipReportReceived data) => some data
    | _ => none

/-- The addresses a report settles to, with those known before. -/
def settlementOf (state : IpClientState)
    (report : IpClientIpReportReceivedData) (settledAt : Timestamp) :
    IpClientIpChangedData where
  previousIPv4 := state.lastKnownIPv4
  newIPv4 := report.reportedIPv4 <|> state.lastKnownIPv4
  previousIPv6 := state.lastKnownIPv6
  newIPv6 := report.reportedIPv6 <|> state.lastKnownIPv6
  settledAt := settledAt

def IpClientIpChangedData.changed (data : IpClientIpChangedData) : Bool :=
  data.newIPv4 ≠ data.previousIPv4 ∨ data.newIPv6 ≠ data.previousIPv6

def upsertIpClientProjection (accountId : Id) (state : IpClientState) :
    Backend Unit :=
  match state.toSummary with
  | none => pure ()
  | some summary =>
      if summary.status = .decommissioned then
        Backend.hdel (.ipClients accountId) summary.ipClientId
      else
        Backend.hset (.ipClients accountId) summary.ipClientId
          (.ipClient summary)

/-- Recompute the snapshots of the providers the device delivers to. -/
def scheduleSnapshots (accountId ipClientId causationId : Id) :
    Backend Unit := do
  let providerIds ← providersOfDevice accountId ipClientId
  Program.onlyIf (providerIds ≠ [])
    (Backend.schedule accountId providerIds (some causationId))

/-- What follows the append of `ip_changed`. -/
def publishChange (deps : DebounceWorkerDeps) (job : DebounceJobData)
    (state : IpClientState) (change : IpClientIpChangedData)
    (causationEvent : StoredEvent) : Backend Unit := do
  upsertIpClientProjection job.accountId (ipClientReducer state causationEvent)
  Program.onlyIf deps.snapshots
    (scheduleSnapshots job.accountId job.ipClientId causationEvent.id)
  fanOutActionExecutions
    { accountId := job.accountId
      ipClientId := job.ipClientId
      causationEventId := causationEvent.id
      triggeredBy := .ipChange
      ipValues := ⟨change.newIPv4, change.newIPv6⟩ }

/-- The event a settlement appends. -/
def ipChangedInput (job : DebounceJobData) (version : Nat)
    (change : IpClientIpChangedData) : AppendEventInput where
  aggregateType := .ipClient
  aggregateId := job.ipClientId
  accountId := job.accountId
  expectedSequenceNumber := version + 1
  data := .ipClient (.ipChanged change)

def confirmChange (deps : DebounceWorkerDeps) (job : DebounceJobData)
    (loaded : LoadAggregateResult IpClientState)
    (change : IpClientIpChangedData) : Backend Unit := do
  let causationEvent ← Backend.append
    (ipChangedInput job loaded.version change)
  publishChange deps job loaded.state change causationEvent

/-- The change the settlement of a loaded client confirms, if there is one. -/
def LoadAggregateResult.confirmedChange
    (loaded : LoadAggregateResult IpClientState) (settledAt : Timestamp) :
    Option IpClientIpChangedData :=
  if loaded.state.status = .enabled then
    match lastReport loaded.events with
    | none => none
    | some report =>
        let change := settlementOf loaded.state report settledAt
        if change.changed then some change else none
  else none

/-- The processor of the debounce queue. -/
def settle (deps : DebounceWorkerDeps) (job : DebounceJobData) :
    Backend Unit := do
  let loaded ← loadIpClient job.accountId job.ipClientId
  match loaded.confirmedChange deps.settledAt with
  | none => pure ()
  | some change => confirmChange deps job loaded change

/-! ## The calls they make -/

theorem upsertIpClientProjection_calls (accountId : Id)
    (state : IpClientState) :
    (upsertIpClientProjection accountId state).Calls
      fun call => Backend.quiet call = true := by
  unfold upsertIpClientProjection
  split
  · trivial
  split
  · exact Backend.quiet_call _ rfl
  · exact Backend.quiet_call _ rfl

theorem scheduleSnapshots_calls (accountId ipClientId causationId : Id) :
    (scheduleSnapshots accountId ipClientId causationId).Calls
      fun call => Backend.quiet call = true := by
  apply Program.Calls.bind
  · exact Backend.quiet_of_reads (providersOfDevice_reads _ _)
  · exact fun _ => Program.Calls.onlyIf (Backend.quiet_call _ rfl)

/-- The fan-out reads, draws ids and adds jobs. -/
theorem fanOutToAll_calls {allowed : Call → Prop} (params : FanOutParams)
    (reads : ∀ call, Backend.reads call = true → allowed call)
    (draws : allowed (.clock .randomUUID))
    (adds : ∀ jobId data, allowed (.queue (.addExecution jobId data)))
    (actionIds : List Id) :
    (fanOutToAll params actionIds).Calls allowed := by
  induction actionIds with
  | nil => trivial
  | cons actionId actionIds ih =>
      apply Program.Calls.bind
      · apply Program.Calls.bind
        · exact (loadAggregate_reads _ _ _).mono reads
        intro loaded
        split
        · apply Program.Calls.bind
          · exact (Backend.calls_call _).mpr draws
          · exact fun _ => (Backend.calls_call _).mpr (adds _ _)
        · trivial
      · exact fun _ => ih

end FluxIP
