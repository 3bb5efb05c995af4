import FluxIP.Adapters.EventStore
import FluxIP.Ports.Backend
import Mathlib.Logic.Function.Basic

/-!
# The world the backend runs in

The shared state behind every call, and what a call does to it.  A call of an
outside system may fail before it has any effect, or lose its answer after the
effect; time passes before every call.
-/

namespace FluxIP

open Async

/-- A key set with `PX`: the value and the instant it expires. -/
structure Lease where
  token : Id
  expiresAt : Timestamp
  deriving DecidableEq, Repr

/-- A counter of failed attempts and the instant it expires, if it does. -/
structure FailureCounter where
  count : Nat
  expiresAt : Option Timestamp
  deriving DecidableEq, Repr

structure Redis where
  leases : LockKey → Option Lease := fun _ => none
  failures : String → Option FailureCounter := fun _ => none
  hashes : ProjectionKey → ProjectionHash := fun _ => ∅

structure Queues where
  executions : List ExecutionJob := []
  settlements : List DebounceJobData := []
  deriving DecidableEq, Repr

/-- The name of an rrset of a Hetzner zone. -/
structure RecordName where
  zoneName : String
  recordName : String
  type : RecordType
  deriving DecidableEq, Repr

structure Hetzner where
  firewalls : Nat → List HetznerFirewallRule := fun _ => []
  records : RecordName → Option String := fun _ => none

structure SentMessage where
  channelType : String
  message : NotificationMessage
  deriving DecidableEq, Repr

/-- An executor was started for an execution whose stream was `stream`. -/
structure Invocation where
  executionId : Id
  stream : List StoredEvent
  deriving DecidableEq, Repr

structure ScheduledSnapshots where
  accountId : Id
  providerIds : List Id
  causationId : Option Id
  deriving DecidableEq, Repr

/-- The tickets in line at each mutex of the process. -/
structure Mutexes where
  waiting : MutexKey → List Nat := fun _ => []
  nextTicket : Nat := 0

structure World where
  now : Timestamp := 0
  nextUUID : Id := 0
  store : EventStore := {}
  redis : Redis := {}
  queues : Queues := {}
  hetzner : Hetzner := {}
  sent : List SentMessage := []
  invocations : List Invocation := []
  scheduled : List ScheduledSnapshots := []
  mutexes : Mutexes := {}
  agents : Agents := {}

/-- How a call of an outside system ends: `failed` has no effect, `lost` takes
effect but the caller sees an exception. -/
inductive Fate where
  | ok
  | failed (message : String)
  | lost (message : String)
  deriving DecidableEq, Repr

/-- The call has its effect, whatever its caller sees. -/
def Fate.takesEffect : Fate → Bool
  | .failed _ => false
  | _ => true

/-- What the environment decides about one call.  `rows` is the order in which
the database returns rows it may return in any order. -/
structure Choice where
  elapsed : Nat := 0
  fate : Fate := .ok
  rows : List Id := []
  deriving DecidableEq, Repr

/-- The call is answered at once. -/
def Choice.ok : Choice := {}

/-- The call throws before it has any effect. -/
def Choice.fail (message : String) : Choice := { fate := .failed message }

abbrev Effect (α : Type) := World → Except Err α × World

/-- A call of an outside system. -/
def outside {α : Type} (choice : Choice) (effect : Effect α) : Effect α :=
  fun world =>
    match choice.fate with
    | .ok => effect world
    | .failed message => (.error (.thrown message), world)
    | .lost message => (.error (.thrown message), (effect world).2)

def StoreCall.effect (choice : Choice) :
    (call : StoreCall) → Effect call.Answer
  | .append input => fun world =>
      let result := world.store.append input
      (result.1, { world with store := result.2 })
  | .readStream params => fun world =>
      (.ok (world.store.readStream params), world)
  | .listAggregateIds accountId aggregateType => fun world =>
      (.ok (world.store.listAggregateIds accountId aggregateType choice.rows),
        world)
  | .resolveAccountId aggregateType aggregateId => fun world =>
      (.ok (world.store.resolveAccountId aggregateType aggregateId), world)
  | .deleteAccount accountId => fun world =>
      (.ok (), { world with store := world.store.deleteAccount accountId })

/-- The lease that holds a key at an instant: an expired key is gone. -/
def Redis.held (redis : Redis) (key : LockKey) (now : Timestamp) :
    Option Lease :=
  (redis.leases key).filter fun lease => now < lease.expiresAt

/-- The counter of a source at an instant. -/
def Redis.failureCounter (redis : Redis) (source : String) (now : Timestamp) :
    Option FailureCounter :=
  (redis.failures source).filter fun counter =>
    counter.expiresAt.all (now < ·)

def Redis.failureCount (redis : Redis) (source : String) (now : Timestamp) :
    Nat :=
  ((redis.failureCounter source now).map (·.count)).getD 0

def RedisCall.effect : (call : RedisCall) → Effect call.Answer
  | .set key token ttlMs => fun world =>
      match world.redis.held key world.now with
      | some _ => (.ok false, world)
      | none => (.ok true,
          { world with
            redis.leases := Function.update world.redis.leases key
              (some ⟨token, world.now + ttlMs⟩) })
  | .compareAndDelete key token => fun world =>
      if (world.redis.held key world.now).any (·.token = token) then
        (.ok (),
          { world with
            redis.leases := Function.update world.redis.leases key none })
      else (.ok (), world)
  | .getCounter source => fun world =>
      (.ok (world.redis.failureCount source world.now), world)
  | .incr source => fun world =>
      let count : Nat := world.redis.failureCount source world.now + 1
      let expiresAt := (world.redis.failureCounter source world.now).bind
        (·.expiresAt)
      (.ok count,
        { world with
          redis.failures := Function.update world.redis.failures source
            (some ⟨count, expiresAt⟩) })
  | .expire source seconds => fun world =>
      (.ok (),
        { world with
          redis.failures := Function.update world.redis.failures source
            ((world.redis.failureCounter source world.now).map
              ({ · with expiresAt := some (world.now + seconds * 1000) })) })
  | .hset key field row => fun world =>
      (.ok (),
        { world with
          redis.hashes := Function.update world.redis.hashes key
            ((world.redis.hashes key).insert field row) })
  | .hdel key field => fun world =>
      (.ok (),
        { world with
          redis.hashes := Function.update world.redis.hashes key
            ((world.redis.hashes key).erase field) })
  -- a hash whose last field was deleted is gone
  | .exists key => fun world =>
      (.ok (!(world.redis.hashes key).entries.isEmpty), world)
  | .del key => fun world =>
      (.ok (),
        { world with
          redis.hashes := Function.update world.redis.hashes key ∅ })
  | .hgetall key => fun world => (.ok (world.redis.hashes key), world)
  | .purgeProjections accountId => fun world =>
      (.ok (),
        { world with
          redis.hashes := fun key =>
            if key.accountId = accountId then ∅
            else world.redis.hashes key })

/-- A job whose id is already known to the queue is not added again. -/
def Queues.addExecution (queues : Queues) (job : ExecutionJob) : Queues :=
  if queues.executions.any (·.jobId = job.jobId) then queues
  else { queues with executions := queues.executions ++ [job] }

/-- BullMQ's debounce mode: a waiting job of the same client is replaced. -/
def Queues.addSettlement (queues : Queues) (data : DebounceJobData) : Queues :=
  { queues with
    settlements :=
      queues.settlements.filter (·.ipClientId ≠ data.ipClientId) ++ [data] }

def Queues.removeExecution (queues : Queues) (jobId : JobId) : Queues :=
  { queues with
    executions := queues.executions.filter (·.jobId ≠ jobId) }

def Queues.removeSettlement (queues : Queues) (data : DebounceJobData) :
    Queues :=
  { queues with
    settlements := queues.settlements.filter (· ≠ data) }

def QueueCall.effect : (call : QueueCall) → Effect call.Answer
  | .addExecution jobId data => fun world =>
      (.ok (), { world with queues := world.queues.addExecution ⟨jobId, data⟩ })
  | .addSettlement data => fun world =>
      (.ok (), { world with queues := world.queues.addSettlement data })
  | .getExecutions => fun world => (.ok world.queues.executions, world)
  | .getSettlements => fun world => (.ok world.queues.settlements, world)
  | .removeExecution jobId => fun world =>
      (.ok (), { world with queues := world.queues.removeExecution jobId })
  | .removeSettlement data => fun world =>
      (.ok (), { world with queues := world.queues.removeSettlement data })

def HetznerCall.effect : (call : HetznerCall) → Effect call.Answer
  | .getFirewall _ firewallId => fun world =>
      (.ok (world.hetzner.firewalls firewallId), world)
  | .setFirewallRules _ firewallId rules => fun world =>
      (.ok (),
        { world with
          hetzner.firewalls :=
            Function.update world.hetzner.firewalls firewallId rules })
  | .setRecords _ zoneName recordName type value => fun world =>
      -- an rrset that does not exist is not created
      match world.hetzner.records ⟨zoneName, recordName, type⟩ with
      | none =>
          (.error (.thrown "Hetzner Cloud API rejected the rrset update (404)"),
            world)
      | some _ => (.ok (),
          { world with
            hetzner.records := Function.update world.hetzner.records
              ⟨zoneName, recordName, type⟩ (some value) })

def ClockCall.effect : (call : ClockCall) → World →
    Option (Except Err call.Answer × World)
  | .dateNow, world => some (.ok world.now, world)
  | .sleepUntil wakeAt, world =>
      if wakeAt ≤ world.now then some (.ok (), world) else none
  | .randomUUID, world =>
      some (.ok world.nextUUID,
        { world with nextUUID := world.nextUUID + 1 })

def ProcessCall.effect : ProcessCall → World → World
  | .invoke executionId, world =>
      { world with
        invocations := world.invocations ++
          [⟨executionId, world.store.stream .actionExecution executionId⟩] }
  | .schedule accountId providerIds causationId, world =>
      { world with
        scheduled := world.scheduled ++
          [⟨accountId, providerIds, causationId⟩] }

/-- The line at one mutex after a change. -/
def Mutexes.setLine (mutexes : Mutexes) (key : MutexKey) (line : List Nat) :
    Mutexes :=
  { mutexes with waiting := Function.update mutexes.waiting key line }

/-- A step on the agents that answers nothing. -/
def World.onAgents (world : World) (step : Agents → Agents) : World :=
  { world with agents := step world.agents }

def MemoryCall.effect : (call : MemoryCall) → World →
    Option (call.Answer × World)
  | .join key, world =>
      let ticket := world.mutexes.nextTicket
      some (ticket,
        { world with
          mutexes :=
            { world.mutexes.setLine key
                (world.mutexes.waiting key ++ [ticket]) with
              nextTicket := ticket + 1 } })
  | .turn key ticket, world =>
      if (world.mutexes.waiting key).head? = some ticket then
        some ((), world)
      else none
  | .leave key ticket, world =>
      some ((),
        { world with
          mutexes := world.mutexes.setLine key
            ((world.mutexes.waiting key).erase ticket) })
  | .openSession providerId accountId tokenId now, world =>
      some ((),
        { world with
          nextUUID := world.nextUUID + 1
          agents := world.agents.setSession
            { providerId
              accountId
              sessionId := world.nextUUID
              tokenId
              lastReceivedAt := now } })
  | .process sessionId message now, world =>
      let result := world.agents.process sessionId message now
      some (result.1, { world with agents := result.2 })
  | .recordConnected sessionId, world =>
      some ((), world.onAgents
        (·.modify sessionId ({ · with connectedRecorded := true })))
  | .sendAgent sessionId message, world =>
      some ((), world.onAgents (·.send sessionId message))
  | .startHeartbeat sessionId seconds, world =>
      some ((), world.onAgents
        (·.modify sessionId ({ · with heartbeatSeconds := some seconds })))
  | .heartbeat sessionId now, world =>
      some ((), world.onAgents (·.heartbeat sessionId now))
  | .terminate sessionId reason, world =>
      some ((), world.onAgents (·.terminate sessionId reason))
  | .finish sessionId, world =>
      some ((), world.onAgents (·.finish sessionId))
  | .closed sessionId, world =>
      match (world.agents.sessions sessionId).bind (·.effective) with
      | none => none
      | some reason => some (reason, world)
  | .claimDisconnect sessionId, world =>
      let result := world.agents.claimDisconnect sessionId
      some (result.1, { world with agents := result.2 })
  | .push providerId message, world =>
      some ((), world.onAgents (·.push providerId message))
  | .terminateByToken providerId tokenId reason, world =>
      some ((), world.onAgents
        (·.terminateByToken providerId tokenId reason))
  | .terminateByProvider providerId reason, world =>
      some ((), world.onAgents (·.terminateByProvider providerId reason))
  | .terminateByAccount accountId reason, world =>
      some ((), world.onAgents (·.terminateByAccount accountId reason))

def World.elapse (world : World) (elapsed : Nat) : World :=
  { world with now := world.now + elapsed }

/-- What a call does, with the time that passes before it takes effect. -/
def semantics : Semantics backend Err Choice World
  | .store call, choice, world =>
      some (outside choice (call.effect choice) (world.elapse choice.elapsed))
  | .redis call, choice, world =>
      some (outside choice call.effect (world.elapse choice.elapsed))
  | .queue call, choice, world =>
      some (outside choice call.effect (world.elapse choice.elapsed))
  | .hetzner call, choice, world =>
      some (outside choice call.effect (world.elapse choice.elapsed))
  | .send channelType message, choice, world =>
      some (outside choice
        (fun world => (.ok (),
          { world with sent := world.sent ++ [⟨channelType, message⟩] }))
        (world.elapse choice.elapsed))
  | .clock call, choice, world => call.effect (world.elapse choice.elapsed)
  | .process call, choice, world =>
      let next := call.effect (world.elapse choice.elapsed)
      match choice.fate with
      | .ok => some (.ok (), next)
      | .failed message => some (.error (.thrown message),
          world.elapse choice.elapsed)
      | .lost message => some (.error (.thrown message), next)
  | .memory call, choice, world =>
      (call.effect (world.elapse choice.elapsed)).map
        fun result => (.ok result.1, result.2)

end FluxIP
