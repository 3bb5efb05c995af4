import FluxIP.Async.Program
import FluxIP.Domain.AgentSessions
import FluxIP.Domain.FirewallRuleSelector
import FluxIP.Ports.Err
import FluxIP.Projections.Summaries

/-!
# What the backend awaits

One constructor for every call that leaves a function: PostgreSQL, Redis,
BullMQ, the Hetzner Cloud API, the mail adapter, the clock, the other parts of
the process, and the memory its functions share.  `Backend α` is an async function of the
backend that returns an `α`.
-/

namespace FluxIP

open Async

inductive StoreCall where
  | append (input : AppendEventInput)
  | readStream (params : ReadStreamParams)
  | listAggregateIds (accountId : Id) (aggregateType : AggregateType)
  | resolveAccountId (aggregateType : AggregateType) (aggregateId : Id)
  | deleteAccount (accountId : Id)
  deriving DecidableEq, Repr

def StoreCall.Answer : StoreCall → Type
  | .append _ => StoredEvent
  | .readStream _ => List StoredEvent
  | .listAggregateIds _ _ => List Id
  | .resolveAccountId _ _ => Option Id
  | .deleteAccount _ => Unit

/-- `firewall-lock:<accountId>:<firewallId>` -/
structure LockKey where
  accountId : Id
  firewallId : Nat
  deriving DecidableEq, Repr

/-- `set` is `SET key token PX ttl NX`, `compareAndDelete` the release script;
`getCounter`, `incr` and `expire` act on `agentauth:fail:<source>`, and
`purgeProjections` is the scan for `proj:<accountId>:*` with its deletions. -/
inductive RedisCall where
  | set (key : LockKey) (token : Id) (ttlMs : Nat)
  | compareAndDelete (key : LockKey) (token : Id)
  | getCounter (source : String)
  | incr (source : String)
  | expire (source : String) (seconds : Nat)
  | hset (key : ProjectionKey) (field : Id) (row : ProjectionRow)
  | hdel (key : ProjectionKey) (field : Id)
  | exists (key : ProjectionKey)
  | del (key : ProjectionKey)
  | hgetall (key : ProjectionKey)
  | purgeProjections (accountId : Id)
  deriving DecidableEq, Repr

def RedisCall.Answer : RedisCall → Type
  | .set _ _ _ => Bool
  | .compareAndDelete _ _ => Unit
  | .getCounter _ => Nat
  | .incr _ => Nat
  | .expire _ _ => Unit
  | .hset _ _ _ => Unit
  | .hdel _ _ => Unit
  | .exists _ => Bool
  | .del _ => Unit
  | .hgetall _ => ProjectionHash
  | .purgeProjections _ => Unit

/-- `exec-<causationEventId>-<actionId>` for a job of the fan-out,
`exec-manual-<executionId>` for a job a user asked for. -/
inductive JobId where
  | exec (causationEventId actionId : Id)
  | manual (executionId : Id)
  deriving DecidableEq, Repr

structure ActionExecutionJobData where
  accountId : Id
  executionId : Id
  actionId : Id
  ipClientId : Id
  causationEventId : Id
  triggeredBy : TriggeredBy
  ipValues : IpValuesUsed
  deriving DecidableEq, Repr

structure DebounceJobData where
  ipClientId : Id
  accountId : Id
  deriving DecidableEq, Repr

structure ExecutionJob where
  jobId : JobId
  data : ActionExecutionJobData
  deriving DecidableEq, Repr

/-- `get…` lists the jobs of a queue in every state, `remove…` removes one. -/
inductive QueueCall where
  | addExecution (jobId : JobId) (data : ActionExecutionJobData)
  | addSettlement (data : DebounceJobData)
  | getExecutions
  | getSettlements
  | removeExecution (jobId : JobId)
  | removeSettlement (data : DebounceJobData)
  deriving DecidableEq, Repr

def QueueCall.Answer : QueueCall → Type
  | .getExecutions => List ExecutionJob
  | .getSettlements => List DebounceJobData
  | _ => Unit

inductive RecordType where
  | a
  | aaaa
  deriving DecidableEq, Repr

inductive HetznerCall where
  | getFirewall (apiToken : String) (firewallId : Nat)
  | setFirewallRules (apiToken : String) (firewallId : Nat)
      (rules : List HetznerFirewallRule)
  | setRecords (apiToken zoneName recordName : String) (type : RecordType)
      (value : String)
  deriving DecidableEq, Repr

def HetznerCall.Answer : HetznerCall → Type
  | .getFirewall _ _ => List HetznerFirewallRule
  | .setFirewallRules _ _ _ => Unit
  | .setRecords _ _ _ _ _ => Unit

structure NotificationMessage where
  addresses : List String
  subject : String
  body : String
  deriving DecidableEq, Repr

/-- `randomUUID` stands for every identifier that is drawn so that it was never
drawn before: UUIDs and ULIDs. -/
inductive ClockCall where
  | dateNow
  | sleepUntil (wakeAt : Timestamp)
  | randomUUID
  deriving DecidableEq, Repr

def ClockCall.Answer : ClockCall → Type
  | .dateNow => Timestamp
  | .sleepUntil _ => Unit
  | .randomUUID => Id

/-- Calls of other parts of the process: `invoke` is the start of an executor,
`schedule` a call of the snapshot scheduler. -/
inductive ProcessCall where
  | invoke (executionId : Id)
  | schedule (accountId : Id) (providerIds : List Id)
      (causationId : Option Id)
  deriving DecidableEq, Repr

/-- The keys of the process's mutexes: one per provider in `ProviderStore`, one
per provider in `SnapshotPublisher`, and the message chain of each session. -/
inductive MutexKey where
  | providerStore (providerId : Id)
  | publisher (providerId : Id)
  | chain (sessionId : Id)
  deriving DecidableEq, Repr

/-- Steps on the memory of the process; they never fail.  `turn` waits until
the ticket that `join` has handed out is first in line, `closed` until the
session's `onClosed` has begun; `openSession` draws the session's id. -/
inductive MemoryCall where
  | join (key : MutexKey)
  | turn (key : MutexKey) (ticket : Nat)
  | leave (key : MutexKey) (ticket : Nat)
  | openSession (providerId accountId tokenId : Id) (now : Timestamp)
  | process (sessionId : Id) (message : AgentMessage) (now : Timestamp)
  | recordConnected (sessionId : Id)
  | sendAgent (sessionId : Id) (message : AgentMessage)
  | startHeartbeat (sessionId : Id) (seconds : Nat)
  | heartbeat (sessionId : Id) (now : Timestamp)
  | terminate (sessionId : Id) (reason : CloseReason)
  | finish (sessionId : Id)
  | closed (sessionId : Id)
  | claimDisconnect (sessionId : Id)
  | push (providerId : Id) (message : AgentMessage)
  | terminateByToken (providerId tokenId : Id) (reason : CloseReason)
  | terminateByProvider (providerId : Id) (reason : CloseReason)
  | terminateByAccount (accountId : Id) (reason : CloseReason)
  deriving DecidableEq, Repr

def MemoryCall.Answer : MemoryCall → Type
  | .join _ => Nat
  | .process _ _ _ => Agents.Processing
  | .closed _ => CloseReason
  | .claimDisconnect _ => Bool
  | _ => Unit

inductive Call where
  | store (call : StoreCall)
  | redis (call : RedisCall)
  | queue (call : QueueCall)
  | hetzner (call : HetznerCall)
  | send (channelType : String) (message : NotificationMessage)
  | clock (call : ClockCall)
  | process (call : ProcessCall)
  | memory (call : MemoryCall)
  deriving DecidableEq, Repr

def Call.Answer : Call → Type
  | .store call => call.Answer
  | .redis call => call.Answer
  | .queue call => call.Answer
  | .hetzner call => call.Answer
  | .send _ _ => Unit
  | .clock call => call.Answer
  | .process _ => Unit
  | .memory call => call.Answer

/-- A step on a mutex of the process. -/
def Call.takesTurns : Call → Bool
  | .memory (.join _) => true
  | .memory (.turn _ _) => true
  | .memory (.leave _ _) => true
  | _ => false

/-- A step on the mutexes or the agent sessions of the process, other than the
closing of an account's sessions. -/
def Call.onProviders : Call → Bool
  | .memory (.terminateByAccount _ _) => false
  | .memory _ => true
  | _ => false

abbrev backend : Signature where
  Call := Call
  Answer := Call.Answer

/-- An async function of the backend. -/
abbrev Backend (α : Type) := Program backend Err α

abbrev BackendHistory := History backend Err

namespace Backend

/-- Await one call. -/
def call (call : Call) : Backend call.Answer :=
  @Program.perform backend Err call

def append (input : AppendEventInput) : Backend StoredEvent :=
  call (.store (.append input))

def readStream (params : ReadStreamParams) : Backend (List StoredEvent) :=
  call (.store (.readStream params))

def listAggregateIds (accountId : Id) (aggregateType : AggregateType) :
    Backend (List Id) :=
  call (.store (.listAggregateIds accountId aggregateType))

def resolveAccountId (aggregateType : AggregateType) (aggregateId : Id) :
    Backend (Option Id) :=
  call (.store (.resolveAccountId aggregateType aggregateId))

def setNx (key : LockKey) (token : Id) (ttlMs : Nat) : Backend Bool :=
  call (.redis (.set key token ttlMs))

def compareAndDelete (key : LockKey) (token : Id) : Backend Unit :=
  call (.redis (.compareAndDelete key token))

def getCounter (source : String) : Backend Nat :=
  call (.redis (.getCounter source))

def incr (source : String) : Backend Nat :=
  call (.redis (.incr source))

def expire (source : String) (seconds : Nat) : Backend Unit :=
  call (.redis (.expire source seconds))

def hset (key : ProjectionKey) (field : Id) (row : ProjectionRow) :
    Backend Unit :=
  call (.redis (.hset key field row))

def hdel (key : ProjectionKey) (field : Id) : Backend Unit :=
  call (.redis (.hdel key field))

/-- A hash without fields does not exist. -/
def existsKey (key : ProjectionKey) : Backend Bool :=
  call (.redis (.exists key))

def del (key : ProjectionKey) : Backend Unit :=
  call (.redis (.del key))

def hgetall (key : ProjectionKey) : Backend ProjectionHash :=
  call (.redis (.hgetall key))

def addExecution (jobId : JobId) (data : ActionExecutionJobData) :
    Backend Unit :=
  call (.queue (.addExecution jobId data))

def addSettlement (data : DebounceJobData) : Backend Unit :=
  call (.queue (.addSettlement data))

def getExecutions : Backend (List ExecutionJob) :=
  call (.queue .getExecutions)

def getSettlements : Backend (List DebounceJobData) :=
  call (.queue .getSettlements)

def removeExecution (jobId : JobId) : Backend Unit :=
  call (.queue (.removeExecution jobId))

def removeSettlement (data : DebounceJobData) : Backend Unit :=
  call (.queue (.removeSettlement data))

def purgeProjections (accountId : Id) : Backend Unit :=
  call (.redis (.purgeProjections accountId))

def getFirewall (apiToken : String) (firewallId : Nat) :
    Backend (List HetznerFirewallRule) :=
  call (.hetzner (.getFirewall apiToken firewallId))

def setFirewallRules (apiToken : String) (firewallId : Nat)
    (rules : List HetznerFirewallRule) : Backend Unit :=
  call (.hetzner (.setFirewallRules apiToken firewallId rules))

def setRecords (apiToken zoneName recordName : String) (type : RecordType)
    (value : String) : Backend Unit :=
  call (.hetzner (.setRecords apiToken zoneName recordName type value))

def send (channelType : String) (message : NotificationMessage) :
    Backend Unit :=
  call (.send channelType message)

def dateNow : Backend Timestamp :=
  call (.clock .dateNow)

def sleepUntil (wakeAt : Timestamp) : Backend Unit :=
  call (.clock (.sleepUntil wakeAt))

def randomUUID : Backend Id :=
  call (.clock .randomUUID)

def ulid : Backend Id := randomUUID

def invoke (executionId : Id) : Backend Unit :=
  call (.process (.invoke executionId))

def schedule (accountId : Id) (providerIds : List Id)
    (causationId : Option Id) : Backend Unit :=
  call
    (.process (.schedule accountId providerIds causationId))

def memory (awaited : MemoryCall) : Backend awaited.Answer :=
  call (.memory awaited)

@[simp] theorem calls_call {allowed : Call → Prop} (awaited : Call) :
    @Program.Calls backend Err _ allowed (call awaited) ↔ allowed awaited :=
  @Program.calls_perform backend Err allowed awaited

/-- The call reads the event store. -/
def reads : Call → Bool
  | .store (.readStream _) => true
  | .store (.listAggregateIds _ _) => true
  | .store (.resolveAccountId _ _) => true
  | _ => false

/-- The call changes neither the event store, nor the queues, nor the memory
of the process. -/
def quiet : Call → Bool
  | .store (.append _) => false
  | .store (.deleteAccount _) => false
  | .queue _ => false
  | .process (.invoke _) => false
  | .memory _ => false
  | _ => true

theorem quiet_of_read {call : Call} (isRead : reads call = true) :
    quiet call = true := by
  cases call with
  | store call => cases call <;> first | rfl | cases isRead
  | _ => cases isRead

theorem quiet_of_reads {α : Type} {program : Backend α}
    (calls : program.Calls fun call => reads call = true) :
    program.Calls fun call => quiet call = true :=
  calls.mono fun _ => quiet_of_read

theorem quiet_call (awaited : Call) (isQuiet : quiet awaited = true) :
    @Program.Calls backend Err _ (fun call => quiet call = true)
      (call awaited) :=
  (calls_call awaited).mpr isQuiet

/-- `throw new Error(message)` -/
def throw {α : Type} (message : String) : Backend α :=
  .fail (.thrown message)

end Backend

end FluxIP
