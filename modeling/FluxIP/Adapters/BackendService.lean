import FluxIP.Adapters.AccountSettings
import FluxIP.Adapters.ActionExecutionWorker
import FluxIP.Adapters.ActionRun
import FluxIP.Adapters.Actions
import FluxIP.Adapters.IpClients
import FluxIP.Adapters.ProviderService

/-!
# Everything that writes to the event store

The requests, jobs, streams and timers of one process, each a program of its
own, so that a pool of them is the process at every await point.
-/

namespace FluxIP

open Async

structure BackendDeps where
  defaultIpClientLimit : Nat
  ipClients : IpClientsRouteDeps
  actions : ActionsRouteDeps
  credentials : ProviderCredentials.ProviderCredentialsRouteDeps
  worker : ActionExecutionWorkerDeps
  debounceSnapshots : Bool
  providers : ProviderServiceDeps

inductive AccountCommand where
  | provision
  | overrideDeviceLimit (newLimit : Nat) (overriddenBy : String)
  | close
  | storeCredential (body : ProviderCredentials.StoreBody)
  | revokeCredential (credentialId : Id)
  | postChannel (type : Option String) (addresses : List String)
  | putChannel (addresses : List String)
  | deleteChannel
  deriving DecidableEq, Repr

inductive IpClientCommand where
  | register (label : Option String)
  | enable (ipClientId : Id)
  | disable (ipClientId : Id)
  | decommission (ipClientId : Id)
  | rotateCredential (ipClientId : Id)
  | setNotificationPreference (ipClientId : Id)
      (preference : Option NotificationPreference)
  deriving DecidableEq, Repr

inductive ActionCommand where
  | attach (ipClientId : Id) (body : AttachBody)
  | reconfigure (actionId : Id) (body : ReconfigureBody)
  | enable (actionId : Id)
  | disable (actionId : Id)
  | detach (actionId : Id)
  | run (actionId : Id)
  deriving DecidableEq, Repr

/-- `execute` is a job of the action execution queue with what its attempts
read from the clock. -/
inductive BackendCommand where
  | account (accountId : Id) (command : AccountCommand)
  | ipClient (accountId : Id) (command : IpClientCommand)
  | action (accountId : Id) (command : ActionCommand)
  | nicUpdate (request : NicUpdate)
  | settle (job : DebounceJobData)
  | execute (data : ActionExecutionJobData) (attempts : Nat)
      (clocks : List AttemptClock)
  | provider (command : ProviderCommand)
  deriving DecidableEq, Repr

/-- A command as it arrives: `number` tells equal ones apart, `now` is what it
reads from the clock. -/
structure BackendRequest where
  number : Nat
  now : Timestamp := 0
  command : BackendCommand
  deriving DecidableEq, Repr

def AccountCommand.program (deps : BackendDeps) (accountId : Id)
    (now : Timestamp) : AccountCommand → Backend (Option Nat)
  | .provision => unanswered (AccountService.ensureProvisioned
      deps.defaultIpClientLimit accountId now)
  | .overrideDeviceLimit newLimit overriddenBy =>
      (AccountService.overrideDeviceLimit accountId newLimit overriddenBy
        now).bind fun found => pure (some (if found then 200 else 404))
  | .close => (AccountClosureService.closeAccount accountId now).bind
      fun _ => pure (some 200)
  | .storeCredential body => answered
      (ProviderCredentials.store deps.credentials accountId body now)
  | .revokeCredential credentialId => answered
      (ProviderCredentials.revoke accountId credentialId now)
  | .postChannel type addresses => answered
      (NotificationChannel.post accountId type addresses now)
  | .putChannel addresses => answered
      (NotificationChannel.put accountId addresses now)
  | .deleteChannel => answered (NotificationChannel.delete accountId now)

def IpClientCommand.program (deps : BackendDeps) (accountId : Id)
    (now : Timestamp) : IpClientCommand → Backend (Option Nat)
  | .register label => answered
      (IpClients.register deps.ipClients accountId label now)
  | .enable ipClientId => answered
      (IpClients.enable deps.ipClients accountId ipClientId)
  | .disable ipClientId => answered
      (IpClients.disable deps.ipClients accountId ipClientId)
  | .decommission ipClientId => answered
      (IpClients.decommission deps.ipClients accountId ipClientId now)
  | .rotateCredential ipClientId => answered
      (IpClients.rotateCredential deps.ipClients accountId ipClientId now)
  | .setNotificationPreference ipClientId preference => answered
      (IpClients.setNotificationPreference accountId ipClientId preference)

def ActionCommand.program (deps : BackendDeps) (accountId : Id)
    (now : Timestamp) : ActionCommand → Backend (Option Nat)
  | .attach ipClientId body => answered
      (Actions.attach deps.actions accountId ipClientId body now)
  | .reconfigure actionId body => answered
      (Actions.reconfigure deps.actions accountId actionId body now)
  | .enable actionId => answered
      (Actions.enable deps.actions accountId actionId)
  | .disable actionId => answered
      (Actions.disable deps.actions accountId actionId)
  | .detach actionId => answered
      (Actions.detach deps.actions accountId actionId now)
  | .run actionId => answered (ActionRun.run accountId actionId)

/-- The program of a command; a route returns its status. -/
def BackendCommand.program (deps : BackendDeps) (now : Timestamp) :
    BackendCommand → Backend (Option Nat)
  | .account accountId command => command.program deps accountId now
  | .ipClient accountId command => command.program deps accountId now
  | .action accountId command => command.program deps accountId now
  | .nicUpdate request => answered
      (Trigger.nicUpdate deps.ipClients.credentials request now)
  | .settle job => unanswered (FluxIP.settle ⟨deps.debounceSnapshots, now⟩ job)
  | .execute data attempts clocks => unanswered
      (executionJob deps.worker data attempts
        fun attempt => clocks.getD (attempt - 1) {})
  | .provider command => command.program deps.providers now

/-- A job runs after it was added to its queue. -/
def BackendCommand.possible (world : World) : BackendCommand → Bool
  | .settle job => job ∈ world.queues.settlements
  | .execute data _ _ => world.queues.executions.any (·.data = data)
  | .provider command => command.possible world.agents
  | _ => true

def backendService (deps : BackendDeps) :
    Service backend Err BackendRequest (Option Nat) Choice World where
  semantics := semantics
  program request := request.command.program deps request.now
  admits world request := request.command.possible world

/-- The process after some schedule. -/
abbrev BackendPool :=
  Pool backend Err BackendRequest (Option Nat) World

/-! ## A small deployment -/

def exampleBackendDeps : BackendDeps where
  defaultIpClientLimit := 5
  ipClients :=
    { credentials :=
        { verifyCredential := fun secret storedHash => secret = storedHash
          generateCredential := fun drawn => toString drawn }
      snapshots := true }
  actions := { providers := true, snapshots := true }
  credentials := { toLowerCase := id, maskLast4 := fun _ => "last" }
  worker :=
    { executors := registeredExecutors
      notificationChannels := fun _ => true
      sourceLabel := "fluxip.example" }
  debounceSnapshots := true
  providers := exampleDeps

/-- A move of the provider service as a move of the whole backend. -/
def ofProvider : Move ProviderRequest Choice → Move BackendRequest Choice
  | .start request => .start ⟨request.number, request.now,
      .provider request.command⟩
  | .advance index choice => .advance index choice

/-- The first request of account 1. -/
def provisionRequest : BackendRequest :=
  ⟨0, 0, .account 1 .provision⟩

end FluxIP
