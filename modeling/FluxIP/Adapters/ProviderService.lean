import FluxIP.Adapters.GrpcAgentServer
import FluxIP.Adapters.TraefikProviders
import FluxIP.Adapters.World
import FluxIP.Async.Pool

/-!
# Everything that happens to a Traefik provider

The requests, streams, messages and timers of one process, each a program of
its own, so that a pool of them is the process at every await point.
-/

namespace FluxIP

open Async

structure ProviderServiceDeps where
  routes : TraefikProvidersRouteDeps
  server : GrpcAgentServerDeps

inductive ProviderCommand where
  | post (accountId : Id) (name connectionMode : Option String)
  | patch (accountId providerId : Id) (name connectionMode : Option String)
  | delete (accountId providerId : Id)
  | postToken (accountId providerId : Id)
  | deleteToken (accountId providerId tokenId : Id)
  | stream (call : SessionCall)
  | message (auth : AgentAuth) (sessionId : Id) (received : AgentMessage)
  | heartbeat (auth : AgentAuth) (sessionId : Id)
  | transportEnd (auth : AgentAuth) (sessionId : Id)
  | closed (auth : AgentAuth) (sessionId : Id)
  | coordinatorRun (accountId providerId : Id) (causationIds : List Id)
  | resync (accountId providerId : Id)
  deriving DecidableEq, Repr

/-- A command as it arrives: `number` tells equal ones apart, `now` is what it
reads from the clock. -/
structure ProviderRequest where
  number : Nat
  now : Timestamp := 0
  command : ProviderCommand
  deriving DecidableEq, Repr

/-- What runs outside the routes answers nobody. -/
def unanswered {α : Type} (program : Backend α) : Backend (Option Nat) :=
  program.bind fun _ => pure none

def answered (program : Backend Nat) : Backend (Option Nat) :=
  program.bind fun status => pure (some status)

/-- The program of a command; a route returns its status. -/
def ProviderCommand.program (deps : ProviderServiceDeps) (now : Timestamp) :
    ProviderCommand → Backend (Option Nat)
  | .post accountId name connectionMode => answered
      (TraefikProviders.post deps.routes accountId name connectionMode now)
  | .patch accountId providerId name connectionMode => answered
      (TraefikProviders.patch deps.routes accountId providerId name
        connectionMode now)
  | .delete accountId providerId => answered
      (TraefikProviders.delete accountId providerId now)
  | .postToken accountId providerId => answered
      (TraefikProviders.postToken deps.routes accountId providerId now)
  | .deleteToken accountId providerId tokenId => answered
      (TraefikProviders.deleteToken accountId providerId tokenId now)
  | .stream call => unanswered
      (GrpcAgentServer.onSession deps.server call now)
  | .message auth sessionId received => unanswered
      (AgentSessionHandler.handle deps.server auth sessionId received now)
  | .heartbeat _ sessionId => unanswered
      (Backend.memory (.heartbeat sessionId now))
  | .transportEnd _ sessionId => unanswered
      (Backend.memory (.finish sessionId))
  | .closed auth sessionId => unanswered
      (AgentSessionHandler.afterClosed auth sessionId now)
  | .coordinatorRun accountId providerId causationIds => unanswered
      (SnapshotCoordinator.run deps.server accountId providerId causationIds
        now)
  | .resync accountId providerId => unanswered
      (SnapshotCoordinator.resync deps.server accountId providerId now)

/-- The session exists and has authenticated so. -/
def Agents.isOpen (agents : Agents) (auth : AgentAuth) (sessionId : Id) :
    Bool :=
  (agents.sessions sessionId).any fun session =>
    session.accountId = auth.accountId ∧
      session.providerId = auth.providerId ∧ session.tokenId = auth.tokenId

/-- What happens on a session happens after it was opened; the resync visits
connected providers. -/
def ProviderCommand.possible (agents : Agents) : ProviderCommand → Bool
  | .message auth sessionId _ => agents.isOpen auth sessionId
  | .heartbeat auth sessionId => agents.isOpen auth sessionId
  | .transportEnd auth sessionId => agents.isOpen auth sessionId
  | .closed auth sessionId => agents.isOpen auth sessionId
  | .resync accountId providerId =>
      (agents.byProvider providerId).any (·.accountId = accountId)
  | _ => true

def providerService (deps : ProviderServiceDeps) :
    Service backend Err ProviderRequest (Option Nat) Choice World where
  semantics := semantics
  program request := request.command.program deps request.now
  admits world request := request.command.possible world.agents

/-- The process after some schedule. -/
abbrev ProviderPool :=
  Pool backend Err ProviderRequest (Option Nat) World

/-! ## A small deployment -/

def exampleDeps : ProviderServiceDeps where
  routes :=
    { agentPublicUrl := some "agents.example"
      toLowerCase := id
      agentToken := fun _ => ⟨"hash", "last"⟩ }
  server :=
    { throttled := true
      hashAgentToken := id
      publisher :=
        { text := ⟨fun _ _ => .eq, fun _ => ""⟩
          contentHash := fun _ => ""
          approxBytes := fun _ => 0
          agentSnapshotMaxBytes := 0 }
      agentHeartbeatSeconds := 30
      serverVersion := "fluxip" }

/-- The first identifier drawn is that of the provider. -/
def createRequest : ProviderRequest :=
  ⟨0, 0, .post 1 (some "home") none⟩

/-- Let the program with this index make so many calls. -/
def advances (index count : Nat) : List (Move ProviderRequest Choice) :=
  List.replicate count (.advance index .ok)

end FluxIP
