import FluxIP.Domain.DeliveryActions
import FluxIP.Domain.ProviderStore
import FluxIP.Domain.Text

/-!
# The routes of the Traefik providers

The routes that write.  A route returns its HTTP status; `now` is what it
reads from the clock.
-/

namespace FluxIP

open Async

structure GeneratedAgentToken where
  hash : String
  last4 : String
  deriving DecidableEq, Repr

/-- `agentToken` is the token made of a drawing of random bytes, `toLowerCase`
JavaScript's. -/
structure TraefikProvidersRouteDeps where
  agentPublicUrl : Option String
  toLowerCase : String → String
  agentToken : Id → GeneratedAgentToken

def NAME_MAX : Nat := 100

namespace TraefikProviders

def AUTH_REVOKED_MESSAGE : String :=
  "invalid or revoked token for this agent address"

/-- The name of a connection mode in a request body. -/
def connectionModeName : ConnectionMode → String
  | .agentInitiated => "agent_initiated"
  | .serverInitiated => "server_initiated"

/-- A body's `name`: not a string is no name. -/
def requestedName (name : Option String) : String :=
  trim (name.getD "")

def badName (name : String) : Bool :=
  name = "" ∨ NAME_MAX < codeUnits name

def nameInUse (deps : TraefikProvidersRouteDeps)
    (existing : List LoadedProvider) (name : String) : Bool :=
  existing.any fun provider =>
    deps.toLowerCase (trim provider.state.name) = deps.toLowerCase name

/-- Issue one token: draw it, and append `token_issued`. -/
def issue (deps : TraefikProvidersRouteDeps) (accountId providerId : Id)
    (now : Timestamp) : Backend Unit := do
  let drawn ← Backend.randomUUID
  let token := deps.agentToken drawn
  let tokenId ← Backend.ulid
  let _ ← ProviderStore.append accountId providerId
    (.tokenIssued ⟨tokenId, token.hash, token.last4, now⟩)
  pure ()

/-- `POST /` with a valid body. -/
def create (deps : TraefikProvidersRouteDeps) (accountId : Id)
    (name : String) (now : Timestamp) : Backend Nat := do
  let existing ← ProviderStore.listActive accountId
  if nameInUse deps existing name then pure 409
  else
    let providerId ← Backend.ulid
    let _ ← ProviderStore.append accountId providerId
      (.created ⟨providerId, accountId, name, .agentInitiated, now⟩)
    issue deps accountId providerId now
    pure 201

/-- `POST /` -/
def post (deps : TraefikProvidersRouteDeps) (accountId : Id)
    (name connectionMode : Option String) (now : Timestamp) :
    Backend Nat :=
  if badName (requestedName name) then pure 400
  else if connectionMode.getD (connectionModeName .agentInitiated) ≠
      connectionModeName .agentInitiated then pure 422
  else if (truthy deps.agentPublicUrl).isNone then pure 422
  else create deps accountId (requestedName name) now

/-- What `PATCH` reads for the view it answers with. -/
def readView (accountId providerId : Id) : Backend Unit := do
  let _ ← ProviderStore.load accountId providerId
  let _ ← listDeliveryActions accountId
  pure ()

def rename (accountId providerId : Id) (name : String) (now : Timestamp) :
    Backend Unit := do
  let _ ← ProviderStore.append accountId providerId (.renamed name now)
  pure ()

/-- `PATCH /:id` with a valid body. -/
def renameTo (deps : TraefikProvidersRouteDeps) (accountId providerId : Id)
    (loaded : LoadedProvider) (name : String) (now : Timestamp) :
    Backend Nat := do
  let providers ← ProviderStore.listActive accountId
  let others := providers.filter (·.state.providerId ≠ some providerId)
  if nameInUse deps others name then pure 409
  else
    Program.onlyIf (name ≠ loaded.state.name)
      (rename accountId providerId name now)
    readView accountId providerId
    pure 200

/-- `PATCH /:id` -/
def patch (deps : TraefikProvidersRouteDeps) (accountId providerId : Id)
    (name connectionMode : Option String) (now : Timestamp) :
    Backend Nat := do
  let loaded ← ProviderStore.loadActive accountId providerId
  match loaded with
  | none => pure 404
  | some loaded =>
      if connectionMode.any
          (· ≠ connectionModeName loaded.state.connectionMode) then pure 422
      else if badName (requestedName name) then pure 400
      else
        renameTo deps accountId providerId loaded (requestedName name) now

/-- `DELETE /:id` -/
def delete (accountId providerId : Id) (now : Timestamp) : Backend Nat := do
  let loaded ← ProviderStore.loadActive accountId providerId
  match loaded with
  | none => pure 404
  | some _ =>
      let actions ← listDeliveryActions accountId
      if actions.any (·.traefikProviderId = providerId) then pure 409
      else
        let _ ← ProviderStore.append accountId providerId (.deleted now)
        Backend.memory (.terminateByProvider providerId
          ⟨.unauthenticated, "this agent address was deleted", .revoked⟩)
        pure 204

/-- `POST /:id/tokens` -/
def postToken (deps : TraefikProvidersRouteDeps) (accountId providerId : Id)
    (now : Timestamp) : Backend Nat := do
  let loaded ← ProviderStore.loadActive accountId providerId
  match loaded with
  | none => pure 404
  | some loaded =>
      if MAX_ACTIVE_TOKENS ≤ (activeTokens loaded.state).length then pure 409
      else
        issue deps accountId providerId now
        pure 201

def findToken (state : TraefikProviderState) (tokenId : Id) :
    Option ProviderTokenState :=
  state.tokens.find? (·.tokenId = tokenId)

def revoke (accountId providerId tokenId : Id) (now : Timestamp) :
    Backend Unit := do
  let _ ← ProviderStore.append accountId providerId
    (.tokenRevoked ⟨tokenId, now⟩)
  pure ()

/-- `DELETE /:id/tokens/:tokenId` -/
def deleteToken (accountId providerId tokenId : Id) (now : Timestamp) :
    Backend Nat := do
  let loaded ← ProviderStore.loadActive accountId providerId
  match loaded.bind (findToken ·.state tokenId) with
  | none => pure 404
  | some token =>
      Program.onlyIf token.revokedAt.isNone
        (revoke accountId providerId tokenId now)
      Backend.memory (.terminateByToken providerId tokenId
        ⟨.unauthenticated, AUTH_REVOKED_MESSAGE, .revoked⟩)
      pure 204

end TraefikProviders

end FluxIP
