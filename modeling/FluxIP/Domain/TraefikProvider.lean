import FluxIP.Domain.Events

/-!
# The Traefik provider aggregate
-/

namespace FluxIP

def MAX_ACTIVE_TOKENS : Nat := 2

structure ProviderTokenState where
  tokenId : Id
  hash : String
  last4 : String
  issuedAt : Timestamp
  revokedAt : Option Timestamp := none
  deriving DecidableEq, Repr

inductive ProviderStatus where
  | active
  | deleted
  deriving DecidableEq, Repr

inductive Presence where
  | connected
  | disconnected
  | never
  deriving DecidableEq, Repr

structure LastPublished where
  version : Nat
  contentHash : String
  correlationId : Id
  publishedAt : Timestamp
  deriving DecidableEq, Repr

structure LastPublishError where
  reason : PublishFailure
  correlationId : Id
  failedAt : Timestamp
  deriving DecidableEq, Repr

structure LastApplied where
  version : Nat
  correlationId : Id
  stale : Bool
  files : List FileChecksum
  templates : List FileChecksum
  traefikCheck : Option TraefikCheckResult
  appliedAt : Timestamp
  deriving DecidableEq, Repr

structure LastApplyError where
  version : Nat
  correlationId : Id
  reason : String
  appliedAt : Timestamp
  deriving DecidableEq, Repr

structure TraefikProviderState where
  providerId : Option Id := none
  accountId : Option Id := none
  name : String := ""
  connectionMode : ConnectionMode := .agentInitiated
  status : ProviderStatus := .active
  tokens : List ProviderTokenState := []
  lastPublished : Option LastPublished := none
  lastPublishError : Option LastPublishError := none
  lastConnectedAt : Option Timestamp := none
  lastDisconnectedAt : Option Timestamp := none
  lastPresence : Presence := .never
  agentVersion : Option String := none
  maxOfflineSeconds : Option Nat := none
  replacedPreviousAt : Option Timestamp := none
  lastApplied : Option LastApplied := none
  lastApplyError : Option LastApplyError := none
  deriving DecidableEq, Repr

def initialTraefikProviderState : TraefikProviderState := {}

def activeTokens (state : TraefikProviderState) : List ProviderTokenState :=
  state.tokens.filter fun token => token.revokedAt.isNone

/-- The effect of `token_revoked` on one token of the state. -/
def ProviderTokenState.revoke (token : ProviderTokenState)
    (data : TraefikProviderTokenRevokedData) : ProviderTokenState :=
  if token.tokenId = data.tokenId ∧ token.revokedAt = none then
    { token with revokedAt := some data.revokedAt }
  else token

def traefikProviderReducer (state : TraefikProviderState)
    (event : StoredEvent) : TraefikProviderState :=
  match event.data with
  | .traefikProvider (.created data) =>
      { state with
        providerId := some data.providerId
        accountId := some data.accountId
        name := data.name
        connectionMode := data.connectionMode
        status := .active }
  | .traefikProvider (.renamed name _) => { state with name }
  | .traefikProvider (.deleted _) => { state with status := .deleted }
  | .traefikProvider (.tokenIssued data) =>
      { state with
        tokens := state.tokens ++
          [{ tokenId := data.tokenId
             hash := data.tokenHash
             last4 := data.last4
             issuedAt := data.issuedAt }] }
  | .traefikProvider (.tokenRevoked data) =>
      { state with tokens := state.tokens.map (·.revoke data) }
  | .traefikProvider (.snapshotPublished data) =>
      { state with
        lastPublished := some
          { version := event.sequenceNumber
            contentHash := data.contentHash
            correlationId := data.correlationId
            publishedAt := data.publishedAt }
        lastPublishError := none }
  | .traefikProvider (.snapshotPublishFailed data) =>
      { state with
        lastPublishError := some
          ⟨data.reason, data.correlationId, data.failedAt⟩ }
  | .traefikProvider (.agentConnected data) =>
      { state with
        lastConnectedAt := some data.connectedAt
        lastPresence := .connected
        agentVersion := some data.agentVersion
        maxOfflineSeconds := some data.maxOfflineSeconds
        replacedPreviousAt :=
          if data.replacedPrevious then some data.connectedAt
          else state.replacedPreviousAt }
  | .traefikProvider (.agentDisconnected data) =>
      -- a superseded session ends after its replacement has connected
      if data.reason = .superseded then
        { state with lastDisconnectedAt := some data.disconnectedAt }
      else
        { state with
          lastDisconnectedAt := some data.disconnectedAt
          lastPresence := .disconnected }
  | .traefikProvider (.snapshotApplied data) =>
      { state with
        agentVersion := truthy (some data.agentVersion) <|> state.agentVersion
        lastApplied := some
          { version := data.version
            correlationId := data.correlationId
            stale := data.stale
            files := data.files
            templates := data.templates
            traefikCheck := data.traefikCheck
            appliedAt := data.appliedAt }
        lastApplyError := none }
  | .traefikProvider (.snapshotApplyFailed data) =>
      { state with
        lastApplyError := some
          ⟨data.version, data.correlationId, data.reason, data.appliedAt⟩ }
  | _ => state

end FluxIP
