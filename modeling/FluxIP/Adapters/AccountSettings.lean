import FluxIP.Domain.Accounts
import FluxIP.Domain.Text

/-!
# The routes of an account's credentials and notification channel

The routes that write.  A route returns its HTTP status; `now` is what it
reads from the clock.
-/

namespace FluxIP

open Async

/-! ## Provider credentials -/

namespace ProviderCredentials

structure StoreBody where
  provider : Option String := none
  label : Option String := none
  secret : Option String := none
  deriving DecidableEq, Repr

/-- `toLowerCase` is JavaScript's, `maskLast4` the tail of a secret that is
shown. -/
structure ProviderCredentialsRouteDeps where
  toLowerCase : String → String
  maskLast4 : String → String

/-- The loop of `listActiveCredentials`. -/
def listActiveOf (accountId : Id) :
    List Id → Backend (List ProviderCredentialState)
  | [] => pure []
  | id :: ids => do
      let loaded ← loadProviderCredential accountId id
      let rest ← listActiveOf accountId ids
      pure (if loaded.state.status = .active then loaded.state :: rest
        else rest)

def listActiveCredentials (accountId : Id) :
    Backend (List ProviderCredentialState) := do
  let ids ← Backend.listAggregateIds accountId .providerCredential
  listActiveOf accountId ids

def labelInUse (deps : ProviderCredentialsRouteDeps)
    (existing : List ProviderCredentialState) (label : String) : Bool :=
  existing.any fun state =>
    deps.toLowerCase (trim state.label) = deps.toLowerCase (trim label)

def appendInput (accountId credentialId : Id) (version : Nat)
    (event : ProviderCredentialEvent) : AppendEventInput where
  aggregateType := .providerCredential
  aggregateId := credentialId
  accountId := accountId
  expectedSequenceNumber := version + 1
  data := .providerCredential event

/-- `POST /` with all three fields. -/
def storeValid (deps : ProviderCredentialsRouteDeps) (accountId : Id)
    (provider label secret : String) (now : Timestamp) : Backend Nat := do
  let existing ← listActiveCredentials accountId
  if labelInUse deps existing label then pure 409
  else
    let credentialId ← Backend.ulid
    let _ ← Backend.append (appendInput accountId credentialId 0
      (.stored credentialId accountId provider label secret
        (deps.maskLast4 secret) now))
    pure 201

/-- `POST /` -/
def store (deps : ProviderCredentialsRouteDeps) (accountId : Id)
    (body : StoreBody) (now : Timestamp) : Backend Nat :=
  match truthy body.provider, truthy body.label, truthy body.secret with
  | some provider, some label, some secret =>
      storeValid deps accountId provider label secret now
  | _, _, _ => pure 400

/-- An action that is not detached uses the credential. -/
def uses (state : ActionState) (credentialId : Id) : Bool :=
  state.status ≠ .detached ∧
    state.config.bind ActionConfig.providerCredentialId = some credentialId ∧
    state.actionId.isSome ∧ state.ipClientId.isSome

/-- The loop that collects the actions using a credential: is there one? -/
def usedByOf (accountId credentialId : Id) : List Id → Backend Bool
  | [] => pure false
  | actionId :: actionIds => do
      let loaded ← loadAction accountId actionId
      let rest ← usedByOf accountId credentialId actionIds
      pure (uses loaded.state credentialId || rest)

/-- The credential can be revoked by this account. -/
def revocable (accountId : Id) (state : ProviderCredentialState) : Bool :=
  state.credentialId.isSome ∧ state.accountId = some accountId ∧
    state.status = .active

/-- `DELETE /:id` -/
def revoke (accountId credentialId : Id) (now : Timestamp) : Backend Nat := do
  let loaded ← loadProviderCredential accountId credentialId
  if revocable accountId loaded.state then
    let actionIds ← Backend.listAggregateIds accountId .action
    let used ← usedByOf accountId credentialId actionIds
    if used then pure 409
    else
      let _ ← Backend.append
        (appendInput accountId credentialId loaded.version (.revoked now))
      pure 204
  else pure 404

end ProviderCredentials

/-! ## The notification channel -/

namespace NotificationChannel

def EMAIL_NOTIFICATION_CHANNEL_TYPE : String := "email"

/-- A non-empty array of strings that contain an at sign. -/
def isValidAddresses (addresses : List String) : Bool :=
  addresses ≠ [] ∧ addresses.all fun address => '@' ∈ address.toList

/-- An account's channel is named by the account. -/
def load (accountId : Id) :
    Backend (LoadAggregateResult NotificationChannelState) :=
  loadAggregate ⟨accountId, .notificationChannel, accountId⟩
    initialNotificationChannelState notificationChannelReducer

def appendInput (accountId : Id) (version : Nat)
    (event : NotificationChannelEvent) : AppendEventInput where
  aggregateType := .notificationChannel
  aggregateId := accountId
  accountId := accountId
  expectedSequenceNumber := version + 1
  data := .notificationChannel event

def isRegistered (state : NotificationChannelState) : Bool :=
  state.channelId.isSome ∧ state.status = .active

/-- `POST /`; addresses that are no array of strings are none. -/
def post (accountId : Id) (type : Option String) (addresses : List String)
    (now : Timestamp) : Backend Nat :=
  if type ≠ some EMAIL_NOTIFICATION_CHANNEL_TYPE then pure 400
  else if isValidAddresses addresses then do
    let loaded ← load accountId
    if isRegistered loaded.state then pure 409
    else
      let _ ← Backend.append (appendInput accountId loaded.version
        (.registered accountId accountId EMAIL_NOTIFICATION_CHANNEL_TYPE
          addresses now))
      pure 201
  else pure 400

/-- `PUT /` -/
def put (accountId : Id) (addresses : List String) (now : Timestamp) :
    Backend Nat :=
  if isValidAddresses addresses then do
    let loaded ← load accountId
    if isRegistered loaded.state then
      let _ ← Backend.append (appendInput accountId loaded.version
        (.reconfigured addresses now))
      pure 200
    else pure 404
  else pure 400

/-- `DELETE /` -/
def delete (accountId : Id) (now : Timestamp) : Backend Nat := do
  let loaded ← load accountId
  if isRegistered loaded.state then
    let _ ← Backend.append
      (appendInput accountId loaded.version (.revoked now))
    pure 200
  else pure 404

end NotificationChannel

end FluxIP
