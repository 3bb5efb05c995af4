import FluxIP.Adapters.Trigger
import FluxIP.Domain.Accounts
import FluxIP.Domain.Text

/-!
# The routes of the IP clients

The routes that write.  A route returns its HTTP status; `now` is what it
reads from the clock.
-/

namespace FluxIP

open Async

/-- `snapshots` tells whether a snapshot scheduler is configured. -/
structure IpClientsRouteDeps where
  credentials : Credentials
  snapshots : Bool

namespace IpClients

/-- The loop of `countActiveIpClients`. -/
def countActiveOf (accountId : Id) : List Id → Backend Nat
  | [] => pure 0
  | id :: ids => do
      let loaded ← loadIpClient accountId id
      let count ← countActiveOf accountId ids
      pure (if loaded.state.status ≠ .decommissioned then count + 1 else count)

def countActiveIpClients (accountId : Id) : Backend Nat := do
  let ids ← Backend.listAggregateIds accountId .ipClient
  countActiveOf accountId ids

def refreshProjection (accountId ipClientId : Id) : Backend Unit := do
  let loaded ← loadIpClient accountId ipClientId
  upsertIpClientProjection accountId loaded.state

def scheduleProviders (accountId ipClientId : Id) : Backend Unit := do
  let providerIds ← providersOfDevice accountId ipClientId
  Program.onlyIf (providerIds ≠ [])
    (Backend.schedule accountId providerIds none)

def scheduleDeviceProviders (deps : IpClientsRouteDeps)
    (accountId ipClientId : Id) : Backend Unit :=
  Program.onlyIf deps.snapshots (scheduleProviders accountId ipClientId)

/-- The client exists and belongs to the account. -/
def owns (accountId : Id) (state : IpClientState) : Bool :=
  state.ipClientId.isSome ∧ state.accountId = some accountId

def loadOwnedIpClient (accountId ipClientId : Id) :
    Backend (Option (LoadAggregateResult IpClientState)) := do
  let loaded ← loadIpClient accountId ipClientId
  pure (if owns accountId loaded.state then some loaded else none)

def appendInput (accountId ipClientId : Id) (version : Nat)
    (event : IpClientEvent) : AppendEventInput where
  aggregateType := .ipClient
  aggregateId := ipClientId
  accountId := accountId
  expectedSequenceNumber := version + 1
  data := .ipClient event

def unnamedDevice : String := "Unnamed device"

/-- `body.label?.trim() || "Unnamed device"` -/
def requestedLabel (label : Option String) : String :=
  (truthy (label.map trim)).getD unnamedDevice

/-- `POST /` -/
def register (deps : IpClientsRouteDeps) (accountId : Id)
    (label : Option String) (now : Timestamp) : Backend Nat := do
  let account ← AccountService.getState accountId
  let activeCount ← countActiveIpClients accountId
  if account.deviceLimit ≤ activeCount then pure 409
  else
    let ipClientId ← Backend.ulid
    let drawn ← Backend.randomUUID
    let _ ← Backend.append (appendInput accountId ipClientId 0
      (.registered ipClientId accountId (requestedLabel label)
        (deps.credentials.generateCredential drawn) now))
    refreshProjection accountId ipClientId
    pure 201

/-- The three routes that change the status of a client: they append `event`
unless the client is decommissioned, and answer `atEnd` then. -/
def changeStatus (deps : IpClientsRouteDeps) (accountId ipClientId : Id)
    (event : IpClientEvent) (atEnd : Nat) : Backend Nat := do
  let owned ← loadOwnedIpClient accountId ipClientId
  match owned with
  | none => pure 404
  | some owned =>
      if owned.state.status = .decommissioned then pure atEnd
      else
        let _ ← Backend.append
          (appendInput accountId ipClientId owned.version event)
        refreshProjection accountId ipClientId
        scheduleDeviceProviders deps accountId ipClientId
        pure 200

/-- `POST /:id/enable` -/
def enable (deps : IpClientsRouteDeps) (accountId ipClientId : Id) :
    Backend Nat :=
  changeStatus deps accountId ipClientId (.enabled ipClientId) 409

/-- `POST /:id/disable` -/
def disable (deps : IpClientsRouteDeps) (accountId ipClientId : Id) :
    Backend Nat :=
  changeStatus deps accountId ipClientId (.disabled ipClientId) 409

/-- `DELETE /:id` -/
def decommission (deps : IpClientsRouteDeps) (accountId ipClientId : Id)
    (now : Timestamp) : Backend Nat :=
  changeStatus deps accountId ipClientId (.decommissioned now) 200

/-- `POST /:id/rotate-credential` -/
def rotateCredential (deps : IpClientsRouteDeps) (accountId ipClientId : Id)
    (now : Timestamp) : Backend Nat := do
  let owned ← loadOwnedIpClient accountId ipClientId
  match owned with
  | none => pure 404
  | some owned =>
      if owned.state.status = .decommissioned then pure 409
      else
        let drawn ← Backend.randomUUID
        let _ ← Backend.append (appendInput accountId ipClientId owned.version
          (.credentialRotated (deps.credentials.generateCredential drawn) now))
        pure 200

/-- `PUT /:id/notification-preference`; a body without a valid preference has
none. -/
def setNotificationPreference (accountId ipClientId : Id)
    (preference : Option NotificationPreference) : Backend Nat := do
  let owned ← loadOwnedIpClient accountId ipClientId
  match owned with
  | none => pure 404
  | some owned =>
      match preference with
      | none => pure 400
      | some preference =>
          let _ ← Backend.append (appendInput accountId ipClientId
            owned.version (.notificationPreferenceSet preference))
          refreshProjection accountId ipClientId
          pure 200

/-! ## The calls they make -/

theorem countActiveOf_reads (accountId : Id) (ids : List Id) :
    (countActiveOf accountId ids).Calls
      fun call => Backend.reads call = true := by
  induction ids with
  | nil => trivial
  | cons id ids ih =>
      apply Program.Calls.bind (loadAggregate_reads _ _ _)
      intro loaded
      apply ih.bind
      exact fun _ => trivial

theorem countActiveIpClients_reads (accountId : Id) :
    (countActiveIpClients accountId).Calls
      fun call => Backend.reads call = true := by
  apply Program.Calls.bind
  · exact (Backend.calls_call _).mpr rfl
  · exact fun ids => countActiveOf_reads accountId ids

theorem refreshProjection_quiet (accountId ipClientId : Id) :
    (refreshProjection accountId ipClientId).Calls
      fun call => Backend.quiet call = true := by
  apply Program.Calls.bind
  · exact Backend.quiet_of_reads (loadAggregate_reads _ _ _)
  · exact fun loaded => upsertIpClientProjection_calls accountId loaded.state

theorem scheduleDeviceProviders_quiet (deps : IpClientsRouteDeps)
    (accountId ipClientId : Id) :
    (scheduleDeviceProviders deps accountId ipClientId).Calls
      fun call => Backend.quiet call = true := by
  apply Program.Calls.onlyIf
  apply Program.Calls.bind
  · exact Backend.quiet_of_reads (providersOfDevice_reads _ _)
  · exact fun _ => Program.Calls.onlyIf (Backend.quiet_call _ rfl)

end IpClients

end FluxIP
