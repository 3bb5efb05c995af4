import FluxIP.Adapters.DebounceWorker

/-!
# The trigger endpoint

`GET /nic/update` of the dyndns2 protocol.  A request carries what the header
parser has made of its `authorization` header, its two query parameters, and
the address it comes from.
-/

namespace FluxIP

open Async

/-- `verifyCredential secret storedHash` is the comparison of the salted
hashes; `generateCredential` is the hash made of a drawing of random bytes. -/
structure Credentials where
  verifyCredential : String → String → Bool
  generateCredential : Id → String

structure BasicAuth where
  username : Id
  password : String
  deriving DecidableEq, Repr

structure NicUpdate where
  credentials : Option BasicAuth
  myip : Option String
  myip6 : Option String
  remoteAddress : Option String
  deriving DecidableEq, Repr

namespace Trigger

/-- `state` may report: the password verifies against its hash and it is
enabled. -/
def authorizes (credentials : Credentials) (state : IpClientState)
    (password : String) : Bool :=
  match truthy state.credentialHash with
  | none => false
  | some credentialHash =>
      credentials.verifyCredential password credentialHash &&
        decide (state.status = .enabled)

/-- `myip`, or the remote address where the request names none. -/
def reportedIPv4 (request : NicUpdate) : Option String :=
  match truthy request.myip with
  | some myip => some myip
  | none => request.remoteAddress

/-- Neither address is there. -/
def reportsNothing (request : NicUpdate) : Bool :=
  (truthy (reportedIPv4 request)).isNone && (truthy request.myip6).isNone

def reportData (request : NicUpdate) (now : Timestamp) :
    IpClientIpReportReceivedData where
  reportedIPv4 := reportedIPv4 request
  reportedIPv6 := request.myip6
  receivedAt := now

def reportInput (accountId ipClientId : Id) (version : Nat)
    (request : NicUpdate) (now : Timestamp) : AppendEventInput where
  aggregateType := .ipClient
  aggregateId := ipClientId
  accountId := accountId
  expectedSequenceNumber := version + 1
  data := .ipClient (.ipReportReceived (reportData request now))

/-- `scheduleDebounce` -/
def scheduleDebounce (accountId ipClientId : Id) : Backend Unit :=
  Backend.addSettlement ⟨ipClientId, accountId⟩

/-- The route once the client's account is known. -/
def report (credentials : Credentials) (accountId : Id) (auth : BasicAuth)
    (request : NicUpdate) (now : Timestamp) : Backend Nat := do
  let loaded ← loadIpClient accountId auth.username
  if authorizes credentials loaded.state auth.password then
    if reportsNothing request then pure 503
    else
      let _ ← Backend.append
        (reportInput accountId auth.username loaded.version request now)
      scheduleDebounce accountId auth.username
      pure 200
  else pure 401

/-- `GET /nic/update` -/
def nicUpdate (credentials : Credentials) (request : NicUpdate)
    (now : Timestamp) : Backend Nat :=
  match request.credentials with
  | none => pure 401
  | some auth => do
      let account ← Backend.resolveAccountId .ipClient auth.username
      match account with
      | none => pure 401
      | some accountId => report credentials accountId auth request now

end Trigger

end FluxIP
