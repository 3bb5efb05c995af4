import FluxIP.Domain.Replay

/-!
# Accounts

Provisioning, the device limit, and the closure of an account.  An account's
stream is named by the account itself; `now` is what a step reads from the
clock.
-/

namespace FluxIP

open Async

namespace AccountService

def load (accountId : Id) : Backend (LoadAggregateResult AccountState) :=
  loadAggregate ⟨accountId, .account, accountId⟩
    initialAccountState accountReducer

def appendInput (accountId : Id) (version : Nat) (event : AccountEvent) :
    AppendEventInput where
  aggregateType := .account
  aggregateId := accountId
  accountId := accountId
  expectedSequenceNumber := version + 1
  data := .account event

def ensureProvisioned (defaultIpClientLimit : Nat) (accountId : Id)
    (now : Timestamp) : Backend AccountState := do
  let loaded ← load accountId
  match loaded.events with
  | _ :: _ => pure loaded.state
  | [] =>
      let _ ← Backend.append (appendInput accountId 0
        (.registered accountId defaultIpClientLimit now))
      pure ⟨some accountId, defaultIpClientLimit, .active⟩

def getState (accountId : Id) : Backend AccountState := do
  let loaded ← load accountId
  pure loaded.state

/-- Answers whether the account exists. -/
def overrideDeviceLimit (accountId : Id) (newLimit : Nat)
    (overriddenBy : String) (now : Timestamp) : Backend Bool := do
  let loaded ← load accountId
  match loaded.state.accountId with
  | none => pure false
  | some _ =>
      let _ ← Backend.append (appendInput accountId loaded.version
        (.deviceLimitOverridden accountId loaded.state.deviceLimit newLimit
          overriddenBy now))
      pure true

end AccountService

namespace AccountClosureService

/-- `job.remove().catch(() => undefined)`, one job after the other. -/
def removeEach {α : Type} (remove : α → Backend Unit) :
    List α → Backend Unit
  | [] => pure ()
  | job :: jobs => do
      Program.tryCatch (remove job) fun _ => pure ()
      removeEach remove jobs

def purgeSettlements (accountId : Id) : Backend Unit := do
  let jobs ← Backend.getSettlements
  removeEach Backend.removeSettlement (jobs.filter (·.accountId = accountId))

def purgeExecutions (accountId : Id) : Backend Unit := do
  let jobs ← Backend.getExecutions
  removeEach (fun job => Backend.removeExecution job.jobId)
    (jobs.filter (·.data.accountId = accountId))

def accountClosed : CloseReason :=
  ⟨.unavailable, "this account was closed", .closed⟩

def closeAccount (accountId : Id) (now : Timestamp) : Backend Unit := do
  let loaded ← AccountService.load accountId
  let _ ← Backend.append (AccountService.appendInput accountId loaded.version
    (.closed accountId now))
  Backend.memory (.terminateByAccount accountId accountClosed)
  purgeSettlements accountId
  purgeExecutions accountId
  Backend.purgeProjections accountId
  Backend.call (.store (.deleteAccount accountId))

end AccountClosureService

end FluxIP
