import FluxIP.Ports.Backend

/-!
# Replaying an aggregate
-/

namespace FluxIP

structure LoadAggregateResult (State : Type) where
  state : State
  events : List StoredEvent
  version : Nat

/-- What a replay makes of the events it has read. -/
def replayed {State : Type} (initialState : State)
    (reducer : State → StoredEvent → State) (events : List StoredEvent) :
    LoadAggregateResult State where
  state := events.foldl reducer initialState
  events := events
  version := events.length

def loadAggregate {State : Type} (params : ReadStreamParams)
    (initialState : State) (reducer : State → StoredEvent → State) :
    Backend (LoadAggregateResult State) := do
  let events ← Backend.readStream params
  pure (replayed initialState reducer events)

def loadAction (accountId actionId : Id) :
    Backend (LoadAggregateResult ActionState) :=
  loadAggregate ⟨accountId, .action, actionId⟩ initialActionState actionReducer

def loadIpClient (accountId ipClientId : Id) :
    Backend (LoadAggregateResult IpClientState) :=
  loadAggregate ⟨accountId, .ipClient, ipClientId⟩
    initialIpClientState ipClientReducer

def loadProviderCredential (accountId credentialId : Id) :
    Backend (LoadAggregateResult ProviderCredentialState) :=
  loadAggregate ⟨accountId, .providerCredential, credentialId⟩
    initialProviderCredentialState providerCredentialReducer

theorem loadAggregate_reads {State : Type} (params : ReadStreamParams)
    (initialState : State) (reducer : State → StoredEvent → State) :
    (loadAggregate params initialState reducer).Calls
      fun call => Backend.reads call = true := by
  apply Async.Program.Calls.bind
  · exact (Backend.calls_call _).mpr rfl
  · exact fun _ => trivial

end FluxIP
