import FluxIP.Adapters.ActionExecutionWorker
import FluxIP.Domain.DeliveryHistory
import FluxIP.Domain.ProviderStore

/-!
# The history of a device

`GET /ip-clients/:id/history`: the IP changes of a device, each with the
executions and the deliveries it led to.
-/

namespace FluxIP

open Async

namespace IpClientHistory

/-- What an action targets, as far as it is no secret. -/
structure ActionDescription where
  type : Option ActionType
  zone : Option String
  recordName : Option String
  firewallId : Option Nat
  description : Option String
  deriving DecidableEq, Repr

def describeAction (state : Option ActionState) : ActionDescription :=
  let config := state.bind (·.config)
  let dns := config.bind ActionConfig.asDns
  let firewall := config.bind ActionConfig.asFirewall
  { type := state.bind (·.type)
    zone := dns.bind (·.zone)
    recordName := dns.bind (·.recordName)
    firewallId := firewall.map (·.firewallId)
    description := firewall.map (·.description) }

structure ExecutionItem where
  executionId : Option Id
  actionId : Option Id
  action : ActionDescription
  status : ActionExecutionStatus
  attempt : Nat
  error : Option String
  startedAt : Option Timestamp
  completedAt : Option Timestamp
  failedAt : Option Timestamp
  deriving DecidableEq, Repr

structure HistoryItem where
  ipChangedEventId : Id
  data : IpClientIpChangedData
  deliveries : List TraefikDelivery
  executions : List ExecutionItem
  deriving DecidableEq, Repr

/-- The loop that keeps the actions of the device. -/
def relevantActionsOf (accountId ipClientId : Id) :
    List Id → Backend (List (Id × ActionState))
  | [] => pure []
  | actionId :: actionIds => do
      let loaded ← loadAction accountId actionId
      let rest ← relevantActionsOf accountId ipClientId actionIds
      pure (if loaded.state.ipClientId = some ipClientId then
        (actionId, loaded.state) :: rest else rest)

/-- `relevantActions.get(actionId)` -/
def find (relevantActions : List (Id × ActionState)) (actionId : Option Id) :
    Option ActionState :=
  actionId.bind fun actionId => getEntry actionId relevantActions

/-- The loop that keeps the executions of these actions. -/
def executionsOf (accountId : Id) (relevantActions : List (Id × ActionState)) :
    List Id → Backend (List ActionExecutionState)
  | [] => pure []
  | executionId :: executionIds => do
      let loaded ← loadExecution accountId executionId
      let rest ← executionsOf accountId relevantActions executionIds
      pure (if (find relevantActions loaded.state.actionId).isSome then
        loaded.state :: rest else rest)

/-- The delivery actions among these, detached ones included. -/
def deliveryActions (relevantActions : List (Id × ActionState)) :
    List DeliveryActionRef :=
  relevantActions.filterMap fun entry =>
    if entry.2.type = some .traefikConfigDelivery then
      (entry.2.config.bind ActionConfig.asDelivery).map fun config =>
        ⟨entry.1, config.traefikProviderId, config.group⟩
    else none

/-- The provider still exists for this account. -/
def isListed (accountId providerId : Id) (state : TraefikProviderState) :
    Bool :=
  state.providerId = some providerId ∧ state.accountId = some accountId ∧
    state.status = .active

/-- The loop that loads the providers. -/
def providersOf (accountId : Id) :
    List Id → Backend (List (Id × DeliveryProvider))
  | [] => pure []
  | providerId :: providerIds => do
      let loaded ← ProviderStore.load accountId providerId
      let rest ← providersOf accountId providerIds
      pure ((providerId,
        { name := if isListed accountId providerId loaded.state then
            some loaded.state.name else none
          events := loaded.events }) :: rest)

/-- The change an event records. -/
def ipChange (event : StoredEvent) : Option (Id × IpClientIpChangedData) :=
  match event.data with
  | .ipClient (.ipChanged data) => some (event.id, data)
  | _ => none

def executionItem (relevantActions : List (Id × ActionState))
    (execution : ActionExecutionState) : ExecutionItem where
  executionId := execution.executionId
  actionId := execution.actionId
  action := describeAction (find relevantActions execution.actionId)
  status := execution.status
  attempt := execution.attempt
  error := execution.error
  startedAt := execution.startedAt
  completedAt := execution.completedAt
  failedAt := execution.failedAt

def items (changes : List (Id × IpClientIpChangedData))
    (relevantActions : List (Id × ActionState))
    (executions : List ActionExecutionState)
    (deliveries : List (Id × List TraefikDelivery)) : List HistoryItem :=
  changes.map fun change =>
    { ipChangedEventId := change.1
      data := change.2
      deliveries := (getEntry change.1 deliveries).getD []
      executions := (executions.filter
        (·.causationEventId = some change.1)).map
          (executionItem relevantActions) }

/-- The client is there and belongs to the account. -/
def isOwned (accountId : Id) (state : IpClientState) : Bool :=
  state.ipClientId.isSome ∧ state.accountId = some accountId

/-- `GET /ip-clients/:id/history`: the items, or the status of the refusal. -/
def get (accountId ipClientId : Id) :
    Backend (Except Nat (List HistoryItem)) := do
  let loaded ← loadIpClient accountId ipClientId
  if isOwned accountId loaded.state then
    let changes := loaded.events.filterMap ipChange
    let actionIds ← Backend.listAggregateIds accountId .action
    let relevantActions ← relevantActionsOf accountId ipClientId actionIds
    let executionIds ← Backend.listAggregateIds accountId .actionExecution
    let executions ← executionsOf accountId relevantActions executionIds
    let actions := deliveryActions relevantActions
    let providers ← providersOf accountId
      (actions.map (·.traefikProviderId)).eraseDups
    pure (.ok (items changes relevantActions executions
      (deriveDeliveries (changes.map (·.1)) actions providers)))
  else pure (.error 404)

end IpClientHistory

end FluxIP
