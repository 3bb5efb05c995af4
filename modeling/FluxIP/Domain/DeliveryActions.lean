import FluxIP.Domain.Replay

/-!
# Traefik delivery actions
-/

namespace FluxIP

open Async

structure DeliveryAction where
  actionId : Id
  ipClientId : Id
  traefikProviderId : Id
  group : String
  status : ActionStatus
  deriving DecidableEq, Repr

/-- The delivery action a loaded state stands for, unless it is skipped. -/
def ActionState.deliveryAction (state : ActionState) (actionId : Id) :
    Option DeliveryAction :=
  match state.type, state.status, state.ipClientId,
      state.config.bind ActionConfig.asDelivery with
  | some .traefikConfigDelivery, .detached, _, _ => none
  | some .traefikConfigDelivery, status, some ipClientId, some config => some
      { actionId
        ipClientId
        traefikProviderId := config.traefikProviderId
        group := config.group
        status }
  | _, _, _, _ => none

/-- The loop of `listDeliveryActions`. -/
def deliveryActionsOf (accountId : Id) : List Id →
    Backend (List DeliveryAction)
  | [] => pure []
  | actionId :: actionIds => do
      let loaded ← loadAction accountId actionId
      let rest ← deliveryActionsOf accountId actionIds
      pure ((loaded.state.deliveryAction actionId).toList ++ rest)

def listDeliveryActions (accountId : Id) : Backend (List DeliveryAction) := do
  let ids ← Backend.listAggregateIds accountId .action
  deliveryActionsOf accountId ids

def providersOfDevice (accountId ipClientId : Id) : Backend (List Id) := do
  let actions ← listDeliveryActions accountId
  pure ((actions.filter (·.ipClientId = ipClientId)).map
    (·.traefikProviderId)).eraseDups

/-! ## The calls they make -/

theorem deliveryActionsOf_reads (accountId : Id) (actionIds : List Id) :
    (deliveryActionsOf accountId actionIds).Calls
      fun call => Backend.reads call = true := by
  induction actionIds with
  | nil => trivial
  | cons actionId actionIds ih =>
      apply Program.Calls.bind (loadAggregate_reads _ _ _)
      intro loaded
      apply ih.bind
      exact fun _ => trivial

theorem listDeliveryActions_reads (accountId : Id) :
    (listDeliveryActions accountId).Calls
      fun call => Backend.reads call = true := by
  apply Program.Calls.bind
  · exact (Backend.calls_call _).mpr rfl
  · exact fun ids => deliveryActionsOf_reads accountId ids

theorem providersOfDevice_reads (accountId ipClientId : Id) :
    (providersOfDevice accountId ipClientId).Calls
      fun call => Backend.reads call = true := by
  apply Program.Calls.bind (listDeliveryActions_reads accountId)
  exact fun _ => trivial

end FluxIP
