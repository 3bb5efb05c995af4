import FluxIP.Domain.Snapshot
import Mathlib.Data.List.Sort

/-!
# Delivery history

What the IP changes of a device led to for its delivery actions, derived from
the events of their providers.
-/

namespace FluxIP

/-- `delivered`: the change is the snapshot's own cause.  `combined`: it went
into a snapshot that a later change caused. -/
inductive DeliveryKind where
  | delivered
  | combined
  deriving DecidableEq, Repr

inductive DeliveryStage where
  | published
  | applied
  | failed
  deriving DecidableEq, Repr

/-- `providerName` is absent when the provider no longer exists, `atTime` is
the field `at`. -/
structure TraefikDelivery where
  actionId : Id
  traefikProviderId : Id
  providerName : Option String
  group : String
  kind : DeliveryKind
  stage : Option DeliveryStage
  atTime : Option Timestamp
  error : Option String
  version : Option Nat
  deriving DecidableEq, Repr

structure DeliveryActionRef where
  actionId : Id
  traefikProviderId : Id
  group : String
  deriving DecidableEq, Repr

structure DeliveryProvider where
  name : Option String
  events : List StoredEvent

def PublishFailure.code : PublishFailure → String
  | .tooLarge => "too_large"
  | .internal => "internal"

namespace DeliveryHistory

def applied (event : StoredEvent) :
    Option TraefikProviderSnapshotAppliedData :=
  match event.data with
  | .traefikProvider (.snapshotApplied data) => some data
  | _ => none

def applyFailed (event : StoredEvent) :
    Option TraefikProviderSnapshotApplyFailedData :=
  match event.data with
  | .traefikProvider (.snapshotApplyFailed data) => some data
  | _ => none

/-- Later events win; `delivered` beats `combined` for the same change. -/
def put (changeIds : List Id) (rows : List (Id × TraefikDelivery))
    (changeId : Id) (row : TraefikDelivery) : List (Id × TraefikDelivery) :=
  if changeId ∈ changeIds then
    if (getEntry changeId rows).any (·.kind = .delivered) ∧
        row.kind = .combined then rows
    else setEntry changeId row rows
  else rows

/-- The row of a change whose snapshot another one caused. -/
def combinedRow (action : DeliveryActionRef) (provider : DeliveryProvider)
    (version : Option Nat) : TraefikDelivery where
  actionId := action.actionId
  traefikProviderId := action.traefikProviderId
  providerName := provider.name
  group := action.group
  kind := .combined
  stage := none
  atTime := none
  error := none
  version := version

/-- How far the snapshot of a version has come: applied by this or a later
version, else failed by the last report of this one. -/
def stageOf (events : List StoredEvent) (version : Nat)
    (publishedAt : Timestamp) (row : TraefikDelivery) : TraefikDelivery :=
  match (events.filterMap applied).find? (version ≤ ·.version) with
  | some done =>
      { row with
        kind := .delivered
        stage := some .applied
        atTime := some done.appliedAt }
  | none =>
      match ((events.filterMap applyFailed).filter
          (·.version = version)).getLast? with
      | some failed =>
          { row with
            kind := .delivered
            stage := some .failed
            atTime := some failed.appliedAt
            error := some failed.reason }
      | none =>
          { row with
            kind := .delivered
            stage := some .published
            atTime := some publishedAt }

/-- The row of the change that a snapshot was published for, and those of the
changes that went into it. -/
def putAll (changeIds : List Id) (rows : List (Id × TraefikDelivery))
    (correlationId : Id) (own : TraefikDelivery) (absorbed : List Id)
    (combined : TraefikDelivery) : List (Id × TraefikDelivery) :=
  absorbed.foldl (fun rows id => put changeIds rows id combined)
    (put changeIds rows correlationId own)

/-- One event in the loop over a provider's events. -/
def record (changeIds : List Id) (action : DeliveryActionRef)
    (provider : DeliveryProvider) (events : List StoredEvent)
    (rows : List (Id × TraefikDelivery)) (event : StoredEvent) :
    List (Id × TraefikDelivery) :=
  match event.data with
  | .traefikProvider (.snapshotPublished data) =>
      let row := combinedRow action provider (some event.sequenceNumber)
      putAll changeIds rows data.correlationId
        (stageOf events event.sequenceNumber data.publishedAt row)
        data.absorbedCausationIds row
  | .traefikProvider (.snapshotPublishFailed data) =>
      let row := combinedRow action provider none
      putAll changeIds rows data.correlationId
        { row with
          kind := .delivered
          stage := some .failed
          atTime := some data.failedAt
          error := some data.reason.code }
        data.absorbedCausationIds row
  | _ => rows

/-- The rows of one action. -/
def rowsOf (changeIds : List Id) (action : DeliveryActionRef)
    (provider : DeliveryProvider) : List (Id × TraefikDelivery) :=
  let events := provider.events.insertionSort
    fun first second => first.sequenceNumber ≤ second.sequenceNumber
  events.foldl (record changeIds action provider events) []

/-- `result.get(changeId)!.push(row)` -/
def push (result : List (Id × List TraefikDelivery))
    (row : Id × TraefikDelivery) : List (Id × List TraefikDelivery) :=
  result.map fun entry =>
    if entry.1 = row.1 then (entry.1, entry.2 ++ [row.2]) else entry

end DeliveryHistory

open DeliveryHistory in
/-- For each change the rows of the actions whose providers name it. -/
def deriveDeliveries (ipChangedEventIds : List Id)
    (actions : List DeliveryActionRef)
    (providers : List (Id × DeliveryProvider)) :
    List (Id × List TraefikDelivery) :=
  actions.foldl
    (fun result action =>
      match getEntry action.traefikProviderId providers with
      | none => result
      | some provider =>
          (rowsOf ipChangedEventIds action provider).foldl push result)
    (ipChangedEventIds.eraseDups.map fun id => (id, []))

end FluxIP
