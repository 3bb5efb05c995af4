import FluxIP.Domain.AgentProtocol
import FluxIP.Domain.Replay
import FluxIP.Domain.Text
import Mathlib.Data.List.Sort
import Mathlib.Algebra.Ring.Nat

/-!
# The content of a provider's snapshot
-/

namespace FluxIP

open Async

/-- A device that contributes entries: its name and its known addresses. -/
structure SnapshotDevice where
  label : String
  ips : List String
  deriving DecidableEq, Repr

structure SnapshotMember where
  group : String
  ipClientId : Id
  deriving DecidableEq, Repr

/-- `localeCompare` is the host's collation, `idName` the text of an id. -/
structure SnapshotText where
  localeCompare : String → String → Ordering
  idName : Id → String

/-- The member an action contributes to the provider's snapshot. -/
def ActionState.snapshotMember (state : ActionState) (providerId : Id) :
    Option SnapshotMember :=
  match state.type, state.status, state.ipClientId,
      state.config.bind ActionConfig.asDelivery with
  | some .traefikConfigDelivery, .enabled, some ipClientId, some config =>
      if config.traefikProviderId = providerId then
        some ⟨config.group, ipClientId⟩
      else none
  | _, _, _, _ => none

def snapshotMembers (accountId providerId : Id) :
    List Id → Backend (List SnapshotMember)
  | [] => pure []
  | actionId :: actionIds => do
      let loaded ← loadAction accountId actionId
      let rest ← snapshotMembers accountId providerId actionIds
      pure ((loaded.state.snapshotMember providerId).toList ++ rest)

/-- A device without any known address contributes nothing. -/
def IpClientState.snapshotDevice (state : IpClientState) (name : String) :
    Option SnapshotDevice :=
  let ips := ([state.lastKnownIPv4, state.lastKnownIPv6].filterMap truthy)
  if state.status = .enabled ∧ ips ≠ [] then
    some ⟨if trim state.label = "" then name else trim state.label, ips⟩
  else none

/-- The groups in the making: each with its devices, one entry per device. -/
abbrev SnapshotGroups := List (String × List (Id × SnapshotEntry))

/-- `map.set(key, value)`: a key that is present keeps its place. -/
def setEntry {α β : Type} [DecidableEq α] (key : α) (value : β) :
    List (α × β) → List (α × β)
  | [] => [(key, value)]
  | entry :: entries =>
      if entry.1 = key then (key, value) :: entries
      else entry :: setEntry key value entries

def getEntry {α β : Type} [DecidableEq α] (key : α)
    (entries : List (α × β)) : Option β :=
  (entries.find? (·.1 = key)).map (·.2)

def SnapshotGroups.add (groups : SnapshotGroups) (member : SnapshotMember)
    (device : SnapshotDevice) : SnapshotGroups :=
  setEntry member.group
    (setEntry member.ipClientId ⟨device.label, device.ips⟩
      ((getEntry member.group groups).getD []))
    groups

/-- The loop over the members; `cache` holds the devices already loaded. -/
def collectGroups (text : SnapshotText) (accountId : Id)
    (cache : List (Id × Option SnapshotDevice)) (groups : SnapshotGroups) :
    List SnapshotMember → Backend SnapshotGroups
  | [] => pure groups
  | member :: members =>
      match getEntry member.ipClientId cache with
      | some device =>
          collectGroups text accountId cache
            (device.elim groups (groups.add member)) members
      | none => do
          let loaded ← loadIpClient accountId member.ipClientId
          let device := loaded.state.snapshotDevice
            (text.idName member.ipClientId)
          collectGroups text accountId
            ((member.ipClientId, device) :: cache)
            (device.elim groups (groups.add member)) members

def entryBefore (text : SnapshotText) (first second : Id × SnapshotEntry) :
    Bool :=
  match text.localeCompare first.2.deviceName second.2.deviceName with
  | .lt => true
  | .gt => false
  | .eq => first.1 ≤ second.1

/-- Group keys are ASCII, where code points and code units are ordered alike. -/
def SnapshotGroups.sorted (text : SnapshotText) (groups : SnapshotGroups) :
    List SnapshotGroup :=
  (groups.mergeSort fun first second => first.1 ≤ second.1).map fun group =>
    ⟨group.1, (group.2.mergeSort (entryBefore text)).map (·.2)⟩

def buildSnapshotContent (text : SnapshotText) (accountId providerId : Id)
    (providerName : String) : Backend SnapshotContent := do
  let actionIds ← Backend.listAggregateIds accountId .action
  let members ← snapshotMembers accountId providerId actionIds
  let groups ← collectGroups text accountId [] [] members
  pure ⟨providerName, groups.sorted text⟩

theorem snapshotMembers_reads (accountId providerId : Id)
    (actionIds : List Id) :
    (snapshotMembers accountId providerId actionIds).Calls
      fun call => Backend.reads call = true := by
  induction actionIds with
  | nil => trivial
  | cons actionId actionIds ih =>
      apply Program.Calls.bind (loadAggregate_reads _ _ _)
      intro loaded
      apply ih.bind
      exact fun _ => trivial

theorem collectGroups_reads (text : SnapshotText) (accountId : Id)
    (cache : List (Id × Option SnapshotDevice)) (groups : SnapshotGroups)
    (members : List SnapshotMember) :
    (collectGroups text accountId cache groups members).Calls
      fun call => Backend.reads call = true := by
  induction members generalizing cache groups with
  | nil => trivial
  | cons member members ih =>
      unfold collectGroups
      split
      · exact ih _ _
      · apply Program.Calls.bind (loadAggregate_reads _ _ _)
        exact fun _ => ih _ _

/-- Building a snapshot only reads. -/
theorem buildSnapshotContent_reads (text : SnapshotText)
    (accountId providerId : Id) (providerName : String) :
    (buildSnapshotContent text accountId providerId providerName).Calls
      fun call => Backend.reads call = true := by
  apply Program.Calls.bind
  · exact (Backend.calls_call _).mpr rfl
  intro actionIds
  apply Program.Calls.bind (snapshotMembers_reads _ _ _)
  intro members
  apply Program.Calls.bind (collectGroups_reads _ _ _ _ _)
  exact fun _ => trivial

def snapshotEntryCount (content : SnapshotContent) : Nat :=
  (content.groups.map (·.entries.length)).sum

end FluxIP
