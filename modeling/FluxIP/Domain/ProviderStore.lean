import FluxIP.Domain.Replay
import FluxIP.Domain.TraefikProvider

/-!
# The provider store

Loads and appends to provider streams.  Appends to one stream take turns
within the process and are retried once on a version conflict.
-/

namespace FluxIP

open Async

/-- `KeyedMutex.run`: one function at a time for each key, in the order of the
calls. -/
def KeyedMutex.run {α : Type} (key : MutexKey) (fn : Backend α) :
    Backend α := do
  let ticket ← Backend.memory (.join key)
  Backend.memory (.turn key ticket)
  Program.tryFinally fn (Backend.memory (.leave key ticket))

abbrev LoadedProvider := LoadAggregateResult TraefikProviderState

namespace ProviderStore

def load (accountId providerId : Id) : Backend LoadedProvider :=
  loadAggregate ⟨accountId, .traefikProvider, providerId⟩
    initialTraefikProviderState traefikProviderReducer

/-- The provider exists, belongs to the account, and is not deleted. -/
def isActive (accountId : Id) (state : TraefikProviderState) : Bool :=
  state.providerId.isSome ∧ state.accountId = some accountId ∧
    state.status = .active

def loadActive (accountId providerId : Id) :
    Backend (Option LoadedProvider) := do
  let loaded ← load accountId providerId
  pure (if isActive accountId loaded.state then some loaded else none)

/-- The loop of `listActive`. -/
def listActiveOf (accountId : Id) : List Id → Backend (List LoadedProvider)
  | [] => pure []
  | id :: ids => do
      let loaded ← load accountId id
      let rest ← listActiveOf accountId ids
      pure (if loaded.state.status = .active ∧ loaded.state.providerId.isSome
        then loaded :: rest else rest)

def listActive (accountId : Id) : Backend (List LoadedProvider) := do
  let ids ← Backend.listAggregateIds accountId .traefikProvider
  listActiveOf accountId ids

def appendInput (accountId providerId : Id) (version : Nat)
    (event : TraefikProviderEvent) : AppendEventInput where
  aggregateType := .traefikProvider
  aggregateId := providerId
  accountId := accountId
  expectedSequenceNumber := version + 1
  data := .traefikProvider event

/-- One pass of the loop of `append`. -/
def appendOnce (accountId providerId : Id) (event : TraefikProviderEvent) :
    Backend StoredEvent := do
  let loaded ← load accountId providerId
  Backend.append (appendInput accountId providerId loaded.version event)

/-- What the loop does with the exception of its first pass. -/
def retryConflict (accountId providerId : Id) (event : TraefikProviderEvent) :
    Err → Backend StoredEvent
  | .concurrency _ _ _ => appendOnce accountId providerId event
  | error => .fail error

def append (accountId providerId : Id) (event : TraefikProviderEvent) :
    Backend StoredEvent :=
  KeyedMutex.run (.providerStore providerId)
    (Program.tryCatch (appendOnce accountId providerId event)
      (retryConflict accountId providerId event))

/-! ## The calls they make -/

theorem load_reads (accountId providerId : Id) :
    (load accountId providerId).Calls
      fun call => Backend.reads call = true :=
  loadAggregate_reads _ _ _

theorem loadActive_reads (accountId providerId : Id) :
    (loadActive accountId providerId).Calls
      fun call => Backend.reads call = true := by
  apply Program.Calls.bind (load_reads accountId providerId)
  exact fun _ => trivial

theorem listActiveOf_reads (accountId : Id) (ids : List Id) :
    (listActiveOf accountId ids).Calls
      fun call => Backend.reads call = true := by
  induction ids with
  | nil => trivial
  | cons id ids ih =>
      apply Program.Calls.bind (load_reads accountId id)
      intro loaded
      apply ih.bind
      exact fun _ => trivial

theorem listActive_reads (accountId : Id) :
    (listActive accountId).Calls fun call => Backend.reads call = true := by
  apply Program.Calls.bind
  · exact (Backend.calls_call _).mpr rfl
  · exact fun ids => listActiveOf_reads accountId ids

end ProviderStore

end FluxIP
