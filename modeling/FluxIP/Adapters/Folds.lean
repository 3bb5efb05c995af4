import FluxIP.Adapters.EventStore
import FluxIP.Domain.ProviderStore

/-!
# What the streams of a store fold to
-/

namespace FluxIP

/-- The state of an action after the events an account has in a store. -/
def actionIn (store : EventStore) (accountId actionId : Id) : ActionState :=
  (replayed initialActionState actionReducer
    (store.readStream ⟨accountId, .action, actionId⟩)).state

/-- The state of a device after the events an account has in a store. -/
def ipClientIn (store : EventStore) (accountId ipClientId : Id) :
    IpClientState :=
  (replayed initialIpClientState ipClientReducer
    (store.readStream ⟨accountId, .ipClient, ipClientId⟩)).state

/-- The state the events of a provider fold to. -/
def providerState (store : EventStore) (accountId providerId : Id) :
    TraefikProviderState :=
  (replayed initialTraefikProviderState traefikProviderReducer
    (store.readStream ⟨accountId, .traefikProvider, providerId⟩)).state

variable {store : EventStore} {accountId actionId : Id}

/-- A stream an account has no events in is not listed. -/
theorem readStream_unlisted {params : ReadStreamParams} {rows : List Id}
    (unlisted : params.aggregateId ∉
      store.listAggregateIds params.accountId params.aggregateType rows) :
    store.readStream params = [] := by
  apply List.eq_nil_iff_forall_not_mem.mpr
  intro event member
  obtain ⟨inStore, ofType, ofId, ofAccount⟩ :=
    EventStore.mem_readStream.mp member
  exact unlisted (EventStore.mem_listAggregateIds.mpr
    ⟨event, inStore, ofAccount, ofType, ofId⟩)

theorem actionIn_unlisted {rows : List Id}
    (unlisted : actionId ∉ store.listAggregateIds accountId .action rows) :
    actionIn store accountId actionId = initialActionState := by
  have nothing : store.readStream ⟨accountId, .action, actionId⟩ = [] :=
    readStream_unlisted unlisted
  rw [actionIn, nothing]
  rfl

end FluxIP
