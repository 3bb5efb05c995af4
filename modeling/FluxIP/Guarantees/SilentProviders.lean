import FluxIP.Guarantees.ProviderRuns
import FluxIP.Guarantees.Revocation

/-!
# Deleted providers stay silent

An append to a provider's stream loads the provider once more and takes the
version from what it finds, but does not look whether the provider was deleted
in the meantime.  As long as it finds no deletion, nothing follows one.
-/

namespace FluxIP

open Async

/-! ## What may follow a deletion -/

/-- The event tells of a provider that is not deleted. -/
def TraefikProviderEvent.needsProvider : TraefikProviderEvent → Bool
  | .renamed _ _ => true
  | .tokenIssued _ => true
  | .snapshotPublished _ => true
  | .agentConnected _ => true
  | .snapshotApplied _ => true
  | .snapshotApplyFailed _ => true
  | _ => false

def EventData.needsProvider : EventData → Bool
  | .traefikProvider event => event.needsProvider
  | _ => false

def EventData.deletesProvider : EventData → Bool
  | .traefikProvider (.deleted _) => true
  | _ => false

/-- No event that needs the provider follows its deletion. -/
def SilentAfterDeletion (events : List StoredEvent) : Prop :=
  events.Pairwise fun earlier later =>
    earlier.data.deletesProvider = true → later.data.needsProvider = false

/-- Deleted providers are silent in every stream of the table. -/
def EventStore.SilentProviders (store : EventStore) : Prop :=
  ∀ providerId, SilentAfterDeletion (store.ofProvider providerId)

/-! ## The condition -/

/-- The events say that the provider was deleted. -/
def sayDeleted (events : List StoredEvent) : Bool :=
  events.any (·.data.deletesProvider)

/-- An event that needs the provider is appended at a version at which the
provider was found undeleted. -/
def looksAgain (pool : ProviderPool) : Move ProviderRequest Choice → Bool
  | .start _ => true
  | .advance index _ =>
      match pool.threads[index]? with
      | some ⟨_, history, .await (.store (.append input)) _⟩ =>
          !input.data.needsProvider ||
            !sayDeleted ((readsOf input.params history).getLast?.getD [])
      | _ => true

/-- The moves of a run in which every append finds the provider undeleted. -/
def LooksAgain (pool : ProviderPool) (move : Move ProviderRequest Choice) :
    Prop :=
  looksAgain pool move = true

/-! ## One step -/

theorem sayDeleted_iff {events : List StoredEvent} :
    sayDeleted events = true ↔
      ∃ event ∈ events, event.data.deletesProvider = true :=
  List.any_eq_true

/-- One event more: it may come unless it needs the provider deleted before. -/
theorem silentAfterDeletion_append {events : List StoredEvent}
    {event : StoredEvent} :
    SilentAfterDeletion (events ++ [event]) ↔ SilentAfterDeletion events ∧
      (sayDeleted events = true → event.data.needsProvider = false) := by
  unfold SilentAfterDeletion
  rw [List.pairwise_append]
  constructor
  · intro silent
    obtain ⟨before, -, across⟩ := silent
    refine ⟨before, ?_⟩
    intro deleted
    obtain ⟨deletion, member, deletes⟩ := sayDeleted_iff.mp deleted
    exact across deletion member event (List.mem_singleton_self _) deletes
  · intro silent
    obtain ⟨before, last⟩ := silent
    refine ⟨before, List.pairwise_singleton _ _, ?_⟩
    intro deletion member later isLast deletes
    rw [List.mem_singleton] at isLast
    rw [isLast]
    exact last (sayDeleted_iff.mpr ⟨deletion, member, deletes⟩)

variable {deps : ProviderServiceDeps} {pool next : ProviderPool}

/-- A step from a state in which deleted providers are silent leaves them so
just if it looks again, or inserts nothing. -/
theorem Standing.silent_iff (standing : Standing pool)
    (silent : pool.state.store.SilentProviders)
    {move : Move ProviderRequest Choice}
    (moved : pool.step (providerService deps) move = some next) :
    next.state.store.SilentProviders ↔
      LooksAgain pool move ∨ next.state.store = pool.state.store := by
  cases move with
  | start request =>
      obtain ⟨-, -, rfl⟩ := Pool.step_start moved
      exact ⟨fun _ => .inr rfl, fun _ => silent⟩
  | advance index choice =>
      obtain ⟨request, history, call, resume, answer, world, found, result,
        rfl⟩ := Pool.step_advance moved
      rcases standing.inserts found result with
        same | ⟨input, owner, event, recorded, rfl, written, appended, seen⟩
      · constructor
        · exact fun _ => .inr same
        · intro _ providerId
          change SilentAfterDeletion (world.store.ofProvider providerId)
          rw [same]
          exact silent providerId
      · have looks : LooksAgain pool (.advance index choice) ↔
            (sayDeleted (pool.state.store.ofProvider owner) = true →
              event.data.needsProvider = false) := by
          have sameData : input.data = event.data :=
            written.trans appended.data.symm
          simp only [LooksAgain, looksAgain, found, seen, sameData,
            Bool.or_eq_true, Bool.not_eq_true']
          cases event.data.needsProvider <;>
            cases sayDeleted (pool.state.store.ofProvider owner) <;> simp
        constructor
        · intro silentNext
          left
          apply looks.mpr
          have own := silentNext owner
          rw [appended.stream, if_pos rfl] at own
          exact (silentAfterDeletion_append.mp own).2
        · intro condition providerId
          change SilentAfterDeletion (world.store.ofProvider providerId)
          rcases condition with looked | same
          · rw [appended.stream]
            split
            · rename_i own
              subst own
              exact silentAfterDeletion_append.mpr
                ⟨silent providerId, looks.mp looked⟩
            · rw [List.append_nil]
              exact silent providerId
          · change world.store = pool.state.store at same
            rw [same]
            exact silent providerId

/-! ## The claim -/

/-- Routes, publications, sessions and pushes of any number of providers are
interleaved in any order and with any failures.  As long as no event that needs
the provider is appended at a version at which it was found deleted, no such
event follows a deletion in any stream; and from any state so reached, the next
step breaks that just if it fails the condition and inserts its event. -/
theorem deleted_providers_stay_silent (deps : ProviderServiceDeps)
    {pool : ProviderPool}
    (run : Pool.Run (providerService deps) LooksAgain ⟨{}, []⟩ pool) :
    pool.state.store.SilentProviders ∧
      ∀ move next, pool.step (providerService deps) move = some next →
        (next.state.store.SilentProviders ↔
          LooksAgain pool move ∨ next.state.store = pool.state.store) := by
  have standing := Standing.of_run run
  have silent : pool.state.store.SilentProviders := by
    suffices both : Standing pool ∧ pool.state.store.SilentProviders from
      both.2
    apply run.invariant
    · exact ⟨.initial, fun _ => List.Pairwise.nil⟩
    · intro pool move next both looks moved
      exact ⟨both.1.step moved,
        (both.1.silent_iff both.2 moved).mpr (.inl looks)⟩
  exact ⟨silent, fun _ _ moved => standing.silent_iff silent moved⟩

/-! ## A provider that is deleted with its session, and one before its
session says hello -/

namespace SilentProviders

def deleteRequest : ProviderRequest := ⟨5, 0, .delete 1 0⟩

/-- A session says hello and is sent its snapshot; then the provider is
deleted. -/
def deletedLater : List (Move ProviderRequest Choice) :=
  Revocation.opened ++ [.start Revocation.helloRequest] ++ advances 2 25 ++
    [.start deleteRequest] ++ advances 3 8

/-- The provider is deleted before its session says hello. -/
def deletedEarly : List (Move ProviderRequest Choice) :=
  Revocation.opened ++ [.start deleteRequest] ++ advances 2 8 ++
    [.start Revocation.helloRequest] ++ advances 3 8

/-- Of each event of the provider, whether it deletes or needs it. -/
def kinds (pool : ProviderPool) : List (Bool × Bool) :=
  (pool.state.store.ofProvider 0).map fun event =>
    (event.data.deletesProvider, event.data.needsProvider)

end SilentProviders

open SilentProviders in
theorem deleted_providers_stay_silent_in_time :
    ∃ pool : ProviderPool,
      kinds pool = [(false, false), (false, true), (false, true),
        (false, true), (true, false)] ∧
      pool.state.store.SilentProviders := by
  have ends : ((⟨{}, []⟩ : ProviderPool).follow (providerService exampleDeps)
      looksAgain deletedLater).map kinds = some [(false, false),
        (false, true), (false, true), (false, true), (true, false)] := by
    decide +kernel
  obtain ⟨pool, followed, same⟩ := Option.map_eq_some_iff.mp ends
  have run : Pool.Run (providerService exampleDeps) LooksAgain ⟨{}, []⟩
      pool := Pool.run_of_follow (fun _ _ passed => passed) followed
  exact ⟨pool, same, (deleted_providers_stay_silent exampleDeps run).1⟩

open SilentProviders in
/-- An agent may connect to a provider that is deleted. -/
theorem hello_after_the_deletion :
    ¬ ∀ (deps : ProviderServiceDeps) (pool : ProviderPool),
      Pool.Run (providerService deps) (fun _ _ => True) ⟨{}, []⟩ pool →
      pool.state.store.SilentProviders := by
  intro claim
  have ends : ((⟨{}, []⟩ : ProviderPool).follow (providerService exampleDeps)
      (fun _ _ => true) deletedEarly).map kinds = some [(false, false),
        (false, true), (true, false), (false, true)] := by
    decide +kernel
  obtain ⟨pool, followed, same⟩ := Option.map_eq_some_iff.mp ends
  have silent := claim exampleDeps pool
    (Pool.run_of_follow (fun _ _ _ => trivial) followed) 0
  have ordered : (kinds pool).Pairwise fun earlier later =>
      earlier.1 = true → later.2 = false := List.pairwise_map.mpr silent
  rw [same] at ordered
  simp at ordered

end FluxIP
