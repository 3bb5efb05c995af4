import FluxIP.Adapters.Recording
import FluxIP.Adapters.SessionMemory
import FluxIP.Guarantees.PublishedVersions

/-!
# Runs of the provider service

What holds in every state of the process, whatever is allowed to happen: the
streams of the providers are numbered, the sessions are disciplined, and every
event was appended by a command that may record it.
-/

namespace FluxIP

open Async

/-- The commands of the provider service authorize no trigger request. -/
def noCredentials : Credentials := ⟨fun _ _ => false, fun _ => ""⟩

structure Standing (pool : ProviderPool) : Prop where
  sound : Sound pool
  seated : Seated pool.state
  introduced : pool.state.agents.Introduced
  decided : pool.Traced fun request =>
    Decided noCredentials (.provider request.command)
  recording : pool.Traced fun request => Recording request.now request.command

/-- The event was appended to the stream of the provider by a request that may
record it after what it has awaited. -/
structure RecordsEvent (before after : World) (request : ProviderRequest)
    (history : BackendHistory) (providerId : Id) (event : StoredEvent)
    (recorded : TraefikProviderEvent) : Prop where
  inserted : after.store.events = before.store.events ++ [event]
  ofType : event.aggregateType = .traefikProvider
  ofProvider : event.aggregateId = providerId
  data : event.data = .traefikProvider recorded
  records : request.command.Records request.now history providerId recorded

variable {deps : ProviderServiceDeps} {pool next : ProviderPool}
variable {index : Nat} {choice : Choice} {request : ProviderRequest}
variable {history : BackendHistory} {call : Call}
variable {resume : Except Err call.Answer → Backend (Option Nat)}
variable {answer : Except Err call.Answer} {world : World}

theorem RecordsEvent.stream {before after : World} {providerId : Id}
    {event : StoredEvent} {recorded : TraefikProviderEvent}
    (appended : RecordsEvent before after request history providerId event
      recorded) (other : Id) :
    after.store.ofProvider other = before.store.ofProvider other ++
      if other = providerId then [event] else [] := by
  unfold EventStore.ofProvider EventStore.stream
  rw [appended.inserted, List.filter_append]
  by_cases same : other = providerId
  · simp [same, StoredEvent.isOf, appended.ofType, appended.ofProvider]
  · simp [same, StoredEvent.isOf, appended.ofProvider, Ne.symm same]

namespace Standing

theorem initial : Standing ⟨{}, []⟩ where
  sound := ⟨EventStore.empty_sequenced, fun _ member => by cases member⟩
  seated := by
    refine ⟨⟨?_, ?_, ?_, ?_⟩, ?_⟩
    · exact fun _ _ found => by cases found
    · exact fun _ _ found => by cases found
    · exact fun _ _ found => by cases found
    · exact fun _ _ found => by cases found
    · exact fun _ _ found => by cases found
  introduced := fun _ _ registered => by cases registered
  decided := fun _ member => by cases member
  recording := fun _ member => by cases member

/-- No command of the service deletes an account. -/
theorem noDeletion (standing : Standing pool)
    (move : Move ProviderRequest Choice) : NoDeletion pool move := by
  cases move with
  | start request => rfl
  | advance index choice =>
      simp only [NoDeletion, deletesNothing]
      split
      · rename_i request history accountId resume found
        have traces := standing.recording _ (List.mem_of_getElem? found)
        exact traces.1.elim
      · rfl

/-- What a call of a thread does to the sessions. -/
theorem does (standing : Standing pool)
    (result : semantics call choice pool.state = some (answer, world)) :
    call.Does pool.state.agents world.agents answer :=
  call_does standing.seated standing.introduced result

theorem step (standing : Standing pool)
    {move : Move ProviderRequest Choice}
    (moved : pool.step (providerService deps) move = some next) :
    Standing next where
  sound := standing.sound.step rfl standing.decided (standing.noDeletion move)
    moved
  seated := by
    cases move with
    | start request =>
        obtain ⟨-, -, rfl⟩ := Pool.step_start moved
        exact standing.seated
    | advance index choice =>
        obtain ⟨request, history, call, resume, answer, world, found, result,
          rfl⟩ := Pool.step_advance moved
        exact (call_sessionStep standing.seated result).seated
  introduced := by
    cases move with
    | start request =>
        obtain ⟨-, -, rfl⟩ := Pool.step_start moved
        exact standing.introduced
    | advance index choice =>
        obtain ⟨request, history, call, resume, answer, world, found, result,
          rfl⟩ := Pool.step_advance moved
        exact (standing.does result).introduced standing.seated.disciplined
          standing.introduced
  decided := standing.decided.step
    (fun request => providerCommand_decides request.command []) moved
  recording := standing.recording.step
    (fun request => command_records deps request.now request.command []) moved

theorem store_extends (standing : Standing pool)
    {move : Move ProviderRequest Choice}
    (moved : pool.step (providerService deps) move = some next) :
    pool.state.store.Extends next.state.store :=
  standing.sound.extends rfl standing.decided (standing.noDeletion move) moved

theorem agents_progress (standing : Standing pool)
    {move : Move ProviderRequest Choice}
    (moved : pool.step (providerService deps) move = some next) :
    pool.state.agents.Progress next.state.agents := by
  cases move with
  | start request =>
      obtain ⟨-, -, rfl⟩ := Pool.step_start moved
      exact .refl _
  | advance index choice =>
      obtain ⟨request, history, call, resume, answer, world, found, result,
        rfl⟩ := Pool.step_advance moved
      exact (standing.does result).progress standing.seated.disciplined

/-- What an append of a thread inserts, and what it has last read of the
stream. -/
theorem inserts (standing : Standing pool)
    (found : pool.threads[index]? =
      some ⟨request, history, .await call resume⟩)
    (result : semantics call choice pool.state = some (answer, world)) :
    world.store = pool.state.store ∨
      ∃ input providerId event recorded,
        call = .store (.append input) ∧
        input.data = .traefikProvider recorded ∧
        RecordsEvent pool.state world request history providerId event
          recorded ∧
        (readsOf input.params history).getLast?.getD [] =
          pool.state.store.ofProvider providerId := by
  have running := List.mem_of_getElem? found
  have records : call.recordsOnly (request.command.Records request.now
      history) := (standing.recording _ running).1
  have keeps : ∀ accountId, call ≠ .store (.deleteAccount accountId) := by
    intro accountId same
    rw [same] at records
    exact records
  rcases store_cases keeps result with same | ⟨event, input, rfl, inserted, -⟩
  · exact .inl same
  · right
    obtain ⟨-, whole, -, -⟩ := standing.sound.inserts running
      (standing.decided _ running).1 inserted
    obtain ⟨accountId, providerId, version, recorded, rfl, allowed⟩ := records
    rcases EventStore.append_cases inserted with
      ⟨_, ⟨⟩, ofType, ofId, -, -, data, -, -, table⟩ | ⟨conflict, -⟩
    · exact ⟨_, providerId, event, recorded, rfl, rfl,
        ⟨congrArg (·.events) table, ofType, ofId, data, allowed⟩, whole⟩
    · cases conflict

/-- What a call of a thread does to the event store. -/
theorem call_records (standing : Standing pool)
    (found : pool.threads[index]? =
      some ⟨request, history, .await call resume⟩)
    (result : semantics call choice pool.state = some (answer, world)) :
    world.store = pool.state.store ∨
      ∃ providerId event recorded,
        RecordsEvent pool.state world request history providerId event
          recorded := by
  rcases standing.inserts found result with
    same | ⟨_, providerId, event, recorded, -, -, appended, -⟩
  · exact .inl same
  · exact .inr ⟨providerId, event, recorded, appended⟩

/-- It holds in every state of every run. -/
theorem of_run {allowed : ProviderPool → Move ProviderRequest Choice → Prop}
    (run : Pool.Run (providerService deps) allowed ⟨{}, []⟩ pool) :
    Standing pool :=
  run.invariant initial fun _ _ _ standing _ moved => standing.step moved

end Standing

end FluxIP
