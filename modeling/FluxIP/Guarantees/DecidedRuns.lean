import FluxIP.Adapters.Folds
import FluxIP.Adapters.Ownership
import FluxIP.Guarantees.ChangesScheduled
import FluxIP.Guarantees.TerminalStates

/-!
# Runs in which every append is decided

What holds along every run of the backend in which no account is deleted, and
what an insertion into such a run does to the streams.
-/

namespace FluxIP

open Async

variable {deps : BackendDeps} {pool next : BackendPool}
variable {move : Move BackendRequest Choice}

/-- Every program in progress has read beginnings of streams and appends what
it may. -/
structure Deciding (deps : BackendDeps) (pool : BackendPool) : Prop where
  sound : Sound pool
  decided : pool.Traced (Decides deps)
  appends : pool.Traced (AppendsAllowed deps)

/-- A program inserts, at the end of its stream, an event that it may append
to what is there. -/
structure InsertionAtEnd (deps : BackendDeps) (pool next : BackendPool)
    (index : Nat) (request : BackendRequest) (history : BackendHistory)
    (input : AppendEventInput) (event : StoredEvent) : Prop where
  insertion : Insertion pool next index request history input event
  before : pool.state.store.Sequenced
  after : next.state.store.Sequenced
  appends : Appends deps.ipClients.credentials request.now request.command
    input (pool.state.store.readStream input.params)
  firstRead : request.command.usesOwnVersion = true → ∀ seen,
    FirstRead input.params seen history →
    seen = pool.state.store.readStream input.params
  position : input.expectedSequenceNumber =
    (pool.state.store.readStream input.params).length + 1

namespace Deciding

theorem initial {world : World} (start : world.store.Sequenced) :
    Deciding deps ⟨world, []⟩ where
  sound := ⟨start, fun _ member => by cases member⟩
  decided := fun _ member => by cases member
  appends := fun _ member => by cases member

theorem step (deciding : Deciding deps pool) (noDeletion : NoDeletion pool move)
    (moved : pool.step (backendService deps) move = some next) :
    Deciding deps next := by
  constructor
  · exact deciding.sound.step rfl deciding.decided noDeletion moved
  · apply deciding.decided.step _ moved
    exact fun request => command_decides deps request.now request.command
  · apply deciding.appends.step _ moved
    exact fun request => command_appends deps request.now request.command

variable {index : Nat} {request : BackendRequest} {history : BackendHistory}
variable {input : AppendEventInput} {event : StoredEvent}

theorem atEnd (deciding : Deciding deps pool)
    (insertion : Insertion pool next index request history input event) :
    InsertionAtEnd deps pool next index request history input event := by
  obtain ⟨resume, found⟩ := insertion.running
  have member := List.mem_of_getElem? found
  have decided := (deciding.decided _ member).1
  obtain ⟨sequenced, whole, same, position⟩ :=
    deciding.sound.inserts member decided insertion.appended
  have appends := ((deciding.appends _ member).1.1 input rfl).2
  refine ⟨insertion, deciding.sound.sequenced, sequenced, same ▸ appends,
    ?_, ?_⟩
  · intro own seen first
    rw [same]
    unfold FirstRead at first
    simp [BackendCommand.basis, own, first]
  · rw [position, same, whole]

end Deciding

namespace InsertionAtEnd

variable {index : Nat} {request : BackendRequest} {history : BackendHistory}
variable {input : AppendEventInput} {event : StoredEvent}

theorem grown
    (atEnd : InsertionAtEnd deps pool next index request history input event) :
    event.data = input.data ∧ next.state.store.readStream input.params =
      pool.state.store.readStream input.params ++ [event] :=
  ChangesScheduled.append_reads atEnd.before atEnd.position
    atEnd.insertion.appended

theorem other {params : ReadStreamParams}
    (atEnd : InsertionAtEnd deps pool next index request history input event)
    (elsewhere : input.params ≠ params) :
    next.state.store.readStream params =
      pool.state.store.readStream params :=
  (ChangesScheduled.append_changesOnly atEnd.insertion.appended params
    (Ne.symm elsewhere)).symm

/-- Nothing precedes an event at the first position. -/
theorem nothing
    (atEnd : InsertionAtEnd deps pool next index request history input event)
    (first : input.expectedSequenceNumber = 1) :
    pool.state.store.readStream input.params = [] :=
  ChangesScheduled.nothing_of_first atEnd.before first
    atEnd.insertion.appended

/-- The state of the action to which an event is appended. -/
theorem reduces {accountId actionId : Id}
    (atEnd : InsertionAtEnd deps pool next index request history input event)
    (own : input.params = ⟨accountId, .action, actionId⟩) :
    event.data = input.data ∧ actionIn next.state.store accountId actionId =
      actionReducer (actionIn pool.state.store accountId actionId) event := by
  obtain ⟨written, grown⟩ := atEnd.grown
  refine ⟨written, ?_⟩
  rw [own] at grown
  unfold actionIn replayed
  dsimp only
  rw [grown, List.foldl_append]
  rfl

theorem actionIn_other {accountId actionId : Id}
    (atEnd : InsertionAtEnd deps pool next index request history input event)
    (elsewhere : input.params ≠ ⟨accountId, .action, actionId⟩) :
    actionIn next.state.store accountId actionId =
      actionIn pool.state.store accountId actionId := by
  unfold actionIn
  rw [atEnd.other elsewhere]

end InsertionAtEnd

/-- Programs that delete no account. -/
theorem noDeletion_of_calls
    (calls : ∀ thread ∈ pool.threads, ∀ call resume,
      thread.program = .await call resume → Call.keepsAccounts call)
    (move : Move BackendRequest Choice) : NoDeletion pool move := by
  unfold NoDeletion deletesNothing
  split
  · rfl
  · split
    · rename_i found
      exact absurd rfl
        (calls _ (List.mem_of_getElem? found) _ _ rfl _)
    · rfl

end FluxIP
