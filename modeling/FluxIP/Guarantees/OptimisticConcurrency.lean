import FluxIP.Adapters.Decisions
import FluxIP.Adapters.Steps
import FluxIP.Async.Knowledge

/-!
# Optimistic concurrency

What every command of the backend has read of a stream is a beginning of the
stream, in the order of its reads, as long as no account is deleted.  An
append therefore inserts its event only while the stream is still what the
command has seen: streams are numbered without gaps, and no update is lost.
-/

namespace FluxIP

open Async

/-- What was read of each stream is a beginning of what was read later, and of
what the stream is now. -/
def SeenInOrder (store : EventStore) (history : BackendHistory) : Prop :=
  ∀ params, (readsOf params history).Pairwise (· <+: ·) ∧
    ∀ seen ∈ readsOf params history, seen <+: store.readStream params

variable {ι α : Type} [DecidableEq ι]

/-- Every stream is numbered, and every program in progress has seen
beginnings of streams. -/
structure Sound (pool : Pool backend Err ι α World) : Prop where
  sequenced : pool.state.store.Sequenced
  seen : ∀ thread ∈ pool.threads,
    SeenInOrder pool.state.store thread.history

/-- No account is deleted by this move. -/
def deletesNothing (pool : Pool backend Err ι α World) : Move ι Choice → Bool
  | .start _ => true
  | .advance index _ =>
      match pool.threads[index]? with
      | some ⟨_, _, .await (.store (.deleteAccount _)) _⟩ => false
      | _ => true

/-- The moves of a run in which no account is deleted. -/
def NoDeletion (pool : Pool backend Err ι α World) (move : Move ι Choice) :
    Prop :=
  deletesNothing pool move = true

/-- The event is inserted by a program that decided on exactly the events
before it. -/
structure DecidedInsert (pool next : BackendPool)
    (thread : Thread backend Err BackendRequest (Option Nat))
    (input : AppendEventInput) (event : StoredEvent) : Prop where
  running : thread ∈ pool.threads
  appending : ∃ resume, thread.program = .await (.store (.append input)) resume
  inserted : next.state.store.events = pool.state.store.events ++ [event]
  written : event.aggregateType = input.aggregateType ∧
    event.aggregateId = input.aggregateId ∧
    event.accountId = input.accountId ∧ event.data = input.data
  position : event.sequenceNumber =
    (pool.state.store.stream input.aggregateType
      input.aggregateId).length + 1
  lastSeen : thread.request.command.basis (readsOf input.params thread.history) =
    pool.state.store.stream input.aggregateType input.aggregateId
  allSeen : thread.request.command.usesOwnVersion = true →
    ∀ seen ∈ readsOf input.params thread.history,
      seen = pool.state.store.stream input.aggregateType input.aggregateId

variable {store after : EventStore} {history : BackendHistory}

theorem SeenInOrder.grown (seen : SeenInOrder store history)
    (sequenced : store.Sequenced) (sequencedAfter : after.Sequenced)
    (grows : store.Extends after) : SeenInOrder after history := by
  intro params
  refine ⟨(seen params).1, ?_⟩
  intro events member
  exact ((seen params).2 events member).trans
    (grows.readStream_prefix sequenced sequencedAfter params)

/-- A read answers with all that is there. -/
theorem SeenInOrder.answered (seen : SeenInOrder store history)
    {answered : Answered backend Err}
    (present : ∀ params events, readAnswer params answered = some events →
      events = store.readStream params) :
    SeenInOrder store (history ++ [answered]) := by
  intro params
  obtain ⟨ordered, prefixes⟩ := seen params
  rw [readsOf_append]
  cases read : readAnswer params answered with
  | none => simpa using ⟨ordered, prefixes⟩
  | some events =>
      have whole := present params events read
      constructor
      · apply List.pairwise_append.mpr
        refine ⟨ordered, by simp, ?_⟩
        intro earlier member later last
        simp only [Option.toList_some, List.mem_singleton] at last
        rw [last, whole]
        exact prefixes earlier member
      · intro other member
        rcases List.mem_append.mp member with old | new
        · exact prefixes other old
        · simp only [Option.toList_some, List.mem_singleton] at new
          have same : other = store.readStream params := new.trans whole
          exact same ▸ List.prefix_rfl

/-- What the basis of an append is a beginning of. -/
theorem SeenInOrder.begins_with_basis (seen : SeenInOrder store history)
    (command : BackendCommand) (params : ReadStreamParams) :
    command.basis (readsOf params history) <+: store.readStream params := by
  unfold BackendCommand.basis
  split
  · cases first : (readsOf params history).head? with
    | none => exact List.nil_prefix
    | some events =>
        exact (seen params).2 events (List.mem_of_head? first)
  · cases last : (readsOf params history).getLast? with
    | none => exact List.nil_prefix
    | some events =>
        exact (seen params).2 events (List.mem_of_getLast? last)

/-- If the first read was of the whole stream, then so were all others. -/
theorem SeenInOrder.all_whole (seen : SeenInOrder store history)
    {command : BackendCommand} (own : command.usesOwnVersion = true)
    {params : ReadStreamParams}
    (whole : store.readStream params =
      command.basis (readsOf params history)) :
    ∀ events ∈ readsOf params history, events = store.readStream params := by
  obtain ⟨ordered, prefixes⟩ := seen params
  intro events member
  simp only [BackendCommand.basis, own, if_true] at whole
  cases reads : readsOf params history with
  | nil => rw [reads] at member; cases member
  | cons first rest =>
      rw [reads] at member whole ordered prefixes
      simp only [List.head?_cons, Option.getD_some] at whole
      rcases List.mem_cons.mp member with same | later
      · rw [same, whole]
      · have longer := (List.pairwise_cons.mp ordered).1 events later
        have shorter := prefixes events member
        rw [whole] at shorter ⊢
        exact shorter.eq_of_length_le longer.length_le

variable {input : AppendEventInput} {event : StoredEvent}

section

variable {credentials : Credentials} {command : BackendCommand}
variable {pool : Pool backend Err ι α World}
variable {thread : Thread backend Err ι α}

omit [DecidableEq ι] in
/-- An insertion goes to the end of what its writer has seen of the stream. -/
theorem Sound.inserts (sound : Sound pool) (member : thread ∈ pool.threads)
    (decided : Decided credentials command thread.history
      (.store (.append input)))
    (appended : pool.state.store.append input = (.ok event, after)) :
    after.Sequenced ∧
      command.basis (readsOf input.params thread.history) =
        pool.state.store.stream input.aggregateType input.aggregateId ∧
      pool.state.store.readStream input.params =
        command.basis (readsOf input.params thread.history) ∧
      input.expectedSequenceNumber =
        (pool.state.store.stream input.aggregateType
          input.aggregateId).length + 1 := by
  obtain ⟨⟨positive, bound⟩, -⟩ := decided.1 input rfl
  have isPrefix := (sound.seen thread member).begins_with_basis
    command input.params
  exact sound.sequenced.inserts isPrefix positive bound appended

/-- Apart from appends and deletions the table does not change. -/
theorem keepsStore_of_ne {call : Call}
    (noAppend : ∀ input, call ≠ .store (.append input))
    (noDeletion : ∀ accountId, call ≠ .store (.deleteAccount accountId)) :
    call.keepsStore = true := by
  cases call with
  | store call =>
      cases call with
      | append input => exact absurd rfl (noAppend input)
      | deleteAccount accountId => exact absurd rfl (noDeletion accountId)
      | _ => rfl
  | _ => rfl

/-- A read answers with the whole stream. -/
theorem read_whole {call : Call} {choice : Choice}
    {answer : Except Err call.Answer} {before world : World}
    {params : ReadStreamParams} {events : List StoredEvent}
    (result : semantics call choice before = some (answer, world))
    (read : readAnswer params ⟨call, answer⟩ = some events) :
    events = world.store.readStream params := by
  unfold readAnswer at read
  split at read
  · rename_i asked found sameAnswered
    cases sameAnswered
    have same : world.store = before.store := store_frame result rfl
    obtain ⟨-, whole | ⟨-, message, failed⟩⟩ := readStream_step result
    · split at read
      · rename_i sameStream
        cases whole
        cases read
        rw [same, sameStream]
      · cases read
    · cases failed
  · cases read

omit [DecidableEq ι] in
/-- What one call of a program in progress does to the table. -/
theorem Sound.call (sound : Sound pool) (member : thread ∈ pool.threads)
    {call : Call} {choice : Choice} {answer : Except Err call.Answer}
    {world : World}
    (decided : Decided credentials command thread.history call)
    (noDeletion : ∀ accountId, call ≠ .store (.deleteAccount accountId))
    (result : semantics call choice pool.state = some (answer, world)) :
    world.store.Sequenced ∧ pool.state.store.Extends world.store ∧
      ∀ params events, readAnswer params ⟨call, answer⟩ = some events →
        events = world.store.readStream params := by
  suffices both : world.store.Sequenced ∧
      pool.state.store.Extends world.store from
    ⟨both.1, both.2, fun params events => read_whole result⟩
  by_cases noAppend : ∀ input, call ≠ .store (.append input)
  · rw [store_frame result (keepsStore_of_ne noAppend noDeletion)]
    exact ⟨sound.sequenced, .refl _⟩
  · simp only [not_forall, not_not] at noAppend
    obtain ⟨input, rfl⟩ := noAppend
    rcases append_step result with
      ⟨event, store, appended, rfl, -⟩ | ⟨rfl, -⟩
    · exact ⟨(sound.inserts member decided appended).1,
        EventStore.append_extends appended⟩
    · exact ⟨sound.sequenced, .refl _⟩

omit [DecidableEq ι] in
/-- The threads of any service whose requests decide as these commands do. -/
theorem NoDeletion.keeps {index : Nat} {choice : Choice} {request : ι}
    {history : BackendHistory} {call : Call}
    {resume : Except Err call.Answer → Backend α}
    (noDeletion : NoDeletion pool (.advance index choice))
    (found : pool.threads[index]? = some ⟨request, history, .await call resume⟩)
    (accountId : Id) : call ≠ .store (.deleteAccount accountId) := by
  rintro rfl
  simp [NoDeletion, deletesNothing, found] at noDeletion

theorem Sound.extends {service : Service backend Err ι α Choice World}
    (means : service.semantics = semantics) {commandOf : ι → BackendCommand}
    {next : Pool backend Err ι α World} {move : Move ι Choice}
    (sound : Sound pool)
    (traced : pool.Traced fun request =>
      Decided credentials (commandOf request))
    (noDeletion : NoDeletion pool move)
    (moved : pool.step service move = some next) :
    pool.state.store.Extends next.state.store := by
  cases move with
  | start request =>
      obtain ⟨-, -, rfl⟩ := Pool.step_start moved
      exact .refl _
  | advance index choice =>
      obtain ⟨request, history, call, resume, answer, world, found, result,
        rfl⟩ := Pool.step_advance moved
      rw [means] at result
      have member := List.mem_of_getElem? found
      exact (sound.call member (traced _ member).1 (noDeletion.keeps found)
        result).2.1

theorem Sound.step {service : Service backend Err ι α Choice World}
    (means : service.semantics = semantics) {commandOf : ι → BackendCommand}
    {next : Pool backend Err ι α World} {move : Move ι Choice}
    (sound : Sound pool)
    (traced : pool.Traced fun request =>
      Decided credentials (commandOf request))
    (noDeletion : NoDeletion pool move)
    (moved : pool.step service move = some next) : Sound next := by
  cases move with
  | start request =>
      obtain ⟨-, -, rfl⟩ := Pool.step_start moved
      refine ⟨sound.sequenced, ?_⟩
      intro thread member
      rcases List.mem_append.mp member with old | new
      · exact sound.seen thread old
      · rw [List.mem_singleton] at new
        subst new
        intro params
        exact ⟨List.Pairwise.nil, fun _ member => by cases member⟩
  | advance index choice =>
      obtain ⟨request, history, call, resume, answer, world, found, result,
        rfl⟩ := Pool.step_advance moved
      rw [means] at result
      have member := List.mem_of_getElem? found
      obtain ⟨sequenced, grows, present⟩ := sound.call member
        (traced _ member).1 (noDeletion.keeps found) result
      refine ⟨sequenced, ?_⟩
      intro thread memberAfter
      rcases List.mem_or_eq_of_mem_set memberAfter with old | new
      · exact (sound.seen thread old).grown sound.sequenced sequenced grows
      · subst new
        exact ((sound.seen _ member).grown sound.sequenced sequenced
          grows).answered present

/-- What the programs have read of a stream is true of it, as long as it does
not become false. -/
theorem knows_read {service : Service backend Err ι α Choice World}
    (means : service.semantics = semantics)
    {next : Pool backend Err ι α World} {move : Move ι Choice}
    {params : ReadStreamParams} {property : List StoredEvent → Prop}
    (known : pool.Knows
      (fun _ history => ∃ seen ∈ readsOf params history, property seen)
      fun world => property (world.store.readStream params))
    (persists : property (pool.state.store.readStream params) →
      property (next.state.store.readStream params))
    (moved : pool.step service move = some next) :
    next.Knows
      (fun _ history => ∃ seen ∈ readsOf params history, property seen)
      fun world => property (world.store.readStream params) := by
  apply known.step _ persists _ moved
  · intro request nothing
    obtain ⟨seen, member, -⟩ := nothing
    cases member
  · intro index choice request history call answer tells learnt
    obtain ⟨seen, member, holds⟩ := learnt
    rw [readsOf_append] at member
    rcases List.mem_append.mp member with old | new
    · exact .inl ⟨seen, old, holds⟩
    · right
      have result := tells.answered
      rw [means] at result
      rw [← read_whole result (Option.mem_toList.mp new)]
      exact holds

/-- A program in progress inserts an event. -/
structure Insertion (pool next : Pool backend Err ι α World) (index : Nat)
    (request : ι) (history : BackendHistory) (input : AppendEventInput)
    (event : StoredEvent) : Prop where
  running : ∃ resume, pool.threads[index]? =
    some ⟨request, history, .await (.store (.append input)) resume⟩
  appended : pool.state.store.append input = (.ok event, next.state.store)

/-- A step leaves the store as it is or inserts an event. -/
theorem NoDeletion.inserts {service : Service backend Err ι α Choice World}
    (means : service.semantics = semantics)
    {next : Pool backend Err ι α World} {move : Move ι Choice}
    (noDeletion : NoDeletion pool move)
    (moved : pool.step service move = some next) :
    next.state.store = pool.state.store ∨
      ∃ index choice request history input event,
        move = .advance index choice ∧
        Insertion pool next index request history input event := by
  cases move with
  | start request =>
      obtain ⟨-, -, rfl⟩ := Pool.step_start moved
      exact .inl rfl
  | advance index choice =>
      obtain ⟨request, history, call, resume, answer, world, found, result,
        rfl⟩ := Pool.step_advance moved
      rw [means] at result
      by_cases noAppend : ∀ input, call ≠ .store (.append input)
      · exact .inl (store_frame result
          (keepsStore_of_ne noAppend (noDeletion.keeps found)))
      · simp only [not_forall, not_not] at noAppend
        obtain ⟨input, rfl⟩ := noAppend
        rcases append_step result with
          ⟨event, store, appended, rfl, -⟩ | ⟨rfl, -⟩
        · exact .inr ⟨index, choice, request, history, input, event, rfl,
            ⟨resume, found⟩, appended⟩
        · exact .inl rfl

end

variable {deps : BackendDeps} {pool next : BackendPool}
variable {thread : Thread backend Err BackendRequest (Option Nat)}

/-- What each command is allowed: to append what it has decided. -/
abbrev Decides (deps : BackendDeps) (request : BackendRequest) :
    BackendHistory → Call → Prop :=
  Decided deps.ipClients.credentials request.command

theorem Sound.decidedInsert (sound : Sound pool)
    (member : thread ∈ pool.threads)
    (appending : ∃ resume,
      thread.program = .await (.store (.append input)) resume)
    (decided : Decides deps thread.request thread.history
      (.store (.append input)))
    (appended : pool.state.store.append input = (.ok event, after))
    (stored : next.state.store = after) :
    DecidedInsert pool next thread input event := by
  obtain ⟨-, whole, same, expected⟩ := sound.inserts member decided appended
  rcases EventStore.append_cases appended with
    ⟨inserted, answered, ofType, ofId, atPosition, ofAccount, ofData, -, -,
      table⟩ | ⟨conflict, -⟩
  · cases answered
    refine ⟨member, appending, ?_, ⟨ofType, ofId, ofAccount, ofData⟩,
      atPosition.trans expected, whole, ?_⟩
    · rw [stored, table]
    · intro own seen read
      have all := (sound.seen thread member).all_whole own same seen read
      rw [all, same, whole]
  · cases conflict

theorem programs_traced {initial : World}
    {allowed : BackendPool → Move BackendRequest Choice → Prop}
    (run : Pool.Run (backendService deps) allowed ⟨initial, []⟩ pool) :
    pool.Traced (Decides deps) :=
  run.traced fun request => command_decides deps request.now request.command

theorem Sound.run {initial : World} (start : initial.store.Sequenced)
    (run : Pool.Run (backendService deps) NoDeletion ⟨initial, []⟩ pool) :
    Sound pool := by
  suffices both : Sound pool ∧ pool.Traced (Decides deps) from both.1
  apply run.invariant
  · exact ⟨⟨start, fun _ member => by cases member⟩,
      fun _ member => by cases member⟩
  · intro pool move next both noDeletion moved
    refine ⟨both.1.step rfl both.2 noDeletion moved, both.2.step ?_ moved⟩
    exact fun request => command_decides deps request.now request.command

/-- The call this move makes is an append that throws, and its answer was not
lost on the way. -/
def FailedAppend (pool next : BackendPool) :
    Move BackendRequest Choice → Prop
  | .start _ => False
  | .advance index choice => ∃ request history input resume error program,
      pool.threads[index]? =
        some ⟨request, history, .await (.store (.append input)) resume⟩ ∧
      next.threads[index]? = some ⟨request,
        history ++ [⟨.store (.append input), .error error⟩], program⟩ ∧
      ∀ message, choice.fate ≠ .lost message

theorem failed_append_unchanged {move : Move BackendRequest Choice}
    (moved : pool.step (backendService deps) move = some next)
    (failed : FailedAppend pool next move) :
    next.state.store = pool.state.store := by
  cases move with
  | start request => exact failed.elim
  | advance index choice =>
      obtain ⟨request, history, input, resume, error, program, found, atNext,
        notLost⟩ := failed
      obtain ⟨_, _, _, _, answer, world, found', result, rfl⟩ :=
        Pool.step_advance moved
      rw [found] at found'
      cases found'
      have inBounds := (List.getElem?_eq_some_iff.mp found).1
      rw [List.getElem?_set_self inBounds] at atNext
      have answered :
          answer = .error error ∧ resume answer = program := by
        simpa using atNext
      rcases append_step result with
        ⟨event, store, -, -, ⟨returned, -⟩ | ⟨message, lost, -⟩⟩ | ⟨rfl, -⟩
      · cases answered.1.symm.trans returned
      · exact absurd lost (notLost message)
      · rfl

/-- Optimistic concurrency is sound.  In every run of the whole backend from
a numbered store, as long as no account is deleted: every stream is numbered
1, 2, 3, …; an append that fails leaves the store as it was; and a step that
changes the store inserts one event at the end of its stream, appended by a
program that has read exactly the events before it. -/
theorem optimistic_concurrency_sound {initial : World}
    (start : initial.store.Sequenced)
    (run : Pool.Run (backendService deps) NoDeletion ⟨initial, []⟩ pool)
    {move : Move BackendRequest Choice} (noDeletion : NoDeletion pool move)
    (moved : pool.step (backendService deps) move = some next) :
    next.state.store.Sequenced ∧
      (FailedAppend pool next move →
        next.state.store = pool.state.store) ∧
      (next.state.store = pool.state.store ∨
        ∃ thread input event, DecidedInsert pool next thread input event) := by
  have sound := Sound.run start run
  have traced := programs_traced run
  have after := sound.step rfl traced noDeletion moved
  refine ⟨after.sequenced, failed_append_unchanged moved, ?_⟩
  cases move with
  | start request =>
      obtain ⟨-, -, rfl⟩ := Pool.step_start moved
      exact Or.inl rfl
  | advance index choice =>
      obtain ⟨request, history, call, resume, answer, world, found, result,
        rfl⟩ := Pool.step_advance moved
      have member := List.mem_of_getElem? found
      by_cases noAppend : ∀ input, call ≠ .store (.append input)
      · have kept : ∀ accountId, call ≠ .store (.deleteAccount accountId) := by
          rintro accountId rfl
          simp [NoDeletion, deletesNothing, found] at noDeletion
        exact Or.inl (store_frame result (keepsStore_of_ne noAppend kept))
      · simp only [not_forall, not_not] at noAppend
        obtain ⟨input, rfl⟩ := noAppend
        rcases append_step result with
          ⟨event, store, appended, rfl, -⟩ | ⟨rfl, -⟩
        · exact Or.inr ⟨_, input, event, sound.decidedInsert member
            ⟨resume, rfl⟩ (traced _ member).1 appended rfl⟩
        · exact Or.inl rfl

/-- A new account is provisioned: the first event of its stream is inserted on
having seen none. -/
theorem optimistic_concurrency_sound_provision :
    ∃ pool next : BackendPool, next.state.store.events.length = 1 ∧
      next.state.store.Sequenced ∧
      (FailedAppend pool next (.advance 0 .ok) →
        next.state.store = pool.state.store) ∧
      (next.state.store = pool.state.store ∨
        ∃ thread input event,
          DecidedInsert pool next thread input event) := by
  have ends : (((⟨{}, []⟩ : BackendPool).follow
      (backendService exampleBackendDeps) deletesNothing
      [.start provisionRequest, .advance 0 .ok]).bind fun pool =>
        if deletesNothing pool (.advance 0 .ok) then
          (pool.step (backendService exampleBackendDeps) (.advance 0 .ok)).map
            fun next => next.state.store.events.length
        else none) = some 1 := by
    decide +kernel
  obtain ⟨pool, followed, moves⟩ := Option.bind_eq_some_iff.mp ends
  split at moves
  · rename_i noDeletion
    obtain ⟨next, moved, one⟩ := Option.map_eq_some_iff.mp moves
    have run := Pool.run_of_follow (fun _ _ passed => passed) followed
    exact ⟨pool, next, one, optimistic_concurrency_sound
      EventStore.empty_sequenced run noDeletion moved⟩
  · cases moves

end FluxIP
