import FluxIP.Adapters.Turns
import FluxIP.Async.Machine
import FluxIP.Guarantees.MutexOrder

/-!
# The keyed mutex is a ticket lock

The programs of the backend take turns by tickets: `join` draws one, `turn`
waits until it is first in line, `leave` gives it back.  The keyed mutex has no
lines, only chained promises.  Here each of its moves is followed on the lines
of a world, while the rest of the process goes on.
-/

namespace FluxIP

open Async

variable {κ ε α : Type} [DecidableEq κ]

/-- Those of a key whose functions have not ended, in the order of their
calls. -/
def KeyedMutexState.line (mutex : KeyedMutexState κ ε α) (key : κ) : List Nat :=
  (List.range mutex.calls).filter fun index =>
    mutex.keyOf index = some key && (mutex.fnResult index).isNone

/-- A world with the tickets that runs have drawn, in the order of the runs, and
those whose turn came, in that order. -/
structure TicketLock where
  world : World
  tickets : List Nat := []
  turns : List Nat := []

namespace TicketLock

def ticketOf (lock : TicketLock) (index : Nat) : Nat :=
  lock.tickets.getD index 0

def join (lock : TicketLock) (key : MutexKey) : Option TicketLock :=
  ((MemoryCall.join key).effect lock.world).map fun (ticket, world) =>
    { lock with world, tickets := lock.tickets.concat ticket }

def turn (lock : TicketLock) (key : MutexKey) (index : Nat) :
    Option TicketLock :=
  ((MemoryCall.turn key (lock.ticketOf index)).effect lock.world).map
    fun (_, world) =>
      { lock with world, turns := lock.turns ++ [lock.ticketOf index] }

def leave (lock : TicketLock) (key : MutexKey) (index : Nat) :
    Option TicketLock :=
  ((MemoryCall.leave key (lock.ticketOf index)).effect lock.world).map
    fun (_, world) => { lock with world }

def joins (lock : TicketLock) (keys : List MutexKey) : Option TicketLock :=
  keys.foldlM join lock

/-- A function has its turn; it leaves at once if it throws. -/
def call (lock : TicketLock) (key : MutexKey) (index : Nat)
    (nested : List MutexKey) (called : Except ε Unit) : Option TicketLock := do
  let lock ← lock.turn key index
  let lock ← lock.joins nested
  match called with
  | .ok _ => some lock
  | .error _ => lock.leave key index

/-- What a move of the mutex asks of the lock. -/
def follow (lock : TicketLock) (name : κ → MutexKey)
    (mutex : KeyedMutexState κ ε α) : MutexMove κ ε α → Option TicketLock
  | .run key => lock.join (name key)
  | .settleFn index _ =>
      if (mutex.fnResult index).isSome then some lock
      else (mutex.keyOf index).bind fun key => lock.leave (name key) index
  | .microtask nested called =>
      match mutex.promises.jobs.head? with
      | some (.react (.call (.fn index)) _) =>
          (mutex.keyOf index).bind fun key =>
            lock.call (name key) index (nested.map name) called
      | _ => some lock

theorem joined (lock : TicketLock) (key : MutexKey) :
    ∃ next, lock.join key = some next ∧
      next.tickets = lock.tickets ++ [lock.world.mutexes.nextTicket] ∧
      next.turns = lock.turns ∧
      next.world.mutexes =
        { lock.world.mutexes.setLine key (lock.world.mutexes.waiting key ++
            [lock.world.mutexes.nextTicket]) with
          nextTicket := lock.world.mutexes.nextTicket + 1 } :=
  ⟨_, rfl, List.concat_eq_append, rfl, rfl⟩

theorem turned {lock : TicketLock} {key : MutexKey} {index : Nat}
    (first : (lock.world.mutexes.waiting key).head? =
      some (lock.ticketOf index)) :
    lock.turn key index =
      some { lock with turns := lock.turns ++ [lock.ticketOf index] } := by
  unfold TicketLock.turn
  rw [show (MemoryCall.turn key (lock.ticketOf index)).effect lock.world =
    some ((), lock.world) from if_pos first]
  rfl

theorem left (lock : TicketLock) (key : MutexKey) (index : Nat) :
    ∃ next, lock.leave key index = some next ∧ next.tickets = lock.tickets ∧
      next.turns = lock.turns ∧
      next.world.mutexes = lock.world.mutexes.setLine key
        ((lock.world.mutexes.waiting key).erase (lock.ticketOf index)) :=
  ⟨_, rfl, rfl, rfl, rfl⟩

end TicketLock

/-- What the rest of the process does to the world: not to the lines of the
mutex, and no ticket is given back to be drawn again. -/
structure OtherWork (name : κ → MutexKey) where
  change : World → World
  lines : ∀ world key, (change world).mutexes.waiting (name key) =
    world.mutexes.waiting (name key)
  tickets : ∀ world,
    world.mutexes.nextTicket ≤ (change world).mutexes.nextTicket

theorem nextTicket_le {call : Call} {choice : Choice} {world after : World}
    {answer : Except Err call.Answer}
    (result : semantics call choice world = some (answer, after)) :
    world.mutexes.nextTicket ≤ after.mutexes.nextTicket := by
  -- a call is a step on one line at most
  have aside : call.stepsOn (.providerStore 0) = false ∨
      call.stepsOn (.publisher 0) = false := by
    cases call with
    | memory call =>
        cases call with
        | join key => cases key <;> simp [Call.stepsOn]
        | turn key ticket => cases key <;> simp [Call.stepsOn]
        | leave key ticket => cases key <;> simp [Call.stepsOn]
        | _ => exact .inl rfl
    | _ => exact .inl rfl
  rcases aside with aside | aside
  · exact (line_aside result aside).2
  · exact (line_aside result aside).2

/-- A call of the backend that is no step on these lines. -/
def OtherWork.ofCall {name : κ → MutexKey} (call : Call) (choice : Choice)
    (aside : ∀ key, call.stepsOn (name key) = false) : OtherWork name where
  change world :=
    match semantics call choice world with
    | some (_, after) => after
    | none => world
  lines world key := by
    split
    · rename_i result
      exact (line_aside result (aside key)).1
    · rfl
  tickets world := by
    split
    · rename_i result
      exact nextTicket_le result
    · exact Nat.le_refl _

/-- The mutex while the rest of the process goes on. -/
def KeyedMutexState.stepBeside {name : κ → MutexKey}
    (mutex : KeyedMutexState κ ε α) :
    MutexMove κ ε α ⊕ OtherWork name → Option (KeyedMutexState κ ε α)
  | .inl move => mutex.step move
  | .inr _ => some mutex

/-- The mutex with the lock that follows it. -/
def TicketLock.stepBeside {name : κ → MutexKey}
    (both : KeyedMutexState κ ε α × TicketLock) :
    MutexMove κ ε α ⊕ OtherWork name →
      Option (KeyedMutexState κ ε α × TicketLock)
  | .inl move =>
      (both.1.step move).bind fun mutex =>
        (both.2.follow name both.1 move).map (mutex, ·)
  | .inr other =>
      some (both.1, { both.2 with world := other.change both.2.world })

namespace KeyedMutexState

variable {mutex later : KeyedMutexState κ ε α} {index other : Nat}
variable {exempt : MutexReaction → Prop} {entry : MutexRun κ ε α}
variable {key : κ} {nested : List κ} {called : Except ε Unit}

/-! ## The promises of the functions -/

theorem returned_run : (mutex.run key).promises.result (.returned index) =
    mutex.promises.result (.returned index) := by
  rw [run_result]
  unfold KeyedMutexState.previous
  split
  · rfl
  · exact Promises.result_settle_ne (by simp)

theorem returned_nested : (nested.foldl run mutex).promises.result
    (.returned index) = mutex.promises.result (.returned index) := by
  induction nested generalizing mutex with
  | nil => rfl
  | cons key keys ih => exact ih.trans returned_run

theorem returned_callFn :
    (mutex.callFn index nested called).promises.result (.returned other) =
      mutex.promises.result (.returned other) := by
  have begun : (nested.foldl run (mutex.begin index)).promises.result
      (.returned other) = mutex.promises.result (.returned other) :=
    returned_nested
  cases called with
  | ok value => exact begun
  | error error =>
      exact (Promises.result_settle_ne (by simp)).trans begun

theorem returned_finish {outcome : Except ε (Option α)} :
    (mutex.finish index outcome).promises = mutex.promises := by
  unfold KeyedMutexState.finish
  split <;> rfl

/-- Microtasks settle no promise that a function has returned. -/
theorem Invariant.returned_microtask
    (invariant : mutex.Invariant fun _ => False)
    (does : mutex.Does nested called later) :
    later.promises.result (.returned index) =
      mutex.promises.result (.returned index) := by
  cases does with
  | adopt first => exact Promises.result_react
  | resolve first =>
      obtain ⟨_, -, _, _, -, rfl, -⟩ :=
        invariant.queued _ _ (List.mem_of_mem_head? first)
      exact Promises.result_settle_ne (by simp)
  | fn first => exact returned_callFn
  | swallow first => exact Promises.result_settle_ne (by simp)
  | resume first => rw [returned_finish]; rfl

/-- Only functions that were called have a promise that settles. -/
theorem Reachable.returned_called (reachable : mutex.Reachable) (index : Nat)
    (settled : mutex.promises.result (.returned index) ≠ none) :
    mutex.calledOf index = some (.ok ()) := by
  induction reachable with
  | initial => exact absurd rfl settled
  | @step mutex next move before moves ih =>
      cases move with
      | run key =>
          cases moves
          rw [(quiet_run before.invariant.runs_calls).called]
          exact ih (by rwa [returned_run] at settled)
      | settleFn ended result =>
          change mutex.settleFn ended result = some next at moves
          unfold KeyedMutexState.settleFn at moves
          split at moves
          · rename_i value isCalled
            cases moves
            by_cases same : index = ended
            · subst same
              exact isCalled
            · refine ih ?_
              rwa [Promises.result_settle_ne (by simpa using same)] at settled
          · cases moves
      | microtask nested called =>
          have does := does_of_microtask moves
          rw [before.invariant.returned_microtask does] at settled
          have known := ih settled
          cases does with
          | adopt first => exact known
          | resolve first => exact known
          | fn first =>
              obtain ⟨entry, ready⟩ := before.invariant.ready first
              obtain ⟨-, -, others, -⟩ :=
                (before.invariant.dequeue first).1.called_callFn ready nested
                  called
              rw [others index, calledOf_withPromises]
              · exact known
              · rintro rfl
                unfold calledOf at known
                rw [show mutex.runs _ = some entry from ready.found] at known
                exact Option.some_ne_none _ (known.symm.trans ready.uncalled)
          | swallow first => exact known
          | resume first => exact (quiet_finish.called index).trans known

/-! ## The lines -/

theorem mem_line : index ∈ mutex.line key ↔ index < mutex.calls ∧
    mutex.keyOf index = some key ∧ mutex.fnResult index = none := by
  simp [line]

theorem line_nodup : (mutex.line key).Nodup :=
  List.nodup_range.filter _

/-- The lines are those of the runs, their keys and what has ended. -/
theorem line_congr (calls : later.calls = mutex.calls)
    (keys : ∀ index, later.keyOf index = mutex.keyOf index)
    (results : ∀ index, later.fnResult index = mutex.fnResult index) :
    later.line key = mutex.line key := by
  unfold line
  rw [calls]
  refine List.filter_congr fun index _ => ?_
  rw [keys, results]

omit [DecidableEq κ] in
theorem fnResult_congr (isCalled : later.calledOf index = mutex.calledOf index)
    (returned : later.promises.result (.returned index) =
      mutex.promises.result (.returned index)) :
    later.fnResult index = mutex.fnResult index := by
  unfold calledOf at isCalled
  unfold fnResult
  rw [isCalled, returned]

/-- A function that has ended leaves its line. -/
theorem line_ended (calls : later.calls = mutex.calls)
    (keys : ∀ other, later.keyOf other = mutex.keyOf other)
    (others : ∀ other, other ≠ index →
      later.fnResult other = mutex.fnResult other)
    (ended : (later.fnResult index).isSome) :
    later.line key = (mutex.line key).filter (· != index) := by
  unfold line
  rw [calls, List.filter_filter]
  refine List.filter_congr fun other _ => ?_
  by_cases same : other = index
  · subst same
    simp [ended]
  · rw [keys, others other same, bne_iff_ne.mpr same, Bool.true_and]

/-- A call of `run` is last in the line of its key. -/
theorem Invariant.line_run (invariant : mutex.Invariant exempt) (other : κ) :
    (mutex.run key).line other =
      mutex.line other ++ if other = key then [mutex.calls] else [] := by
  have fresh := invariant.runs_calls
  have olds : ∀ index ∈ List.range mutex.calls,
      ((mutex.run key).keyOf index = some other &&
        ((mutex.run key).fnResult index).isNone : Bool) =
      (mutex.keyOf index = some other && (mutex.fnResult index).isNone : Bool) := by
    intro index member
    have old := Nat.ne_of_lt (List.mem_range.mp member)
    have result : (mutex.run key).fnResult index = mutex.fnResult index :=
      fnResult_congr ((quiet_run fresh).called index) returned_run
    have ofKey : (mutex.run key).keyOf index = mutex.keyOf index := by
      unfold keyOf
      rw [run_runs_of_ne old]
    rw [result, ofKey]
  have new : (mutex.run key).keyOf mutex.calls = some key := by
    unfold keyOf
    rw [run_runs_self]
    rfl
  have pending : (mutex.run key).fnResult mutex.calls = none := by
    unfold fnResult
    rw [run_runs_self]
    rfl
  unfold line
  change List.filter _ (List.range (mutex.calls + 1)) = _
  rw [List.range_succ, List.filter_append, List.filter_congr olds,
    List.filter_singleton, new, pending]
  congr 1
  by_cases same : other = key
  · simp [same]
  · simp [same, Ne.symm same]

omit [DecidableEq κ] in
/-- What the note of a call changes. -/
theorem noted {promises : MutexPromises ε α}
    (found : mutex.runs index = some entry) :
    (∀ other, ((mutex.setCalled index called).withPromises promises).keyOf
      other = mutex.keyOf other) ∧
    ((mutex.setCalled index called).withPromises promises).calledOf index =
      some called ∧
    ∀ other, other ≠ index →
      ((mutex.setCalled index called).withPromises promises).calledOf other =
        mutex.calledOf other := by
  rw [setCalled_eq found]
  refine ⟨fun other => ?_, ?_, fun other different => ?_⟩
  · rw [keyOf_withPromises]
    exact keyOf_withRun found rfl
  · rw [calledOf_withPromises]
    exact calledOf_withRun_self
  · rw [calledOf_withPromises]
    exact calledOf_withRun_of_ne different

omit [DecidableEq κ] in
theorem fnResult_uncalled (found : mutex.runs index = some entry)
    (uncalled : entry.called = none) : mutex.fnResult index = none := by
  unfold fnResult
  rw [found, Option.bind_some, uncalled]

/-- A function that returns its promise is still in its line. -/
theorem line_returned {promises : MutexPromises ε α}
    (found : mutex.runs index = some entry) (uncalled : entry.called = none)
    (pending : promises.result (.returned index) = none)
    (returned : ∀ other, promises.result (.returned other) =
      mutex.promises.result (.returned other)) :
    ((mutex.setCalled index (.ok ())).withPromises promises).line key =
      mutex.line key := by
  obtain ⟨keys, self, others⟩ := noted found
  refine line_congr rfl keys fun other => ?_
  by_cases same : other = index
  · subst same
    rw [fnResult_uncalled found uncalled, fnResult_of_called self]
    exact pending
  · exact fnResult_congr (others other same) (returned other)

theorem line_thrown {promises : MutexPromises ε α} {error : ε}
    (found : mutex.runs index = some entry)
    (returned : ∀ other, promises.result (.returned other) =
      mutex.promises.result (.returned other)) :
    ((mutex.setCalled index (.error error)).withPromises promises).line key =
      (mutex.line key).filter (· != index) := by
  obtain ⟨keys, self, others⟩ := noted found
  refine line_ended rfl keys ?_ ?_
  · exact fun other different =>
      fnResult_congr (others other different) (returned other)
  · unfold calledOf at self
    unfold fnResult
    rw [self]
    rfl

/-- A function whose promise settles leaves its line. -/
theorem line_settled {outcome : Except ε (Option α)}
    (isCalled : mutex.calledOf index = some (.ok ())) :
    (mutex.withPromises (mutex.promises.settle (.returned index) outcome)).line
      key = (mutex.line key).filter (· != index) := by
  refine line_ended rfl (fun _ => rfl) (fun other different => ?_) ?_
  · exact fnResult_congr rfl
      (Promises.result_settle_ne (by simpa using different))
  · have still : (mutex.withPromises
        (mutex.promises.settle (.returned index) outcome)).calledOf index =
          some (.ok ()) := isCalled
    rw [fnResult_of_called still]
    exact Option.isSome_iff_ne_none.mpr settled_settle_self

/-- A function that may be called is first in its line. -/
theorem Invariant.head_of_ready (invariant : mutex.Invariant exempt)
    (ready : mutex.Ready index entry) :
    (mutex.line entry.key).head? = some index := by
  have notYet := fnResult_uncalled ready.found ready.uncalled
  have ofKey : mutex.keyOf index = some entry.key := by
    unfold keyOf
    rw [ready.found]
    rfl
  unfold line
  rw [List.head?_filter, List.find?_range_eq_some]
  refine ⟨by simp [ofKey, notYet], ?_, fun before isBefore => ?_⟩
  · exact List.mem_range.mpr (invariant.bounded index entry ready.found)
  · rw [Bool.not_eq_true', Bool.and_eq_false_iff]
    by_cases same : mutex.keyOf before = some entry.key
    · obtain ⟨earlier, found, sameKey⟩ := exists_of_keyOf same
      have settled := invariant.before_settled ready.found ready.settled before
        earlier isBefore found sameKey
      obtain ⟨result, known⟩ := Option.ne_none_iff_exists'.mp settled
      rw [invariant.next before result known]
      exact .inr rfl
    · exact .inl (decide_eq_false same)

/-- When nothing is left to run, the first in each line has been called. -/
theorem Invariant.head_called (invariant : mutex.Invariant fun _ => False)
    (idle : mutex.promises.jobs = [])
    (first : (mutex.line key).head? = some index) :
    mutex.calledOf index ≠ none := by
  unfold line at first
  rw [List.head?_filter, List.find?_range_eq_some] at first
  obtain ⟨isFirst, -, before⟩ := first
  rw [Bool.and_eq_true, decide_eq_true_iff] at isFirst
  obtain ⟨entry, found, ofKey⟩ := exists_of_keyOf isFirst.1
  unfold calledOf
  rw [found]
  refine (invariant.idle idle found).1 fun earlier isBefore sameKey => ?_
  have ended := before earlier isBefore
  rw [sameKey, ofKey] at ended
  simpa using ended

end KeyedMutexState

/-! ## The lock follows the mutex -/

/-- The lines of the world are those of the mutex, ticket for run, and turns
came in the order in which functions were called. -/
structure Mirrors (name : κ → MutexKey) (mutex : KeyedMutexState κ ε α)
    (lock : TicketLock) : Prop where
  drawn : lock.tickets.length = mutex.calls
  increasing : lock.tickets.Pairwise (· < ·)
  bounded : ∀ ticket ∈ lock.tickets, ticket < lock.world.mutexes.nextTicket
  lines : ∀ key, lock.world.mutexes.waiting (name key) =
    (mutex.line key).map lock.ticketOf
  begun : ∀ index ∈ mutex.started, index < mutex.calls
  turns : lock.turns = mutex.started.map lock.ticketOf

namespace Mirrors

open KeyedMutexState

variable {name : κ → MutexKey} {mutex later : KeyedMutexState κ ε α}
variable {lock : TicketLock} {key : κ} {index : Nat}
variable {exempt : MutexReaction → Prop}

theorem initial {world : World}
    (empty : ∀ key, world.mutexes.waiting (name key) = []) :
    Mirrors name ({} : KeyedMutexState κ ε α) ⟨world, [], []⟩ :=
  ⟨rfl, .nil, fun _ member => (by cases member), empty,
    fun _ member => (by cases member), rfl⟩

/-- The mutex goes on, but not its lines. -/
theorem same (mirrors : Mirrors name mutex lock)
    (calls : later.calls = mutex.calls) (started : later.started = mutex.started)
    (lines : ∀ key, later.line key = mutex.line key) :
    Mirrors name later lock where
  drawn := mirrors.drawn.trans calls.symm
  increasing := mirrors.increasing
  bounded := mirrors.bounded
  lines key := by
    rw [lines]
    exact mirrors.lines key
  begun := by
    rw [started, calls]
    exact mirrors.begun
  turns := by
    rw [started]
    exact mirrors.turns

theorem elsewhere (mirrors : Mirrors name mutex lock) (other : OtherWork name) :
    Mirrors name mutex { lock with world := other.change lock.world } where
  drawn := mirrors.drawn
  increasing := mirrors.increasing
  bounded ticket member :=
    Nat.lt_of_lt_of_le (mirrors.bounded ticket member) (other.tickets _)
  lines key := (other.lines _ key).trans (mirrors.lines key)
  begun := mirrors.begun
  turns := mirrors.turns

theorem ticketOf_inj (mirrors : Mirrors name mutex lock) {other : Nat}
    (isRun : index < mutex.calls) (alsoRun : other < mutex.calls)
    (same : lock.ticketOf index = lock.ticketOf other) : index = other := by
  rw [← mirrors.drawn] at isRun alsoRun
  have nodup : lock.tickets.Nodup :=
    mirrors.increasing.imp fun less => Nat.ne_of_lt less
  unfold TicketLock.ticketOf at same
  rw [List.getD_eq_getElem?_getD, List.getElem?_eq_getElem isRun,
    List.getD_eq_getElem?_getD, List.getElem?_eq_getElem alsoRun] at same
  exact (nodup.getElem_inj_iff).mp same

omit [DecidableEq κ] in
/-- Those that have drawn keep their tickets. -/
theorem ticketOf_append {next : TicketLock} {rest : List Nat}
    (tickets : next.tickets = lock.tickets ++ rest)
    (isRun : index < lock.tickets.length) :
    next.ticketOf index = lock.ticketOf index := by
  unfold TicketLock.ticketOf
  rw [tickets, List.getD_eq_getElem?_getD, List.getElem?_append_left isRun,
    ← List.getD_eq_getElem?_getD]

/-- A call of `run` draws a ticket and is last in the line of its key. -/
theorem join (mirrors : Mirrors name mutex lock)
    (distinct : Function.Injective name) (invariant : mutex.Invariant exempt)
    (key : κ) : ∃ next, lock.join (name key) = some next ∧
      Mirrors name (mutex.run key) next := by
  obtain ⟨next, joined, tickets, turns, mutexes⟩ := lock.joined (name key)
  have kept : ∀ index, index < mutex.calls →
      next.ticketOf index = lock.ticketOf index := fun index isRun =>
    ticketOf_append tickets (mirrors.drawn ▸ isRun)
  have own : next.ticketOf mutex.calls = lock.world.mutexes.nextTicket := by
    unfold TicketLock.ticketOf
    rw [tickets, ← mirrors.drawn, List.getD_eq_getElem?_getD,
      List.getElem?_concat_length]
    rfl
  refine ⟨next, joined, ?_, ?_, ?_, fun other => ?_, ?_, ?_⟩
  · rw [tickets, List.length_append, mirrors.drawn]
    rfl
  · rw [tickets]
    refine List.pairwise_append.mpr
      ⟨mirrors.increasing, List.pairwise_singleton _ _, ?_⟩
    intro ticket member last isLast
    rw [List.mem_singleton.mp isLast]
    exact mirrors.bounded ticket member
  · intro ticket member
    rw [tickets] at member
    rw [mutexes]
    refine Nat.lt_succ_of_le ?_
    rcases List.mem_append.mp member with old | new
    · exact Nat.le_of_lt (mirrors.bounded ticket old)
    · exact Nat.le_of_eq (List.mem_singleton.mp new)
  · have olds : (mutex.line other).map next.ticketOf =
        lock.world.mutexes.waiting (name other) := by
      rw [mirrors.lines]
      exact List.map_congr_left fun index member =>
        kept index (mem_line.mp member).1
    rw [invariant.line_run, List.map_append, olds, mutexes]
    by_cases same : other = key
    · subst same
      simp [Mutexes.setLine, own]
    · simp [Mutexes.setLine, same, distinct.ne same]
  · exact fun index member => Nat.lt_succ_of_lt (mirrors.begun index member)
  · rw [turns, mirrors.turns]
    exact (List.map_congr_left fun index member =>
      kept index (mirrors.begun index member)).symm

theorem joins (mirrors : Mirrors name mutex lock)
    (distinct : Function.Injective name) (invariant : mutex.Invariant exempt)
    (keys : List κ) : ∃ next, lock.joins (keys.map name) = some next ∧
      Mirrors name (keys.foldl KeyedMutexState.run mutex) next := by
  induction keys generalizing mutex lock with
  | nil => exact ⟨lock, rfl, mirrors⟩
  | cons key keys ih =>
      obtain ⟨middle, joined, mirrored⟩ := mirrors.join distinct invariant key
      obtain ⟨next, further, mirrors⟩ := ih mirrored (invariant.run key)
      refine ⟨next, ?_, mirrors⟩
      unfold TicketLock.joins
      rw [List.map_cons, List.foldlM_cons, joined]
      exact further

/-- A function that is called has its turn. -/
theorem turn (mirrors : Mirrors name mutex lock) (isRun : index < mutex.calls)
    (first : (mutex.line key).head? = some index) :
    ∃ next, lock.turn (name key) index = some next ∧
      Mirrors name (mutex.begin index) next := by
  have isFirst : (lock.world.mutexes.waiting (name key)).head? =
      some (lock.ticketOf index) := by
    rw [mirrors.lines, List.head?_map, first]
    rfl
  refine ⟨_, TicketLock.turned isFirst, mirrors.drawn, mirrors.increasing,
    mirrors.bounded, mirrors.lines, ?_, ?_⟩
  · intro other member
    rcases List.mem_append.mp member with old | new
    · exact mirrors.begun other old
    · exact List.mem_singleton.mp new ▸ isRun
  · change lock.turns ++ _ = (mutex.started ++ [index]).map lock.ticketOf
    rw [List.map_append, mirrors.turns]
    rfl

/-- A function that has ended gives its ticket back. -/
theorem leave (mirrors : Mirrors name mutex lock)
    (distinct : Function.Injective name) (isRun : index < mutex.calls)
    (ofKey : mutex.keyOf index = some key)
    (calls : later.calls = mutex.calls) (started : later.started = mutex.started)
    (lines : ∀ key, later.line key = (mutex.line key).filter (· != index)) :
    ∃ next, lock.leave (name key) index = some next ∧
      Mirrors name later next := by
  obtain ⟨next, left, tickets, turns, mutexes⟩ := lock.left (name key) index
  have kept : next.ticketOf = lock.ticketOf := by
    funext other
    unfold TicketLock.ticketOf
    rw [tickets]
  refine ⟨next, left, ?_, tickets ▸ mirrors.increasing, ?_, fun other => ?_, ?_,
    ?_⟩
  · rw [tickets, calls, mirrors.drawn]
  · rw [tickets, mutexes]
    exact mirrors.bounded
  · rw [mutexes, lines, kept]
    by_cases same : other = key
    · subst same
      have nodup : ((mutex.line other).map lock.ticketOf).Nodup :=
        line_nodup.map_on fun first left second right =>
          mirrors.ticketOf_inj (mem_line.mp left).1 (mem_line.mp right).1
      change Function.update _ _ _ _ = _
      rw [Function.update_self, mirrors.lines, nodup.erase_eq_filter,
        List.filter_map]
      refine congrArg _ (List.filter_congr fun member here => ?_)
      have iff : lock.ticketOf member = lock.ticketOf index ↔ member = index :=
        ⟨mirrors.ticketOf_inj (mem_line.mp here).1 isRun, fun same => same ▸ rfl⟩
      simp [iff, bne]
    · change Function.update _ _ _ _ = _
      rw [Function.update_of_ne (distinct.ne same), mirrors.lines,
        List.filter_eq_self.mpr]
      intro member here
      refine bne_iff_ne.mpr fun isIndex => same ?_
      exact Option.some.inj
        ((isIndex ▸ (mem_line.mp here).2.1).symm.trans ofKey)
  · rw [started, calls]
    exact mirrors.begun
  · rw [turns, kept, started]
    exact mirrors.turns

/-- A microtask that calls no function. -/
theorem quietly (mirrors : Mirrors name mutex lock)
    (invariant : mutex.Invariant fun _ => False) {nested : List κ}
    {called : Except ε Unit} (does : mutex.Does nested called later)
    (calls : later.calls = mutex.calls) (quiet : mutex.Quiet later)
    (keys : ∀ index, later.keyOf index = mutex.keyOf index) :
    Mirrors name later lock :=
  mirrors.same calls quiet.started fun _ => line_congr calls keys fun index =>
    fnResult_congr (quiet.called index) (invariant.returned_microtask does)

/-- A function is called: it has its turn, others join, and it leaves if it
throws. -/
theorem call {entry : MutexRun κ ε α} (mirrors : Mirrors name mutex lock)
    (distinct : Function.Injective name)
    (invariant : mutex.Invariant (· = .call (.fn index)))
    (ready : mutex.Ready index entry)
    (pending : mutex.promises.result (.returned index) = none)
    (nested : List κ) (called : Except ε Unit) :
    ∃ next, lock.call (name entry.key) index (nested.map name) called =
        some next ∧ Mirrors name (mutex.callFn index nested called) next := by
  have started : (mutex.begin index).Invariant (· = .call (.fn index)) :=
    { invariant with }
  have startedReady : (mutex.begin index).Ready index entry := { ready with }
  obtain ⟨ran, still⟩ := started.nested startedReady nested
  obtain ⟨first, turned, begun⟩ := mirrors.turn
    (invariant.bounded index entry ready.found) (invariant.head_of_ready ready)
  obtain ⟨second, joined, mirrored⟩ := begun.joins distinct started nested
  have calls : lock.call (name entry.key) index (nested.map name) called =
      match called with
      | .ok _ => some second
      | .error _ => second.leave (name entry.key) index := by
    unfold TicketLock.call
    rw [turned]
    change (first.joins (nested.map name)).bind _ = _
    rw [joined]
    rfl
  rw [calls]
  cases called with
  | ok value =>
      refine ⟨second, rfl, mirrored.same rfl rfl fun _ => ?_⟩
      exact line_returned still.found still.uncalled
        (returned_nested.trans pending) fun _ => rfl
  | error error =>
      refine mirrored.leave distinct (ran.bounded index entry still.found) ?_ rfl
        rfl fun _ => line_thrown still.found fun _ =>
          Promises.result_settle_ne (by simp)
      unfold keyOf
      rw [still.found]
      rfl

/-- Microtasks that call no function are nothing to the lock. -/
theorem step_microtask (mirrors : Mirrors name mutex lock)
    (distinct : Function.Injective name) (reachable : mutex.Reachable)
    {nested : List κ} {called : Except ε Unit}
    (does : mutex.Does nested called later) :
    ∃ next, lock.follow name mutex (.microtask nested called) = some next ∧
      Mirrors name later next := by
  have invariant := reachable.invariant
  have silent := mirrors.quietly invariant does
  cases does with
  | adopt first =>
      refine ⟨lock, ?_, silent rfl quiet_withPromises fun _ => rfl⟩
      simp only [TicketLock.follow, first]
  | resolve first =>
      refine ⟨lock, ?_, silent rfl quiet_withPromises fun _ => rfl⟩
      simp only [TicketLock.follow, first]
  | @fn index _ first =>
      obtain ⟨entry, ready⟩ := invariant.ready first
      have found : mutex.runs index = some entry := ready.found
      have dequeued : Mirrors name
          (mutex.withPromises mutex.promises.dequeue) lock :=
        mirrors.same rfl rfl fun _ => rfl
      have pending : mutex.promises.result (.returned index) = none := by
        by_contra settled
        have isCalled := reachable.returned_called index settled
        unfold calledOf at isCalled
        rw [found] at isCalled
        exact Option.some_ne_none _ (isCalled.symm.trans ready.uncalled)
      obtain ⟨next, calls, mirrored⟩ := dequeued.call distinct
        (invariant.dequeue first).1 ready pending nested called
      refine ⟨next, ?_, mirrored⟩
      have ofKey : mutex.keyOf index = some entry.key := by
        unfold keyOf
        rw [found]
        rfl
      simp only [TicketLock.follow, first, ofKey]
      exact calls
  | swallow first =>
      refine ⟨lock, ?_, silent rfl quiet_withPromises fun _ => rfl⟩
      simp only [TicketLock.follow, first]
  | @resume index outcome first =>
      obtain ⟨promise, -, entry, found, -⟩ :=
        invariant.queued _ _ (List.mem_of_mem_head? first)
      have found : (mutex.withPromises mutex.promises.dequeue).runs index =
          some entry := found
      refine ⟨lock, ?_, silent ?_ (quiet_withPromises.trans quiet_finish) ?_⟩
      · simp only [TicketLock.follow, first]
      · rw [finish_eq found]
        rfl
      · intro other
        rw [finish_eq found, keyOf_withRun found]
        · rfl
        · rfl

/-- The promise of a function settles, for the first time or once more. -/
theorem step_settleFn (mirrors : Mirrors name mutex lock)
    (distinct : Function.Injective name) (reachable : mutex.Reachable)
    {outcome : Except ε (Option α)}
    (isCalled : mutex.calledOf index = some (.ok ())) :
    ∃ next, lock.follow name mutex (.settleFn index outcome) = some next ∧
      Mirrors name (mutex.withPromises
        (mutex.promises.settle (.returned index) outcome)) next := by
  have result := fnResult_of_called isCalled
  simp only [TicketLock.follow]
  cases settled : mutex.promises.result (.returned index) with
  | some known =>
      rw [result, settled, Promises.settle_of_result settled]
      exact ⟨lock, rfl, mirrors⟩
  | none =>
      obtain ⟨entry, found, -⟩ := exists_of_calledOf
        (isCalled ▸ Option.some_ne_none _ : mutex.calledOf index ≠ none)
      have ofKey : mutex.keyOf index = some entry.key := by
        unfold keyOf
        rw [found]
        rfl
      rw [result, settled, ofKey]
      exact mirrors.leave distinct
        (reachable.invariant.bounded index entry found) ofKey rfl rfl
        fun key => line_settled isCalled

/-- The lock never refuses what a move of the mutex asks. -/
theorem step (mirrors : Mirrors name mutex lock)
    (distinct : Function.Injective name) (reachable : mutex.Reachable)
    {move : MutexMove κ ε α} (moves : mutex.step move = some later) :
    ∃ next, lock.follow name mutex move = some next ∧
      Mirrors name later next := by
  cases move with
  | run key =>
      cases moves
      exact mirrors.join distinct reachable.invariant key
  | settleFn index outcome =>
      change mutex.settleFn index outcome = some later at moves
      unfold KeyedMutexState.settleFn at moves
      split at moves
      · rename_i isCalled
        cases moves
        exact mirrors.step_settleFn distinct reachable isCalled
      · cases moves
  | microtask nested called =>
      exact mirrors.step_microtask distinct reachable (does_of_microtask moves)

end Mirrors

/-- A mutex and the same one with its lock. -/
def Followed (name : κ → MutexKey) (mutex : KeyedMutexState κ ε α)
    (both : KeyedMutexState κ ε α × TicketLock) : Prop :=
  both.1 = mutex ∧ mutex.Reachable ∧ Mirrors name mutex both.2

theorem Followed.step {name : κ → MutexKey}
    (distinct : Function.Injective name)
    {before after : KeyedMutexState κ ε α}
    {both : KeyedMutexState κ ε α × TicketLock}
    {move : MutexMove κ ε α ⊕ OtherWork name}
    (followed : Followed name before both)
    (moved : before.stepBeside move = some after) :
    ∃ next, TicketLock.stepBeside both move = some next ∧
      Followed name after next := by
  obtain ⟨rfl, reachable, mirrors⟩ := followed
  cases move with
  | inl move =>
      obtain ⟨next, follows, mirrored⟩ := mirrors.step distinct reachable moved
      refine ⟨(after, next), ?_, rfl, reachable.step moved, mirrored⟩
      exact Option.bind_eq_some_iff.mpr
        ⟨after, moved, Option.map_eq_some_iff.mpr ⟨next, follows, rfl⟩⟩
  | inr other =>
      cases moved
      exact ⟨_, rfl, rfl, reachable, mirrors.elsewhere other⟩

/-- Every run of the keyed mutex, with the rest of the process at work in
between, is a run of the ticket lock that is never refused: the line of a key
has the tickets of its runs that have not ended, in the order of their calls,
and turns come in the order in which functions are called.  When no microtask is
left, all turns that can come have come. -/
theorem keyed_mutex_is_a_ticket_lock {κ ε α : Type} [DecidableEq κ]
    {name : κ → MutexKey} (distinct : Function.Injective name) {world : World}
    (empty : ∀ key, world.mutexes.waiting (name key) = [])
    {moves : List (MutexMove κ ε α ⊕ OtherWork name)}
    {mutex : KeyedMutexState κ ε α}
    (ran : moves.foldlM KeyedMutexState.stepBeside {} = some mutex) :
    ∃ lock : TicketLock,
      moves.foldlM TicketLock.stepBeside ({}, { world }) = some (mutex, lock) ∧
      lock.tickets.length = mutex.calls ∧ lock.tickets.Pairwise (· < ·) ∧
      lock.turns = mutex.started.map lock.ticketOf ∧
      (∀ key, lock.world.mutexes.waiting (name key) =
        (mutex.line key).map lock.ticketOf) ∧
      (mutex.promises.jobs = [] → ∀ key ticket,
        (lock.world.mutexes.waiting (name key)).head? = some ticket →
        ticket ∈ lock.turns) := by
  have start : Followed name ({} : KeyedMutexState κ ε α) ({}, { world }) :=
    ⟨rfl, .initial, .initial empty⟩
  have simulated : ∃ last, moves.foldlM TicketLock.stepBeside ({}, { world }) =
      some last ∧ Followed name mutex last := by
    refine Machine.simulates (Followed name) ?_ start ran
    exact fun followed moved => followed.step distinct moved
  obtain ⟨⟨_, lock⟩, followed, rfl, reachable, mirrors⟩ := simulated
  refine ⟨lock, followed, mirrors.drawn, mirrors.increasing, mirrors.turns,
    mirrors.lines, fun idle key ticket first => ?_⟩
  rw [mirrors.lines, List.head?_map] at first
  obtain ⟨index, isFirst, rfl⟩ := Option.map_eq_some_iff.mp first
  rw [mirrors.turns]
  exact List.mem_map_of_mem ((reachable.logged.called index).mpr
    (reachable.invariant.head_called idle isFirst))

/-- A snapshot publisher joins a line of its own. -/
def publisherJoins : OtherWork MutexKey.providerStore :=
  .ofCall (.memory (.join (.publisher 7))) {} fun _ => rfl

/-- Two functions of a provider, the first of which throws. -/
def firstThrows :
    List (MutexMove Id String Nat ⊕ OtherWork MutexKey.providerStore) :=
  [.inl (.run 7), .inr publisherJoins, .inl (.run 7),
    .inl (.microtask [] (.error "full")), .inl (.microtask [] (.ok ())),
    .inl (.microtask [] (.ok ())), .inl (.microtask [] (.ok ()))]

/-- The first of two functions throws while a publisher waits elsewhere. -/
theorem keyed_mutex_is_a_ticket_lock_elsewhere :
    ∃ (mutex : KeyedMutexState Id String Nat) (lock : TicketLock),
      mutex.started = [0, 1] ∧ mutex.line 7 = [1] ∧
      lock.turns = [lock.ticketOf 0, lock.ticketOf 1] ∧
      lock.world.mutexes.waiting (.providerStore 7) = [lock.ticketOf 1] := by
  have seen : (firstThrows.foldlM KeyedMutexState.stepBeside
      ({} : KeyedMutexState Id String Nat)).map
        (fun mutex => (mutex.started, mutex.line 7)) = some ([0, 1], [1]) := by
    decide +kernel
  obtain ⟨mutex, ran, same⟩ := Option.map_eq_some_iff.mp seen
  obtain ⟨started, line⟩ := Prod.mk.inj same
  obtain ⟨lock, -, -, -, turns, lines, -⟩ := keyed_mutex_is_a_ticket_lock
    (fun _ _ => MutexKey.providerStore.inj)
    (fun _ => rfl : ∀ id, ({} : World).mutexes.waiting (.providerStore id) = [])
    ran
  refine ⟨mutex, lock, started, line, ?_, ?_⟩
  · rw [turns, started]
    rfl
  · rw [lines, line]
    rfl

end FluxIP
