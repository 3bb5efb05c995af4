import FluxIP.Domain.MutexInvariant
import Mathlib.Algebra.Order.BigOperators.Group.Finset

/-!
# The mutex is a queue

Functions of a key are called in the order of their runs, each after the one
before it has ended; a caller gets what its own function gave; and when nothing
is left to run, nothing waits that could go on.
-/

namespace FluxIP

open Async

variable {κ ε α : Type}

namespace KeyedMutexState

variable {mutex later last : KeyedMutexState κ ε α} {index : Nat}
variable {exempt : MutexReaction → Prop} {entry : MutexRun κ ε α}

def keyOf (mutex : KeyedMutexState κ ε α) (index : Nat) : Option κ :=
  (mutex.runs index).map (·.key)

def calledOf (mutex : KeyedMutexState κ ε α) (index : Nat) :
    Option (Except ε Unit) :=
  (mutex.runs index).bind (·.called)

theorem exists_of_keyOf {key : κ} (ofKey : mutex.keyOf index = some key) :
    ∃ run, mutex.runs index = some run ∧ run.key = key :=
  Option.map_eq_some_iff.mp ofKey

theorem exists_of_calledOf (called : mutex.calledOf index ≠ none) :
    ∃ run, mutex.runs index = some run ∧ run.called ≠ none := by
  unfold calledOf at called
  cases found : mutex.runs index with
  | none =>
      rw [found] at called
      exact absurd rfl called
  | some run =>
      rw [found] at called
      exact ⟨run, rfl, called⟩

/-! ## The log of the functions -/

/-- No function is called in the step. -/
structure Quiet (mutex later : KeyedMutexState κ ε α) : Prop where
  started : later.started = mutex.started
  called : ∀ index, later.calledOf index = mutex.calledOf index
  key : ∀ index, mutex.runs index ≠ none → later.keyOf index = mutex.keyOf index
  runs : ∀ index, mutex.runs index ≠ none → later.runs index ≠ none

theorem Quiet.refl : mutex.Quiet mutex :=
  ⟨rfl, fun _ => rfl, fun _ _ => rfl, fun _ here => here⟩

theorem Quiet.trans (first : mutex.Quiet later) (second : later.Quiet last) :
    mutex.Quiet last where
  started := second.started.trans first.started
  called index := (second.called index).trans (first.called index)
  key index here :=
    (second.key index (first.runs index here)).trans (first.key index here)
  runs index here := second.runs index (first.runs index here)

theorem quiet_run [DecidableEq κ] {key : κ}
    (fresh : mutex.runs mutex.calls = none) : mutex.Quiet (mutex.run key) where
  started := rfl
  called index := by
    unfold calledOf
    by_cases same : index = mutex.calls
    · subst same
      rw [fresh, run_runs_self]
      rfl
    · rw [run_runs_of_ne same]
  key index here := by
    have old : index ≠ mutex.calls := by
      rintro rfl
      exact here fresh
    unfold keyOf
    rw [run_runs_of_ne old]
  runs index here := by
    have old : index ≠ mutex.calls := by
      rintro rfl
      exact here fresh
    rw [run_runs_of_ne old]
    exact here

theorem Invariant.quiet_nested [DecidableEq κ] (invariant : mutex.Invariant exempt)
    (keys : List κ) : mutex.Quiet (keys.foldl KeyedMutexState.run mutex) := by
  induction keys generalizing mutex with
  | nil => exact .refl
  | cons key keys ih =>
      exact (quiet_run invariant.runs_calls).trans (ih (invariant.run key))

section WithRun

variable {proceeded : MutexRun κ ε α} {after : κ → Option MutexPromise}
variable {other : Nat}

theorem calledOf_withRun_self :
    (mutex.withRun index proceeded after).calledOf index = proceeded.called := by
  unfold calledOf
  rw [withRun_runs_self]
  rfl

theorem calledOf_withRun_of_ne (different : other ≠ index) :
    (mutex.withRun index proceeded after).calledOf other =
      mutex.calledOf other := by
  unfold calledOf
  rw [withRun_runs_of_ne different]

theorem keyOf_withRun (found : mutex.runs index = some entry)
    (key : proceeded.key = entry.key) :
    (mutex.withRun index proceeded after).keyOf other = mutex.keyOf other := by
  unfold keyOf
  by_cases same : other = index
  · subst same
    rw [withRun_runs_self, found]
    exact congrArg some key
  · rw [withRun_runs_of_ne same]

theorem quiet_withRun (found : mutex.runs index = some entry)
    (key : proceeded.key = entry.key) (called : proceeded.called = entry.called) :
    mutex.Quiet (mutex.withRun index proceeded after) where
  started := rfl
  called other := by
    by_cases same : other = index
    · subst same
      rw [calledOf_withRun_self]
      unfold calledOf
      rw [found]
      exact called
    · exact calledOf_withRun_of_ne same
  key _ _ := keyOf_withRun found key
  runs other here := by
    by_cases same : other = index
    · subst same
      rw [withRun_runs_self]
      exact Option.some_ne_none _
    · rwa [withRun_runs_of_ne same]

end WithRun

theorem quiet_finish [DecidableEq κ] {result : Except ε (Option α)} :
    mutex.Quiet (mutex.finish index result) := by
  cases found : mutex.runs index with
  | none =>
      unfold KeyedMutexState.finish
      rw [found]
      exact .refl
  | some entry =>
      rw [finish_eq found]
      exact quiet_withRun found rfl rfl

theorem calledOf_withPromises {promises : MutexPromises ε α} :
    (mutex.withPromises promises).calledOf index = mutex.calledOf index := rfl

theorem keyOf_withPromises {promises : MutexPromises ε α} :
    (mutex.withPromises promises).keyOf index = mutex.keyOf index := rfl

theorem quiet_withPromises {promises : MutexPromises ε α} :
    mutex.Quiet (mutex.withPromises promises) :=
  ⟨rfl, fun _ => rfl, fun _ _ => rfl, fun _ here => here⟩

/-- The log has the functions that were called, those of a key in their order. -/
structure Logged (mutex : KeyedMutexState κ ε α) : Prop where
  called : ∀ index, index ∈ mutex.started ↔ mutex.calledOf index ≠ none
  nodup : mutex.started.Nodup
  ordered : mutex.started.Pairwise fun earlier later =>
    mutex.keyOf earlier = mutex.keyOf later → earlier < later

theorem Logged.runs (logged : mutex.Logged) (here : index ∈ mutex.started) :
    mutex.runs index ≠ none := by
  obtain ⟨run, found, -⟩ := exists_of_calledOf ((logged.called index).mp here)
  rw [found]
  exact Option.some_ne_none _

theorem Logged.quiet (logged : mutex.Logged) (quiet : mutex.Quiet later) :
    later.Logged where
  called index := by
    rw [quiet.started, quiet.called]
    exact logged.called index
  nodup := quiet.started ▸ logged.nodup
  ordered := by
    rw [quiet.started]
    refine logged.ordered.imp_of_mem fun left right ordered same => ordered ?_
    rwa [quiet.key _ (logged.runs left), quiet.key _ (logged.runs right)] at same

/-- A function that is called comes after all of its key that were called. -/
theorem Invariant.called_before (invariant : mutex.Invariant exempt)
    (found : mutex.runs index = some entry) (uncalled : entry.called = none)
    {other : Nat} (called : mutex.calledOf other ≠ none)
    (same : mutex.keyOf other = mutex.keyOf index) : other < index := by
  obtain ⟨run, atOther, isCalled⟩ := exists_of_calledOf called
  unfold keyOf at same
  rw [found, atOther] at same
  rcases Nat.lt_trichotomy other index with before | rfl | after
  · exact before
  · cases found.symm.trans atOther
    exact absurd uncalled isCalled
  · have settled := invariant.before_settled atOther
      (invariant.called other run atOther isCalled) index entry after found
      (Option.some.inj same).symm
    exact absurd (invariant.uncalled found uncalled).1 settled

theorem Invariant.called_callFn [DecidableEq κ]
    (invariant : mutex.Invariant (· = .call (.fn index)))
    (ready : mutex.Ready index entry) (nested : List κ) (called : Except ε Unit) :
    (mutex.callFn index nested called).started = mutex.started ++ [index] ∧
      (mutex.callFn index nested called).calledOf index = some called ∧
      (∀ other, other ≠ index →
        (mutex.callFn index nested called).calledOf other =
          mutex.calledOf other) ∧
      ∀ other, mutex.runs other ≠ none →
        (mutex.callFn index nested called).keyOf other = mutex.keyOf other := by
  have started : (mutex.begin index).Invariant (· = .call (.fn index)) :=
    { invariant with }
  have startedReady : (mutex.begin index).Ready index entry := { ready with }
  have quiet := started.quiet_nested nested
  have found := (started.nested startedReady nested).2.found
  obtain ⟨promises, same⟩ : ∃ promises, mutex.callFn index nested called =
      ((nested.foldl KeyedMutexState.run (mutex.begin index)).setCalled index
        called).withPromises promises := ⟨_, rfl⟩
  rw [same, setCalled_eq found]
  refine ⟨quiet.started, ?_, fun other different => ?_, fun other here => ?_⟩
  · rw [calledOf_withPromises, calledOf_withRun_self]
  · rw [calledOf_withPromises, calledOf_withRun_of_ne different]
    exact quiet.called other
  · rw [keyOf_withPromises, keyOf_withRun found]
    · exact quiet.key other here
    · rfl

theorem Logged.callFn [DecidableEq κ] (logged : mutex.Logged)
    (invariant : mutex.Invariant (· = .call (.fn index)))
    (ready : mutex.Ready index entry) {nested : List κ} {called : Except ε Unit} :
    (mutex.callFn index nested called).Logged := by
  obtain ⟨started, self, others, keys⟩ :=
    invariant.called_callFn ready nested called
  have notYet : mutex.calledOf index = none := by
    unfold calledOf
    rw [ready.found]
    exact ready.uncalled
  have isNew : index ∉ mutex.started := fun member =>
    (logged.called index).mp member notYet
  have here : mutex.runs index ≠ none := by
    rw [ready.found]
    exact Option.some_ne_none _
  refine ⟨fun other => ?_, ?_, ?_⟩
  · rw [started, List.mem_append, List.mem_singleton]
    by_cases isIndex : other = index
    · subst isIndex
      rw [self]
      exact ⟨fun _ => Option.some_ne_none _, fun _ => .inr rfl⟩
    · rw [others other isIndex, logged.called other]
      exact ⟨fun old => old.resolve_right isIndex, .inl⟩
  · rw [started]
    exact List.nodup_append.mpr ⟨logged.nodup, List.nodup_singleton _,
      fun other old new member same => isNew (by
        rwa [← List.mem_singleton.mp member, ← same])⟩
  · rw [started]
    refine List.pairwise_append.mpr ⟨?_, List.pairwise_singleton _ _, ?_⟩
    · refine logged.ordered.imp_of_mem fun left right ordered same => ordered ?_
      rwa [keys _ (logged.runs left), keys _ (logged.runs right)] at same
    · intro other old new member same
      cases List.mem_singleton.mp member
      rw [keys other (logged.runs old), keys index here] at same
      exact invariant.called_before ready.found ready.uncalled
        ((logged.called other).mp old) same

theorem Logged.microtask [DecidableEq κ] (logged : mutex.Logged)
    (invariant : mutex.Invariant fun _ => False) {nested : List κ}
    {called : Except ε Unit} (does : mutex.Does nested called later) :
    later.Logged := by
  have dequeued : (mutex.withPromises mutex.promises.dequeue).Logged :=
    logged.quiet quiet_withPromises
  cases does with
  | adopt first => exact logged.quiet quiet_withPromises
  | resolve first => exact logged.quiet quiet_withPromises
  | fn first =>
      obtain ⟨entry, ready⟩ := invariant.ready first
      exact dequeued.callFn (invariant.dequeue first).1 ready
  | swallow first => exact logged.quiet quiet_withPromises
  | resume first => exact dequeued.quiet quiet_finish

theorem Reachable.logged [DecidableEq κ] (reachable : mutex.Reachable) :
    mutex.Logged := by
  induction reachable with
  | initial =>
      exact ⟨fun _ => ⟨fun member => (by cases member), fun called =>
        absurd rfl called⟩, List.nodup_nil, List.Pairwise.nil⟩
  | @step mutex next move before moves ih =>
      cases move with
      | run key =>
          cases moves
          exact ih.quiet (quiet_run before.invariant.runs_calls)
      | settleFn index result =>
          change mutex.settleFn index result = some next at moves
          unfold KeyedMutexState.settleFn at moves
          split at moves
          · cases moves
            exact ih.quiet quiet_withPromises
          · cases moves
      | microtask nested called =>
          exact ih.microtask before.invariant (does_of_microtask moves)

/-! ## Nothing waits that could go on -/

theorem fnResult_of_called (called : mutex.calledOf index = some (.ok ())) :
    mutex.fnResult index = mutex.promises.result (.returned index) := by
  unfold fnResult
  unfold calledOf at called
  rw [called]

/-- Without jobs a reaction waits for a pending promise. -/
theorem pending_of_follows {promise : MutexPromise} {reaction : MutexReaction}
    (idle : mutex.promises.jobs = [])
    (follows : mutex.promises.Follows promise reaction) :
    mutex.promises.result promise = none := by
  rcases follows with waits | ⟨result, -, queued⟩
  · cases settled : mutex.promises.result promise with
    | none => rfl
    | some result =>
        rw [Promises.reactions_of_result settled] at waits
        cases waits
  · rw [idle] at queued
    cases queued

theorem Invariant.next_of_fnResult (invariant : mutex.Invariant fun _ => False)
    (idle : mutex.promises.jobs = []) {result : Except ε (Option α)}
    (ended : mutex.fnResult index = some result) :
    mutex.promises.result (.next index) = some result := by
  cases settled : mutex.promises.result (.next index) with
  | some known => exact (invariant.next index known settled).symm.trans ended
  | none =>
      obtain ⟨run, found, called⟩ := fnResult_called ended
      obtain ⟨returns, queued | follows⟩ := invariant.owed (.resolve (.next index))
        not_false index run rfl found called settled
      · rw [idle] at queued
        cases queued
      · have isCalled : mutex.calledOf index = some (.ok ()) := by
          unfold calledOf
          rw [found]
          exact returns
        rw [fnResult_of_called isCalled, pending_of_follows idle follows] at ended
        cases ended

theorem Invariant.tail_of_next (invariant : mutex.Invariant fun _ => False)
    (idle : mutex.promises.jobs = []) (found : mutex.runs index = some entry)
    (settled : mutex.promises.result (.next index) ≠ none) :
    mutex.promises.result (.tail index) ≠ none := fun pending =>
  settled (pending_of_follows idle
    (invariant.owed (.call (.swallow index)) not_false entry found pending))

/-- When nothing is left to run, a function has been called if those of its key
before it have ended, and its caller has what it gave. -/
theorem Invariant.idle (invariant : mutex.Invariant fun _ => False)
    (idle : mutex.promises.jobs = []) (found : mutex.runs index = some entry) :
    ((∀ before, before < index → mutex.keyOf before = some entry.key →
      (mutex.fnResult before).isSome) → entry.called ≠ none) ∧
      entry.result = mutex.fnResult index := by
  constructor
  · intro ended uncalled
    have previous : mutex.promises.result entry.previous ≠ none := by
      rcases invariant.chained index entry found with
        ⟨before, earlier, isBefore, atBefore, sameKey, isTail, -⟩ |
        ⟨isResolved, settled, -⟩
      · have ofKey : mutex.keyOf before = some entry.key := by
          unfold keyOf
          rw [atBefore]
          exact congrArg some sameKey
        obtain ⟨result, gave⟩ :=
          Option.isSome_iff_exists.mp (ended before isBefore ofKey)
        have next := invariant.next_of_fnResult idle gave
        rw [isTail]
        apply invariant.tail_of_next idle atBefore
        rw [next]
        exact Option.some_ne_none _
      · rwa [isResolved]
    exact previous (pending_of_follows idle
      (invariant.owed (.call (.fn index)) not_false entry found uncalled))
  · cases ended : entry.result with
    | some result =>
        exact (invariant.next index result
          (invariant.result index entry result found ended)).symm
    | none =>
        have pending := pending_of_follows idle
          (invariant.owed (.call (.resume index)) not_false entry found ended)
        cases gave : mutex.fnResult index with
        | none => rfl
        | some result =>
            cases (invariant.next_of_fnResult idle gave).symm.trans pending

/-! ## The microtasks run out -/

section Rank

def endedOf (mutex : KeyedMutexState κ ε α) (index : Nat) :
    Option (Except ε (Option α)) :=
  (mutex.runs index).bind (·.result)

/-- Whether something is still to come. -/
def outstanding {β : Type} (known : Option β) : Nat :=
  if known.isNone then 1 else 0

/-- What is still to come of a run. -/
def weight (mutex : KeyedMutexState κ ε α) (index : Nat) : Nat :=
  outstanding (mutex.calledOf index) +
    outstanding (mutex.promises.result (.next index)) +
    outstanding (mutex.promises.result (.tail index)) +
    outstanding (mutex.endedOf index)

def isAdopt : Microtask MutexPromise MutexHandler ε (Option α) → Bool
  | .adopt _ _ => true
  | .react _ _ => false

/-- A job that adopts comes of a call, so a call counts for two. -/
def rank (mutex : KeyedMutexState κ ε α) : Nat :=
  2 * (∑ index ∈ Finset.range mutex.calls, mutex.weight index) +
    mutex.promises.jobs.countP isAdopt

/-- Nothing that is known is forgotten. -/
structure Grows (mutex later : KeyedMutexState κ ε α) : Prop where
  calls : later.calls = mutex.calls
  called : ∀ index, mutex.calledOf index ≠ none → later.calledOf index ≠ none
  results : ∀ promise, mutex.promises.result promise ≠ none →
    later.promises.result promise ≠ none
  ended : ∀ index, mutex.endedOf index ≠ none → later.endedOf index ≠ none

/-- Something more is known of a run. -/
def Gains (mutex later : KeyedMutexState κ ε α) (index : Nat) : Prop :=
  mutex.calledOf index = none ∧ later.calledOf index ≠ none ∨
    mutex.promises.result (.next index) = none ∧
      later.promises.result (.next index) ≠ none ∨
    mutex.promises.result (.tail index) = none ∧
      later.promises.result (.tail index) ≠ none ∨
    mutex.endedOf index = none ∧ later.endedOf index ≠ none

theorem outstanding_le {β γ : Type} {known : Option β} {now : Option γ}
    (grows : known ≠ none → now ≠ none) : outstanding now ≤ outstanding known := by
  cases known with
  | none => cases now <;> simp [outstanding]
  | some value =>
      obtain ⟨result, same⟩ :=
        Option.ne_none_iff_exists'.mp (grows (Option.some_ne_none _))
      simp [outstanding, same]

theorem outstanding_lt {β γ : Type} {known : Option β} {now : Option γ}
    (before : known = none) (after : now ≠ none) :
    outstanding now < outstanding known := by
  obtain ⟨result, same⟩ := Option.ne_none_iff_exists'.mp after
  simp [outstanding, before, same]

theorem Grows.weight_le (grows : mutex.Grows later) (index : Nat) :
    later.weight index ≤ mutex.weight index := by
  have called := outstanding_le (grows.called index)
  have next := outstanding_le (grows.results (.next index))
  have tail := outstanding_le (grows.results (.tail index))
  have ended := outstanding_le (grows.ended index)
  unfold weight
  omega

theorem Grows.weight_lt (grows : mutex.Grows later)
    (gains : mutex.Gains later index) :
    later.weight index < mutex.weight index := by
  have called := outstanding_le (grows.called index)
  have next := outstanding_le (grows.results (.next index))
  have tail := outstanding_le (grows.results (.tail index))
  have ended := outstanding_le (grows.ended index)
  unfold weight
  rcases gains with ⟨before, after⟩ | ⟨before, after⟩ | ⟨before, after⟩ |
    ⟨before, after⟩ <;>
  · have gained := outstanding_lt before after
    omega

theorem Grows.rank_lt (grows : mutex.Grows later) (bound : index < mutex.calls)
    (gains : mutex.Gains later index)
    (adopts : later.promises.jobs.countP isAdopt ≤
      mutex.promises.jobs.countP isAdopt + 1) : later.rank < mutex.rank := by
  have weights : ∑ index ∈ Finset.range mutex.calls, later.weight index <
      ∑ index ∈ Finset.range mutex.calls, mutex.weight index :=
    Finset.sum_lt_sum (fun other _ => grows.weight_le other)
      ⟨index, Finset.mem_range.mpr bound, grows.weight_lt gains⟩
  unfold rank
  rw [grows.calls]
  omega

theorem Grows.rank_lt_of_adopts (grows : mutex.Grows later)
    (adopts : later.promises.jobs.countP isAdopt <
      mutex.promises.jobs.countP isAdopt) : later.rank < mutex.rank := by
  have weights : ∑ index ∈ Finset.range mutex.calls, later.weight index ≤
      ∑ index ∈ Finset.range mutex.calls, mutex.weight index :=
    Finset.sum_le_sum fun other _ => grows.weight_le other
  unfold rank
  rw [grows.calls]
  omega

/-! ### The jobs that adopt -/

variable {promise : MutexPromise} {reaction : MutexReaction}
variable {outcome : Except ε (Option α)} {promises : MutexPromises ε α}

theorem adopts_settle :
    (promises.settle promise outcome).jobs.countP isAdopt =
      promises.jobs.countP isAdopt := by
  cases settled : promises.result promise with
  | some known => rw [Promises.settle_of_result settled]
  | none =>
      rw [Promises.jobs_settle settled, List.countP_append, Nat.add_eq_left,
        List.countP_eq_zero]
      intro job member
      obtain ⟨reaction, -, rfl⟩ := List.mem_map.mp member
      exact Bool.false_ne_true

theorem adopts_react :
    (promises.react promise reaction).jobs.countP isAdopt =
      promises.jobs.countP isAdopt := by
  cases settled : promises.result promise with
  | some known =>
      rw [Promises.react_of_result settled, Promises.jobs_enqueue,
        List.countP_append]
      rfl
  | none => rw [Promises.jobs_react_of_pending settled]

/-! ### What a microtask adds -/

theorem settled_settle {other : MutexPromise}
    (settled : promises.result other ≠ none) :
    (promises.settle promise outcome).result other ≠ none := by
  obtain ⟨result, known⟩ := Option.ne_none_iff_exists'.mp settled
  rw [Promises.result_settle_mono known]
  exact Option.some_ne_none _

theorem settled_settle_self :
    (promises.settle promise outcome).result promise ≠ none := by
  rw [Promises.result_settle_self]
  exact Option.some_ne_none _

theorem grows_withPromises
    (results : ∀ promise, mutex.promises.result promise ≠ none →
      promises.result promise ≠ none) :
    mutex.Grows (mutex.withPromises promises) :=
  ⟨rfl, fun _ called => called, results, fun _ ended => ended⟩

theorem grows_withRun {proceeded : MutexRun κ ε α}
    {after : κ → Option MutexPromise} (found : mutex.runs index = some entry)
    (called : entry.called ≠ none → proceeded.called ≠ none)
    (result : entry.result ≠ none → proceeded.result ≠ none) :
    mutex.Grows (mutex.withRun index proceeded after) where
  calls := rfl
  called other known := by
    by_cases same : other = index
    · subst same
      rw [calledOf_withRun_self]
      unfold calledOf at known
      rw [found] at known
      exact called known
    · rwa [calledOf_withRun_of_ne same]
  results _ settled := settled
  ended other known := by
    unfold endedOf at known ⊢
    by_cases same : other = index
    · subst same
      rw [found] at known
      rw [withRun_runs_self]
      exact result known
    · rwa [withRun_runs_of_ne same]

theorem Grows.trans {last : KeyedMutexState κ ε α} (first : mutex.Grows later)
    (second : later.Grows last) : mutex.Grows last :=
  ⟨second.calls.trans first.calls,
    fun index known => second.called index (first.called index known),
    fun promise known => second.results promise (first.results promise known),
    fun index known => second.ended index (first.ended index known)⟩

/-- A function is called that calls no `run`. -/
theorem Ready.rank_lt [DecidableEq κ] (ready : mutex.Ready index entry)
    (bound : index < mutex.calls) {called : Except ε Unit} :
    (mutex.callFn index [] called).rank < mutex.rank := by
  have found : (mutex.begin index).runs index = some entry := ready.found
  have noted : (mutex.begin index).Grows ((mutex.begin index).withRun index
      { entry with called := some called } (mutex.begin index).tails) :=
    grows_withRun found (fun _ => Option.some_ne_none _) id
  have begun : mutex.Grows (mutex.begin index) :=
    ⟨rfl, fun _ known => known, fun _ known => known, fun _ known => known⟩
  have grows {promises : MutexPromises ε α} (results : ∀ promise,
      mutex.promises.result promise ≠ none → promises.result promise ≠ none) :
      mutex.Grows (((mutex.begin index).withRun index
        { entry with called := some called }
        (mutex.begin index).tails).withPromises promises) :=
    (begun.trans noted).trans (grows_withPromises results)
  have notYet : mutex.calledOf index = none := by
    unfold calledOf
    rw [ready.found]
    exact ready.uncalled
  have isCalled {promises : MutexPromises ε α} :
      (((mutex.begin index).withRun index { entry with called := some called }
        (mutex.begin index).tails).withPromises promises).calledOf index ≠ none := by
    rw [calledOf_withPromises, calledOf_withRun_self]
    exact Option.some_ne_none _
  cases called with
  | ok value =>
      rw [callFn_ok, List.foldl_nil, setCalled_eq found]
      refine (grows ?_).rank_lt bound (.inl ⟨notYet, isCalled⟩) ?_
      · exact fun _ settled => settled
      · exact List.countP_append.le
  | error error =>
      rw [callFn_error, List.foldl_nil, setCalled_eq found]
      refine (grows ?_).rank_lt bound (.inl ⟨notYet, isCalled⟩) ?_
      · exact fun _ => settled_settle
      · exact Nat.le_succ_of_le adopts_settle.le

theorem finish_rank_lt [DecidableEq κ] (found : mutex.runs index = some entry)
    (unfinished : entry.result = none) (bound : index < mutex.calls) :
    (mutex.finish index outcome).rank < mutex.rank := by
  have grows : mutex.Grows (mutex.withRun index
      { entry with result := some outcome } (mutex.tailsAfter index entry.key)) :=
    grows_withRun found (fun called => called) fun _ => Option.some_ne_none _
  rw [finish_eq found]
  refine grows.rank_lt bound (.inr (.inr (.inr ⟨?_, ?_⟩))) (Nat.le_succ _)
  · unfold endedOf
    rw [found]
    exact unfinished
  · unfold endedOf
    rw [withRun_runs_self]
    exact Option.some_ne_none _

/-- Every microtask leaves less to come. -/
theorem Invariant.rank_lt [DecidableEq κ]
    (invariant : mutex.Invariant fun _ => False) {called : Except ε Unit}
    (does : mutex.Does [] called later) : later.rank < mutex.rank := by
  have fewer : (mutex.withPromises mutex.promises.dequeue).rank ≤ mutex.rank :=
    Nat.add_le_add_left (List.tail_sublist _).countP_le _
  have dequeued : mutex.promises.dequeue.jobs.countP isAdopt ≤
      mutex.promises.jobs.countP isAdopt := (List.tail_sublist _).countP_le
  cases does with
  | @adopt target thenable first =>
      have grows : mutex.Grows (mutex.withPromises
          (mutex.promises.dequeue.react thenable (.resolve target))) :=
        grows_withPromises fun promise settled => by
          rwa [Promises.result_react]
      refine grows.rank_lt_of_adopts (adopts_react.trans_lt ?_)
      obtain ⟨rest, jobs⟩ := List.head?_eq_some_iff.mp first
      unfold Promises.dequeue
      rw [jobs, List.tail_cons, List.countP_cons_of_pos rfl]
      exact Nat.lt_succ_self _
  | resolve first =>
      obtain ⟨promise, -, index, run, found, rfl, -, -, pending⟩ :=
        invariant.queued _ _ (List.mem_of_mem_head? first)
      refine (grows_withPromises fun _ settled => ?_).rank_lt
        (invariant.bounded index run found)
        (.inr (.inl ⟨pending, settled_settle_self⟩)) ?_
      · exact settled_settle settled
      · exact Nat.le_succ_of_le (adopts_settle.trans_le dequeued)
  | fn first =>
      obtain ⟨entry, ready⟩ := invariant.ready first
      exact Nat.lt_of_lt_of_le
        (ready.rank_lt (invariant.bounded _ entry ready.found)) fewer
  | @swallow index _ _ first =>
      obtain ⟨promise, -, isRun, -, pending⟩ :=
        invariant.queued _ _ (List.mem_of_mem_head? first)
      obtain ⟨run, found⟩ := Option.isSome_iff_exists.mp isRun
      refine (grows_withPromises fun _ settled => ?_).rank_lt
        (invariant.bounded index run found)
        (.inr (.inr (.inl ⟨pending, settled_settle_self⟩))) ?_
      · exact settled_settle settled
      · exact Nat.le_succ_of_le (adopts_settle.trans_le dequeued)
  | resume first =>
      obtain ⟨promise, -, run, found, -, unfinished⟩ :=
        invariant.queued _ _ (List.mem_of_mem_head? first)
      exact Nat.lt_of_lt_of_le (finish_rank_lt found unfinished
        (invariant.bounded _ run found)) fewer

/-- The microtasks one after the other, with what the functions do that they
call; none of them calls `run`. -/
def microtasks [DecidableEq κ] (mutex : KeyedMutexState κ ε α)
    (called : Nat → Except ε Unit) : Nat → KeyedMutexState κ ε α
  | 0 => mutex
  | count + 1 => ((mutex.microtasks called count).microtask []
      (called count)).getD (mutex.microtasks called count)

theorem Reachable.microtasks [DecidableEq κ] (reachable : mutex.Reachable)
    (called : Nat → Except ε Unit) (count : Nat) :
    (mutex.microtasks called count).Reachable := by
  induction count with
  | zero => exact reachable
  | succ count ih =>
      unfold KeyedMutexState.microtasks
      cases runs : (mutex.microtasks called count).microtask [] (called count) with
      | none =>
          rw [Option.getD_none]
          exact ih
      | some later =>
          rw [Option.getD_some]
          exact ih.step (show (mutex.microtasks called count).step
            (.microtask [] (called count)) = some later from runs)

/-- The rank bounds the number of microtasks. -/
theorem Reachable.microtasks_end [DecidableEq κ] (reachable : mutex.Reachable)
    (called : Nat → Except ε Unit) :
    ∃ count, (mutex.microtasks called count).promises.jobs = [] := by
  by_contra busy
  push Not at busy
  have falls : ∀ count, (mutex.microtasks called count).rank + count ≤
      mutex.rank := by
    intro count
    induction count with
    | zero => exact Nat.le_refl _
    | succ count ih =>
        obtain ⟨job, rest, jobs⟩ := List.exists_cons_of_ne_nil (busy count)
        obtain ⟨later, runs⟩ : ∃ later, (mutex.microtasks called count).microtask
            [] (called count) = some later := by
          unfold KeyedMutexState.microtask
          rw [jobs]
          exact ⟨_, rfl⟩
        have less := (reachable.microtasks called count).invariant.rank_lt
          (does_of_microtask runs)
        have next : mutex.microtasks called (count + 1) = later := by
          change (KeyedMutexState.microtask _ _ _).getD _ = later
          rw [runs]
          rfl
        rw [next]
        omega
  have bound := falls (mutex.rank + 1)
  omega

end Rank

end KeyedMutexState

/-- The mutex after the moves, if they can be made. -/
def KeyedMutexState.follow {κ ε α : Type} [DecidableEq κ]
    (mutex : KeyedMutexState κ ε α) :
    List (MutexMove κ ε α) → Option (KeyedMutexState κ ε α)
  | [] => some mutex
  | move :: moves => (mutex.step move).bind (·.follow moves)

theorem KeyedMutexState.reachable_of_follow {κ ε α : Type} [DecidableEq κ]
    {mutex last : KeyedMutexState κ ε α} {moves : List (MutexMove κ ε α)}
    (reachable : mutex.Reachable) (followed : mutex.follow moves = some last) :
    last.Reachable := by
  induction moves generalizing mutex with
  | nil =>
      cases followed
      exact reachable
  | cons move moves ih =>
      obtain ⟨next, moved, rest⟩ := Option.bind_eq_some_iff.mp followed
      exact ih (reachable.step moved) rest

/-- In every state of the mutex: functions were called once, those of a key in
the order of their runs and each after the ones before it had ended; a call of
`run` ends with what its function gave; a key whose runs have all ended has no
tail.  When no microtask is left, a function has been called unless one of its
key before it is still at work, and the callers of those that have ended have
their results.  The microtasks always run out. -/
theorem keyed_mutex_is_fifo {κ ε α : Type} [DecidableEq κ]
    {mutex : KeyedMutexState κ ε α} (reachable : mutex.Reachable) :
    mutex.started.Nodup ∧
    (mutex.started.Pairwise fun earlier later =>
      mutex.keyOf earlier = mutex.keyOf later → earlier < later) ∧
    (∀ earlier later, earlier < later →
      mutex.keyOf earlier = mutex.keyOf later → later ∈ mutex.started →
      (mutex.fnResult earlier).isSome) ∧
    (∀ index run result, mutex.runs index = some run →
      run.result = some result → mutex.fnResult index = some result) ∧
    (∀ key, (∀ index run, mutex.runs index = some run → run.key = key →
      run.result ≠ none) → mutex.tails key = none) ∧
    (mutex.promises.jobs = [] → ∀ index run, mutex.runs index = some run →
      (index ∈ mutex.started ↔ ∀ before, before < index →
        mutex.keyOf before = some run.key →
        (mutex.fnResult before).isSome) ∧
      run.result = mutex.fnResult index) ∧
    ∀ called, ∃ count, (mutex.microtasks called count).promises.jobs = [] := by
  have invariant := reachable.invariant
  have logged := reachable.logged
  have exclusive : ∀ earlier later, earlier < later →
      mutex.keyOf earlier = mutex.keyOf later → later ∈ mutex.started →
      (mutex.fnResult earlier).isSome := by
    intro earlier later isBefore same isStarted
    obtain ⟨run, found, called⟩ :=
      KeyedMutexState.exists_of_calledOf ((logged.called later).mp isStarted)
    have ofKey : mutex.keyOf earlier = some run.key := by
      rw [same]
      unfold KeyedMutexState.keyOf
      rw [found]
      rfl
    obtain ⟨first, atFirst, firstKey⟩ := KeyedMutexState.exists_of_keyOf ofKey
    have settled := invariant.before_settled found
      (invariant.called later run found called) earlier first isBefore atFirst
      firstKey
    obtain ⟨result, known⟩ := Option.ne_none_iff_exists'.mp settled
    rw [invariant.next earlier result known]
    rfl
  refine ⟨logged.nodup, logged.ordered, exclusive, ?_, ?_, ?_,
    reachable.microtasks_end⟩
  · intro index run result found ended
    exact invariant.next index result (invariant.result index run result found ended)
  · intro key ended
    have tailOf := invariant.tails key
    unfold KeyedMutexState.TailOf at tailOf
    split at tailOf
    · obtain ⟨last, run, -, found, ofKey, unfinished, -⟩ := tailOf
      exact absurd unfinished (ended last run found ofKey)
    · assumption
  · intro idle index run found
    obtain ⟨starts, result⟩ := invariant.idle idle found
    have ofKey : mutex.keyOf index = some run.key := by
      unfold KeyedMutexState.keyOf
      rw [found]
      rfl
    refine ⟨⟨fun isStarted before isBefore same => ?_, fun ended => ?_⟩, result⟩
    · exact exclusive before index isBefore (same.trans ofKey.symm) isStarted
    · rw [logged.called index]
      unfold KeyedMutexState.calledOf
      rw [found]
      exact starts ended

/-- Two runs of a key: the function of the first one rejects, and that of the
second one is called after it. -/
theorem keyed_mutex_is_fifo_after_error :
    ∃ mutex : KeyedMutexState String String Nat, mutex.Reachable ∧
      mutex.started = [0, 1] ∧
      mutex.fnResult 0 = some (.error "full") ∧
      (mutex.fnResult 0).isSome := by
  have followed : (KeyedMutexState.follow {} [.run "edge", .run "edge",
      .microtask [] (.ok ()), .settleFn 0 (.error "full"),
      .microtask [] (.ok ()), .microtask [] (.ok ()), .microtask [] (.ok ()),
      .microtask [] (.ok ()), .microtask [] (.ok ())] :
      Option (KeyedMutexState String String Nat)).map
        (fun mutex => (mutex.started, mutex.fnResult 0, mutex.keyOf 0,
          mutex.keyOf 1)) =
      some ([0, 1], some (.error "full"), some "edge", some "edge") := by
    decide +kernel
  obtain ⟨mutex, moves, seen⟩ := Option.map_eq_some_iff.mp followed
  simp only [Prod.mk.injEq] at seen
  obtain ⟨started, failed, first, second⟩ := seen
  have reachable := KeyedMutexState.reachable_of_follow .initial moves
  refine ⟨mutex, reachable, started, failed, ?_⟩
  exact (keyed_mutex_is_fifo reachable).2.2.1 0 1 Nat.zero_lt_one
    (first.trans second.symm) (by simp [started])

end FluxIP
