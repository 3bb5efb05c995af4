import FluxIP.Domain.KeyedMutex
import Mathlib.Data.List.Infix
import Mathlib.Data.Nat.Init

/-!
# The invariant of the keyed mutex

A function is called when the tail of the run before it has settled, and the
tail settles after that run's function.  The map names the tail of the last run
of a key until that run is over.
-/

namespace FluxIP

open Async

variable {κ ε α : Type}

abbrev MutexReaction := Reaction MutexPromise MutexHandler

namespace KeyedMutexState

/-- A reaction that waits for a promise has a reason to, and has not been run. -/
def Belongs (mutex : KeyedMutexState κ ε α) (promise : MutexPromise) :
    MutexReaction → Prop
  | .call (.fn index) => ∃ run, mutex.runs index = some run ∧
      run.previous = promise ∧ run.called = none
  | .call (.swallow index) => (mutex.runs index).isSome ∧
      promise = .next index ∧ mutex.promises.result (.tail index) = none
  | .call (.resume index) => ∃ run, mutex.runs index = some run ∧
      promise = .next index ∧ run.result = none
  | .resolve target => ∃ index run, mutex.runs index = some run ∧
      target = .next index ∧ promise = .returned index ∧
      run.called = some (.ok ()) ∧ mutex.promises.result (.next index) = none

/-- What is still to be done is waited for. -/
def Owed (mutex : KeyedMutexState κ ε α) : MutexReaction → Prop
  | .call (.fn index) => ∀ run, mutex.runs index = some run →
      run.called = none →
      mutex.promises.Follows run.previous (.call (.fn index))
  | .call (.swallow index) => ∀ run, mutex.runs index = some run →
      mutex.promises.result (.tail index) = none →
      mutex.promises.Follows (.next index) (.call (.swallow index))
  | .call (.resume index) => ∀ run, mutex.runs index = some run →
      run.result = none →
      mutex.promises.Follows (.next index) (.call (.resume index))
  | .resolve target => ∀ index run, target = .next index →
      mutex.runs index = some run → run.called ≠ none →
      mutex.promises.result (.next index) = none →
      run.called = some (.ok ()) ∧
        (.adopt (.next index) (.returned index) ∈ mutex.promises.jobs ∨
          mutex.promises.Follows (.returned index) (.resolve (.next index)))

/-- A run starts from the tail of the run before it, or when all runs before it
have a settled `next`. -/
def Chained (mutex : KeyedMutexState κ ε α) (index : Nat)
    (run : MutexRun κ ε α) : Prop :=
  (∃ before earlier, before < index ∧ mutex.runs before = some earlier ∧
      earlier.key = run.key ∧ run.previous = .tail before ∧
      ∀ between other, before < between → between < index →
        mutex.runs between = some other → other.key ≠ run.key) ∨
    run.previous = .resolved index ∧
      mutex.promises.result (.resolved index) ≠ none ∧
      ∀ before earlier, before < index → mutex.runs before = some earlier →
        earlier.key = run.key → mutex.promises.result (.next before) ≠ none

/-- The map has the tail of the last run of the key, until it is over; and
nothing if every `next` of the key has settled. -/
def TailOf (mutex : KeyedMutexState κ ε α) (key : κ) : Prop :=
  match mutex.tails key with
  | some tail => ∃ last run, tail = .tail last ∧ mutex.runs last = some run ∧
      run.key = key ∧ run.result = none ∧
      ∀ later other, last < later → mutex.runs later = some other →
        other.key ≠ key
  | none => ∀ index run, mutex.runs index = some run → run.key = key →
      mutex.promises.result (.next index) ≠ none

/-- The invariant of the mutex; reactions in `exempt` are just being run or
registered. -/
structure Invariant (exempt : MutexReaction → Prop)
    (mutex : KeyedMutexState κ ε α) : Prop where
  orderly : mutex.promises.Orderly
  bounded : ∀ index run, mutex.runs index = some run → index < mutex.calls
  belongs : ∀ promise, ∀ reaction ∈ mutex.promises.reactions promise,
    mutex.Belongs promise reaction
  queued : ∀ reaction result,
    .react reaction result ∈ mutex.promises.jobs →
    ∃ promise, mutex.promises.result promise = some result ∧
      mutex.Belongs promise reaction
  adopts : ∀ target thenable,
    .adopt target thenable ∈ mutex.promises.jobs →
    mutex.Belongs thenable (.resolve target)
  owed : ∀ reaction, ¬ exempt reaction → mutex.Owed reaction
  next : ∀ index result,
    mutex.promises.result (.next index) = some result →
    mutex.fnResult index = some result
  tail : ∀ index, mutex.promises.result (.tail index) ≠ none →
    mutex.promises.result (.next index) ≠ none
  result : ∀ index run result, mutex.runs index = some run →
    run.result = some result →
    mutex.promises.result (.next index) = some result
  called : ∀ index run, mutex.runs index = some run → run.called ≠ none →
    mutex.promises.result run.previous ≠ none
  chained : ∀ index run, mutex.runs index = some run →
    mutex.Chained index run
  tails : ∀ key, mutex.TailOf key

variable {exempt weaker : MutexReaction → Prop}
variable {mutex : KeyedMutexState κ ε α} {promise : MutexPromise}
variable {index : Nat}
variable {reaction : MutexReaction}
variable {outcome : Except ε (Option α)}

theorem Invariant.close (invariant : mutex.Invariant exempt)
    (closes : ∀ reaction, exempt reaction → weaker reaction ∨
      mutex.Owed reaction) : mutex.Invariant weaker :=
  { invariant with
    owed := fun reaction notWeaker => by
      by_cases exempted : exempt reaction
      · exact (closes reaction exempted).resolve_left notWeaker
      · exact invariant.owed reaction exempted }

theorem Invariant.initial :
    Invariant exempt ({} : KeyedMutexState κ ε α) where
  orderly := .initial
  bounded _ _ found := by cases found
  belongs _ _ member := by cases member
  queued _ _ member := by cases member
  adopts _ _ member := by cases member
  owed reaction _ := by
    cases reaction with
    | resolve target => exact fun _ _ _ found => by cases found
    | call handler => cases handler <;> exact fun _ found => by cases found
  next _ _ settled := by cases settled
  tail _ settled := absurd rfl settled
  result _ _ _ found := by cases found
  called _ _ found := by cases found
  chained _ _ found := by cases found
  tails _ _ _ found := by cases found

/-- Nobody waits for a run there is not. -/
theorem Invariant.absent (invariant : mutex.Invariant exempt)
    (never : ∀ promise, ¬ mutex.Belongs promise reaction) :
    mutex.promises.Absent reaction where
  waits promise member := never promise (invariant.belongs promise _ member)
  jobs member := by
    obtain ⟨job, queued, about⟩ := List.mem_map.mp member
    cases job with
    | react other result =>
        cases about
        obtain ⟨promise, -, belongs⟩ := invariant.queued _ _ queued
        exact never promise belongs
    | adopt target thenable =>
        cases about
        exact never thenable (invariant.adopts _ _ queued)

/-! ## The order of the functions -/

theorem fnResult_called (result : mutex.fnResult index = some outcome) :
    ∃ run, mutex.runs index = some run ∧ run.called ≠ none := by
  unfold fnResult at result
  cases found : mutex.runs index with
  | none => simp [found] at result
  | some run =>
      refine ⟨run, rfl, fun none => ?_⟩
      simp [found, none] at result

/-- When a function may be called, all before it have ended. -/
theorem Invariant.before_settled (invariant : mutex.Invariant exempt)
    {index : Nat} {run : MutexRun κ ε α} (found : mutex.runs index = some run)
    (ready : mutex.promises.result run.previous ≠ none) :
    ∀ before earlier, before < index → mutex.runs before = some earlier →
      earlier.key = run.key → mutex.promises.result (.next before) ≠ none := by
  induction index using Nat.strong_induction_on generalizing run with
  | _ index ih =>
      intro before earlier isBefore atBefore sameKey
      rcases invariant.chained index run found with
        ⟨last, previous, lastBefore, atLast, lastKey, isTail, between⟩ |
        ⟨-, -, settled⟩
      · rw [isTail] at ready
        have lastSettled := invariant.tail last ready
        rcases Nat.lt_trichotomy before last with earlierStill | rfl | later
        · obtain ⟨result, known⟩ := Option.ne_none_iff_exists'.mp lastSettled
          obtain ⟨same, atSame, called⟩ :=
            fnResult_called (invariant.next last result known)
          cases atLast.symm.trans atSame
          exact ih last lastBefore atLast
            (invariant.called last previous atLast called) before earlier
            earlierStill atBefore (sameKey.trans lastKey.symm)
        · exact lastSettled
        · exact absurd sameKey (between before earlier later isBefore atBefore)
      · exact settled before earlier isBefore atBefore sameKey

/-! ## Steps on the promises -/

/-- The mutex with other promises. -/
def withPromises (mutex : KeyedMutexState κ ε α)
    (promises : MutexPromises ε α) : KeyedMutexState κ ε α :=
  { mutex with promises }

theorem fnResult_withPromises {promises : MutexPromises ε α}
    (keeps : ∀ promise result, mutex.promises.result promise = some result →
      promises.result promise = some result)
    (known : mutex.fnResult index = some outcome) :
    (mutex.withPromises promises).fnResult index = some outcome := by
  have same : ((mutex.withPromises promises).runs index).bind (·.called) =
      (mutex.runs index).bind (·.called) := rfl
  unfold fnResult at known ⊢
  rw [same]
  cases called : (mutex.runs index).bind (·.called) with
  | none =>
      rw [called] at known
      cases known
  | some returns =>
      rw [called] at known
      cases returns with
      | ok value => exact keeps _ _ known
      | error error => exact known

/-- Chains and tails speak of what has settled, and that stays. -/
theorem Chained.withPromises {promises : MutexPromises ε α}
    {run : MutexRun κ ε α}
    (keeps : ∀ promise, mutex.promises.result promise ≠ none →
      promises.result promise ≠ none)
    (chained : mutex.Chained index run) :
    (mutex.withPromises promises).Chained index run := by
  rcases chained with before | ⟨same, settled, all⟩
  · exact .inl before
  · exact .inr ⟨same, keeps _ settled, fun before earlier isBefore found key =>
      keeps _ (all before earlier isBefore found key)⟩

theorem TailOf.withPromises {promises : MutexPromises ε α} {key : κ}
    (keeps : ∀ promise, mutex.promises.result promise ≠ none →
      promises.result promise ≠ none)
    (tailOf : mutex.TailOf key) : (mutex.withPromises promises).TailOf key := by
  unfold TailOf at tailOf ⊢
  change match mutex.tails key with | some tail => _ | none => _
  split at tailOf
  · exact tailOf
  · exact fun index run found key => keeps _ (tailOf index run found key)

theorem Invariant.dequeue {job : Microtask MutexPromise MutexHandler ε (Option α)}
    (invariant : mutex.Invariant fun _ => False)
    (first : mutex.promises.jobs.head? = some job) :
    (mutex.withPromises mutex.promises.dequeue).Invariant (· = job.about) ∧
      mutex.promises.dequeue.Absent job.about := by
  obtain ⟨orderly, absent⟩ := invariant.orderly.dequeue first
  have later : mutex.promises.dequeue.jobs ⊆ mutex.promises.jobs :=
    List.tail_subset _
  refine ⟨{
    orderly
    bounded := invariant.bounded
    belongs := invariant.belongs
    queued := fun reaction result member =>
      invariant.queued reaction result (later member)
    adopts := fun target thenable member =>
      invariant.adopts target thenable (later member)
    owed := ?_
    next := invariant.next
    tail := invariant.tail
    result := invariant.result
    called := invariant.called
    chained := invariant.chained
    tails := invariant.tails }, absent⟩
  intro reaction other
  have owed := invariant.owed reaction not_false
  have apart : job.about ≠ reaction := fun same => other same.symm
  cases reaction with
  | resolve target =>
      intro index run same found called pending
      obtain ⟨returned, waits⟩ := owed index run same found called pending
      refine ⟨returned, ?_⟩
      rcases waits with queued | follows
      · refine .inl ?_
        obtain ⟨rest, jobs⟩ := List.head?_eq_some_iff.mp first
        rw [jobs] at queued
        rcases List.mem_cons.mp queued with isFirst | queued
        · subst isFirst same
          exact absurd rfl apart
        · change _ ∈ mutex.promises.jobs.tail
          rw [jobs]
          exact queued
      · exact .inr (follows.dequeue first (same ▸ apart))
  | call handler =>
      cases handler with
      | fn index => exact fun run found none => (owed run found none).dequeue first apart
      | swallow index =>
          exact fun run found none => (owed run found none).dequeue first apart
      | resume index =>
          exact fun run found none => (owed run found none).dequeue first apart

/-- What is owed stays so when promises settle and reactions are added. -/
theorem Owed.withPromises {promises : MutexPromises ε α}
    (results : ∀ promise, promises.result promise = none →
      mutex.promises.result promise = none)
    (jobs : mutex.promises.jobs ⊆ promises.jobs)
    (follows : ∀ promise reaction,
      mutex.promises.Follows promise reaction →
      promises.Follows promise reaction)
    (owed : mutex.Owed reaction) :
    (mutex.withPromises promises).Owed reaction := by
  cases reaction with
  | resolve target =>
      intro index run same found called pending
      obtain ⟨returned, waits⟩ :=
        owed index run same found called (results _ pending)
      exact ⟨returned, waits.imp (jobs ·) (follows _ _)⟩
  | call handler =>
      cases handler with
      | fn index => exact fun run found none => follows _ _ (owed run found none)
      | swallow index =>
          exact fun run found pending =>
            follows _ _ (owed run found (results _ pending))
      | resume index =>
          exact fun run found none => follows _ _ (owed run found none)

/-- What belongs somewhere still does if its own promise has not settled. -/
theorem Belongs.withPromises {promises : MutexPromises ε α}
    (swallow : ∀ index, reaction = .call (.swallow index) →
      mutex.promises.result (.tail index) = none →
      promises.result (.tail index) = none)
    (resolve : ∀ index, reaction = .resolve (.next index) →
      mutex.promises.result (.next index) = none →
      promises.result (.next index) = none)
    (belongs : mutex.Belongs promise reaction) :
    (mutex.withPromises promises).Belongs promise reaction := by
  cases reaction with
  | resolve target =>
      obtain ⟨index, run, found, rfl, same, called, pending⟩ := belongs
      exact ⟨index, run, found, rfl, same, called, resolve index rfl pending⟩
  | call handler =>
      cases handler with
      | fn index => exact belongs
      | swallow index =>
          exact ⟨belongs.1, belongs.2.1, swallow index rfl belongs.2.2⟩
      | resume index => exact belongs

theorem Invariant.react (invariant : mutex.Invariant exempt)
    (absent : mutex.promises.Absent reaction)
    (belongs : mutex.Belongs promise reaction) :
    (mutex.withPromises (mutex.promises.react promise reaction)).Invariant
      exempt := by
  have same {other : MutexPromise} :
      (mutex.promises.react promise reaction).result other =
        mutex.promises.result other := Promises.result_react
  have kept {other : MutexPromise} {waiting : MutexReaction}
      (here : mutex.Belongs other waiting) :
      (mutex.withPromises (mutex.promises.react promise reaction)).Belongs
        other waiting :=
    Belongs.withPromises (fun _ _ pending => same.trans pending)
      (fun _ _ pending => same.trans pending) here
  have keeps : ∀ other, mutex.promises.result other ≠ none →
      (mutex.promises.react promise reaction).result other ≠ none :=
    fun other settled => same ▸ settled
  exact {
    orderly := invariant.orderly.react absent
    bounded := invariant.bounded
    belongs := fun other waiting member => by
      rcases Promises.mem_reactions_react member with old | ⟨rfl, rfl⟩
      · exact kept (invariant.belongs other waiting old)
      · exact kept belongs
    queued := fun waiting result member => by
      rcases Promises.mem_jobs_react member with old | ⟨known, settled, new⟩
      · obtain ⟨other, settled, here⟩ := invariant.queued waiting result old
        exact ⟨other, same.trans settled, kept here⟩
      · cases new
        exact ⟨promise, same.trans settled, kept belongs⟩
    adopts := fun target thenable member => by
      rcases Promises.mem_jobs_react member with old | ⟨known, settled, new⟩
      · exact kept (invariant.adopts target thenable old)
      · cases new
    owed := fun waiting notExempt =>
      (invariant.owed waiting notExempt).withPromises
        (fun _ pending => same.symm.trans pending) Promises.jobs_subset_react
        fun _ _ follows => follows.react
    next := fun index result settled =>
      fnResult_withPromises (fun _ _ known => same.trans known)
        (invariant.next index result (same.symm.trans settled))
    tail := fun index settled => keeps _ (invariant.tail index (same ▸ settled))
    result := fun index run result found ended =>
      same.trans (invariant.result index run result found ended)
    called := fun index run found called =>
      keeps _ (invariant.called index run found called)
    chained := fun index run found =>
      (invariant.chained index run found).withPromises keeps
    tails := fun key => (invariant.tails key).withPromises keeps }

/-- A promise settles when whoever settles it may do so. -/
theorem Invariant.settle (invariant : mutex.Invariant exempt)
    (ofNext : ∀ index, promise = .next index →
      mutex.fnResult index = some outcome ∧
        mutex.promises.Absent (.resolve (.next index)))
    (ofTail : ∀ index, promise = .tail index →
      mutex.promises.result (.next index) ≠ none ∧
        mutex.promises.Absent (.call (.swallow index))) :
    (mutex.withPromises (mutex.promises.settle promise outcome)).Invariant
      exempt := by
  have mono : ∀ other result, mutex.promises.result other = some result →
      (mutex.promises.settle promise outcome).result other = some result :=
    fun _ _ => Promises.result_settle_mono
  have keeps : ∀ other, mutex.promises.result other ≠ none →
      (mutex.promises.settle promise outcome).result other ≠ none := by
    intro other settled
    obtain ⟨result, known⟩ := Option.ne_none_iff_exists'.mp settled
    rw [mono other result known]
    exact Option.some_ne_none _
  have pending : ∀ other,
      (mutex.promises.settle promise outcome).result other = none →
      mutex.promises.result other = none := by
    intro other none
    by_contra settled
    exact keeps other settled none
  have settles (none : mutex.promises.result promise = none) :
      (mutex.promises.settle promise outcome).result promise = some outcome := by
    rw [Promises.result_settle_self, none]
    rfl
  have unchanged {other : MutexPromise} (different : promise ≠ other) :
      (mutex.promises.settle promise outcome).result other =
        mutex.promises.result other :=
    Promises.result_settle_ne fun same => different same.symm
  -- a reaction that is there is not the one that settles the promise
  have kept {other : MutexPromise} {waiting : MutexReaction}
      (present : ¬ mutex.promises.Absent waiting)
      (here : mutex.Belongs other waiting) :
      (mutex.withPromises (mutex.promises.settle promise outcome)).Belongs
        other waiting := by
    refine Belongs.withPromises ?_ ?_ here
    · rintro index rfl none
      rw [Promises.result_settle_ne, none]
      rintro rfl
      exact present (ofTail index rfl).2
    · rintro index rfl none
      rw [Promises.result_settle_ne, none]
      rintro rfl
      exact present (ofNext index rfl).2
  exact {
    orderly := invariant.orderly.settle
    bounded := invariant.bounded
    belongs := fun other waiting member => by
      have old := (Promises.mem_reactions_settle member).1
      exact kept (fun absent => absent.waits other old)
        (invariant.belongs other waiting old)
    queued := fun waiting result member => by
      rcases Promises.mem_jobs_settle member with old | ⟨none, moved, waits, new⟩
      · obtain ⟨other, settled, here⟩ := invariant.queued waiting result old
        refine ⟨other, mono other result settled, kept ?_ here⟩
        exact fun absent => absent.jobs (List.mem_map_of_mem old)
      · cases new
        exact ⟨promise, settles none,
          kept (fun absent => absent.waits promise waits)
            (invariant.belongs promise _ waits)⟩
    adopts := fun target thenable member => by
      rcases Promises.mem_jobs_settle member with old | ⟨_, _, _, new⟩
      · refine kept ?_ (invariant.adopts target thenable old)
        exact fun absent => absent.jobs (List.mem_map_of_mem old)
      · cases new
    owed := fun waiting notExempt =>
      (invariant.owed waiting notExempt).withPromises pending
        Promises.jobs_subset_settle fun _ _ follows => follows.settle
    next := fun index result settled => by
      apply fnResult_withPromises mono
      cases known : mutex.promises.result (.next index) with
      | some before =>
          have same := (mono _ _ known).symm.trans settled
          cases same
          exact invariant.next index _ known
      | none =>
          by_cases same : promise = .next index
          · subst same
            cases (settles known).symm.trans settled
            exact (ofNext index rfl).1
          · cases ((unchanged same).symm.trans settled).symm.trans known
    tail := fun index settled => by
      cases known : mutex.promises.result (.tail index) with
      | some before =>
          exact keeps _ (invariant.tail index (known ▸ Option.some_ne_none _))
      | none =>
          by_cases same : promise = .tail index
          · exact keeps _ (ofTail index same).1
          · exact absurd ((unchanged same).trans known) settled
    result := fun index run result found ended =>
      mono _ _ (invariant.result index run result found ended)
    called := fun index run found called =>
      keeps _ (invariant.called index run found called)
    chained := fun index run found =>
      (invariant.chained index run found).withPromises keeps
    tails := fun key => (invariant.tails key).withPromises keeps }

theorem Invariant.enqueue (invariant : mutex.Invariant exempt)
    {target thenable : MutexPromise}
    (absent : mutex.promises.Absent (.resolve target))
    (belongs : mutex.Belongs thenable (.resolve target)) :
    (mutex.withPromises (mutex.promises.enqueue (.adopt target thenable))).Invariant
      exempt where
  orderly := invariant.orderly.enqueue absent
  bounded := invariant.bounded
  belongs := invariant.belongs
  queued reaction result member := by
    rcases List.mem_append.mp member with old | new
    · exact invariant.queued reaction result old
    · cases List.mem_singleton.mp new
  adopts other later member := by
    rcases List.mem_append.mp member with old | new
    · exact invariant.adopts other later old
    · cases List.mem_singleton.mp new
      exact belongs
  owed reaction notExempt :=
    (invariant.owed reaction notExempt).withPromises (fun _ pending => pending)
      (List.subset_append_left _ _) fun _ _ follows => follows.enqueue
  next := invariant.next
  tail := invariant.tail
  result := invariant.result
  called := invariant.called
  chained := invariant.chained
  tails := invariant.tails

/-! ## A call of `run` -/

section Run

theorem Invariant.runs_calls (invariant : mutex.Invariant exempt) :
    mutex.runs mutex.calls = none := by
  by_contra found
  obtain ⟨run, found⟩ := Option.ne_none_iff_exists'.mp found
  exact absurd (invariant.bounded _ run found) (Nat.lt_irrefl _)

theorem Invariant.next_fresh (invariant : mutex.Invariant exempt)
    (fresh : mutex.runs index = none) :
    mutex.promises.result (.next index) = none := by
  by_contra settled
  obtain ⟨result, known⟩ := Option.ne_none_iff_exists'.mp settled
  obtain ⟨run, found, -⟩ := fnResult_called (invariant.next index result known)
  cases found.symm.trans fresh

/-- The reactions a call of `run` registers. -/
def ofRun (index : Nat) (reaction : MutexReaction) : Prop :=
  reaction = .call (.fn index) ∨ reaction = .call (.swallow index) ∨
    reaction = .call (.resume index)

/-- Of a run that is not there nothing is there. -/
theorem Invariant.fresh (invariant : mutex.Invariant exempt)
    (fresh : mutex.runs index = none) (own : ofRun index reaction) :
    mutex.promises.Absent reaction := by
  apply invariant.absent
  intro promise belongs
  rcases own with rfl | rfl | rfl
  · obtain ⟨run, found, -⟩ := belongs
    cases found.symm.trans fresh
  · have isSome := belongs.1
    rw [fresh] at isSome
    cases isSome
  · obtain ⟨run, found, -⟩ := belongs
    cases found.symm.trans fresh

theorem result_previous {key : κ}
    (settled : mutex.promises.result promise = some outcome) :
    (mutex.previous key).2.result promise = some outcome := by
  unfold KeyedMutexState.previous
  split
  · exact settled
  · exact Promises.result_settle_mono settled

variable [DecidableEq κ]

/-- The new run is noted, and the map has its tail. -/
def noteRun (mutex : KeyedMutexState κ ε α) (key : κ)
    (previous : MutexPromise) : KeyedMutexState κ ε α :=
  { mutex with
    tails := Function.update mutex.tails key (some (.tail mutex.calls))
    runs := Function.update mutex.runs mutex.calls (some { key, previous })
    calls := mutex.calls + 1 }

theorem noteRun_runs_of_ne {key : κ} {previous : MutexPromise}
    (old : index ≠ mutex.calls) :
    (mutex.noteRun key previous).runs index = mutex.runs index :=
  Function.update_of_ne old _ _

theorem noteRun_runs_self {key : κ} {previous : MutexPromise} :
    (mutex.noteRun key previous).runs mutex.calls = some { key, previous } :=
  Function.update_self _ _ _

/-- A run after the call is the new one or was there before. -/
theorem noteRun_cases {key : κ} {previous : MutexPromise}
    {run : MutexRun κ ε α}
    (found : (mutex.noteRun key previous).runs index = some run) :
    index = mutex.calls ∧ run = { key, previous } ∨
      index ≠ mutex.calls ∧ mutex.runs index = some run := by
  by_cases same : index = mutex.calls
  · subst same
    exact .inl ⟨rfl, (Option.some.inj (noteRun_runs_self.symm.trans found)).symm⟩
  · exact .inr ⟨same, (noteRun_runs_of_ne same).symm.trans found⟩

theorem Belongs.noteRun {key : κ} {previous : MutexPromise}
    (fresh : mutex.runs mutex.calls = none)
    (belongs : mutex.Belongs promise reaction) :
    (mutex.noteRun key previous).Belongs promise reaction := by
  have kept {index : Nat} {run : MutexRun κ ε α}
      (found : mutex.runs index = some run) :
      (mutex.noteRun key previous).runs index = some run := by
    rw [noteRun_runs_of_ne, found]
    rintro rfl
    cases found.symm.trans fresh
  cases reaction with
  | resolve target =>
      obtain ⟨index, run, found, rest⟩ := belongs
      exact ⟨index, run, kept found, rest⟩
  | call handler =>
      cases handler with
      | fn index =>
          obtain ⟨run, found, rest⟩ := belongs
          exact ⟨run, kept found, rest⟩
      | swallow index =>
          obtain ⟨run, found⟩ := Option.isSome_iff_exists.mp belongs.1
          exact ⟨Option.isSome_of_mem (kept found), belongs.2⟩
      | resume index =>
          obtain ⟨run, found, rest⟩ := belongs
          exact ⟨run, kept found, rest⟩

theorem fnResult_noteRun {key : κ} {previous : MutexPromise}
    (fresh : mutex.runs mutex.calls = none)
    (known : mutex.fnResult index = some outcome) :
    (mutex.noteRun key previous).fnResult index = some outcome := by
  obtain ⟨run, found, -⟩ := fnResult_called known
  have old : index ≠ mutex.calls := by
    rintro rfl
    cases found.symm.trans fresh
  unfold fnResult at known ⊢
  rw [noteRun_runs_of_ne old]
  exact known

theorem Invariant.noteRun (invariant : mutex.Invariant exempt) {key : κ}
    {previous : MutexPromise}
    (chained : (mutex.noteRun key previous).Chained mutex.calls
      { key, previous }) :
    (mutex.noteRun key previous).Invariant
      fun reaction => exempt reaction ∨ ofRun mutex.calls reaction := by
  have fresh := invariant.runs_calls
  have kept {other : MutexPromise} {waiting : MutexReaction}
      (here : mutex.Belongs other waiting) :
      (mutex.noteRun key previous).Belongs other waiting := here.noteRun fresh
  exact {
    orderly := invariant.orderly
    bounded := fun index run found => by
      rcases noteRun_cases found with ⟨rfl, -⟩ | ⟨-, old⟩
      · exact Nat.lt_succ_self _
      · exact Nat.lt_succ_of_lt (invariant.bounded index run old)
    belongs := fun other waiting member =>
      kept (invariant.belongs other waiting member)
    queued := fun waiting result member => by
      obtain ⟨other, settled, here⟩ := invariant.queued waiting result member
      exact ⟨other, settled, kept here⟩
    adopts := fun target thenable member =>
      kept (invariant.adopts target thenable member)
    owed := fun waiting notExempt => by
      have owed := invariant.owed waiting fun exempted => notExempt (.inl exempted)
      have notOfRun : ¬ ofRun mutex.calls waiting := fun own => notExempt (.inr own)
      cases waiting with
      | resolve target =>
          intro index run same found called pending
          rcases noteRun_cases found with ⟨-, rfl⟩ | ⟨-, old⟩
          · exact absurd rfl called
          · exact owed index run same old called pending
      | call handler =>
          cases handler with
          | fn index =>
              intro run found none
              rcases noteRun_cases found with ⟨rfl, -⟩ | ⟨-, old⟩
              · exact absurd (.inl rfl) notOfRun
              · exact owed run old none
          | swallow index =>
              intro run found pending
              rcases noteRun_cases found with ⟨rfl, -⟩ | ⟨-, old⟩
              · exact absurd (.inr (.inl rfl)) notOfRun
              · exact owed run old pending
          | resume index =>
              intro run found none
              rcases noteRun_cases found with ⟨rfl, -⟩ | ⟨-, old⟩
              · exact absurd (.inr (.inr rfl)) notOfRun
              · exact owed run old none
    next := fun index result settled =>
      fnResult_noteRun fresh (invariant.next index result settled)
    tail := invariant.tail
    result := fun index run result found ended => by
      rcases noteRun_cases found with ⟨-, rfl⟩ | ⟨-, old⟩
      · cases ended
      · exact invariant.result index run result old ended
    called := fun index run found called => by
      rcases noteRun_cases found with ⟨-, rfl⟩ | ⟨-, old⟩
      · exact absurd rfl called
      · exact invariant.called index run old called
    chained := fun index run found => by
      rcases noteRun_cases found with ⟨rfl, rfl⟩ | ⟨-, old⟩
      · exact chained
      have bound := invariant.bounded index run old
      have older {before : Nat} (isBefore : before < index) :
          (mutex.noteRun key previous).runs before = mutex.runs before :=
        noteRun_runs_of_ne (Nat.ne_of_lt (Nat.lt_trans isBefore bound))
      rcases invariant.chained index run old with
        ⟨before, earlier, isBefore, atBefore, sameKey, isTail, between⟩ |
        ⟨isResolved, settled, all⟩
      · refine .inl ⟨before, earlier, isBefore, (older isBefore).trans atBefore,
          sameKey, isTail, fun middle other after isBefore atMiddle => ?_⟩
        exact between middle other after isBefore
          ((older isBefore).symm.trans atMiddle)
      · refine .inr ⟨isResolved, settled, fun before earlier isBefore found => ?_⟩
        exact all before earlier isBefore ((older isBefore).symm.trans found)
    tails := fun other => by
      by_cases same : other = key
      · subst same
        unfold TailOf
        rw [show (mutex.noteRun other previous).tails other =
          some (.tail mutex.calls) from Function.update_self _ _ _]
        refine ⟨mutex.calls, _, rfl, noteRun_runs_self, rfl, rfl, ?_⟩
        intro later run after found
        rcases noteRun_cases found with ⟨rfl, -⟩ | ⟨-, old⟩
        · exact absurd after (Nat.lt_irrefl _)
        · exact absurd (Nat.lt_trans after (invariant.bounded later run old))
            (Nat.lt_irrefl _)
      · have tailOf := invariant.tails other
        unfold TailOf at tailOf ⊢
        rw [show (mutex.noteRun key previous).tails other = mutex.tails other from
          Function.update_of_ne same _ _]
        have others {index : Nat} {run : MutexRun κ ε α}
            (found : (mutex.noteRun key previous).runs index = some run)
            (ofOther : run.key = other) : mutex.runs index = some run := by
          rcases noteRun_cases found with ⟨-, rfl⟩ | ⟨-, old⟩
          · exact absurd ofOther.symm same
          · exact old
        split at tailOf
        · obtain ⟨last, run, isTail, found, ofKey, unfinished, isLast⟩ := tailOf
          refine ⟨last, run, isTail, ?_, ofKey, unfinished, ?_⟩
          · rw [noteRun_runs_of_ne, found]
            rintro rfl
            cases found.symm.trans fresh
          · intro later run after found ofKey
            exact isLast later run after (others found ofKey) ofKey
        · intro index run found ofKey
          exact tailOf index run (others found ofKey) ofKey }

/-- What a call of `run` starts from. -/
theorem Invariant.previous (invariant : mutex.Invariant exempt) (key : κ) :
    (mutex.withPromises (mutex.previous key).2).Invariant exempt ∧
      ((mutex.withPromises (mutex.previous key).2).noteRun key
        (mutex.previous key).1).Chained mutex.calls
          { key, previous := (mutex.previous key).1 } := by
  have tailOf := invariant.tails key
  have older (base : KeyedMutexState κ ε α) {before : Nat}
      {previous : MutexPromise} (isBefore : before < base.calls) :
      (base.noteRun key previous).runs before = base.runs before :=
    noteRun_runs_of_ne (Nat.ne_of_lt isBefore)
  unfold TailOf at tailOf
  unfold KeyedMutexState.previous
  cases same : mutex.tails key with
  | some tail =>
      rw [same] at tailOf
      obtain ⟨last, run, rfl, found, ofKey, unfinished, isLast⟩ := tailOf
      have bound := invariant.bounded last run found
      refine ⟨invariant, .inl ⟨last, run, bound, (older _ bound).trans found, ofKey,
        rfl, ?_⟩⟩
      intro between other after isBefore atBetween
      exact isLast between other after ((older _ isBefore).symm.trans atBetween)
  | none =>
      rw [same] at tailOf
      refine ⟨invariant.settle (fun _ same => by cases same)
        (fun _ same => by cases same), .inr ⟨rfl, ?_, ?_⟩⟩
      · change (mutex.promises.settle _ _).result _ ≠ none
        rw [Promises.result_settle_self]
        exact Option.some_ne_none _
      · intro before earlier isBefore found ofKey
        have settled := tailOf before earlier
          ((older (mutex.withPromises _) isBefore).symm.trans found) ofKey
        change (mutex.promises.settle _ _).result _ ≠ none
        rw [Promises.result_settle_ne (by simp)]
        exact settled

theorem Invariant.run (invariant : mutex.Invariant exempt) (key : κ) :
    (mutex.run key).Invariant exempt := by
  obtain ⟨started, chained⟩ := invariant.previous key
  have fresh := started.runs_calls
  have noted := started.noteRun chained
  have unsettled : (mutex.previous key).2.result (.tail mutex.calls) = none := by
    by_contra settled
    exact started.tail mutex.calls settled (started.next_fresh fresh)
  have found : ((mutex.withPromises (mutex.previous key).2).noteRun key
      (mutex.previous key).1).runs mutex.calls =
        some { key, previous := (mutex.previous key).1 } := noteRun_runs_self
  -- `then`, `catch` and `await` one after the other
  have first := noted.react (started.fresh fresh (.inl rfl))
    ⟨_, found, rfl, rfl⟩
  have second := first.react
    ((started.fresh fresh (.inr (.inl rfl))).react (by simp))
    ⟨Option.isSome_of_mem found, rfl, Promises.result_react.trans unsettled⟩
  have third := second.react
    (((started.fresh fresh (.inr (.inr rfl))).react (by simp)).react (by simp))
    ⟨_, found, rfl, rfl⟩
  refine third.close ?_
  rintro reaction (exempted | rfl | rfl | rfl)
  · exact .inl exempted
  · refine .inr fun run same _ => ?_
    cases found.symm.trans same
    exact Promises.follows_react.react.react
  · exact .inr fun _ _ _ => Promises.follows_react.react
  · exact .inr fun _ _ _ => Promises.follows_react

/-- Other runs are left alone. -/
theorem run_runs_of_ne {key : κ} (old : index ≠ mutex.calls) :
    (mutex.run key).runs index = mutex.runs index :=
  Function.update_of_ne old _ _

theorem run_runs_self {key : κ} : (mutex.run key).runs mutex.calls =
    some { key, previous := (mutex.previous key).1 } :=
  Function.update_self _ _ _

theorem run_result {key : κ} {promise : MutexPromise} :
    (mutex.run key).promises.result promise =
      (mutex.previous key).2.result promise := by
  exact (Promises.result_react.trans Promises.result_react).trans
    Promises.result_react

theorem run_absent {key : κ} (absent : mutex.promises.Absent reaction)
    (other : ¬ ofRun mutex.calls reaction) :
    (mutex.run key).promises.Absent reaction := by
  have base : (mutex.previous key).2.Absent reaction := by
    unfold KeyedMutexState.previous
    split
    · exact absent
    · exact absent.settle
  have notFn := fun same => other (.inl same)
  have notSwallow := fun same => other (.inr (.inl same))
  have notResume := fun same => other (.inr (.inr same))
  exact ((base.react notFn).react notSwallow).react notResume

end Run

/-! ## The call of a function -/

/-- A function is about to be called. -/
structure Ready (mutex : KeyedMutexState κ ε α) (index : Nat)
    (run : MutexRun κ ε α) : Prop where
  found : mutex.runs index = some run
  uncalled : run.called = none
  settled : mutex.promises.result run.previous ≠ none
  absent : mutex.promises.Absent (.call (.fn index))

section Call

variable {entry : MutexRun κ ε α}

theorem Ready.run [DecidableEq κ] {key : κ} (ready : mutex.Ready index entry)
    (bound : index < mutex.calls) : (mutex.run key).Ready index entry where
  found := (run_runs_of_ne (Nat.ne_of_lt bound)).trans ready.found
  uncalled := ready.uncalled
  settled := by
    obtain ⟨result, known⟩ := Option.ne_none_iff_exists'.mp ready.settled
    rw [run_result, result_previous known]
    exact Option.some_ne_none _
  absent := by
    apply run_absent ready.absent
    rintro (same | same | same)
    · cases same
      exact absurd bound (Nat.lt_irrefl _)
    · cases same
    · cases same

/-- The function calls `run` itself. -/
theorem Invariant.nested [DecidableEq κ] (invariant : mutex.Invariant exempt)
    (ready : mutex.Ready index entry) (keys : List κ) :
    (keys.foldl KeyedMutexState.run mutex).Invariant exempt ∧
      (keys.foldl KeyedMutexState.run mutex).Ready index entry := by
  induction keys generalizing mutex with
  | nil => exact ⟨invariant, ready⟩
  | cons key keys ih =>
      have bound := invariant.bounded index entry ready.found
      exact ih (invariant.run key) (ready.run bound)

end Call

/-! ## A run goes on -/

section Run

variable {entry later : MutexRun κ ε α} {after : κ → Option MutexPromise}

/-- The mutex with another state of a run, and other tails. -/
def withRun (mutex : KeyedMutexState κ ε α) (index : Nat)
    (later : MutexRun κ ε α) (after : κ → Option MutexPromise) :
    KeyedMutexState κ ε α :=
  { mutex with
    runs := Function.update mutex.runs index (some later)
    tails := after }

theorem withRun_runs_self :
    (mutex.withRun index later after).runs index = some later :=
  Function.update_self _ _ _

theorem withRun_runs_of_ne {other : Nat} (different : other ≠ index) :
    (mutex.withRun index later after).runs other = mutex.runs other :=
  Function.update_of_ne different _ _

/-- What a run may do in one step: its function is called, or its call ends. -/
structure Proceeds (mutex : KeyedMutexState κ ε α) (index : Nat)
    (entry later : MutexRun κ ε α) : Prop where
  found : mutex.runs index = some entry
  key : later.key = entry.key
  previous : later.previous = entry.previous
  called : later.called = entry.called ∨ entry.called = none ∧
    mutex.promises.result entry.previous ≠ none ∧
    mutex.promises.Absent (.call (.fn index))
  result : later.result = entry.result ∨
    mutex.promises.Absent (.call (.resume index)) ∧
    ∃ outcome, later.result = some outcome ∧
      mutex.promises.result (.next index) = some outcome

/-- A run in the later state was there before. -/
theorem Proceeds.cases {other : Nat} {run : MutexRun κ ε α}
    (proceeds : mutex.Proceeds index entry later)
    (found : (mutex.withRun index later after).runs other = some run) :
    other = index ∧ run = later ∨ other ≠ index ∧ mutex.runs other = some run := by
  by_cases same : other = index
  · subst same
    exact .inl ⟨rfl, Option.some.inj (found.symm.trans withRun_runs_self)⟩
  · exact .inr ⟨same, (withRun_runs_of_ne same).symm.trans found⟩

theorem Proceeds.back {other : Nat} {run : MutexRun κ ε α}
    (proceeds : mutex.Proceeds index entry later)
    (found : (mutex.withRun index later after).runs other = some run) :
    ∃ before, mutex.runs other = some before ∧ run.key = before.key ∧
      run.previous = before.previous := by
  rcases proceeds.cases found with ⟨rfl, rfl⟩ | ⟨-, old⟩
  · exact ⟨entry, proceeds.found, proceeds.key, proceeds.previous⟩
  · exact ⟨run, old, rfl, rfl⟩

theorem Proceeds.forth {other : Nat} {before : MutexRun κ ε α}
    (proceeds : mutex.Proceeds index entry later)
    (found : mutex.runs other = some before) :
    ∃ run, (mutex.withRun index later after).runs other = some run ∧
      run.key = before.key := by
  by_cases same : other = index
  · subst same
    cases proceeds.found.symm.trans found
    exact ⟨later, withRun_runs_self, proceeds.key⟩
  · exact ⟨before, (withRun_runs_of_ne same).trans found, rfl⟩

theorem Proceeds.chained {other : Nat} {run before : MutexRun κ ε α}
    (proceeds : mutex.Proceeds index entry later)
    (key : run.key = before.key) (previous : run.previous = before.previous)
    (chained : mutex.Chained other before) :
    (mutex.withRun index later after).Chained other run := by
  rcases chained with
    ⟨last, earlier, isBefore, atLast, sameKey, isTail, between⟩ |
    ⟨isResolved, settled, all⟩
  · obtain ⟨now, atNow, nowKey⟩ := proceeds.forth atLast
    refine .inl ⟨last, now, isBefore, atNow,
      nowKey.trans (sameKey.trans key.symm), previous.trans isTail, ?_⟩
    intro middle third isAfter isBefore atMiddle ofKey
    obtain ⟨old, atOld, oldKey, -⟩ := proceeds.back atMiddle
    exact between middle old isAfter isBefore atOld
      (oldKey.symm.trans (ofKey.trans key))
  · refine .inr ⟨previous.trans isResolved, settled, ?_⟩
    intro first earlier isBefore found ofKey
    obtain ⟨old, atOld, oldKey, -⟩ := proceeds.back found
    exact all first old isBefore atOld (oldKey.symm.trans (ofKey.trans key))

/-- Of a function that has not been called nothing has come. -/
theorem Invariant.uncalled (invariant : mutex.Invariant exempt)
    (found : mutex.runs index = some entry) (uncalled : entry.called = none) :
    mutex.promises.result (.next index) = none ∧
      mutex.promises.Absent (.resolve (.next index)) := by
  constructor
  · by_contra settled
    obtain ⟨result, known⟩ := Option.ne_none_iff_exists'.mp settled
    obtain ⟨run, atRun, called⟩ := fnResult_called (invariant.next index result known)
    cases found.symm.trans atRun
    exact called uncalled
  · apply invariant.absent
    rintro promise ⟨other, run, atRun, same, -, called, -⟩
    cases same
    cases found.symm.trans atRun
    rw [uncalled] at called
    cases called

theorem Belongs.withRun (invariant : mutex.Invariant exempt)
    (proceeds : mutex.Proceeds index entry later)
    (present : ¬ mutex.promises.Absent reaction)
    (belongs : mutex.Belongs promise reaction) :
    (mutex.withRun index later after).Belongs promise reaction := by
  cases reaction with
  | resolve target =>
      obtain ⟨other, run, found, rfl, isReturned, called, pending⟩ := belongs
      by_cases same : other = index
      · subst same
        cases proceeds.found.symm.trans found
        rcases proceeds.called with kept | ⟨uncalled, -⟩
        · exact ⟨other, later, withRun_runs_self, rfl, isReturned,
            kept.trans called, pending⟩
        · exact absurd (invariant.uncalled found uncalled).2 present
      · exact ⟨other, run, (withRun_runs_of_ne same).trans found, rfl, isReturned,
          called, pending⟩
  | call handler =>
      cases handler with
      | fn other =>
          obtain ⟨run, found, isPrevious, uncalled⟩ := belongs
          by_cases same : other = index
          · subst same
            cases proceeds.found.symm.trans found
            rcases proceeds.called with kept | ⟨-, -, absent⟩
            · exact ⟨later, withRun_runs_self,
                proceeds.previous.trans isPrevious, kept.trans uncalled⟩
            · exact absurd absent present
          · exact ⟨run, (withRun_runs_of_ne same).trans found, isPrevious, uncalled⟩
      | swallow other =>
          obtain ⟨run, found⟩ := Option.isSome_iff_exists.mp belongs.1
          obtain ⟨now, atNow, -⟩ := proceeds.forth found
          exact ⟨Option.isSome_of_mem atNow, belongs.2⟩
      | resume other =>
          obtain ⟨run, found, isNext, unfinished⟩ := belongs
          by_cases same : other = index
          · subst same
            cases proceeds.found.symm.trans found
            rcases proceeds.result with kept | ⟨absent, -⟩
            · exact ⟨later, withRun_runs_self, isNext, kept.trans unfinished⟩
            · exact absurd absent present
          · exact ⟨run, (withRun_runs_of_ne same).trans found, isNext, unfinished⟩

theorem Proceeds.fnResult {other : Nat}
    (proceeds : mutex.Proceeds index entry later)
    (known : mutex.fnResult other = some outcome) :
    (mutex.withRun index later after).fnResult other = some outcome := by
  obtain ⟨run, found, called⟩ := fnResult_called known
  unfold KeyedMutexState.fnResult at known ⊢
  by_cases same : other = index
  · subst same
    cases proceeds.found.symm.trans found
    rcases proceeds.called with kept | ⟨uncalled, -⟩
    · rw [found, Option.bind_some] at known
      rw [withRun_runs_self, Option.bind_some, kept]
      exact known
    · exact absurd uncalled called
  · rw [withRun_runs_of_ne same]
    exact known

theorem Proceeds.owed (proceeds : mutex.Proceeds index entry later)
    (resolve : reaction = .resolve (.next index) → later.called = entry.called)
    (owed : mutex.Owed reaction) :
    (mutex.withRun index later after).Owed reaction := by
  cases reaction with
  | resolve target =>
      intro other run isNext found called pending
      rcases proceeds.cases found with ⟨rfl, rfl⟩ | ⟨-, old⟩
      · have kept := resolve (congrArg _ isNext)
        rw [kept] at called ⊢
        exact owed other entry isNext proceeds.found called pending
      · exact owed other run isNext old called pending
  | call handler =>
      cases handler with
      | fn other =>
          intro run found uncalled
          rcases proceeds.cases found with ⟨rfl, rfl⟩ | ⟨-, old⟩
          · rw [proceeds.previous]
            refine owed entry proceeds.found ?_
            rcases proceeds.called with kept | ⟨before, -⟩
            · exact kept.symm.trans uncalled
            · exact before
          · exact owed run old uncalled
      | swallow other =>
          intro run found pending
          obtain ⟨before, old, -⟩ := proceeds.back found
          exact owed before old pending
      | resume other =>
          intro run found unfinished
          rcases proceeds.cases found with ⟨rfl, rfl⟩ | ⟨-, old⟩
          · refine owed entry proceeds.found ?_
            rcases proceeds.result with kept | ⟨-, outcome, ended, -⟩
            · exact kept.symm.trans unfinished
            · cases ended.symm.trans unfinished
          · exact owed run old unfinished

/-- The tail of a key stays if it is not that of a run that ends. -/
theorem Proceeds.tailOf {key : κ} (proceeds : mutex.Proceeds index entry later)
    (kept : after key = mutex.tails key)
    (runs : mutex.tails key = some (.tail index) → later.result = entry.result)
    (tailOf : mutex.TailOf key) :
    (mutex.withRun index later after).TailOf key := by
  unfold TailOf at tailOf ⊢
  change match after key with | some tail => _ | none => _
  rw [kept]
  split at tailOf
  · rename_i tail isTail
    obtain ⟨last, run, rfl, found, ofKey, unfinished, isLast⟩ := tailOf
    have stays : ∃ now, (mutex.withRun index later after).runs last = some now ∧
        now.key = run.key ∧ now.result = run.result := by
      by_cases same : last = index
      · subst same
        cases proceeds.found.symm.trans found
        exact ⟨later, withRun_runs_self, proceeds.key, runs isTail⟩
      · exact ⟨run, (withRun_runs_of_ne same).trans found, rfl, rfl⟩
    obtain ⟨now, atNow, nowKey, nowResult⟩ := stays
    refine ⟨last, now, rfl, atNow, nowKey.trans ofKey,
      nowResult.trans unfinished, ?_⟩
    intro other third isAfter found same
    obtain ⟨before, old, key, -⟩ := proceeds.back found
    exact isLast other before isAfter old (key.symm.trans same)
  · intro other run found ofKey
    obtain ⟨before, old, same, -⟩ := proceeds.back found
    exact tailOf other before old (same.symm.trans ofKey)

/-- The run proceeds; what it is then owed is left to the caller. -/
theorem Invariant.withRun (invariant : mutex.Invariant exempt)
    (proceeds : mutex.Proceeds index entry later)
    (closes : ∀ reaction, exempt reaction → weaker reaction ∨
      (mutex.withRun index later after).Owed reaction)
    (resolve : weaker (.resolve (.next index)) ∨ later.called = entry.called)
    (tails : ∀ key, (mutex.withRun index later after).TailOf key) :
    (mutex.withRun index later after).Invariant weaker where
  orderly := invariant.orderly
  bounded other run found := by
    obtain ⟨before, old, -⟩ := proceeds.back found
    exact invariant.bounded other before old
  belongs other waiting member :=
    (invariant.belongs other waiting member).withRun invariant proceeds
      fun absent => absent.waits other member
  queued waiting result member := by
    obtain ⟨other, settled, here⟩ := invariant.queued waiting result member
    exact ⟨other, settled, here.withRun invariant proceeds
      fun absent => absent.jobs (List.mem_map_of_mem member)⟩
  adopts target thenable member :=
    (invariant.adopts target thenable member).withRun invariant proceeds
      fun absent => absent.jobs (List.mem_map_of_mem member)
  owed waiting notWeaker := by
    by_cases exempted : exempt waiting
    · exact (closes waiting exempted).resolve_left notWeaker
    · refine proceeds.owed ?_ (invariant.owed waiting exempted)
      rintro rfl
      exact resolve.resolve_left notWeaker
  next other result settled :=
    proceeds.fnResult (invariant.next other result settled)
  tail := invariant.tail
  result other run outcome found ended := by
    rcases proceeds.cases found with ⟨rfl, rfl⟩ | ⟨-, old⟩
    · rcases proceeds.result with kept | ⟨-, known, has, settled⟩
      · exact invariant.result other entry outcome proceeds.found
          (kept.symm.trans ended)
      · cases has.symm.trans ended
        exact settled
    · exact invariant.result other run outcome old ended
  called other run found called := by
    rcases proceeds.cases found with ⟨rfl, rfl⟩ | ⟨-, old⟩
    · rw [proceeds.previous]
      rcases proceeds.called with kept | ⟨-, settled, -⟩
      · exact invariant.called other entry proceeds.found (kept ▸ called)
      · exact settled
    · exact invariant.called other run old called
  chained other run found := by
    obtain ⟨before, old, key, previous⟩ := proceeds.back found
    exact proceeds.chained key previous (invariant.chained other before old)
  tails := tails

end Run

/-! ## The call of a function -/

section Start

variable {entry : MutexRun κ ε α}

/-- The function is being called. -/
def begin (mutex : KeyedMutexState κ ε α) (index : Nat) :
    KeyedMutexState κ ε α :=
  { mutex with started := mutex.started ++ [index] }

theorem setCalled_eq {called : Except ε Unit}
    (found : mutex.runs index = some entry) :
    mutex.setCalled index called =
      mutex.withRun index { entry with called := some called } mutex.tails := by
  unfold setCalled KeyedMutexState.withRun
  rw [found]
  rfl

theorem callFn_ok [DecidableEq κ] {nested : List κ} :
    mutex.callFn index nested (.ok ()) =
      ((nested.foldl KeyedMutexState.run (mutex.begin index)).setCalled index
        (.ok ())).withPromises
          ((nested.foldl KeyedMutexState.run (mutex.begin index)).promises.enqueue
            (.adopt (.next index) (.returned index))) := rfl

theorem callFn_error [DecidableEq κ] {nested : List κ} {error : ε} :
    mutex.callFn index nested (.error error) =
      ((nested.foldl KeyedMutexState.run (mutex.begin index)).setCalled index
        (.error error)).withPromises
          ((nested.foldl KeyedMutexState.run (mutex.begin index)).promises.settle
            (.next index) (.error error)) := rfl

theorem Ready.proceeds {called : Except ε Unit}
    (ready : mutex.Ready index entry) :
    mutex.Proceeds index entry { entry with called := some called } where
  found := ready.found
  key := rfl
  previous := rfl
  called := .inr ⟨ready.uncalled, ready.settled, ready.absent⟩
  result := .inl rfl

/-- The call is noted; its `next` waits for what comes of it. -/
theorem Invariant.setCalled
    (invariant : mutex.Invariant (· = .call (.fn index)))
    (ready : mutex.Ready index entry) (called : Except ε Unit) :
    (mutex.withRun index { entry with called := some called }
      mutex.tails).Invariant (· = .resolve (.next index)) := by
  have proceeds : mutex.Proceeds index entry
      { entry with called := some called } := ready.proceeds
  refine invariant.withRun proceeds ?_ (.inl rfl)
    fun key => proceeds.tailOf rfl (fun _ => rfl) (invariant.tails key)
  rintro reaction rfl
  refine .inr fun run found uncalled => ?_
  cases withRun_runs_self.symm.trans found
  cases uncalled

/-- The function throws, or its `next` will take the result of its promise. -/
theorem Invariant.callFn [DecidableEq κ]
    (invariant : mutex.Invariant (· = .call (.fn index)))
    (ready : mutex.Ready index entry) (nested : List κ)
    (called : Except ε Unit) :
    (mutex.callFn index nested called).Invariant fun _ => False := by
  have started : (mutex.begin index).Invariant (· = .call (.fn index)) :=
    { invariant with }
  have startedReady : (mutex.begin index).Ready index entry := { ready with }
  obtain ⟨ran, stillReady⟩ := started.nested startedReady nested
  obtain ⟨pending, absent⟩ := ran.uncalled stillReady.found stillReady.uncalled
  have noted := ran.setCalled stillReady called
  cases called with
  | ok value =>
      rw [callFn_ok, setCalled_eq stillReady.found]
      refine (noted.enqueue absent
        ⟨index, _, withRun_runs_self, rfl, rfl, rfl, pending⟩).close ?_
      rintro reaction rfl
      refine .inr fun other run isNext found _ _ => ?_
      cases isNext
      cases (Function.update_self _ _ _).symm.trans found
      exact ⟨rfl, .inl (List.mem_append_right _ List.mem_cons_self)⟩
  | error error =>
      rw [callFn_error, setCalled_eq stillReady.found]
      refine (noted.settle ?_ ?_).close ?_
      · intro other isNext
        cases isNext
        refine ⟨?_, absent⟩
        unfold fnResult
        rw [withRun_runs_self]
        rfl
      · intro other isTail
        cases isTail
      · rintro reaction rfl
        refine .inr fun other run isNext _ _ pending => ?_
        cases isNext
        change (Promises.settle _ _ _).result _ = none at pending
        rw [Promises.result_settle_self] at pending
        cases pending

end Start

/-! ## The end of a call -/

section Finish

variable [DecidableEq κ] {entry : MutexRun κ ε α}

/-- The tails when the call of a run has ended. -/
def tailsAfter (mutex : KeyedMutexState κ ε α) (index : Nat) (key : κ) :
    κ → Option MutexPromise :=
  if mutex.tails key = some (.tail index) then
    Function.update mutex.tails key none
  else mutex.tails

theorem finish_eq (found : mutex.runs index = some entry) :
    mutex.finish index outcome =
      mutex.withRun index { entry with result := some outcome }
        (mutex.tailsAfter index entry.key) := by
  unfold KeyedMutexState.finish
  rw [found]
  rfl

/-- A tail that is not the run's own stays. -/
theorem tailsAfter_of_ne {key other : κ}
    (different : other ≠ key ∨ mutex.tails key ≠ some (.tail index)) :
    mutex.tailsAfter index key other = mutex.tails other := by
  unfold tailsAfter
  split
  · rename_i own
    exact Function.update_of_ne (different.resolve_right (· own)) _ _
  · rfl

theorem tailsAfter_own {key : κ} (own : mutex.tails key = some (.tail index)) :
    mutex.tailsAfter index key key = none := by
  unfold tailsAfter
  rw [if_pos own]
  exact Function.update_self _ _ _

/-- When the last run of a key is over, all of them have ended. -/
theorem Invariant.finish_tailOf (invariant : mutex.Invariant exempt)
    (proceeds : mutex.Proceeds index entry { entry with result := some outcome })
    (settled : mutex.promises.result (.next index) = some outcome) (key : κ) :
    (mutex.withRun index { entry with result := some outcome }
      (mutex.tailsAfter index entry.key)).TailOf key := by
  have tailOf := invariant.tails key
  by_cases own : key = entry.key ∧ mutex.tails entry.key = some (.tail index)
  · obtain ⟨rfl, own⟩ := own
    unfold TailOf at tailOf ⊢
    rw [own] at tailOf
    change match mutex.tailsAfter index entry.key entry.key with
      | some tail => _ | none => _
    rw [tailsAfter_own own]
    obtain ⟨last, run, isTail, found, -, -, isLast⟩ := tailOf
    cases isTail
    cases proceeds.found.symm.trans found
    intro other run found ofKey
    obtain ⟨before, old, same, -⟩ := proceeds.back found
    rcases Nat.lt_trichotomy other index with earlier | rfl | after
    · have ready : mutex.promises.result entry.previous ≠ none := by
        obtain ⟨at', atIndex, called⟩ :=
          fnResult_called (invariant.next index outcome settled)
        cases proceeds.found.symm.trans atIndex
        exact invariant.called index entry proceeds.found called
      exact invariant.before_settled proceeds.found ready other before earlier old
        (same.symm.trans ofKey)
    · change mutex.promises.result _ ≠ none
      rw [settled]
      exact Option.some_ne_none _
    · exact absurd (same.symm.trans ofKey) (isLast other before after old)
  · have kept : mutex.tailsAfter index entry.key key = mutex.tails key := by
      apply tailsAfter_of_ne
      by_contra both
      push Not at both
      exact own both
    refine proceeds.tailOf kept (fun isTail => ?_) tailOf
    unfold TailOf at tailOf
    rw [isTail] at tailOf
    obtain ⟨last, run, same, found, ofKey, -⟩ := tailOf
    cases same
    cases proceeds.found.symm.trans found
    subst ofKey
    exact absurd ⟨rfl, isTail⟩ own

/-- The call of a run ends with what its `next` has. -/
theorem Invariant.finish
    (invariant : mutex.Invariant (· = .call (.resume index)))
    (absent : mutex.promises.Absent (.call (.resume index)))
    (found : mutex.runs index = some entry)
    (settled : mutex.promises.result (.next index) = some outcome) :
    (mutex.finish index outcome).Invariant fun _ => False := by
  have proceeds : mutex.Proceeds index entry
      { entry with result := some outcome } :=
    { found, key := rfl, previous := rfl, called := .inl rfl
      result := .inr ⟨absent, outcome, rfl, settled⟩ }
  rw [finish_eq found]
  refine invariant.withRun proceeds ?_ (.inr rfl)
    (invariant.finish_tailOf proceeds settled)
  rintro reaction rfl
  refine .inr fun run found unfinished => ?_
  cases withRun_runs_self.symm.trans found
  cases unfinished

end Finish

/-! ## A step of the mutex -/

section Step

variable {job : Microtask MutexPromise MutexHandler ε (Option α)}
variable {target thenable : MutexPromise}

/-- `next` waits for the promise that the function has returned. -/
theorem Invariant.adopt (invariant : mutex.Invariant fun _ => False)
    (first : mutex.promises.jobs.head? = some (.adopt target thenable)) :
    (mutex.withPromises
      (mutex.promises.dequeue.react thenable (.resolve target))).Invariant
        fun _ => False := by
  obtain ⟨dequeued, absent⟩ := invariant.dequeue first
  have belongs := invariant.adopts target thenable (List.mem_of_mem_head? first)
  refine (dequeued.react absent belongs).close ?_
  rintro reaction rfl
  obtain ⟨index, run, found, rfl, rfl, called, -⟩ := belongs
  refine .inr fun other later same atOther _ _ => ?_
  cases same
  cases found.symm.trans atOther
  exact ⟨called, .inr Promises.follows_react⟩

/-- `next` has the result of its function. -/
theorem Invariant.resolve (invariant : mutex.Invariant fun _ => False)
    (first : mutex.promises.jobs.head? = some (.react (.resolve target) outcome)) :
    (mutex.withPromises (mutex.promises.dequeue.settle target outcome)).Invariant
      fun _ => False := by
  obtain ⟨dequeued, absent⟩ := invariant.dequeue first
  obtain ⟨promise, settled, index, run, found, rfl, rfl, called, -⟩ :=
    invariant.queued _ _ (List.mem_of_mem_head? first)
  refine (dequeued.settle ?_ ?_).close ?_
  · intro other same
    cases same
    refine ⟨?_, absent⟩
    have isCalled : ((mutex.withPromises mutex.promises.dequeue).runs
        index).bind (·.called) = some (.ok ()) := by
      change (mutex.runs index).bind _ = _
      rw [found, Option.bind_some, called]
    simp only [fnResult, isCalled]
    exact settled
  · intro other same
    cases same
  · rintro reaction rfl
    refine .inr fun other later same _ _ pending => ?_
    cases same
    change (Promises.settle _ _ _).result _ = none at pending
    rw [Promises.result_settle_self] at pending
    cases pending

/-- A tail settles after its `next`, with whatever value. -/
theorem Invariant.swallow {value : Except ε (Option α)}
    (invariant : mutex.Invariant fun _ => False)
    (first : mutex.promises.jobs.head? =
      some (.react (.call (.swallow index)) outcome)) :
    (mutex.withPromises
      (mutex.promises.dequeue.settle (.tail index) value)).Invariant
        fun _ => False := by
  obtain ⟨dequeued, absent⟩ := invariant.dequeue first
  obtain ⟨promise, settled, -, rfl, -⟩ :=
    invariant.queued _ _ (List.mem_of_mem_head? first)
  refine (dequeued.settle ?_ ?_).close ?_
  · intro other same
    cases same
  · intro other same
    cases same
    refine ⟨?_, absent⟩
    change mutex.promises.result _ ≠ none
    rw [settled]
    exact Option.some_ne_none _
  · rintro reaction rfl
    refine .inr fun run _ pending => ?_
    change (Promises.settle _ _ _).result _ = none at pending
    rw [Promises.result_settle_self] at pending
    cases pending

/-- The function in front of the queue may be called. -/
theorem Invariant.ready (invariant : mutex.Invariant fun _ => False)
    (first : mutex.promises.jobs.head? =
      some (.react (.call (.fn index)) outcome)) :
    ∃ entry, (mutex.withPromises mutex.promises.dequeue).Ready index entry := by
  obtain ⟨promise, settled, run, found, rfl, uncalled⟩ :=
    invariant.queued _ _ (List.mem_of_mem_head? first)
  refine ⟨run, found, uncalled, ?_, (invariant.dequeue first).2⟩
  change mutex.promises.result _ ≠ none
  rw [settled]
  exact Option.some_ne_none _

theorem Invariant.settleFn (invariant : mutex.Invariant exempt)
    {later : KeyedMutexState κ ε α}
    (ends : mutex.settleFn index outcome = some later) :
    later.Invariant exempt := by
  unfold KeyedMutexState.settleFn at ends
  split at ends
  · cases ends
    exact invariant.settle (fun _ same => by cases same)
      (fun _ same => by cases same)
  · cases ends

variable [DecidableEq κ]

/-- What the microtask in front of the queue does. -/
inductive Does (mutex : KeyedMutexState κ ε α) (nested : List κ)
    (called : Except ε Unit) : KeyedMutexState κ ε α → Prop where
  | adopt {target thenable : MutexPromise} :
      mutex.promises.jobs.head? = some (.adopt target thenable) →
      Does mutex nested called (mutex.withPromises
        (mutex.promises.dequeue.react thenable (.resolve target)))
  | resolve {target : MutexPromise} {outcome : Except ε (Option α)} :
      mutex.promises.jobs.head? = some (.react (.resolve target) outcome) →
      Does mutex nested called
        (mutex.withPromises (mutex.promises.dequeue.settle target outcome))
  | fn {index : Nat} {outcome : Except ε (Option α)} :
      mutex.promises.jobs.head? = some (.react (.call (.fn index)) outcome) →
      Does mutex nested called
        ((mutex.withPromises mutex.promises.dequeue).callFn index nested called)
  | swallow {index : Nat} {outcome value : Except ε (Option α)} :
      mutex.promises.jobs.head? =
        some (.react (.call (.swallow index)) outcome) →
      Does mutex nested called
        (mutex.withPromises (mutex.promises.dequeue.settle (.tail index) value))
  | resume {index : Nat} {outcome : Except ε (Option α)} :
      mutex.promises.jobs.head? = some (.react (.call (.resume index)) outcome) →
      Does mutex nested called
        ((mutex.withPromises mutex.promises.dequeue).finish index outcome)

theorem does_of_microtask {nested : List κ} {called : Except ε Unit}
    {later : KeyedMutexState κ ε α}
    (runs : mutex.microtask nested called = some later) :
    mutex.Does nested called later := by
  unfold KeyedMutexState.microtask at runs
  obtain ⟨job, first, same⟩ := Option.map_eq_some_iff.mp runs
  subst same
  cases job with
  | adopt target thenable => exact .adopt first
  | react reaction outcome =>
      cases reaction with
      | resolve target => exact .resolve first
      | call handler =>
          cases handler with
          | fn index => exact .fn first
          | swallow index => exact .swallow first
          | resume index => exact .resume first

theorem Invariant.microtask (invariant : mutex.Invariant fun _ => False)
    {nested : List κ} {called : Except ε Unit} {later : KeyedMutexState κ ε α}
    (does : mutex.Does nested called later) : later.Invariant fun _ => False := by
  cases does with
  | adopt first => exact invariant.adopt first
  | resolve first => exact invariant.resolve first
  | fn first =>
      obtain ⟨entry, ready⟩ := invariant.ready first
      exact (invariant.dequeue first).1.callFn ready nested called
  | swallow first => exact invariant.swallow first
  | resume first =>
      obtain ⟨dequeued, absent⟩ := invariant.dequeue first
      obtain ⟨promise, settled, run, found, rfl, -⟩ :=
        invariant.queued _ _ (List.mem_of_mem_head? first)
      exact dequeued.finish absent found settled

theorem Reachable.invariant (reachable : mutex.Reachable) :
    mutex.Invariant fun _ => False := by
  induction reachable with
  | initial => exact .initial
  | @step mutex next move _ moves ih =>
      cases move with
      | run key =>
          cases moves
          exact ih.run key
      | settleFn index result => exact ih.settleFn moves
      | microtask nested called => exact ih.microtask (does_of_microtask moves)

end Step

end KeyedMutexState

end FluxIP
