import Mathlib.Data.List.Nodup
import Mathlib.Logic.Function.Basic

/-!
# Promises and microtasks

A promise is pending, with the reactions that wait for it, or settled.  When it
settles its reactions are queued in their order; a reaction of a settled
promise is queued at once.  A promise that is resolved with another one waits
for it by a job that is queued first.  Microtasks are run from the front of the
queue; what a handler does is up to the program.
-/

namespace Async

/-- What waits for a promise: another promise that takes its result, or a
handler of the program. -/
inductive Reaction (π η : Type) where
  | resolve (target : π)
  | call (handler : η)
  deriving DecidableEq, Repr

inductive PromiseState (π η ε α : Type) where
  | pending (reactions : List (Reaction π η))
  | settled (result : Except ε α)

/-- `adopt` is the job that lets a promise wait for the one it was resolved
with. -/
inductive Microtask (π η ε α : Type) where
  | react (reaction : Reaction π η) (argument : Except ε α)
  | adopt (target thenable : π)

/-- The reaction a job runs or brings about. -/
def Microtask.about {π η ε α : Type} : Microtask π η ε α → Reaction π η
  | .react reaction _ => reaction
  | .adopt target _ => .resolve target

structure Promises (π η ε α : Type) where
  state : π → PromiseState π η ε α := fun _ => .pending []
  jobs : List (Microtask π η ε α) := []

namespace Promises

variable {π η ε α : Type} [DecidableEq π]

def result (promises : Promises π η ε α) (promise : π) :
    Option (Except ε α) :=
  match promises.state promise with
  | .pending _ => none
  | .settled result => some result

def reactions (promises : Promises π η ε α) (promise : π) :
    List (Reaction π η) :=
  match promises.state promise with
  | .pending reactions => reactions
  | .settled _ => []

def enqueue (promises : Promises π η ε α) (job : Microtask π η ε α) :
    Promises π η ε α :=
  { promises with jobs := promises.jobs ++ [job] }

/-- A promise settles once. -/
def settle (promises : Promises π η ε α) (promise : π) (result : Except ε α) :
    Promises π η ε α :=
  match promises.state promise with
  | .pending reactions =>
      { state := Function.update promises.state promise (.settled result)
        jobs := promises.jobs ++ reactions.map (.react · result) }
  | .settled _ => promises

/-- `promise.then`. -/
def react (promises : Promises π η ε α) (promise : π)
    (reaction : Reaction π η) : Promises π η ε α :=
  match promises.state promise with
  | .pending reactions =>
      { promises with
        state := Function.update promises.state promise
          (.pending (reactions ++ [reaction])) }
  | .settled result => promises.enqueue (.react reaction result)

/-- The queue without its first job. -/
def dequeue (promises : Promises π η ε α) : Promises π η ε α :=
  { promises with jobs := promises.jobs.tail }

/-- The reaction waits for the promise, or is queued with its result. -/
def Follows (promises : Promises π η ε α) (promise : π)
    (reaction : Reaction π η) : Prop :=
  reaction ∈ promises.reactions promise ∨
    ∃ result, promises.result promise = some result ∧
      .react reaction result ∈ promises.jobs

variable {promises : Promises π η ε α} {promise other : π}
variable {reaction : Reaction π η} {result : Except ε α}
variable {job : Microtask π η ε α}

/-! ## What a step does to results -/

omit [DecidableEq π] in
theorem reactions_of_result (settled : promises.result promise = some result) :
    promises.reactions promise = [] := by
  cases state : promises.state promise with
  | pending waiting => simp [Promises.result, state] at settled
  | settled known => simp [reactions, state]

omit [DecidableEq π] in
@[simp] theorem result_enqueue :
    (promises.enqueue job).result promise = promises.result promise := rfl

omit [DecidableEq π] in
@[simp] theorem reactions_enqueue :
    (promises.enqueue job).reactions promise = promises.reactions promise := rfl

omit [DecidableEq π] in
@[simp] theorem jobs_enqueue :
    (promises.enqueue job).jobs = promises.jobs ++ [job] := rfl

@[simp] theorem result_react :
    (promises.react promise reaction).result other = promises.result other := by
  cases state : promises.state promise with
  | pending waiting =>
      by_cases same : other = promise
      · subst same
        simp [react, Promises.result, state]
      · simp [react, Promises.result, state, same]
  | settled known => simp [react, state]

theorem result_settle_self :
    (promises.settle promise result).result promise =
      some ((promises.result promise).getD result) := by
  cases state : promises.state promise with
  | pending waiting => simp [settle, Promises.result, state]
  | settled known => simp [settle, Promises.result, state]

theorem result_settle_ne (different : other ≠ promise) :
    (promises.settle promise result).result other = promises.result other := by
  cases state : promises.state promise with
  | pending waiting => simp [settle, Promises.result, state, different]
  | settled known => simp [settle, state]

/-- What is settled stays so. -/
theorem result_settle_mono {known : Except ε α}
    (settled : promises.result other = some known) :
    (promises.settle promise result).result other = some known := by
  by_cases same : other = promise
  · subst same
    rw [result_settle_self, settled]
    rfl
  · rw [result_settle_ne same, settled]

/-! ## What a step does to reactions and jobs -/

theorem reactions_react_ne (different : other ≠ promise) :
    (promises.react promise reaction).reactions other =
      promises.reactions other := by
  cases state : promises.state promise with
  | pending waiting => simp [react, reactions, state, different]
  | settled known => simp [react, state]

theorem reactions_settle_self :
    (promises.settle promise result).reactions promise = [] := by
  cases state : promises.state promise with
  | pending waiting => simp [settle, reactions, state]
  | settled known => simp [settle, reactions, state]

theorem reactions_settle_ne (different : other ≠ promise) :
    (promises.settle promise result).reactions other =
      promises.reactions other := by
  cases state : promises.state promise with
  | pending waiting => simp [settle, reactions, state, different]
  | settled known => simp [settle, state]

theorem jobs_settle (waiting : promises.result promise = none) :
    (promises.settle promise result).jobs =
      promises.jobs ++ (promises.reactions promise).map (.react · result) := by
  cases state : promises.state promise with
  | pending reacting => simp [settle, reactions, state]
  | settled known => simp [Promises.result, state] at waiting

theorem settle_of_result {known : Except ε α}
    (settled : promises.result promise = some known) :
    promises.settle promise result = promises := by
  cases state : promises.state promise with
  | pending waiting => simp [Promises.result, state] at settled
  | settled other => simp [settle, state]

theorem react_of_result (settled : promises.result promise = some result) :
    promises.react promise reaction =
      promises.enqueue (.react reaction result) := by
  cases state : promises.state promise with
  | pending waiting => simp [Promises.result, state] at settled
  | settled known =>
      simp only [Promises.result, state, Option.some.injEq] at settled
      simp [react, state, settled]

theorem jobs_react_of_pending (waiting : promises.result promise = none) :
    (promises.react promise reaction).jobs = promises.jobs := by
  cases state : promises.state promise with
  | pending reacting => simp [react, state]
  | settled known => simp [Promises.result, state] at waiting

theorem reactions_react_of_pending (waiting : promises.result promise = none) :
    (promises.react promise reaction).reactions promise =
      promises.reactions promise ++ [reaction] := by
  cases state : promises.state promise with
  | pending reacting => simp [react, reactions, state]
  | settled known => simp [Promises.result, state] at waiting

omit [DecidableEq π] in
@[simp] theorem result_dequeue :
    promises.dequeue.result promise = promises.result promise := rfl

omit [DecidableEq π] in
@[simp] theorem reactions_dequeue :
    promises.dequeue.reactions promise = promises.reactions promise := rfl

/-! ## Where a reaction is after a step -/

theorem mem_reactions_react {added : Reaction π η}
    (member : reaction ∈ (promises.react other added).reactions promise) :
    reaction ∈ promises.reactions promise ∨
      promise = other ∧ reaction = added := by
  by_cases same : promise = other
  · subst same
    cases settled : promises.result promise with
    | some result =>
        rw [react_of_result settled] at member
        exact .inl member
    | none =>
        rw [reactions_react_of_pending settled] at member
        rcases List.mem_append.mp member with old | new
        · exact .inl old
        · exact .inr ⟨rfl, List.mem_singleton.mp new⟩
  · rw [reactions_react_ne same] at member
    exact .inl member

theorem mem_jobs_react {added : Reaction π η}
    (member : job ∈ (promises.react other added).jobs) :
    job ∈ promises.jobs ∨
      ∃ result, promises.result other = some result ∧
        job = .react added result := by
  cases settled : promises.result other with
  | some result =>
      rw [react_of_result settled] at member
      rcases List.mem_append.mp member with old | new
      · exact .inl old
      · exact .inr ⟨result, rfl, List.mem_singleton.mp new⟩
  | none =>
      rw [jobs_react_of_pending settled] at member
      exact .inl member

theorem mem_reactions_settle
    (member : reaction ∈ (promises.settle other result).reactions promise) :
    reaction ∈ promises.reactions promise ∧ promise ≠ other := by
  by_cases same : promise = other
  · subst same
    rw [reactions_settle_self] at member
    cases member
  · rw [reactions_settle_ne same] at member
    exact ⟨member, same⟩

theorem mem_jobs_settle (member : job ∈ (promises.settle other result).jobs) :
    job ∈ promises.jobs ∨
      promises.result other = none ∧
        ∃ reaction ∈ promises.reactions other, job = .react reaction result := by
  cases settled : promises.result other with
  | some known =>
      rw [settle_of_result settled] at member
      exact .inl member
  | none =>
      rw [jobs_settle settled] at member
      rcases List.mem_append.mp member with old | new
      · exact .inl old
      · obtain ⟨reaction, waits, same⟩ := List.mem_map.mp new
        exact .inr ⟨rfl, reaction, waits, same.symm⟩

theorem jobs_subset_settle : promises.jobs ⊆ (promises.settle other result).jobs := by
  intro job member
  cases settled : promises.result other with
  | some known => rwa [settle_of_result settled]
  | none =>
      rw [jobs_settle settled]
      exact List.mem_append_left _ member

theorem jobs_subset_react {added : Reaction π η} :
    promises.jobs ⊆ (promises.react other added).jobs := by
  intro job member
  cases settled : promises.result other with
  | some known =>
      rw [react_of_result settled]
      exact List.mem_append_left _ member
  | none => rwa [jobs_react_of_pending settled]

/-! ## A reaction follows its promise -/

theorem follows_react : (promises.react promise reaction).Follows promise reaction := by
  cases settled : promises.result promise with
  | some result =>
      rw [react_of_result settled]
      exact .inr ⟨result, settled, List.mem_append_right _ List.mem_cons_self⟩
  | none =>
      refine .inl ?_
      rw [reactions_react_of_pending settled]
      exact List.mem_append_right _ List.mem_cons_self

theorem Follows.react {added : Reaction π η}
    (follows : promises.Follows promise reaction) :
    (promises.react other added).Follows promise reaction := by
  rcases follows with waits | ⟨result, settled, queued⟩
  · refine .inl ?_
    by_cases same : promise = other
    · subst same
      cases settled : promises.result promise with
      | some result =>
          rw [reactions_of_result settled] at waits
          cases waits
      | none =>
          rw [reactions_react_of_pending settled]
          exact List.mem_append_left _ waits
    · rwa [reactions_react_ne same]
  · exact .inr ⟨result, by rwa [result_react], jobs_subset_react queued⟩

theorem Follows.settle (follows : promises.Follows promise reaction) :
    (promises.settle other result).Follows promise reaction := by
  rcases follows with waits | ⟨known, settled, queued⟩
  · by_cases same : promise = other
    · subst same
      cases settled : promises.result promise with
      | some known =>
          rw [reactions_of_result settled] at waits
          cases waits
      | none =>
          refine .inr ⟨result, ?_, ?_⟩
          · rw [result_settle_self, settled]
            rfl
          · rw [jobs_settle settled]
            exact List.mem_append_right _ (List.mem_map_of_mem waits)
    · refine .inl ?_
      rwa [reactions_settle_ne same]
  · exact .inr ⟨known, result_settle_mono settled, jobs_subset_settle queued⟩

omit [DecidableEq π] in
theorem Follows.enqueue (follows : promises.Follows promise reaction) :
    (promises.enqueue job).Follows promise reaction := by
  rcases follows with waits | ⟨known, settled, queued⟩
  · exact .inl waits
  · exact .inr ⟨known, settled, List.mem_append_left _ queued⟩

omit [DecidableEq π] in
/-- The first job is another one. -/
theorem Follows.dequeue (follows : promises.Follows promise reaction)
    (first : promises.jobs.head? = some job) (other : job.about ≠ reaction) :
    promises.dequeue.Follows promise reaction := by
  rcases follows with waits | ⟨known, settled, queued⟩
  · exact .inl waits
  · refine .inr ⟨known, settled, ?_⟩
    obtain ⟨rest, same⟩ := List.head?_eq_some_iff.mp first
    rw [same] at queued
    rcases List.mem_cons.mp queued with isFirst | later
    · exact absurd (congrArg Microtask.about isFirst.symm) other
    · simpa [Promises.dequeue, same] using later

/-! ## Each reaction is there once -/

/-- No reaction is registered or queued twice. -/
structure Orderly (promises : Promises π η ε α) : Prop where
  jobs : (promises.jobs.map Microtask.about).Nodup
  waits : ∀ promise, (promises.reactions promise).Nodup
  apart : ∀ promise, ∀ reaction ∈ promises.reactions promise,
    reaction ∉ promises.jobs.map Microtask.about
  single : ∀ promise other reaction, reaction ∈ promises.reactions promise →
    reaction ∈ promises.reactions other → promise = other

/-- The reaction is neither registered nor queued. -/
structure Absent (promises : Promises π η ε α) (reaction : Reaction π η) :
    Prop where
  waits : ∀ promise, reaction ∉ promises.reactions promise
  jobs : reaction ∉ promises.jobs.map Microtask.about

omit [DecidableEq π] in
theorem Orderly.initial : Orderly ({} : Promises π η ε α) :=
  ⟨List.nodup_nil, fun _ => List.nodup_nil, fun _ _ member => (by cases member),
    fun _ _ _ member => (by cases member)⟩

omit [DecidableEq π] in
theorem Orderly.enqueue (orderly : promises.Orderly)
    (absent : promises.Absent job.about) : (promises.enqueue job).Orderly where
  jobs := by
    rw [jobs_enqueue, List.map_append]
    refine List.nodup_append.mpr ⟨orderly.jobs, List.nodup_singleton _, ?_⟩
    intro reaction member other same
    rw [List.map_cons, List.map_nil, List.mem_singleton] at same
    rintro rfl
    exact absent.jobs (same ▸ member)
  waits := orderly.waits
  apart promise reaction waits member := by
    rw [jobs_enqueue, List.map_append] at member
    rcases List.mem_append.mp member with old | new
    · exact orderly.apart promise reaction waits old
    · rw [List.map_cons, List.map_nil, List.mem_singleton] at new
      exact absent.waits promise (new ▸ waits)
  single := orderly.single

theorem Orderly.react (orderly : promises.Orderly)
    (absent : promises.Absent reaction) :
    (promises.react promise reaction).Orderly := by
  cases settled : promises.result promise with
  | some result =>
      rw [react_of_result settled]
      exact orderly.enqueue absent
  | none =>
      have sameJobs : (promises.react promise reaction).jobs = promises.jobs :=
        jobs_react_of_pending settled
      refine ⟨sameJobs ▸ orderly.jobs, ?_, ?_, ?_⟩
      · intro other
        by_cases same : other = promise
        · subst same
          rw [reactions_react_of_pending settled]
          refine List.nodup_append.mpr
            ⟨orderly.waits other, List.nodup_singleton _, ?_⟩
          intro first member second same
          rw [List.mem_singleton] at same
          rintro rfl
          exact absent.waits other (same ▸ member)
        · rw [reactions_react_ne same]
          exact orderly.waits other
      · intro other waiting member queued
        rw [sameJobs] at queued
        rcases mem_reactions_react member with old | ⟨-, rfl⟩
        · exact orderly.apart other waiting old queued
        · exact absent.jobs queued
      · intro first second waiting left right
        rcases mem_reactions_react left with old | ⟨rfl, rfl⟩ <;>
          rcases mem_reactions_react right with also | ⟨rfl, same⟩
        · exact orderly.single first second waiting old also
        · exact absurd (same ▸ old) (absent.waits first)
        · exact absurd also (absent.waits second)
        · rfl

theorem Orderly.settle (orderly : promises.Orderly) :
    (promises.settle promise result).Orderly := by
  cases settled : promises.result promise with
  | some known =>
      rw [settle_of_result settled]
      exact orderly
  | none =>
      have sameJobs : (promises.settle promise result).jobs.map Microtask.about =
          promises.jobs.map Microtask.about ++ promises.reactions promise := by
        rw [jobs_settle settled, List.map_append, List.map_map]
        exact congrArg _ (List.map_id _)
      refine ⟨?_, ?_, ?_, ?_⟩
      · rw [sameJobs]
        refine List.nodup_append.mpr ⟨orderly.jobs, orderly.waits promise, ?_⟩
        rintro reaction queued _ waits rfl
        exact orderly.apart promise reaction waits queued
      · intro other
        by_cases same : other = promise
        · subst same
          rw [reactions_settle_self]
          exact List.nodup_nil
        · rw [reactions_settle_ne same]
          exact orderly.waits other
      · intro other reaction member queued
        obtain ⟨waits, different⟩ := mem_reactions_settle member
        rw [sameJobs] at queued
        rcases List.mem_append.mp queued with old | moved
        · exact orderly.apart other reaction waits old
        · exact different (orderly.single other promise reaction waits moved)
      · intro first second reaction left right
        exact orderly.single first second reaction (mem_reactions_settle left).1
          (mem_reactions_settle right).1

omit [DecidableEq π] in
theorem Orderly.dequeue (orderly : promises.Orderly)
    (first : promises.jobs.head? = some job) :
    promises.dequeue.Orderly ∧ promises.dequeue.Absent job.about := by
  obtain ⟨rest, same⟩ := List.head?_eq_some_iff.mp first
  have jobs := orderly.jobs
  rw [same, List.map_cons] at jobs
  obtain ⟨fresh, distinct⟩ := List.nodup_cons.mp jobs
  have rest_eq : promises.dequeue.jobs = rest := by
    simp [Promises.dequeue, same]
  refine ⟨⟨rest_eq ▸ distinct, orderly.waits, ?_, orderly.single⟩, ?_,
    rest_eq ▸ fresh⟩
  · intro promise reaction waits queued
    rw [rest_eq] at queued
    apply orderly.apart promise reaction waits
    rw [same]
    exact List.mem_cons_of_mem _ queued
  · intro promise waits
    apply orderly.apart promise _ waits
    rw [same]
    exact List.mem_cons_self

theorem Absent.react {added : Reaction π η} (absent : promises.Absent reaction)
    (different : reaction ≠ added) :
    (promises.react other added).Absent reaction where
  waits promise member := by
    rcases mem_reactions_react member with old | ⟨-, same⟩
    · exact absent.waits promise old
    · exact different same
  jobs member := by
    obtain ⟨job, queued, same⟩ := List.mem_map.mp member
    rcases mem_jobs_react queued with old | ⟨result, -, rfl⟩
    · exact absent.jobs (same ▸ List.mem_map_of_mem old)
    · exact different same.symm

theorem Absent.settle (absent : promises.Absent reaction) :
    (promises.settle other result).Absent reaction where
  waits promise member := absent.waits promise (mem_reactions_settle member).1
  jobs member := by
    obtain ⟨job, queued, same⟩ := List.mem_map.mp member
    rcases mem_jobs_settle queued with old | ⟨-, waiting, waits, rfl⟩
    · exact absent.jobs (same ▸ List.mem_map_of_mem old)
    · exact absent.waits other (same ▸ waits)

end Promises

end Async
