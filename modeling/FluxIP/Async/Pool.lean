import FluxIP.Async.RelyGuarantee

/-!
# Interleaving of programs

A pool holds the shared state and the programs in progress.  A schedule starts
requests and advances one program by one await at a time, in any order, so a
run of the pool is an interleaving at every await point.  The main result
lifts contracts: when every program keeps its own contract and every guarantee
is covered by the reliance of the others, the invariant and the postconditions
hold in every state the pool reaches.
-/

namespace Async

/-- A request in progress: what was asked, what it has awaited, what is left. -/
structure Thread (S : Signature) (ε ι α : Type) where
  request : ι
  history : History S ε
  program : Program S ε α

/-- How a finished program ended. -/
def Program.outcome {S : Signature} {ε α : Type} :
    Program S ε α → Outcome ε α
  | .done value => .returned value
  | .fail error => .threw error
  | .await _ _ => .cut

def Program.isOver {S : Signature} {ε α : Type} : Program S ε α → Bool
  | .await _ _ => false
  | _ => true

/-- The shared state and the programs in progress, in order of arrival. -/
structure Pool (S : Signature) (ε ι α σ : Type) where
  state : σ
  threads : List (Thread S ε ι α)

/-- One move of a schedule. -/
inductive Move (ι ω : Type) where
  | start (request : ι)
  | advance (index : Nat) (choice : ω)
  deriving DecidableEq, Repr

/-- What runs in a pool: the program of each request, and when a request may
arrive.  A request carries its own identity and arrives once. -/
structure Service (S : Signature) (ε ι α ω σ : Type) where
  semantics : Semantics S ε ω σ
  program : ι → Program S ε α
  admits : σ → ι → Bool

namespace Pool

variable {S : Signature} {ε ι α ω σ : Type} [DecidableEq ι]
variable (service : Service S ε ι α ω σ)

/-- Advance one thread by the call it awaits. -/
def advanceThread (pool : Pool S ε ι α σ) (index : Nat) (choice : ω) :
    Option (Pool S ε ι α σ) :=
  match pool.threads[index]? with
  | some ⟨request, history, .await call resume⟩ =>
      match service.semantics call choice pool.state with
      | some (answer, next) =>
          some ⟨next, pool.threads.set index
            ⟨request, history ++ [⟨call, answer⟩], resume answer⟩⟩
      | none => none
  | _ => none

def step (pool : Pool S ε ι α σ) : Move ι ω → Option (Pool S ε ι α σ)
  | .start request =>
      if service.admits pool.state request = true ∧
          request ∉ pool.threads.map Thread.request then
        some ⟨pool.state,
          pool.threads ++ [⟨request, [], service.program request⟩]⟩
      else none
  | .advance index choice => pool.advanceThread service index choice

/-- The pool after a whole schedule, if every move of it is possible and
passes the check. -/
def follow (check : Pool S ε ι α σ → Move ι ω → Bool)
    (pool : Pool S ε ι α σ) : List (Move ι ω) → Option (Pool S ε ι α σ)
  | [] => some pool
  | move :: moves =>
      if check pool move then
        (pool.step service move).bind (·.follow check moves)
      else none

/-- The pools a run passes through, from the last one back to the first. -/
inductive Run (allowed : Pool S ε ι α σ → Move ι ω → Prop)
    (initial : Pool S ε ι α σ) : Pool S ε ι α σ → Prop where
  | refl : Run allowed initial initial
  | step {pool next : Pool S ε ι α σ} {move : Move ι ω} :
      Run allowed initial pool →
      allowed pool move →
      pool.step service move = some next →
      Run allowed initial next

variable {service}
variable {pool next : Pool S ε ι α σ}

theorem step_start {request : ι}
    (step : pool.step service (.start request) = some next) :
    service.admits pool.state request = true ∧
      request ∉ pool.threads.map Thread.request ∧
      next = ⟨pool.state,
        pool.threads ++ [⟨request, [], service.program request⟩]⟩ := by
  simp only [Pool.step] at step
  split at step
  · rename_i admitted
    exact ⟨admitted.1, admitted.2, (Option.some.inj step).symm⟩
  · cases step

theorem step_advance {index : Nat} {choice : ω}
    (step : pool.step service (.advance index choice) = some next) :
    ∃ request history call resume answer state,
      pool.threads[index]? =
        some ⟨request, history, .await call resume⟩ ∧
      service.semantics call choice pool.state = some (answer, state) ∧
      next = ⟨state, pool.threads.set index
        ⟨request, history ++ [⟨call, answer⟩], resume answer⟩⟩ := by
  simp only [Pool.step, advanceThread] at step
  split at step
  · rename_i request history call resume found
    split at step
    · rename_i answer state result
      exact ⟨request, history, call, resume, answer, state, found, result,
        (Option.some.inj step).symm⟩
    · cases step
  · cases step

omit [DecidableEq ι] in
/-- A thread is the one that was advanced or stands somewhere else. -/
theorem of_mem_set {threads : List (Thread S ε ι α)} {index : Nat}
    {advanced thread : Thread S ε ι α}
    (member : thread ∈ threads.set index advanced) :
    thread = advanced ∨
      ∃ position, position ≠ index ∧ threads[position]? = some thread := by
  obtain ⟨position, atPosition⟩ := List.getElem?_of_mem member
  by_cases same : index = position
  · subst same
    rw [List.getElem?_set] at atPosition
    split at atPosition
    · split at atPosition
      · exact .inl (Option.some.inj atPosition).symm
      · cases atPosition
    · contradiction
  · rw [List.getElem?_set_ne same] at atPosition
    exact .inr ⟨position, Ne.symm same, atPosition⟩

/-- A request is in the pool once. -/
theorem distinct_step {move : Move ι ω}
    (distinct : (pool.threads.map Thread.request).Nodup)
    (moved : pool.step service move = some next) :
    (next.threads.map Thread.request).Nodup := by
  cases move with
  | start request =>
      obtain ⟨-, fresh, rfl⟩ := step_start moved
      rw [List.map_append]
      refine List.nodup_append.mpr ⟨distinct, by simp, ?_⟩
      intro old member new same
      simp only [List.map_cons, List.map_nil, List.mem_singleton] at same
      subst same
      exact fun equal => fresh (equal ▸ member)
  | advance index choice =>
      obtain ⟨request, history, call, resume, answer, state, found, -, rfl⟩ :=
        step_advance moved
      obtain ⟨inBounds, atIndex⟩ := List.getElem?_eq_some_iff.mp found
      have sameRequests : (pool.threads.map Thread.request).set index request =
          pool.threads.map Thread.request := by
        apply List.ext_getElem?
        intro position
        rw [List.getElem?_set]
        split
        · rename_i same
          subst same
          simp [inBounds, atIndex]
        · rfl
      rw [List.map_set, sameRequests]
      exact distinct

/-- A followed schedule is a run. -/
theorem run_of_follow {allowed : Pool S ε ι α σ → Move ι ω → Prop}
    {check : Pool S ε ι α σ → Move ι ω → Bool}
    (sound : ∀ pool move, check pool move = true → allowed pool move)
    {initial : Pool S ε ι α σ} {moves : List (Move ι ω)}
    (followed : initial.follow service check moves = some pool) :
    Run service allowed initial pool := by
  suffices general : ∀ moves current,
      Run service allowed initial current →
        current.follow service check moves = some pool →
        Run service allowed initial pool from
    general moves initial .refl followed
  intro moves
  induction moves with
  | nil =>
      intro current run same
      simp only [follow, Option.some.injEq] at same
      exact same ▸ run
  | cons move moves ih =>
      intro current run rest
      simp only [follow] at rest
      split at rest
      · rename_i checked
        cases moved : current.step service move with
        | none => simp [moved] at rest
        | some after =>
            simp only [moved, Option.bind_some] at rest
            exact ih after (run.step (sound _ _ checked) moved) rest
      · cases rest

/-- What the thread with this index has returned, if it has finished. -/
def returned (pool : Pool S ε ι α σ) (index : Nat) : Option (ι × α) :=
  match pool.threads[index]? with
  | some ⟨request, _, .done value⟩ => some (request, value)
  | _ => none

omit [DecidableEq ι] in
theorem mem_of_returned {index : Nat} {request : ι} {value : α}
    (finished : pool.returned index = some (request, value)) :
    ∃ history, ⟨request, history, .done value⟩ ∈ pool.threads := by
  unfold returned at finished
  split at finished
  · rename_i request history value found
    cases finished
    exact ⟨history, List.mem_of_getElem? found⟩
  · cases finished

namespace Run

variable {allowed : Pool S ε ι α σ → Move ι ω → Prop}
variable {initial : Pool S ε ι α σ}

/-- What holds initially and is kept by every allowed move holds in every
pool of a run. -/
theorem invariant {property : Pool S ε ι α σ → Prop}
    (run : Run service allowed initial pool)
    (atStart : property initial)
    (preserved : ∀ pool move next, property pool → allowed pool move →
      pool.step service move = some next → property next) :
    property pool := by
  induction run with
  | refl => exact atStart
  | step _ isAllowed moved ih => exact preserved _ _ _ ih isAllowed moved

theorem trans {middle last : Pool S ε ι α σ}
    (first : Run service allowed initial middle)
    (second : Run service allowed middle last) :
    Run service allowed initial last := by
  induction second with
  | refl => exact first
  | step _ isAllowed moved ih => exact ih.step isAllowed moved

/-- Fewer restrictions allow every run. -/
theorem mono {weaker : Pool S ε ι α σ → Move ι ω → Prop}
    (run : Run service allowed initial pool)
    (implies : ∀ pool move, allowed pool move → weaker pool move) :
    Run service weaker initial pool := by
  induction run with
  | refl => exact .refl
  | step _ isAllowed moved ih => exact ih.step (implies _ _ isAllowed) moved

end Run

/-- A run, with what is noted of its moves. -/
inductive Observed {β : Type} (service : Service S ε ι α ω σ)
    (note : Pool S ε ι α σ → Move ι ω → List β)
    (allowed : Pool S ε ι α σ → Move ι ω → Prop)
    (initial : Pool S ε ι α σ) : Pool S ε ι α σ → List β → Prop where
  | refl : Observed service note allowed initial initial []
  | step {pool next : Pool S ε ι α σ} {move : Move ι ω} {noted : List β} :
      Observed service note allowed initial pool noted →
      allowed pool move →
      pool.step service move = some next →
      Observed service note allowed initial next (noted ++ note pool move)

namespace Observed

variable {β : Type} {note : Pool S ε ι α σ → Move ι ω → List β}
variable {allowed : Pool S ε ι α σ → Move ι ω → Prop}
variable {initial : Pool S ε ι α σ} {noted : List β}

theorem run (observed : Observed service note allowed initial pool noted) :
    Run service allowed initial pool := by
  induction observed with
  | refl => exact .refl
  | step _ isAllowed moved ih => exact ih.step isAllowed moved

/-- What holds initially, with nothing noted, and is kept by every allowed
move with its note holds of every pool and what was noted up to it. -/
theorem invariant {property : Pool S ε ι α σ → List β → Prop}
    (observed : Observed service note allowed initial pool noted)
    (atStart : property initial [])
    (preserved : ∀ pool noted move next, property pool noted →
      allowed pool move → pool.step service move = some next →
      property next (noted ++ note pool move)) :
    property pool noted := by
  induction observed with
  | refl => exact atStart
  | step _ isAllowed moved ih => exact preserved _ _ _ _ ih isAllowed moved

end Observed

/-- Every run can be observed. -/
theorem Run.observed {β : Type} {note : Pool S ε ι α σ → Move ι ω → List β}
    {allowed : Pool S ε ι α σ → Move ι ω → Prop} {initial : Pool S ε ι α σ}
    (run : Run service allowed initial pool) :
    ∃ noted, Observed service note allowed initial pool noted := by
  induction run with
  | refl => exact ⟨[], .refl⟩
  | step _ isAllowed moved ih =>
      obtain ⟨noted, observed⟩ := ih
      exact ⟨_, observed.step isAllowed moved⟩

/-- What is noted of a schedule that is followed. -/
def notes {β : Type} (service : Service S ε ι α ω σ)
    (note : Pool S ε ι α σ → Move ι ω → List β) (pool : Pool S ε ι α σ) :
    List (Move ι ω) → List β
  | [] => []
  | move :: moves => note pool move ++
      ((pool.step service move).map fun next =>
        next.notes service note moves).getD []

/-- A followed schedule is observed with its notes. -/
theorem observed_of_follow {β : Type}
    {note : Pool S ε ι α σ → Move ι ω → List β}
    {allowed : Pool S ε ι α σ → Move ι ω → Prop}
    {check : Pool S ε ι α σ → Move ι ω → Bool}
    (sound : ∀ pool move, check pool move = true → allowed pool move)
    {initial : Pool S ε ι α σ} {moves : List (Move ι ω)}
    (followed : initial.follow service check moves = some pool) :
    Observed service note allowed initial pool
      (initial.notes service note moves) := by
  suffices general : ∀ moves current noted,
      Observed service note allowed initial current noted →
        current.follow service check moves = some pool →
        Observed service note allowed initial pool
          (noted ++ current.notes service note moves) from
    general moves initial [] .refl followed
  intro moves
  induction moves with
  | nil =>
      intro current noted observed same
      cases same
      rw [notes, List.append_nil]
      exact observed
  | cons move moves ih =>
      intro current noted observed rest
      simp only [follow] at rest
      split at rest
      · rename_i checked
        cases moved : current.step service move with
        | none => simp [moved] at rest
        | some after =>
            simp only [moved, Option.bind_some] at rest
            have extended := ih after _
              (observed.step (sound _ _ checked) moved) rest
            simp only [notes, moved, Option.map_some, Option.getD_some]
            rw [← List.append_assoc]
            exact extended
      · cases rest

section Contracts

variable (contract : ι → Contract S ε ω σ)
variable (post : ι → History S ε → Outcome ε α → σ → Prop)

/-- A move is allowed when the contract of the request it advances allows the
choice it makes. -/
def Allowed (pool : Pool S ε ι α σ) : Move ι ω → Prop
  | .start _ => True
  | .advance index choice =>
      ∀ request history call resume,
        pool.threads[index]? =
          some ⟨request, history, .await call resume⟩ →
        (contract request).allowed history pool.state call choice

/-- A test of moves, from a test of the calls they make. -/
def checkedBy
    (test : ι → History S ε → σ → S.Call → ω → Bool)
    (pool : Pool S ε ι α σ) : Move ι ω → Bool
  | .start _ => true
  | .advance index choice =>
      match pool.threads[index]? with
      | some ⟨request, history, .await call _⟩ =>
          test request history pool.state call choice
      | _ => true

omit [DecidableEq ι] in
theorem allowed_of_checked
    {test : ι → History S ε → σ → S.Call → ω → Bool}
    (sound : ∀ request history state call choice,
      test request history state call choice = true →
      (contract request).allowed history state call choice)
    (pool : Pool S ε ι α σ) (move : Move ι ω)
    (checked : checkedBy test pool move = true) :
    Allowed contract pool move := by
  cases move with
  | start request => trivial
  | advance index choice =>
      intro request history call resume found
      simp only [checkedBy, found] at checked
      exact sound _ _ _ _ _ checked

/-- Contracts that fit together: one invariant, and guarantees covered by the
reliance of the others. -/
structure Compatible (invariant : σ → Prop) : Prop where
  invariant_iff : ∀ request state,
    (contract request).invariant state ↔ invariant state
  covered : ∀ request other before after, request ≠ other →
    (contract request).guarantee before after →
    (contract other).rely before after

/-- Every thread of the pool is still within its contract. -/
structure WithinContracts (service : Service S ε ι α ω σ)
    (invariant : σ → Prop) (pool : Pool S ε ι α σ) : Prop where
  keeps : invariant pool.state
  distinct : (pool.threads.map Thread.request).Nodup
  threads : ∀ thread ∈ pool.threads,
    thread.program.Ensures service.semantics (contract thread.request)
      (post thread.request) thread.history pool.state

variable {contract post}
variable {invariant : σ → Prop}

/-- Contracts are kept by one move: the moving thread by its own proof, the
others because its guarantee is covered by their reliance. -/
theorem WithinContracts.step {move : Move ι ω}
    (compatible : Compatible contract invariant)
    (starts : ∀ request state, invariant state →
      service.admits state request = true →
      (service.program request).Ensures service.semantics
        (contract request) (post request) [] state)
    (within : WithinContracts contract post service invariant pool)
    (isAllowed : Allowed contract pool move)
    (moved : pool.step service move = some next) :
    WithinContracts contract post service invariant next := by
  cases move with
  | start request =>
      obtain ⟨admitted, fresh, rfl⟩ := step_start moved
      refine ⟨within.keeps, ?_, ?_⟩
      · rw [List.map_append]
        refine List.nodup_append.mpr ⟨within.distinct, by simp, ?_⟩
        intro old member new same
        simp only [List.map_cons, List.map_nil, List.mem_singleton] at same
        subst same
        exact fun equal => fresh (equal ▸ member)
      · intro thread member
        rcases List.mem_append.mp member with old | new
        · exact within.threads thread old
        · rw [List.mem_singleton] at new
          subst new
          exact starts request pool.state within.keeps admitted
  | advance index choice =>
      obtain ⟨request, history, call, resume, answer, state, found, result,
        rfl⟩ := step_advance moved
      obtain ⟨inBounds, atIndex⟩ := List.getElem?_eq_some_iff.mp found
      have current := within.threads _ (List.mem_of_getElem? found)
      have here : (contract request).Environment pool.state pool.state :=
        ⟨(compatible.invariant_iff request _).mpr within.keeps,
          (contract request).reflexive _⟩
      obtain ⟨own, rest⟩ := (current pool.state here).2 choice answer state
        (isAllowed request history call resume found) result
      have keeps : invariant state :=
        (compatible.invariant_iff request _).mp own.1
      have sameRequests :
          (pool.threads.set index
            ⟨request, history ++ [⟨call, answer⟩], resume answer⟩).map
              Thread.request = pool.threads.map Thread.request := by
        rw [List.map_set]
        apply List.ext_getElem?
        intro position
        rw [List.getElem?_set]
        split
        · rename_i same
          subst same
          simp [inBounds, atIndex]
        · rfl
      refine ⟨keeps, sameRequests ▸ within.distinct, ?_⟩
      intro thread member
      obtain ⟨position, bound, atPosition⟩ := List.getElem_of_mem member
      rw [List.getElem_set] at atPosition
      split at atPosition
      · exact atPosition ▸ rest
      · rename_i different
        have oldBound : position < pool.threads.length := by
          simpa using bound
        have old : thread ∈ pool.threads :=
          atPosition ▸ List.getElem_mem oldBound
        have otherRequest : request ≠ thread.request := by
          intro same
          have sameAt : (pool.threads.map Thread.request)[index]? =
              (pool.threads.map Thread.request)[position]? := by
            simp [found, List.getElem?_eq_getElem oldBound, atPosition, same]
          exact different
            ((List.getElem?_inj (by simpa using inBounds)
              within.distinct).mp sameAt)
        exact (within.threads thread old).stable
          ⟨(compatible.invariant_iff _ _).mpr keeps,
            compatible.covered _ _ _ _ otherRequest own.2⟩

/-- What one move does to the state is covered by a guarantee. -/
theorem WithinContracts.covered {move : Move ι ω}
    {relation : σ → σ → Prop} (reflexive : ∀ state, relation state state)
    (compatible : Compatible contract invariant)
    (implied : ∀ request before after,
      (contract request).guarantee before after → relation before after)
    (within : WithinContracts contract post service invariant pool)
    (isAllowed : Allowed contract pool move)
    (moved : pool.step service move = some next) :
    relation pool.state next.state := by
  cases move with
  | start request =>
      obtain ⟨-, -, rfl⟩ := step_start moved
      exact reflexive _
  | advance index choice =>
      obtain ⟨request, history, call, resume, answer, state, found, result,
        rfl⟩ := step_advance moved
      have here : (contract request).Environment pool.state pool.state :=
        ⟨(compatible.invariant_iff request _).mpr within.keeps,
          (contract request).reflexive _⟩
      have current := within.threads _ (List.mem_of_getElem? found)
      have own := ((current pool.state here).2 choice answer state
        (isAllowed request history call resume found) result).1
      exact implied request _ _ own.2

/-- Contracts are kept by every allowed run. -/
theorem WithinContracts.run {initial : Pool S ε ι α σ}
    (compatible : Compatible contract invariant)
    (starts : ∀ request state, invariant state →
      service.admits state request = true →
      (service.program request).Ensures service.semantics
        (contract request) (post request) [] state)
    (within : WithinContracts contract post service invariant initial)
    (run : Run service (Allowed contract) initial pool) :
    WithinContracts contract post service invariant pool :=
  run.invariant within fun _ _ _ here isAllowed moved =>
    here.step compatible starts isAllowed moved

/-- What the guarantees imply of every step relates the ends of a run. -/
theorem WithinContracts.related {later : Pool S ε ι α σ}
    {relation : σ → σ → Prop} (reflexive : ∀ state, relation state state)
    (transitive : ∀ first second third,
      relation first second → relation second third → relation first third)
    (compatible : Compatible contract invariant)
    (implied : ∀ request before after,
      (contract request).guarantee before after → relation before after)
    (starts : ∀ request state, invariant state →
      service.admits state request = true →
      (service.program request).Ensures service.semantics
        (contract request) (post request) [] state)
    (within : WithinContracts contract post service invariant pool)
    (run : Run service (Allowed contract) pool later) :
    relation pool.state later.state := by
  suffices both :
      WithinContracts contract post service invariant later ∧
        relation pool.state later.state from both.2
  induction run with
  | refl => exact ⟨within, reflexive _⟩
  | step _ isAllowed moved ih =>
      have covered :=
        ih.1.covered reflexive compatible implied isAllowed moved
      exact ⟨ih.1.step compatible starts isAllowed moved,
        transitive _ _ _ ih.2 covered⟩

omit [DecidableEq ι] in
/-- A pool in which nothing has started is within every contract. -/
theorem WithinContracts.of_idle {state : σ} (keeps : invariant state) :
    WithinContracts contract post service invariant
      (⟨state, []⟩ : Pool S ε ι α σ) :=
  ⟨keeps, List.nodup_nil, by simp⟩

omit [DecidableEq ι] in
/-- What a finished thread's contract says about the present state. -/
theorem WithinContracts.finished {request : ι} {history : History S ε}
    {value : α} (compatible : Compatible contract invariant)
    (within : WithinContracts contract post service invariant pool)
    (member : ⟨request, history, .done value⟩ ∈ pool.threads) :
    post request history (.returned value) pool.state :=
  within.threads _ member pool.state
    ⟨(compatible.invariant_iff _ _).mpr within.keeps,
      (contract request).reflexive _⟩

end Contracts

end Pool

end Async
