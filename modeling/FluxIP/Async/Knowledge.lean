import FluxIP.Async.Traces

/-!
# What the programs of a pool know

A program knows of the state what its answers have told it.  Such a fact is kept
by a run when it persists and when whoever learns it is told the truth; a fact
that is told only while nobody knows it is known to at most one program; and a
fact that becomes true only for who is told stays known to somebody.
-/

namespace Async

namespace Pool

variable {S : Signature} {ε ι α ω σ : Type} [DecidableEq ι]
variable {service : Service S ε ι α ω σ} {pool next : Pool S ε ι α σ}
variable {knows : ι → History S ε → Prop} {holds : σ → Prop}

/-- What the programs know holds. -/
def Knows (knows : ι → History S ε → Prop) (holds : σ → Prop)
    (pool : Pool S ε ι α σ) : Prop :=
  ∀ thread ∈ pool.threads, knows thread.request thread.history →
    holds pool.state

/-- At most one program knows. -/
def OneKnows (knows : ι → History S ε → Prop) (pool : Pool S ε ι α σ) : Prop :=
  ∀ (left right : Nat) first second, pool.threads[left]? = some first →
    pool.threads[right]? = some second → knows first.request first.history →
    knows second.request second.history → left = right

/-- What holds is known to a program. -/
def SomeKnows (knows : ι → History S ε → Prop) (holds : σ → Prop)
    (pool : Pool S ε ι α σ) : Prop :=
  holds pool.state →
    ∃ thread ∈ pool.threads, knows thread.request thread.history

/-- Every request that was started is one of these. -/
def Asks (asked : ι → Prop) (pool : Pool S ε ι α σ) : Prop :=
  ∀ thread ∈ pool.threads, asked thread.request

theorem Asks.step {asked : ι → Prop} {move : Move ι ω}
    (asks : pool.Asks asked)
    (starts : ∀ request, move = .start request → asked request)
    (moved : pool.step service move = some next) : next.Asks asked := by
  cases move with
  | start request =>
      obtain ⟨-, -, rfl⟩ := step_start moved
      intro thread member
      rcases List.mem_append.mp member with old | new
      · exact asks thread old
      · rw [List.mem_singleton] at new
        subst new
        exact starts request rfl
  | advance index choice =>
      obtain ⟨request, history, call, resume, answer, state, found, -, rfl⟩ :=
        step_advance moved
      have here := asks _ (List.mem_of_getElem? found)
      intro thread member
      rcases List.mem_or_eq_of_mem_set member with old | new
      · exact asks thread old
      · subst new
        exact here

omit [DecidableEq ι] in
theorem Knows.initial (state : σ) :
    Knows knows holds (⟨state, []⟩ : Pool S ε ι α σ) :=
  fun _ member => by cases member

omit [DecidableEq ι] in
theorem OneKnows.initial (state : σ) :
    OneKnows knows (⟨state, []⟩ : Pool S ε ι α σ) :=
  fun _ _ _ _ found => by cases found

/-- A step of a program that knows after it what it was told. -/
structure Tells (service : Service S ε ι α ω σ) (pool : Pool S ε ι α σ)
    (state : σ) (index : Nat) (choice : ω) (request : ι)
    (history : History S ε) (call : S.Call)
    (answer : Except ε (S.Answer call)) : Prop where
  running : ∃ resume, pool.threads[index]? =
    some ⟨request, history, .await call resume⟩
  answered : service.semantics call choice pool.state = some (answer, state)

theorem Knows.step {move : Move ι ω} (kept : pool.Knows knows holds)
    (ignorant : ∀ request, ¬ knows request [])
    (persists : holds pool.state → holds next.state)
    (learns : ∀ index choice request history call answer,
      Tells service pool next.state index choice request history call answer →
      knows request (history ++ [⟨call, answer⟩]) →
      knows request history ∨ holds next.state)
    (moved : pool.step service move = some next) :
    next.Knows knows holds := by
  cases move with
  | start request =>
      obtain ⟨-, -, rfl⟩ := step_start moved
      intro thread member known
      rcases List.mem_append.mp member with old | new
      · exact kept thread old known
      · rw [List.mem_singleton] at new
        subst new
        exact absurd known (ignorant request)
  | advance index choice =>
      obtain ⟨request, history, call, resume, answer, state, found, result,
        rfl⟩ := step_advance moved
      intro thread member known
      rcases List.mem_or_eq_of_mem_set member with old | new
      · exact persists (kept thread old known)
      · subst new
        rcases learns index choice request history call answer
          ⟨⟨resume, found⟩, result⟩ known with earlier | now
        · exact persists (kept _ (List.mem_of_getElem? found) earlier)
        · exact now

theorem OneKnows.step {move : Move ι ω} (one : pool.OneKnows knows)
    (ignorant : ∀ request, ¬ knows request [])
    (learns : ∀ index choice request history call answer,
      Tells service pool next.state index choice request history call answer →
      knows request (history ++ [⟨call, answer⟩]) →
      knows request history ∨
        ∀ thread ∈ pool.threads, ¬ knows thread.request thread.history)
    (moved : pool.step service move = some next) : next.OneKnows knows := by
  cases move with
  | start request =>
      obtain ⟨-, -, rfl⟩ := step_start moved
      have old (index : Nat) (thread : Thread S ε ι α)
          (found : (pool.threads ++
            [⟨request, [], service.program request⟩])[index]? = some thread)
          (known : knows thread.request thread.history) :
          pool.threads[index]? = some thread := by
        rcases Nat.lt_or_ge index pool.threads.length with before | after
        · rw [List.getElem?_append_left before] at found
          exact found
        · rw [List.getElem?_append_right after] at found
          have fresh := List.mem_singleton.mp (List.mem_of_getElem? found)
          subst fresh
          exact absurd known (ignorant request)
      intro left right first second foundFirst foundSecond knowsFirst
        knowsSecond
      exact one left right first second (old left first foundFirst knowsFirst)
        (old right second foundSecond knowsSecond) knowsFirst knowsSecond
  | advance index choice =>
      obtain ⟨request, history, call, resume, answer, state, found, result,
        rfl⟩ := step_advance moved
      have tells : Tells service pool state index choice request history call
          answer := ⟨⟨resume, found⟩, result⟩
      -- whoever knows now has known before, or nobody has
      have stays (position : Nat) (thread : Thread S ε ι α)
          (present : (pool.threads.set index
            ⟨request, history ++ [⟨call, answer⟩], resume answer⟩)[position]? =
              some thread)
          (known : knows thread.request thread.history) :
          position = index ∧ knows request (history ++ [⟨call, answer⟩]) ∨
            pool.threads[position]? = some thread := by
        by_cases same : index = position
        · subst same
          rw [List.getElem?_set_self
            (List.getElem?_eq_some_iff.mp found).1] at present
          cases present
          exact .inl ⟨rfl, known⟩
        · rw [List.getElem?_set_ne same] at present
          exact .inr present
      have apart (position : Nat) (thread : Thread S ε ι α)
          (present : pool.threads[position]? = some thread)
          (known : knows thread.request thread.history)
          (told : knows request (history ++ [⟨call, answer⟩])) :
          position = index := by
        rcases learns index choice request history call answer tells told with
          earlier | nobody
        · exact one position index thread _ present found known earlier
        · exact absurd known (nobody thread (List.mem_of_getElem? present))
      intro left right first second foundFirst foundSecond knowsFirst
        knowsSecond
      rcases stays left first foundFirst knowsFirst with
          ⟨rfl, told⟩ | before <;>
        rcases stays right second foundSecond knowsSecond with
          ⟨rfl, also⟩ | alsoBefore
      · rfl
      · exact (apart right second alsoBefore knowsSecond told).symm
      · exact apart left first before knowsFirst also
      · exact one left right first second before alsoBefore knowsFirst
          knowsSecond

/-- What a program knows it knows after a step, its own or another's. -/
theorem known_step {move : Move ι ω}
    (lasting : ∀ request, Lasting (knows request))
    (known : ∃ thread ∈ pool.threads, knows thread.request thread.history)
    (moved : pool.step service move = some next) :
    ∃ thread ∈ next.threads, knows thread.request thread.history := by
  obtain ⟨thread, member, knew⟩ := known
  cases move with
  | start request =>
      obtain ⟨-, -, rfl⟩ := step_start moved
      exact ⟨thread, List.mem_append_left _ member, knew⟩
  | advance index choice =>
      obtain ⟨request, history, call, resume, answer, state, found, result,
        rfl⟩ := step_advance moved
      obtain ⟨other, atOther⟩ := List.getElem?_of_mem member
      by_cases same : index = other
      · subst same
        cases found.symm.trans atOther
        refine ⟨_, List.mem_set (List.getElem?_eq_some_iff.mp found).1 _, ?_⟩
        exact lasting request history ⟨call, answer⟩ knew
      · refine ⟨thread, ?_, knew⟩
        apply List.mem_of_getElem? (i := other)
        rw [List.getElem?_set_ne same]
        exact atOther

theorem SomeKnows.step {move : Move ι ω} (known : pool.SomeKnows knows holds)
    (lasting : ∀ request, Lasting (knows request))
    (learns : ∀ index choice request history call answer,
      Tells service pool next.state index choice request history call answer →
      holds next.state →
      holds pool.state ∨ knows request (history ++ [⟨call, answer⟩]))
    (moved : pool.step service move = some next) :
    next.SomeKnows knows holds := by
  intro now
  cases move with
  | start request =>
      have same := moved
      obtain ⟨-, -, rfl⟩ := step_start same
      exact known_step lasting (known now) moved
  | advance index choice =>
      have same := moved
      obtain ⟨request, history, call, resume, answer, state, found, result,
        rfl⟩ := step_advance same
      rcases learns index choice request history call answer
        ⟨⟨resume, found⟩, result⟩ now with earlier | told
      · exact known_step lasting (known earlier) moved
      · exact ⟨_, List.mem_set (List.getElem?_eq_some_iff.mp found).1 _, told⟩

/-- What holds is known to one program, and only as long as it holds. -/
structure KnownToOne (knows : ι → History S ε → Prop) (holds : σ → Prop)
    (pool : Pool S ε ι α σ) : Prop where
  one : pool.OneKnows knows
  known : holds pool.state ↔
    ∃ thread ∈ pool.threads, knows thread.request thread.history

/-- It holds after a step if it has held and was not the program's own
knowledge, or if the program learns it now. -/
theorem KnownToOne.step {move : Move ι ω}
    (known : pool.KnownToOne knows holds)
    (ignorant : ∀ request, ¬ knows request [])
    (learns : ∀ index choice request history call answer,
      Tells service pool next.state index choice request history call answer →
      knows request (history ++ [⟨call, answer⟩]) →
      knows request history ∨ ¬ holds pool.state)
    (changes : ∀ index choice request history call answer,
      move = .advance index choice →
      Tells service pool next.state index choice request history call answer →
      (holds next.state ↔ holds pool.state ∧ ¬ knows request history ∨
        knows request (history ++ [⟨call, answer⟩])))
    (moved : pool.step service move = some next) :
    next.KnownToOne knows holds := by
  constructor
  · refine known.one.step ignorant ?_ moved
    intro index choice request history call answer tells told
    rcases learns _ _ _ _ _ _ tells told with earlier | fresh
    · exact .inl earlier
    · exact .inr fun thread member knew =>
        fresh (known.known.mpr ⟨thread, member, knew⟩)
  cases move with
  | start request =>
      obtain ⟨-, -, rfl⟩ := step_start moved
      constructor
      · intro now
        obtain ⟨thread, member, knew⟩ := known.known.mp now
        exact ⟨thread, List.mem_append_left _ member, knew⟩
      · rintro ⟨thread, member, knew⟩
        rcases List.mem_append.mp member with old | new
        · exact known.known.mpr ⟨thread, old, knew⟩
        · rw [List.mem_singleton] at new
          subst new
          exact absurd knew (ignorant request)
  | advance index choice =>
      obtain ⟨request, history, call, resume, answer, state, found, result,
        rfl⟩ := step_advance moved
      have changed := changes index choice request history call answer rfl
        ⟨⟨resume, found⟩, result⟩
      have inside := (List.getElem?_eq_some_iff.mp found).1
      constructor
      · intro now
        rcases changed.mp now with ⟨earlier, unknown⟩ | told
        · obtain ⟨thread, member, knew⟩ := known.known.mp earlier
          obtain ⟨other, atOther⟩ := List.getElem?_of_mem member
          have apart : index ≠ other := by
            intro same
            subst same
            cases found.symm.trans atOther
            exact unknown knew
          refine ⟨thread, ?_, knew⟩
          apply List.mem_of_getElem? (i := other)
          rw [List.getElem?_set_ne apart]
          exact atOther
        · exact ⟨_, List.mem_set inside _, told⟩
      · rintro ⟨thread, member, knew⟩
        obtain ⟨other, atOther⟩ := List.getElem?_of_mem member
        by_cases same : index = other
        · subst same
          rw [List.getElem?_set_self inside] at atOther
          cases atOther
          exact changed.mpr (.inr knew)
        · rw [List.getElem?_set_ne same] at atOther
          refine changed.mpr (.inl ⟨known.known.mpr
            ⟨thread, List.mem_of_getElem? atOther, knew⟩, fun own => ?_⟩)
          exact same (known.one index other _ thread found atOther own knew)

end Pool

end Async
