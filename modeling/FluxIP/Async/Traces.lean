import FluxIP.Async.Pool

/-!
# What a program may call after what it has seen

A trace property restricts the calls of a program by its own history, for
every answer its calls might get.  It needs no semantics: what it says of a
program holds in every pool, whatever the other programs do.
-/

namespace Async

variable {S : Signature} {ε ω σ ι α β : Type}

/-- Every call the program makes is allowed by what it has awaited before, and
it ends in `post`. -/
def Program.Traces (allowed : History S ε → S.Call → Prop)
    (post : History S ε → Except ε α → Prop) :
    Program S ε α → History S ε → Prop
  | .done value, history => post history (.ok value)
  | .fail error, history => post history (.error error)
  | .await call resume, history =>
      allowed history call ∧ ∀ answer,
        (resume answer).Traces allowed post (history ++ [⟨call, answer⟩])

/-- A postcondition that speaks of a returned value only. -/
def onReturn (post : α → History S ε → Prop) (history : History S ε) :
    Except ε α → Prop
  | .ok value => post value history
  | .error _ => True

/-- Nothing is said of how the program ends. -/
def anyEnd (_ : History S ε) (_ : Except ε α) : Prop := True

/-- An assertion on histories that further calls do not change. -/
def Lasting (assertion : History S ε → Prop) : Prop :=
  ∀ history answered, assertion history → assertion (history ++ [answered])

theorem Lasting.and {first second : History S ε → Prop}
    (left : Lasting first) (right : Lasting second) :
    Lasting fun history => first history ∧ second history :=
  fun history answered holds =>
    ⟨left history answered holds.1, right history answered holds.2⟩

namespace Program.Traces

variable {allowed : History S ε → S.Call → Prop}
variable {post : History S ε → Except ε α → Prop}
variable {history : History S ε}

theorem mono {program : Program S ε α}
    {weaker : History S ε → Except ε α → Prop}
    (traces : program.Traces allowed post history)
    (implies : ∀ history result, post history result →
      weaker history result) :
    program.Traces allowed weaker history := by
  induction program generalizing history with
  | done value => exact implies _ _ traces
  | fail error => exact implies _ _ traces
  | await call resume ih =>
      exact ⟨traces.1, fun answer => ih answer (traces.2 answer)⟩

theorem allows {program : Program S ε α}
    {permitted : History S ε → S.Call → Prop}
    (traces : program.Traces allowed post history)
    (implies : ∀ history call, allowed history call →
      permitted history call) :
    program.Traces permitted post history := by
  induction program generalizing history with
  | done value => exact traces
  | fail error => exact traces
  | await call resume ih =>
      exact ⟨implies _ _ traces.1, fun answer => ih answer (traces.2 answer)⟩

/-- Two trace properties of one program. -/
theorem and {program : Program S ε α}
    {permitted : History S ε → S.Call → Prop}
    (first : program.Traces allowed anyEnd history)
    (second : program.Traces permitted anyEnd history) :
    program.Traces (fun history call => allowed history call ∧
      permitted history call) anyEnd history := by
  induction program generalizing history with
  | done value => trivial
  | fail error => trivial
  | await call resume ih =>
      exact ⟨⟨first.1, second.1⟩,
        fun answer => ih answer (first.2 answer) (second.2 answer)⟩

/-- What is said of the calls alone. -/
theorem calling {program : Program S ε α} {quiet : S.Call → Prop}
    (traces : program.Traces allowed post history)
    (calls : program.Calls quiet) :
    program.Traces (fun history call => allowed history call ∧ quiet call)
      post history := by
  induction program generalizing history with
  | done value => exact traces
  | fail error => exact traces
  | await call resume ih =>
      exact ⟨⟨traces.1, calls.1⟩,
        fun answer => ih answer (traces.2 answer) (calls.2 answer)⟩

/-- An assertion that lasts holds at the end as well. -/
theorem keeping {program : Program S ε α} {assertion : History S ε → Prop}
    (traces : program.Traces allowed post history)
    (lasting : Lasting assertion) (here : assertion history) :
    program.Traces allowed
      (fun history result => assertion history ∧ post history result)
      history := by
  induction program generalizing history with
  | done value => exact ⟨here, traces⟩
  | fail error => exact ⟨here, traces⟩
  | await call resume ih =>
      exact ⟨traces.1, fun answer =>
        ih answer (traces.2 answer) (lasting _ _ here)⟩

theorem all {κ : Type} {program : Program S ε α}
    {permitted : κ → History S ε → S.Call → Prop}
    (each : ∀ key, program.Traces (permitted key) anyEnd history) :
    program.Traces (fun history call => ∀ key, permitted key history call)
      anyEnd history := by
  induction program generalizing history with
  | done value => trivial
  | fail error => trivial
  | await call resume ih =>
      exact ⟨fun key => (each key).1,
        fun answer => ih answer fun key => (each key).2 answer⟩

/-- A caught program always returns. -/
theorem attempted {program : Program S ε α}
    (traces : program.Traces allowed post history) :
    program.attempt.Traces allowed
      (fun history result => ∃ outcome, result = .ok outcome ∧
        post history outcome) history := by
  induction program generalizing history with
  | done value => exact ⟨_, rfl, traces⟩
  | fail error => exact ⟨_, rfl, traces⟩
  | await call resume ih =>
      exact ⟨traces.1, fun answer => ih answer (traces.2 answer)⟩

theorem attempt {program : Program S ε α}
    (traces : program.Traces allowed post history) :
    program.attempt.Traces allowed
      (onReturn fun result history => post history result) history := by
  apply traces.attempted.mono
  rintro history result ⟨outcome, rfl, ends⟩
  exact ends

theorem bind {program : Program S ε α} {next : α → Program S ε β}
    {post : History S ε → Except ε β → Prop}
    {middle : History S ε → Except ε α → Prop}
    (first : program.Traces allowed middle history)
    (returns : ∀ history value, middle history (.ok value) →
      (next value).Traces allowed post history)
    (throws : ∀ history error, middle history (.error error) →
      post history (.error error)) :
    (program.bind next).Traces allowed post history := by
  induction program generalizing history with
  | done value => exact returns _ _ first
  | fail error => exact throws _ _ first
  | await call resume ih =>
      exact ⟨first.1, fun answer => ih answer (first.2 answer)⟩

/-- The rule for sequencing where exceptions need no care. -/
theorem seq {program : Program S ε α} {next : α → Program S ε β}
    {post : β → History S ε → Prop} (middle : α → History S ε → Prop)
    (first : program.Traces allowed (onReturn middle) history)
    (second : ∀ value history, middle value history →
      (next value).Traces allowed (onReturn post) history) :
    (program.bind next).Traces allowed (onReturn post) history :=
  first.bind (fun history value => second value history)
    fun _ _ _ => trivial

theorem perform {call : S.Call}
    {post : History S ε → Except ε (S.Answer call) → Prop}
    (isAllowed : allowed history call)
    (ends : ∀ answer, post (history ++ [⟨call, answer⟩]) answer) :
    (Program.perform call).Traces allowed post history := by
  refine ⟨isAllowed, ?_⟩
  intro answer
  cases answer with
  | ok value => exact ends (.ok value)
  | error error => exact ends (.error error)

/-- One call, and what the program does with its answer. -/
theorem performing {call : S.Call} {next : S.Answer call → Program S ε β}
    {post : History S ε → Except ε β → Prop}
    (isAllowed : allowed history call)
    (returns : ∀ value,
      (next value).Traces allowed post (history ++ [⟨call, .ok value⟩]))
    (throws : ∀ error, post (history ++ [⟨call, .error error⟩])
      (.error error)) :
    ((Program.perform call).bind next).Traces allowed post history := by
  refine ⟨isAllowed, ?_⟩
  intro answer
  cases answer with
  | ok value => exact returns value
  | error error => exact throws error

/-- A program of quiet calls keeps an assertion that quiet calls keep. -/
theorem of_quiet (assertion : History S ε → Prop)
    {program : Program S ε α} {quiet : S.Call → Prop}
    (calls : program.Calls quiet)
    (keeps : ∀ history call answer, quiet call → assertion history →
      assertion (history ++ [⟨call, answer⟩]))
    (isAllowed : ∀ history call, assertion history → quiet call →
      allowed history call)
    (here : assertion history) :
    program.Traces allowed (fun history _ => assertion history) history := by
  induction program generalizing history with
  | done value => exact here
  | fail error => exact here
  | await call resume ih =>
      refine ⟨isAllowed _ _ here calls.1, ?_⟩
      intro answer
      exact ih answer (calls.2 answer) (keeps _ _ _ calls.1 here)

/-- A program whose calls are allowed whatever came before keeps an assertion
that lasts. -/
theorem of_calls (assertion : History S ε → Prop)
    {program : Program S ε α} {quiet : S.Call → Prop}
    (calls : program.Calls quiet) (lasting : Lasting assertion)
    (isAllowed : ∀ history call, assertion history → quiet call →
      allowed history call)
    (here : assertion history) :
    program.Traces allowed (fun history _ => assertion history) history :=
  of_quiet assertion calls (fun _ _ _ _ holds => lasting _ _ holds) isAllowed
    here

end Program.Traces

/-! ## Programs that trace from every history -/

/-- Whatever the program has awaited before, its calls are allowed. -/
def Program.AlwaysTraces (allowed : History S ε → S.Call → Prop)
    (program : Program S ε α) : Prop :=
  ∀ history, program.Traces allowed anyEnd history

namespace Program.AlwaysTraces

variable {allowed : History S ε → S.Call → Prop}

theorem done (value : α) :
    (Program.done value : Program S ε α).AlwaysTraces allowed :=
  fun _ => trivial

theorem fail (error : ε) :
    (Program.fail error : Program S ε α).AlwaysTraces allowed :=
  fun _ => trivial

theorem bind {program : Program S ε α} {next : α → Program S ε β}
    (first : program.AlwaysTraces allowed)
    (second : ∀ value, (next value).AlwaysTraces allowed) :
    (program.bind next).AlwaysTraces allowed :=
  fun history => (first history).bind
    (fun history value _ => second value history) fun _ _ _ => trivial

theorem attempt {program : Program S ε α}
    (first : program.AlwaysTraces allowed) :
    program.attempt.AlwaysTraces allowed :=
  fun history => (first history).attempt.mono fun _ _ _ => trivial

theorem onlyIf {condition : Bool} {body : Program S ε Unit}
    (first : body.AlwaysTraces allowed) :
    (Program.onlyIf condition body).AlwaysTraces allowed := by
  cases condition with
  | false => exact done ()
  | true => exact first

theorem tryCatch {body : Program S ε α} {handler : ε → Program S ε α}
    (first : body.AlwaysTraces allowed)
    (second : ∀ error, (handler error).AlwaysTraces allowed) :
    (body.tryCatch handler).AlwaysTraces allowed := by
  apply bind (attempt first)
  intro outcome
  cases outcome with
  | ok value => exact done value
  | error error => exact second error

theorem retrying {process : Nat → Program S ε α}
    (each : ∀ attempt, (process attempt).AlwaysTraces allowed)
    (first remaining : Nat) :
    (Program.retrying process first remaining).AlwaysTraces allowed := by
  induction remaining generalizing first with
  | zero => exact done ()
  | succ remaining ih =>
      apply bind (attempt (each first))
      intro outcome
      cases outcome with
      | ok value => exact done ()
      | error error => exact ih (first + 1)

theorem of_calls {program : Program S ε α} {quiet : S.Call → Prop}
    (calls : program.Calls quiet)
    (isAllowed : ∀ history call, quiet call → allowed history call) :
    program.AlwaysTraces allowed :=
  fun _ => (Traces.of_calls (fun _ => True) calls (fun _ _ _ => trivial)
    (fun history call _ => isAllowed history call) trivial).mono
      fun _ _ _ => trivial

end Program.AlwaysTraces

/-! ## Programs whose answers are known -/

/-- As long as its calls are answered so, the calls of the program are
allowed. -/
def Program.CallsGiven (answers : Answered S ε → Prop)
    (allowed : S.Call → Prop) : Program S ε α → Prop
  | .done _ => True
  | .fail _ => True
  | .await call resume =>
      allowed call ∧ ∀ answer, answers ⟨call, answer⟩ →
        (resume answer).CallsGiven answers allowed

namespace Program.CallsGiven

variable {answers stronger : Answered S ε → Prop} {allowed : S.Call → Prop}

theorem done (value : α) :
    (Program.done value : Program S ε α).CallsGiven answers allowed :=
  trivial

/-- The more is known of the answers, the more programs there are. -/
theorem mono {program : Program S ε α}
    (calls : program.CallsGiven answers allowed)
    (implies : ∀ answered, stronger answered → answers answered) :
    program.CallsGiven stronger allowed := by
  induction program with
  | done value => trivial
  | fail error => trivial
  | await call resume ih =>
      refine ⟨calls.1, ?_⟩
      intro answer given
      exact ih answer (calls.2 answer (implies _ given))

theorem of_calls {program : Program S ε α} (calls : program.Calls allowed) :
    program.CallsGiven answers allowed := by
  induction program with
  | done value => trivial
  | fail error => trivial
  | await call resume ih =>
      exact ⟨calls.1, fun answer _ => ih answer (calls.2 answer)⟩

theorem bind {program : Program S ε α} {next : α → Program S ε β}
    (first : program.CallsGiven answers allowed)
    (second : ∀ value, (next value).CallsGiven answers allowed) :
    (program.bind next).CallsGiven answers allowed := by
  induction program with
  | done value => exact second value
  | fail error => trivial
  | await call resume ih =>
      exact ⟨first.1, fun answer given => ih answer (first.2 answer given)⟩

theorem attempt {program : Program S ε α}
    (calls : program.CallsGiven answers allowed) :
    program.attempt.CallsGiven answers allowed := by
  induction program with
  | done value => trivial
  | fail error => trivial
  | await call resume ih =>
      exact ⟨calls.1, fun answer given => ih answer (calls.2 answer given)⟩

theorem tryCatch {body : Program S ε α} {handler : ε → Program S ε α}
    (first : body.CallsGiven answers allowed)
    (second : ∀ error, (handler error).CallsGiven answers allowed) :
    (body.tryCatch handler).CallsGiven answers allowed := by
  apply bind first.attempt
  intro outcome
  cases outcome with
  | ok value => trivial
  | error error => exact second error

/-- One call, and what is done with its value. -/
theorem perform {call : S.Call} {next : S.Answer call → Program S ε β}
    (isAllowed : allowed call)
    (rest : ∀ value, answers ⟨call, .ok value⟩ →
      (next value).CallsGiven answers allowed) :
    ((Program.perform call).bind next).CallsGiven answers allowed := by
  refine ⟨isAllowed, ?_⟩
  intro answer given
  cases answer with
  | ok value => exact rest value given
  | error error => trivial

theorem onlyIf {condition : Bool} {body : Program S ε Unit}
    (calls : body.CallsGiven answers allowed) :
    (Program.onlyIf condition body).CallsGiven answers allowed := by
  cases condition with
  | false => trivial
  | true => exact calls

theorem retrying {process : Nat → Program S ε α}
    (each : ∀ attempt, (process attempt).CallsGiven answers allowed)
    (first remaining : Nat) :
    (Program.retrying process first remaining).CallsGiven answers allowed := by
  induction remaining generalizing first with
  | zero => trivial
  | succ remaining ih =>
      apply bind (attempt (each first))
      intro outcome
      cases outcome with
      | ok value => trivial
      | error error => exact ih (first + 1)

/-- After an answer that is not as it should be, nothing is promised. -/
theorem traces_after {program : Program S ε α} {history : History S ε}
    (other : ∃ answered ∈ history, ¬ answers answered) :
    program.Traces (fun history call =>
      (∀ answered ∈ history, answers answered) → allowed call) anyEnd
      history := by
  induction program generalizing history with
  | done value => trivial
  | fail error => trivial
  | await call resume ih =>
      obtain ⟨answered, member, wrong⟩ := other
      refine ⟨fun given => absurd (given answered member) wrong, ?_⟩
      intro answer
      exact ih answer ⟨answered, List.mem_append_left _ member, wrong⟩

/-- The calls of the program are allowed while all answers are as they should
be. -/
theorem traces {program : Program S ε α}
    (calls : program.CallsGiven answers allowed) (history : History S ε) :
    program.Traces (fun history call =>
      (∀ answered ∈ history, answers answered) → allowed call) anyEnd
      history := by
  induction program generalizing history with
  | done value => trivial
  | fail error => trivial
  | await call resume ih =>
      refine ⟨fun _ => calls.1, ?_⟩
      intro answer
      by_cases given : answers ⟨call, answer⟩
      · exact ih answer (calls.2 answer given) _
      · exact traces_after ⟨_, List.mem_append_right _ List.mem_cons_self,
          given⟩

end Program.CallsGiven

/-- As long as its calls are answered so, what the program returns is in
`post`. -/
def Program.ReturnsGiven (answers : Answered S ε → Prop) (post : α → Prop) :
    Program S ε α → Prop
  | .done value => post value
  | .fail _ => True
  | .await call resume => ∀ answer, answers ⟨call, answer⟩ →
      (resume answer).ReturnsGiven answers post

/-- Some answers let the program return the value. -/
def Program.CanReturn (value : α) : Program S ε α → Prop
  | .done other => other = value
  | .fail _ => False
  | .await _ resume => ∃ answer, (resume answer).CanReturn value

namespace Program.ReturnsGiven

variable {answers : Answered S ε → Prop} {allowed : S.Call → Prop}
variable {post : α → Prop}

theorem anything (program : Program S ε α) :
    program.ReturnsGiven answers fun _ => True := by
  induction program with
  | done value => trivial
  | fail error => trivial
  | await call resume ih => exact fun answer _ => ih answer

theorem bind {program : Program S ε α} {next : α → Program S ε β}
    {later : β → Prop} (first : program.ReturnsGiven answers post)
    (second : ∀ value, post value → (next value).ReturnsGiven answers later) :
    (program.bind next).ReturnsGiven answers later := by
  induction program with
  | done value => exact second value first
  | fail error => trivial
  | await call resume ih =>
      exact fun answer given => ih answer (first answer given)

theorem of_canReturn {program : Program S ε α} {value : α}
    (returns : program.ReturnsGiven (fun _ => True) post)
    (can : program.CanReturn value) : post value := by
  induction program with
  | done other =>
      cases can
      exact returns
  | fail error => cases can
  | await call resume ih =>
      obtain ⟨answer, can⟩ := can
      exact ih answer (returns answer trivial) can

theorem perform {call : S.Call} {post : S.Answer call → Prop}
    (returns : ∀ value, answers ⟨call, .ok value⟩ → post value) :
    (Program.perform call : Program S ε (S.Answer call)).ReturnsGiven answers
      post := by
  intro answer given
  cases answer with
  | ok value => exact returns value given
  | error error => trivial

theorem attempt {program : Program S ε α}
    (returns : program.ReturnsGiven answers post) :
    program.attempt.ReturnsGiven answers
      fun outcome => ∀ value, outcome = .ok value → post value := by
  induction program with
  | done value =>
      intro other same
      cases same
      exact returns
  | fail error =>
      intro value same
      cases same
  | await call resume ih =>
      exact fun answer given => ih answer (returns answer given)

/-- The rule for sequencing where what is returned matters. -/
theorem seq {program : Program S ε α} {next : α → Program S ε β}
    (returns : program.ReturnsGiven answers post)
    (calls : program.CallsGiven answers allowed)
    (rest : ∀ value, post value → (next value).CallsGiven answers allowed) :
    (program.bind next).CallsGiven answers allowed := by
  induction program with
  | done value => exact rest value returns
  | fail error => trivial
  | await call resume ih =>
      exact ⟨calls.1, fun answer given =>
        ih answer (returns answer given) (calls.2 answer given)⟩

end Program.ReturnsGiven

/-! ## Traces in a pool -/

namespace Pool

variable [DecidableEq ι] {service : Service S ε ι α ω σ}
variable {allowed : ι → History S ε → S.Call → Prop}
variable {pool next : Pool S ε ι α σ}

/-- Every thread of the pool traces from what it has seen, and ends as its
request should. -/
def TracedTo (allowed : ι → History S ε → S.Call → Prop)
    (post : ι → History S ε → Except ε α → Prop)
    (pool : Pool S ε ι α σ) : Prop :=
  ∀ thread ∈ pool.threads,
    thread.program.Traces (allowed thread.request) (post thread.request)
      thread.history

/-- Every thread of the pool traces from what it has seen. -/
def Traced (allowed : ι → History S ε → S.Call → Prop)
    (pool : Pool S ε ι α σ) : Prop :=
  pool.TracedTo allowed fun _ => anyEnd

theorem TracedTo.step {post : ι → History S ε → Except ε α → Prop}
    {move : Move ι ω}
    (starts : ∀ request, (service.program request).Traces
      (allowed request) (post request) [])
    (traced : pool.TracedTo allowed post)
    (moved : pool.step service move = some next) :
    next.TracedTo allowed post := by
  cases move with
  | start request =>
      obtain ⟨-, -, rfl⟩ := step_start moved
      intro thread member
      rcases List.mem_append.mp member with old | new
      · exact traced thread old
      · rw [List.mem_singleton] at new
        subst new
        exact starts request
  | advance index choice =>
      obtain ⟨request, history, call, resume, answer, state, found, -, rfl⟩ :=
        step_advance moved
      intro thread member
      rcases List.mem_or_eq_of_mem_set member with old | new
      · exact traced thread old
      · subst new
        exact (traced _ (List.mem_of_getElem? found)).2 answer

theorem Traced.step {move : Move ι ω}
    (starts : ∀ request, (service.program request).Traces
      (allowed request) anyEnd [])
    (traced : pool.Traced allowed)
    (moved : pool.step service move = some next) :
    next.Traced allowed :=
  TracedTo.step starts traced moved

theorem Run.tracedTo {restriction : Pool S ε ι α σ → Move ι ω → Prop}
    {post : ι → History S ε → Except ε α → Prop} {state : σ}
    (starts : ∀ request, (service.program request).Traces
      (allowed request) (post request) [])
    (run : Run service restriction ⟨state, []⟩ pool) :
    pool.TracedTo allowed post := by
  apply run.invariant
  · intro thread member
    cases member
  · exact fun _ _ _ traced _ moved => traced.step starts moved

theorem Run.traced {restriction : Pool S ε ι α σ → Move ι ω → Prop}
    {state : σ}
    (starts : ∀ request, (service.program request).Traces
      (allowed request) anyEnd [])
    (run : Run service restriction ⟨state, []⟩ pool) :
    pool.Traced allowed :=
  run.tracedTo starts

end Pool

end Async
