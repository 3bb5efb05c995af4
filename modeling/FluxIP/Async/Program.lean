import Mathlib.Logic.Relation

/-!
# Programs cut at their await points

An async function runs without interruption between two awaits.  `Program`
keeps exactly that structure: the calls it awaits, and what it does with each
answer or exception.  What a call does to the shared state is not part of the
program; it is supplied by a `Semantics`, together with a choice that stands
for everything the environment decides (whether the call fails, how long it
takes, what a remote party answers).
-/

namespace Async

/-- The calls a program may await, each with the type of its answer. -/
structure Signature where
  Call : Type
  Answer : Call → Type

/-- An async function: it has returned, has thrown, or awaits one call. -/
inductive Program (S : Signature) (ε α : Type) where
  | done (value : α)
  | fail (error : ε)
  | await (call : S.Call)
      (resume : Except ε (S.Answer call) → Program S ε α)

namespace Program

variable {S : Signature} {ε α β γ : Type}

/-- Await one call; an exception it throws is passed on. -/
def perform (call : S.Call) : Program S ε (S.Answer call) :=
  .await call fun
    | .ok answer => .done answer
    | .error error => .fail error

def bind : Program S ε α → (α → Program S ε β) → Program S ε β
  | .done value, next => next value
  | .fail error, _ => .fail error
  | .await call resume, next => .await call fun answer =>
      (resume answer).bind next

/-- Run a program to its end and hand back its value or its exception. -/
def attempt : Program S ε α → Program S ε (Except ε α)
  | .done value => .done (.ok value)
  | .fail error => .done (.error error)
  | .await call resume => .await call fun answer => (resume answer).attempt

def ofExcept : Except ε α → Program S ε α
  | .ok value => .done value
  | .error error => .fail error

instance : Monad (Program S ε) where
  pure := .done
  bind := .bind

/-- `if (condition) { body }` -/
def onlyIf (condition : Bool) (body : Program S ε Unit) : Program S ε Unit :=
  if condition then body else .done ()

/-- `try { body } catch (error) { handler(error) }` -/
def tryCatch (body : Program S ε α) (handler : ε → Program S ε α) :
    Program S ε α :=
  body.attempt.bind fun
    | .ok value => .done value
    | .error error => handler error

/-- `try { body } finally { cleanup }`: an exception of the cleanup replaces
the outcome of the body. -/
def tryFinally (body : Program S ε α) (cleanup : Program S ε Unit) :
    Program S ε α :=
  body.attempt.bind fun outcome => cleanup.bind fun _ => ofExcept outcome

/-- Run `process attempt`, `process (attempt + 1)`, … until one of them returns
or `remaining` of them have thrown, as a queue does with a job. -/
def retrying (process : Nat → Program S ε α) :
    (attempt remaining : Nat) → Program S ε Unit
  | _, 0 => .done ()
  | attempt, remaining + 1 => (process attempt).attempt.bind fun
      | .ok _ => .done ()
      | .error _ => retrying process (attempt + 1) remaining

/-- Every call the program can make, whatever the answers, is `allowed`. -/
def Calls (allowed : S.Call → Prop) : Program S ε α → Prop
  | .done _ => True
  | .fail _ => True
  | .await call resume =>
      allowed call ∧ ∀ answer, (resume answer).Calls allowed

@[simp] theorem pure_eq_done (value : α) :
    (pure value : Program S ε α) = .done value := rfl

@[simp] theorem monadBind_eq_bind
    (program : Program S ε α) (next : α → Program S ε β) :
    program >>= next = program.bind next := rfl

@[simp] theorem done_bind (value : α) (next : α → Program S ε β) :
    (Program.done value).bind next = next value := rfl

@[simp] theorem fail_bind (error : ε) (next : α → Program S ε β) :
    (Program.fail error : Program S ε α).bind next = .fail error := rfl

@[simp] theorem await_bind (call : S.Call)
    (resume : Except ε (S.Answer call) → Program S ε α)
    (next : α → Program S ε β) :
    (Program.await call resume).bind next =
      .await call fun answer => (resume answer).bind next := rfl

@[simp] theorem attempt_done (value : α) :
    (Program.done value : Program S ε α).attempt = .done (.ok value) := rfl

@[simp] theorem attempt_fail (error : ε) :
    (Program.fail error : Program S ε α).attempt = .done (.error error) := rfl

@[simp] theorem attempt_await (call : S.Call)
    (resume : Except ε (S.Answer call) → Program S ε α) :
    (Program.await call resume).attempt =
      .await call fun answer => (resume answer).attempt := rfl

@[simp] theorem ofExcept_ok (value : α) :
    (ofExcept (.ok value) : Program S ε α) = .done value := rfl

@[simp] theorem ofExcept_error (error : ε) :
    (ofExcept (.error error) : Program S ε α) = .fail error := rfl

@[simp] theorem bind_done (program : Program S ε α) :
    program.bind .done = program := by
  induction program with
  | done value => rfl
  | fail error => rfl
  | await call resume ih =>
      simp only [await_bind]
      exact congrArg (Program.await call) (funext ih)

section Calls

variable {allowed weaker : S.Call → Prop}

theorem Calls.mono {program : Program S ε α} (calls : program.Calls allowed)
    (implies : ∀ call, allowed call → weaker call) :
    program.Calls weaker := by
  induction program with
  | done value => trivial
  | fail error => trivial
  | await call resume ih =>
      exact ⟨implies call calls.1, fun answer => ih answer (calls.2 answer)⟩

@[simp] theorem calls_done (value : α) :
    (Program.done value : Program S ε α).Calls allowed := trivial

@[simp] theorem calls_fail (error : ε) :
    (Program.fail error : Program S ε α).Calls allowed := trivial

@[simp] theorem calls_perform (call : S.Call) :
    (perform call : Program S ε (S.Answer call)).Calls allowed ↔
      allowed call := by
  constructor
  · exact fun calls => calls.1
  · intro isAllowed
    refine ⟨isAllowed, ?_⟩
    rintro (error | value) <;> trivial

theorem Calls.bind {program : Program S ε α} {next : α → Program S ε β}
    (first : program.Calls allowed)
    (second : ∀ value, (next value).Calls allowed) :
    (program.bind next).Calls allowed := by
  induction program with
  | done value => exact second value
  | fail error => trivial
  | await call resume ih =>
      exact ⟨first.1, fun answer => ih answer (first.2 answer)⟩

theorem Calls.attempt {program : Program S ε α}
    (calls : program.Calls allowed) :
    program.attempt.Calls allowed := by
  induction program with
  | done value => trivial
  | fail error => trivial
  | await call resume ih =>
      exact ⟨calls.1, fun answer => ih answer (calls.2 answer)⟩

theorem Calls.onlyIf {condition : Bool} {body : Program S ε Unit}
    (calls : body.Calls allowed) :
    (Program.onlyIf condition body).Calls allowed := by
  cases condition with
  | false => trivial
  | true => exact calls

theorem Calls.tryCatch {body : Program S ε α} {handler : ε → Program S ε α}
    (first : body.Calls allowed)
    (second : ∀ error, (handler error).Calls allowed) :
    (body.tryCatch handler).Calls allowed := by
  refine first.attempt.bind ?_
  rintro (error | value)
  · exact second error
  · trivial

theorem Calls.tryFinally {body : Program S ε α}
    {cleanup : Program S ε Unit}
    (first : body.Calls allowed) (second : cleanup.Calls allowed) :
    (body.tryFinally cleanup).Calls allowed := by
  refine first.attempt.bind fun outcome => second.bind fun _ => ?_
  cases outcome <;> trivial

end Calls

theorem bind_assoc (program : Program S ε α) (next : α → Program S ε β)
    (last : β → Program S ε γ) :
    (program.bind next).bind last =
      program.bind fun value => (next value).bind last := by
  induction program with
  | done value => rfl
  | fail error => rfl
  | await call resume ih =>
      simp only [await_bind]
      exact congrArg (Program.await call) (funext ih)

end Program

/-- One answered await: the call and what came back. -/
structure Answered (S : Signature) (ε : Type) where
  call : S.Call
  answer : Except ε (S.Answer call)

/-- What a program has awaited so far, oldest first. -/
abbrev History (S : Signature) (ε : Type) := List (Answered S ε)

/-- The effect of a call in a state under an environment choice: an answer (or
an exception) and the next state, or `none` while the call is not ready. -/
abbrev Semantics (S : Signature) (ε ω σ : Type) :=
  (call : S.Call) → ω → σ → Option (Except ε (S.Answer call) × σ)

/-- How a run of a program ends.  `cut` is a process that stops at an await. -/
inductive Outcome (ε α : Type) where
  | returned (value : α)
  | threw (error : ε)
  | cut
  deriving DecidableEq, Repr

/-- How a call that is not cut ends. -/
def Outcome.ofExcept {ε α : Type} : Except ε α → Outcome ε α
  | .ok value => .returned value
  | .error error => .threw error

section Run

variable {S : Signature} {ε ω σ α β : Type}
variable (semantics : Semantics S ε ω σ)

/-- Run a program alone.  Each await consumes one choice; the process stops
where the choices end, or where a call is not ready. -/
def Program.run : Program S ε α → List ω → σ → Outcome ε α × σ
  | .done value, _, state => (.returned value, state)
  | .fail error, _, state => (.threw error, state)
  | .await _ _, [], state => (.cut, state)
  | .await call resume, choice :: choices, state =>
      match semantics call choice state with
      | none => (.cut, state)
      | some (answer, next) => (resume answer).run choices next

/-- Run a program while the environment may change the state, within `rely`,
before every await and before the end.  `allowed` restricts the choices of the
run by what the program has seen and the state in which the call is made. -/
inductive Execution (rely : σ → σ → Prop)
    (allowed : History S ε → σ → S.Call → ω → Prop) :
    History S ε → Program S ε α → σ →
      History S ε → Outcome ε α → σ → Prop where
  | returned {history value state final} :
      rely state final →
      Execution rely allowed history (.done value) state
        history (.returned value) final
  | threw {history error state final} :
      rely state final →
      Execution rely allowed history (.fail error) state
        history (.threw error) final
  | cut {history call resume state final} :
      rely state final →
      Execution rely allowed history (.await call resume) state
        history .cut final
  | await {history call resume state before choice answer after
        lastHistory outcome final} :
      rely state before →
      allowed history before call choice →
      semantics call choice before = some (answer, after) →
      Execution rely allowed (history ++ [⟨call, answer⟩]) (resume answer)
        after lastHistory outcome final →
      Execution rely allowed history (.await call resume) state
        lastHistory outcome final

/-- A run alone is an execution under every reflexive interference, if its
choices are allowed wherever they are made. -/
theorem Program.run_execution {rely : σ → σ → Prop}
    {allowed : History S ε → σ → S.Call → ω → Prop}
    (reflexive : ∀ state, rely state state)
    (program : Program S ε α) (choices : List ω) (state : σ)
    (history : History S ε)
    (isAllowed : ∀ choice ∈ choices, ∀ history state call,
      allowed history state call choice) :
    ∃ lastHistory,
      Execution semantics rely allowed history program state
        lastHistory (program.run semantics choices state).1
        (program.run semantics choices state).2 := by
  induction program generalizing choices state history with
  | done value => exact ⟨history, .returned (reflexive state)⟩
  | fail error => exact ⟨history, .threw (reflexive state)⟩
  | await call resume ih =>
      cases choices with
      | nil => exact ⟨history, .cut (reflexive state)⟩
      | cons choice choices =>
          obtain ⟨here, later⟩ := List.forall_mem_cons.mp isAllowed
          cases result : semantics call choice state with
          | none =>
              simp only [Program.run, result]
              exact ⟨history, .cut (reflexive state)⟩
          | some outcome =>
              obtain ⟨answer, next⟩ := outcome
              obtain ⟨lastHistory, rest⟩ :=
                ih answer choices next (history ++ [⟨call, answer⟩]) later
              simp only [Program.run, result]
              exact ⟨lastHistory, .await (reflexive state)
                (here _ _ _) result rest⟩

variable {semantics} in
/-- More choices allow more executions. -/
theorem Execution.mono {rely : σ → σ → Prop}
    {allowed weaker : History S ε → σ → S.Call → ω → Prop}
    {history lastHistory : History S ε} {program : Program S ε α}
    {state final : σ} {outcome : Outcome ε α}
    (execution : Execution semantics rely allowed history program state
      lastHistory outcome final)
    (implies : ∀ history state call choice,
      allowed history state call choice → weaker history state call choice) :
    Execution semantics rely weaker history program state lastHistory outcome
      final := by
  induction execution with
  | returned later => exact .returned later
  | threw later => exact .threw later
  | cut later => exact .cut later
  | await later isAllowed result _ induction =>
      exact .await later (implies _ _ _ _ isAllowed) result induction

/-- How a run goes on from a call. -/
inductive Performed (call : S.Call) (next : S.Answer call → Program S ε β)
    (state : σ) (outcome : Outcome ε β) (after : σ) : Prop where
  | stopped : outcome = .cut → after = state →
      Performed call next state outcome after
  | thrown {choice error} :
      semantics call choice state = some (.error error, after) →
      outcome = .threw error → Performed call next state outcome after
  | answered {choice answer middle choices} :
      semantics call choice state = some (.ok answer, middle) →
      (next answer).run semantics choices middle = (outcome, after) →
      Performed call next state outcome after

theorem Program.performed {call : S.Call}
    {next : S.Answer call → Program S ε β} {choices : List ω}
    {state after : σ} {outcome : Outcome ε β}
    (ran : ((perform call).bind next).run semantics choices state =
      (outcome, after)) :
    Performed semantics call next state outcome after := by
  cases choices with
  | nil =>
      cases ran
      exact .stopped rfl rfl
  | cons choice choices =>
      simp only [perform, await_bind, run] at ran
      cases result : semantics call choice state with
      | none =>
          simp only [result] at ran
          cases ran
          exact .stopped rfl rfl
      | some step =>
          obtain ⟨answer, middle⟩ := step
          simp only [result] at ran
          cases answer with
          | error error =>
              cases ran
              exact .thrown result rfl
          | ok value => exact .answered result ran

theorem Program.run_nil (program : Program S ε α) (state : σ) :
    (program.run semantics [] state).2 = state := by
  cases program with
  | done value => rfl
  | fail error => rfl
  | await call resume => rfl

/-- A call that is answered. -/
theorem Program.run_perform {call : S.Call}
    {next : S.Answer call → Program S ε β} {choice : ω} {choices : List ω}
    {state middle : σ} {answer : S.Answer call}
    (result : semantics call choice state = some (.ok answer, middle)) :
    ((perform call).bind next).run semantics (choice :: choices) state =
      (next answer).run semantics choices middle := by
  simp only [perform, await_bind, run, result, done_bind]

/-- A call whose answer is handed back, whatever it is. -/
theorem Program.run_attempt {call : S.Call}
    {next : Except ε (S.Answer call) → Program S ε β} {choice : ω}
    {choices : List ω} {state middle : σ} {answer : Except ε (S.Answer call)}
    (result : semantics call choice state = some (answer, middle)) :
    ((perform call).attempt.bind next).run semantics (choice :: choices)
        state =
      (next answer).run semantics choices middle := by
  simp only [perform, attempt_await, await_bind, run, result]
  cases answer with
  | ok value => rfl
  | error error => rfl

end Run

end Async
