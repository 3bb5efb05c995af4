import FluxIP.Async.RelyGuarantee

/-!
# Programs that may be stopped anywhere

A postcondition for the ends of a program, and a crash condition for every
point at which it can be stopped: before each of its calls.  The program runs
alone; which choices the environment makes is left open.
-/

namespace Async

variable {S : Signature} {ε ω σ α β : Type} (semantics : Semantics S ε ω σ)

/-- Wherever the program is stopped `crash` holds, and it ends in `post`. -/
def Program.Survives (post : Except ε α → σ → Prop) (crash : σ → Prop) :
    Program S ε α → σ → Prop
  | .done value, state => post (.ok value) state
  | .fail error, state => post (.error error) state
  | .await call resume, state =>
      crash state ∧ ∀ choice answer after,
        semantics call choice state = some (answer, after) →
          (resume answer).Survives post crash after

/-- A postcondition after an exception has been handed back as a value. -/
def caught (post : Except ε α → σ → Prop) :
    Except ε (Except ε α) → σ → Prop
  | .ok result, state => post result state
  | .error _, _ => False

/-- A postcondition that speaks of a returned value; an exception leaves what
may be left anywhere. -/
def orElse (post : α → σ → Prop) (crash : σ → Prop) : Except ε α → σ → Prop
  | .ok value, state => post value state
  | .error _, state => crash state

/-- What is known of a run that has ended so. -/
def Ends (post : Except ε α → σ → Prop) (crash : σ → Prop) :
    Outcome ε α → σ → Prop
  | .returned value, state => post (.ok value) state
  | .threw error, state => post (.error error) state
  | .cut, state => crash state

namespace Program.Survives

variable {semantics}
variable {post : Except ε α → σ → Prop} {crash : σ → Prop} {state : σ}

theorem mono {program : Program S ε α} {weaker : Except ε α → σ → Prop}
    {milder : σ → Prop}
    (survives : program.Survives semantics post crash state)
    (ends : ∀ result state, post result state → weaker result state)
    (stops : ∀ state, crash state → milder state) :
    program.Survives semantics weaker milder state := by
  induction program generalizing state with
  | done value => exact ends _ _ survives
  | fail error => exact ends _ _ survives
  | await call resume induction =>
      refine ⟨stops _ survives.1, ?_⟩
      intro choice answer after result
      exact induction answer (survives.2 choice answer after result)

theorem bind {program : Program S ε α} {next : α → Program S ε β}
    {post : Except ε β → σ → Prop} {middle : Except ε α → σ → Prop}
    (first : program.Survives semantics middle crash state)
    (returns : ∀ value state, middle (.ok value) state →
      (next value).Survives semantics post crash state)
    (throws : ∀ error state, middle (.error error) state →
      post (.error error) state) :
    (program.bind next).Survives semantics post crash state := by
  induction program generalizing state with
  | done value => exact returns _ _ first
  | fail error => exact throws _ _ first
  | await call resume induction =>
      refine ⟨first.1, ?_⟩
      intro choice answer after result
      exact induction answer (first.2 choice answer after result)

theorem attempt {program : Program S ε α}
    (survives : program.Survives semantics post crash state) :
    program.attempt.Survives semantics (caught post) crash state := by
  induction program generalizing state with
  | done value => exact survives
  | fail error => exact survives
  | await call resume induction =>
      refine ⟨survives.1, ?_⟩
      intro choice answer after result
      exact induction answer (survives.2 choice answer after result)

theorem tryCatch {body : Program S ε α} {handler : ε → Program S ε α}
    {middle : Except ε α → σ → Prop}
    (first : body.Survives semantics middle crash state)
    (returns : ∀ value state, middle (.ok value) state →
      post (.ok value) state)
    (throws : ∀ error state, middle (.error error) state →
      (handler error).Survives semantics post crash state) :
    (body.tryCatch handler).Survives semantics post crash state := by
  apply first.attempt.bind
  · intro result state atEnd
    cases result with
    | ok value => exact returns value state atEnd
    | error error => exact throws error state atEnd
  · exact fun _ _ impossible => impossible.elim

/-- The rule for sequencing where exceptions are passed on. -/
theorem seq {program : Program S ε α} {next : α → Program S ε β}
    {post : β → σ → Prop} {middle : α → σ → Prop}
    (first : program.Survives semantics (orElse middle crash) crash state)
    (second : ∀ value state, middle value state →
      (next value).Survives semantics (orElse post crash) crash state) :
    (program.bind next).Survives semantics (orElse post crash) crash state :=
  first.bind second fun _ _ atEnd => atEnd

/-- An exception is thrown again after a cleanup. -/
theorem rethrow {body : Program S ε α} {cleanup : ε → Program S ε Unit}
    {rethrown : ε → ε} {post : α → σ → Prop} {assertion : σ → Prop}
    (first : body.Survives semantics (orElse post assertion) crash state)
    (cleans : ∀ error state, assertion state →
      (cleanup error).Survives semantics (fun _ => crash) crash state) :
    (body.tryCatch fun error =>
      (cleanup error).bind fun _ => .fail (rethrown error)).Survives semantics
        (orElse post crash) crash state := by
  apply first.tryCatch
  · exact fun _ _ atEnd => atEnd
  · intro error state atEnd
    apply (cleans error state atEnd).bind
    · exact fun _ _ cleaned => cleaned
    · exact fun _ _ cleaned => cleaned

/-- An assertion that every call of a program keeps holds wherever it ends or
is stopped. -/
theorem frame {program : Program S ε α} {quiet : S.Call → Prop}
    {assertion : σ → Prop} (calls : program.Calls quiet)
    (keeps : ∀ call choice answer before after, quiet call →
      assertion before →
      semantics call choice before = some (answer, after) →
      assertion after)
    (here : assertion state) :
    program.Survives semantics (fun _ => assertion) assertion state := by
  induction program generalizing state with
  | done value => exact here
  | fail error => exact here
  | await call resume induction =>
      refine ⟨here, ?_⟩
      intro choice answer after result
      exact induction answer (calls.2 answer)
        (keeps call choice answer state after calls.1 here result)

/-- The rule for one call. -/
theorem perform {call : S.Call} {post : Except ε (S.Answer call) → σ → Prop}
    (stopped : crash state)
    (answered : ∀ choice answer after,
      semantics call choice state = some (answer, after) →
        post answer after) :
    (Program.perform call).Survives semantics post crash state := by
  refine ⟨stopped, ?_⟩
  intro choice answer after result
  have atEnd := answered choice answer after result
  cases answer with
  | ok value => exact atEnd
  | error error => exact atEnd

/-- Every run ends in the postcondition or is stopped in the crash
condition. -/
theorem sound {program : Program S ε α}
    (survives : program.Survives semantics post crash state)
    (choices : List ω) :
    Ends post crash (program.run semantics choices state).1
      (program.run semantics choices state).2 := by
  induction program generalizing state choices with
  | done value => exact survives
  | fail error => exact survives
  | await call resume induction =>
      cases choices with
      | nil => exact survives.1
      | cons choice choices =>
          cases result : semantics call choice state with
          | none =>
              simp only [Program.run, result]
              exact survives.1
          | some answered =>
              obtain ⟨answer, after⟩ := answered
              simp only [Program.run, result]
              exact induction answer (survives.2 choice answer after result)
                choices

end Program.Survives

/-- What a program ensures where no other party acts, whatever choices are
made. -/
theorem Program.Ensures.survives {program : Program S ε α}
    {history : History S ε} {state : σ} {onReturn : α → σ → Prop}
    {assertion : σ → Prop}
    (ensures : program.Ensures semantics (Contract.alone fun _ => True)
      (yielding (fun value _ => onReturn value) (fun _ => assertion)
        fun _ => assertion) history state) :
    program.Survives semantics (orElse onReturn assertion) assertion state := by
  induction program generalizing history state with
  | done value => exact ensures state ⟨trivial, rfl⟩
  | fail error => exact ensures state ⟨trivial, rfl⟩
  | await call resume induction =>
      obtain ⟨stopped, answered⟩ := ensures state ⟨trivial, rfl⟩
      refine ⟨stopped, ?_⟩
      intro choice answer after result
      exact induction answer (answered choice answer after trivial result).2

/-- What holds at every end and wherever the program is stopped holds after
every run. -/
theorem Ends.everywhere {post : Except ε α → σ → Prop} {crash : σ → Prop}
    {outcome : Outcome ε α} {state : σ} (ends : Ends post crash outcome state)
    (implies : ∀ result, post result state → crash state) : crash state := by
  cases outcome with
  | returned value => exact implies _ ends
  | threw error => exact implies _ ends
  | cut => exact ends

end Async
