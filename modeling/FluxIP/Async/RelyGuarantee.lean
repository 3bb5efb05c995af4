import FluxIP.Async.Program

/-!
# Rely-guarantee contracts for programs

A contract fixes what a program may assume of the other parties between two
of its awaits (`rely`), what it promises about its own calls (`guarantee`), an
invariant both sides keep, and which environment choices are considered.
`Ensures` is the weakest condition under which every execution of a program
keeps the contract and ends in its postcondition.
-/

namespace Async

/-- What a program and its environment owe each other. -/
structure Contract (S : Signature) (ε ω σ : Type) where
  invariant : σ → Prop
  rely : σ → σ → Prop
  guarantee : σ → σ → Prop
  allowed : History S ε → σ → S.Call → ω → Prop
  reflexive : ∀ state, rely state state
  transitive : ∀ first second third,
    rely first second → rely second third → rely first third

namespace Contract

variable {S : Signature} {ε ω σ : Type}

/-- A step of the environment: it keeps the invariant and the rely. -/
def Environment (contract : Contract S ε ω σ) (before after : σ) : Prop :=
  contract.invariant after ∧ contract.rely before after

/-- A step of the program itself. -/
def Own (contract : Contract S ε ω σ) (before after : σ) : Prop :=
  contract.invariant after ∧ contract.guarantee before after

/-- No other party acts and every choice is considered. -/
def alone (invariant : σ → Prop) : Contract S ε ω σ where
  invariant := invariant
  rely := Eq
  guarantee := fun _ _ => True
  allowed := fun _ _ _ _ => True
  reflexive := fun _ => rfl
  transitive := fun _ _ _ => Eq.trans

end Contract

variable {S : Signature} {ε ω σ α β : Type}
variable (semantics : Semantics S ε ω σ) (contract : Contract S ε ω σ)

/-- Every execution of the program from this history and state keeps the
contract and ends in `post`. -/
def Program.Ensures
    (post : History S ε → Outcome ε α → σ → Prop) :
    Program S ε α → History S ε → σ → Prop
  | .done value, history, state =>
      ∀ final, contract.Environment state final →
        post history (.returned value) final
  | .fail error, history, state =>
      ∀ final, contract.Environment state final →
        post history (.threw error) final
  | .await call resume, history, state =>
      ∀ before, contract.Environment state before →
        post history .cut before ∧
          ∀ choice answer after,
            contract.allowed history before call choice →
            semantics call choice before = some (answer, after) →
            contract.Own before after ∧
              (resume answer).Ensures post
                (history ++ [⟨call, answer⟩]) after

/-- A postcondition after an exception has been handed back as a value. -/
def attempted (post : History S ε → Outcome ε α → σ → Prop)
    (history : History S ε) : Outcome ε (Except ε α) → σ → Prop
  | .returned (.ok value), state => post history (.returned value) state
  | .returned (.error error), state => post history (.threw error) state
  | .threw _, _ => False
  | .cut, state => post history .cut state

/-- A postcondition with one assertion for each way a program can end; the
first may speak of the value returned. -/
def yielding (onReturn : α → History S ε → σ → Prop)
    (onThrow onCut : History S ε → σ → Prop)
    (history : History S ε) : Outcome ε α → σ → Prop
  | .returned value, state => onReturn value history state
  | .threw _, state => onThrow history state
  | .cut, state => onCut history state

/-- The same where the value does not matter. -/
abbrev ending (onReturn onThrow onCut : History S ε → σ → Prop) :
    History S ε → Outcome ε α → σ → Prop :=
  yielding (fun _ => onReturn) onThrow onCut

theorem ending_ofExcept {assertion : History S ε → σ → Prop}
    {history : History S ε} {state : σ} (answer : Except ε α)
    (holds : assertion history state) :
    ending assertion assertion assertion history (.ofExcept answer) state := by
  cases answer with
  | ok value => exact holds
  | error error => exact holds

namespace Program.Ensures

variable {semantics contract}
variable {post : History S ε → Outcome ε α → σ → Prop}

/-- An environment step before the program starts changes nothing. -/
theorem stable {program : Program S ε α} {history : History S ε}
    {state next : σ}
    (ensures : program.Ensures semantics contract post history state)
    (step : contract.Environment state next) :
    program.Ensures semantics contract post history next := by
  have extend : ∀ final, contract.Environment next final →
      contract.Environment state final := by
    intro final later
    exact ⟨later.1, contract.transitive _ _ _ step.2 later.2⟩
  cases program with
  | done value => exact fun final later => ensures final (extend final later)
  | fail error => exact fun final later => ensures final (extend final later)
  | await call resume =>
      exact fun before later => ensures before (extend before later)

/-- Weaken the postcondition. -/
theorem mono {program : Program S ε α} {history : History S ε} {state : σ}
    {weaker : History S ε → Outcome ε α → σ → Prop}
    (ensures : program.Ensures semantics contract post history state)
    (implies : ∀ history outcome state,
      post history outcome state → weaker history outcome state) :
    program.Ensures semantics contract weaker history state := by
  induction program generalizing history state with
  | done value =>
      exact fun final later => implies _ _ _ (ensures final later)
  | fail error =>
      exact fun final later => implies _ _ _ (ensures final later)
  | await call resume ih =>
      intro before later
      obtain ⟨atCut, atAnswer⟩ := ensures before later
      refine ⟨implies _ _ _ atCut, ?_⟩
      intro choice answer after allowed result
      obtain ⟨own, rest⟩ := atAnswer choice answer after allowed result
      exact ⟨own, ih answer rest⟩

/-- The invariant holds wherever the program ends. -/
theorem keeping {program : Program S ε α} {history : History S ε} {state : σ}
    (ensures : program.Ensures semantics contract post history state) :
    program.Ensures semantics contract
      (fun history outcome state =>
        contract.invariant state ∧ post history outcome state)
      history state := by
  induction program generalizing history state with
  | done value => exact fun final later => ⟨later.1, ensures final later⟩
  | fail error => exact fun final later => ⟨later.1, ensures final later⟩
  | await call resume ih =>
      intro before later
      obtain ⟨atCut, atAnswer⟩ := ensures before later
      refine ⟨⟨later.1, atCut⟩, ?_⟩
      intro choice answer after allowed result
      obtain ⟨own, rest⟩ := atAnswer choice answer after allowed result
      exact ⟨own, ih answer rest⟩

/-- What every step keeps, of the program or of others, holds wherever the
program ends. -/
theorem carrying {program : Program S ε α} {history : History S ε} {state : σ}
    {assertion : σ → Prop}
    (ensures : program.Ensures semantics contract post history state)
    (stable : ∀ before after, assertion before →
      contract.Environment before after → assertion after)
    (kept : ∀ before after, assertion before → contract.Own before after →
      assertion after)
    (here : assertion state) :
    program.Ensures semantics contract
      (fun history outcome state =>
        assertion state ∧ post history outcome state)
      history state := by
  induction program generalizing history state with
  | done value =>
      exact fun final later => ⟨stable _ _ here later, ensures final later⟩
  | fail error =>
      exact fun final later => ⟨stable _ _ here later, ensures final later⟩
  | await call resume ih =>
      intro before later
      obtain ⟨atCut, atAnswer⟩ := ensures before later
      have atCall := stable _ _ here later
      refine ⟨⟨atCall, atCut⟩, ?_⟩
      intro choice answer after allowed result
      obtain ⟨own, rest⟩ := atAnswer choice answer after allowed result
      exact ⟨own, ih answer rest (kept _ _ atCall own)⟩

/-- The rule for sequencing: the first program may end anywhere its own
postcondition allows, and the second is verified from there. -/
theorem bind {program : Program S ε α} {next : α → Program S ε β}
    {history : History S ε} {state : σ}
    {post : History S ε → Outcome ε β → σ → Prop}
    {middle : History S ε → Outcome ε α → σ → Prop}
    (first : program.Ensures semantics contract middle history state)
    (keeps : contract.invariant state)
    (onReturn : ∀ history value state, contract.invariant state →
      middle history (.returned value) state →
      (next value).Ensures semantics contract post history state)
    (onThrow : ∀ history error state,
      middle history (.threw error) state →
      post history (.threw error) state)
    (onCut : ∀ history state,
      middle history .cut state → post history .cut state) :
    (program.bind next).Ensures semantics contract post history state := by
  induction program generalizing history state with
  | done value =>
      exact onReturn history value state keeps
        (first state ⟨keeps, contract.reflexive state⟩)
  | fail error =>
      exact fun final later => onThrow _ _ _ (first final later)
  | await call resume ih =>
      intro before later
      obtain ⟨atCut, atAnswer⟩ := first before later
      refine ⟨onCut _ _ atCut, ?_⟩
      intro choice answer after allowed result
      obtain ⟨own, rest⟩ := atAnswer choice answer after allowed result
      exact ⟨own, ih answer rest own.1⟩

/-- An exception that is handed back as a value. -/
theorem attempt {program : Program S ε α} {history : History S ε} {state : σ}
    (ensures : program.Ensures semantics contract post history state) :
    program.attempt.Ensures semantics contract (attempted post)
      history state := by
  induction program generalizing history state with
  | done value => exact ensures
  | fail error => exact ensures
  | await call resume ih =>
      intro before later
      obtain ⟨atCut, atAnswer⟩ := ensures before later
      refine ⟨atCut, ?_⟩
      intro choice answer after allowed result
      obtain ⟨own, rest⟩ := atAnswer choice answer after allowed result
      exact ⟨own, ih answer rest⟩

/-- Two postconditions at once. -/
theorem both {program : Program S ε α} {history : History S ε} {state : σ}
    {other : History S ε → Outcome ε α → σ → Prop}
    (first : program.Ensures semantics contract post history state)
    (second : program.Ensures semantics contract other history state) :
    program.Ensures semantics contract
      (fun history outcome state =>
        post history outcome state ∧ other history outcome state)
      history state := by
  induction program generalizing history state with
  | done value => exact fun final later => ⟨first final later, second final later⟩
  | fail error => exact fun final later => ⟨first final later, second final later⟩
  | await call resume ih =>
      intro before later
      obtain ⟨atCut, atAnswer⟩ := first before later
      obtain ⟨atCut', atAnswer'⟩ := second before later
      refine ⟨⟨atCut, atCut'⟩, ?_⟩
      intro choice answer after allowed result
      obtain ⟨own, rest⟩ := atAnswer choice answer after allowed result
      exact ⟨own, ih answer rest
        (atAnswer' choice answer after allowed result).2⟩

/-- Weaken the three assertions of a postcondition. -/
theorem relax {program : Program S ε α} {history : History S ε} {state : σ}
    {onReturn onReturn' : α → History S ε → σ → Prop}
    {onThrow onCut onThrow' onCut' : History S ε → σ → Prop}
    (ensures : program.Ensures semantics contract
      (yielding onReturn onThrow onCut) history state)
    (returns : ∀ value history state, onReturn value history state →
      onReturn' value history state)
    (throws : ∀ history state, onThrow history state → onThrow' history state)
    (cuts : ∀ history state, onCut history state → onCut' history state) :
    program.Ensures semantics contract (yielding onReturn' onThrow' onCut')
      history state := by
  refine ensures.mono ?_
  intro history outcome state atEnd
  cases outcome with
  | returned value => exact returns value history state atEnd
  | threw error => exact throws history state atEnd
  | cut => exact cuts history state atEnd

theorem weaken {program : Program S ε α} {history : History S ε} {state : σ}
    {onReturn onThrow onCut onReturn' onThrow' onCut' :
      History S ε → σ → Prop}
    (ensures : program.Ensures semantics contract
      (ending onReturn onThrow onCut) history state)
    (returns : ∀ history state, onReturn history state →
      onReturn' history state)
    (throws : ∀ history state, onThrow history state → onThrow' history state)
    (cuts : ∀ history state, onCut history state → onCut' history state) :
    program.Ensures semantics contract (ending onReturn' onThrow' onCut')
      history state :=
  ensures.relax (fun _ => returns) throws cuts

/-- The rule for sequencing with one assertion in the middle. -/
theorem seq {program : Program S ε α} {next : α → Program S ε β}
    {history : History S ε} {state : σ}
    {onReturn : β → History S ε → σ → Prop}
    {onThrow onCut : History S ε → σ → Prop}
    (middle : α → History S ε → σ → Prop)
    (keeps : contract.invariant state)
    (first : program.Ensures semantics contract
      (yielding middle onThrow onCut) history state)
    (second : ∀ value history state, contract.invariant state →
      middle value history state →
      (next value).Ensures semantics contract
        (yielding onReturn onThrow onCut) history state) :
    (program.bind next).Ensures semantics contract
      (yielding onReturn onThrow onCut) history state :=
  first.bind keeps (fun history value state => second value history state)
    (fun _ _ _ atEnd => atEnd) (fun _ _ atEnd => atEnd)

/-- A program that returns at once, in a stable assertion. -/
theorem done {value : α} {history : History S ε} {state : σ}
    {onReturn : α → History S ε → σ → Prop}
    {onThrow onCut : History S ε → σ → Prop}
    (stable : ∀ next, contract.Environment state next →
      onReturn value history next) :
    (Program.done value).Ensures semantics contract
      (yielding onReturn onThrow onCut) history state := stable

/-- A program that throws at once, in a stable assertion. -/
theorem fail {error : ε} {history : History S ε} {state : σ}
    {onReturn : α → History S ε → σ → Prop}
    {onThrow onCut : History S ε → σ → Prop}
    (stable : ∀ next, contract.Environment state next →
      onThrow history next) :
    (Program.fail error : Program S ε α).Ensures semantics contract
      (yielding onReturn onThrow onCut) history state := stable

/-- The rule for one call. -/
theorem perform {call : S.Call} {history : History S ε} {state : σ}
    {post : History S ε → Outcome ε (S.Answer call) → σ → Prop}
    (step : ∀ before, contract.Environment state before →
      post history .cut before ∧
        ∀ choice answer after,
          contract.allowed history before call choice →
          semantics call choice before = some (answer, after) →
          contract.Own before after ∧
            ∀ final, contract.Environment after final →
              post (history ++ [⟨call, answer⟩]) (.ofExcept answer) final) :
    (Program.perform call).Ensures semantics contract post history state := by
  intro before later
  obtain ⟨atCut, atAnswer⟩ := step before later
  refine ⟨atCut, ?_⟩
  intro choice answer after allowed result
  obtain ⟨own, atEnd⟩ := atAnswer choice answer after allowed result
  refine ⟨own, ?_⟩
  cases answer with
  | ok value => exact atEnd
  | error error => exact atEnd

/-- The rule for `try { … } catch { … }`. -/
theorem tryCatch {body : Program S ε α} {handler : ε → Program S ε α}
    {history : History S ε} {state : σ}
    {middle : History S ε → Outcome ε α → σ → Prop}
    (first : body.Ensures semantics contract middle history state)
    (keeps : contract.invariant state)
    (onReturn : ∀ history value state,
      middle history (.returned value) state →
      ∀ final, contract.Environment state final →
        post history (.returned value) final)
    (onThrow : ∀ history error state, contract.invariant state →
      middle history (.threw error) state →
      (handler error).Ensures semantics contract post history state)
    (onCut : ∀ history state,
      middle history .cut state → post history .cut state) :
    (body.tryCatch handler).Ensures semantics contract post history state := by
  refine bind first.attempt keeps ?_ ?_ onCut
  · intro history outcome state keeps atEnd
    cases outcome with
    | ok value => exact onReturn history value state atEnd
    | error error => exact onThrow history error state keeps atEnd
  · intro history error state impossible
    exact impossible.elim

/-- The rule for a queue's retries: `between attempt` holds before the attempt
of that number. -/
theorem retrying {process : Nat → Program S ε α}
    {post : History S ε → Outcome ε Unit → σ → Prop}
    (between : Nat → History S ε → σ → Prop) {last : Nat}
    (stable : ∀ history state next, between last history state →
      contract.Environment state next → between last history next)
    (each : ∀ attempt history state, attempt < last →
      contract.invariant state → between attempt history state →
      (process attempt).Ensures semantics contract
        (fun history outcome state =>
          match outcome with
          | .returned _ => ∀ final, contract.Environment state final →
              post history (.returned ()) final
          | .threw _ => between (attempt + 1) history state
          | .cut => post history .cut state) history state)
    (exhausted : ∀ history state,
      between last history state → post history (.returned ()) state)
    {remaining attempt : Nat} (count : attempt + remaining = last)
    {history : History S ε} {state : σ}
    (keeps : contract.invariant state)
    (here : between attempt history state) :
    (Program.retrying process attempt remaining).Ensures semantics contract
      post history state := by
  induction remaining generalizing attempt history state with
  | zero =>
      rw [Nat.add_zero] at count
      subst count
      exact fun final later =>
        exhausted _ _ (stable _ _ _ here later)
  | succ remaining ih =>
      refine bind (each attempt history state (by omega) keeps here).attempt
        keeps ?_ ?_ ?_
      · intro history outcome state keeps atEnd
        cases outcome with
        | ok value => exact atEnd
        | error error => exact ih (by omega) keeps atEnd
      · intro history error state impossible
        exact impossible.elim
      · exact fun history state atCut => atCut

/-- The frame rule: an assertion kept by every call the program can make, and
by the environment, holds throughout. -/
theorem frame {quiet : S.Call → Prop} {assertion : History S ε → σ → Prop}
    {program : Program S ε α} (calls : program.Calls quiet)
    (stable : ∀ history state next, assertion history state →
      contract.Environment state next → assertion history next)
    (step : ∀ history state call choice answer after, quiet call →
      contract.invariant state → assertion history state →
      contract.allowed history state call choice →
      semantics call choice state = some (answer, after) →
      contract.Own state after ∧
        assertion (history ++ [⟨call, answer⟩]) after)
    {history : History S ε} {state : σ}
    (here : assertion history state) :
    program.Ensures semantics contract
      (ending assertion assertion assertion) history state := by
  induction program generalizing history state with
  | done value => exact fun final later => stable _ _ _ here later
  | fail error => exact fun final later => stable _ _ _ here later
  | await call resume ih =>
      intro before later
      have atCall := stable _ _ _ here later
      refine ⟨atCall, ?_⟩
      intro choice answer after allowed result
      obtain ⟨own, next⟩ := step history before call choice answer after
        calls.1 later.1 atCall allowed result
      exact ⟨own, ih answer (calls.2 answer) next⟩

/-- Every execution from a state in the invariant ends in the postcondition, if
its interference keeps the contract. -/
theorem sound {program : Program S ε α} {history lastHistory : History S ε}
    {state final : σ} {outcome : Outcome ε α} {rely : σ → σ → Prop}
    (ensures : program.Ensures semantics contract post history state)
    (environment : ∀ before after, contract.invariant before →
      rely before after → contract.Environment before after)
    (keeps : contract.invariant state)
    (execution : Execution semantics rely contract.allowed
      history program state lastHistory outcome final) :
    post lastHistory outcome final := by
  induction execution with
  | returned later => exact ensures _ (environment _ _ keeps later)
  | threw later => exact ensures _ (environment _ _ keeps later)
  | cut later => exact (ensures _ (environment _ _ keeps later)).1
  | await later allowed result _ ih =>
      obtain ⟨own, rest⟩ :=
        (ensures _ (environment _ _ keeps later)).2 _ _ _ allowed result
      exact ih rest own.1

end Program.Ensures

/-! ## Assertions a program preserves -/

/-- An assertion that holds before the program holds wherever it ends,
whatever it returns. -/
def Program.Preserves (assertion : History S ε → σ → Prop)
    (program : Program S ε α) : Prop :=
  ∀ history state, contract.invariant state → assertion history state →
    program.Ensures semantics contract
      (ending assertion assertion assertion) history state

/-- An assertion no step of the environment breaks. -/
def Contract.Stable (contract : Contract S ε ω σ)
    (assertion : History S ε → σ → Prop) : Prop :=
  ∀ history state next, assertion history state →
    contract.Environment state next → assertion history next

namespace Program.Preserves

variable {semantics contract}
variable {assertion : History S ε → σ → Prop}

theorem done (stable : contract.Stable assertion) (value : α) :
    Preserves semantics contract assertion (.done value) :=
  fun history state _ here next step => stable history state next here step

theorem fail (stable : contract.Stable assertion) (error : ε) :
    Preserves semantics contract assertion
      (.fail error : Program S ε α) :=
  fun history state _ here next step => stable history state next here step

theorem bind {program : Program S ε α} {next : α → Program S ε β}
    (first : Preserves semantics contract assertion program)
    (second : ∀ value, Preserves semantics contract assertion (next value)) :
    Preserves semantics contract assertion (program.bind next) := by
  intro history state keeps here
  apply Ensures.seq (fun _ => assertion) keeps (first history state keeps here)
  intro value history state keeps here
  exact second value history state keeps here

theorem onlyIf {condition : Bool} {body : Program S ε Unit}
    (stable : contract.Stable assertion)
    (first : Preserves semantics contract assertion body) :
    Preserves semantics contract assertion (onlyIf condition body) := by
  cases condition with
  | false => exact done stable ()
  | true => exact first

theorem attempt {program : Program S ε α}
    (first : Preserves semantics contract assertion program) :
    Preserves semantics contract assertion program.attempt := by
  intro history state keeps here
  apply (first history state keeps here).attempt.mono
  intro history outcome state atEnd
  cases outcome with
  | returned result =>
      cases result with
      | ok value => exact atEnd
      | error error => exact atEnd
  | threw error => exact atEnd.elim
  | cut => exact atEnd

theorem tryCatch {body : Program S ε α} {handler : ε → Program S ε α}
    (stable : contract.Stable assertion)
    (first : Preserves semantics contract assertion body)
    (second : ∀ error, Preserves semantics contract assertion
      (handler error)) :
    Preserves semantics contract assertion (body.tryCatch handler) := by
  apply bind (attempt first)
  intro outcome
  cases outcome with
  | ok value => exact done stable value
  | error error => exact second error

theorem tryFinally {body : Program S ε α} {cleanup : Program S ε Unit}
    (stable : contract.Stable assertion)
    (first : Preserves semantics contract assertion body)
    (second : Preserves semantics contract assertion cleanup) :
    Preserves semantics contract assertion (body.tryFinally cleanup) := by
  apply bind (attempt first)
  intro outcome
  apply bind second
  intro _
  cases outcome with
  | ok value => exact done stable value
  | error error => exact fail stable error

/-- A program all of whose calls preserve the assertion preserves it. -/
theorem of_calls {quiet : S.Call → Prop} {program : Program S ε α}
    (stable : contract.Stable assertion) (calls : program.Calls quiet)
    (step : ∀ history state call choice answer after, quiet call →
      contract.invariant state → assertion history state →
      contract.allowed history state call choice →
      semantics call choice state = some (answer, after) →
      contract.Own state after ∧
        assertion (history ++ [⟨call, answer⟩]) after) :
    Preserves semantics contract assertion program :=
  fun _ _ _ here => Ensures.frame calls stable step here

end Program.Preserves

end Async
