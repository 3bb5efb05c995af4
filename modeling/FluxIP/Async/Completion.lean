import FluxIP.Async.Crash

/-!
# Runs to the end, and what they have recorded

A program that runs alone to its end leaves a record of its calls and their
answers.  A completed sequence splits into the completion of its first program
and that of the rest.
-/

namespace Async

variable {S : Signature} {ε ω σ α β : Type} (semantics : Semantics S ε ω σ)

/-- The answered calls of a run alone, oldest first. -/
def Program.recorded : Program S ε α → List ω → σ → History S ε
  | .done _, _, _ | .fail _, _, _ | .await _ _, [], _ => []
  | .await call resume, choice :: choices, state =>
      match semantics call choice state with
      | none => []
      | some (answer, next) =>
          ⟨call, answer⟩ :: (resume answer).recorded choices next

/-- The program runs to its end, with these answered calls. -/
inductive Program.Completes :
    Program S ε α → History S ε → σ → Except ε α → σ → Prop where
  | done {value state} : Completes (.done value) [] state (.ok value) state
  | fail {error state} : Completes (.fail error) [] state (.error error) state
  | await {call resume choice answer state next history result final} :
      semantics call choice state = some (answer, next) →
      Completes (resume answer) history next result final →
      Completes (.await call resume) (⟨call, answer⟩ :: history) state result
        final

variable {semantics}

/-- A run that is not cut completes with what it has recorded. -/
theorem Program.completes {program : Program S ε α} {choices : List ω}
    {state final : σ} {result : Except ε α}
    (ran : program.run semantics choices state =
      (Outcome.ofExcept result, final)) :
    program.Completes semantics (program.recorded semantics choices state)
      state result final := by
  induction program generalizing choices state with
  | done value =>
      cases result with
      | ok value =>
          cases ran
          exact .done
      | error error => cases ran
  | fail error =>
      cases result with
      | ok value => cases ran
      | error error =>
          cases ran
          exact .fail
  | await call resume induction =>
      have isEnd : Outcome.ofExcept result ≠ .cut := by
        cases result with
        | ok value =>
            intro impossible
            cases impossible
        | error error =>
            intro impossible
            cases impossible
      cases choices with
      | nil => exact absurd (congrArg Prod.fst ran).symm isEnd
      | cons choice choices =>
          cases answered : semantics call choice state with
          | none =>
              simp only [run, answered] at ran
              exact absurd (congrArg Prod.fst ran).symm isEnd
          | some step =>
              simp only [run, answered] at ran
              simp only [recorded, answered]
              exact .await answered (induction step.1 ran)

namespace Program.Completes

variable {history : History S ε} {state final : σ}

/-- A completed sequence has completed its first program, and then, unless that
has thrown, the rest. -/
theorem split {program : Program S ε α} {next : α → Program S ε β}
    {result : Except ε β}
    (completes : (program.bind next).Completes semantics history state result
      final) :
    (∃ earlier later value middle, history = earlier ++ later ∧
      program.Completes semantics earlier state (.ok value) middle ∧
      (next value).Completes semantics later middle result final) ∨
    ∃ error, result = .error error ∧
      program.Completes semantics history state (.error error) final := by
  induction program generalizing history state with
  | done value =>
      exact .inl ⟨[], history, value, state, rfl, .done, completes⟩
  | fail error =>
      cases completes
      exact .inr ⟨error, rfl, .fail⟩
  | await call resume induction =>
      cases completes with
      | await answered rest =>
          rcases induction _ rest with returned | threw
          · obtain ⟨earlier, later, value, middle, rfl, first, second⟩ :=
              returned
            exact .inl ⟨⟨call, _⟩ :: earlier, later, value, middle, rfl,
              .await answered first, second⟩
          · obtain ⟨error, rfl, first⟩ := threw
            exact .inr ⟨error, rfl, .await answered first⟩

/-- A sequence that returns. -/
theorem seq {program : Program S ε α} {next : α → Program S ε β} {value : β}
    (completes : (program.bind next).Completes semantics history state
      (.ok value) final) :
    ∃ earlier later first middle, history = earlier ++ later ∧
      program.Completes semantics earlier state (.ok first) middle ∧
      (next first).Completes semantics later middle (.ok value) final := by
  rcases completes.split with returned | threw
  · exact returned
  · obtain ⟨error, impossible, -⟩ := threw
    cases impossible

theorem attempted {program : Program S ε α} {result : Except ε (Except ε α)}
    (completes : program.attempt.Completes semantics history state result
      final) :
    ∃ inner, result = .ok inner ∧
      program.Completes semantics history state inner final := by
  induction program generalizing history state with
  | done value =>
      cases completes
      exact ⟨_, rfl, .done⟩
  | fail error =>
      cases completes
      exact ⟨_, rfl, .fail⟩
  | await call resume induction =>
      cases completes with
      | await answered rest =>
          obtain ⟨inner, rfl, within⟩ := induction _ rest
          exact ⟨inner, rfl, .await answered within⟩

/-- A body that is rethrown by its handler has returned if the whole has. -/
theorem returned {body : Program S ε α} {rethrown : ε → ε} {value : α}
    (completes : (body.tryCatch fun error =>
      .fail (rethrown error)).Completes semantics history state (.ok value)
        final) :
    body.Completes semantics history state (.ok value) final := by
  obtain ⟨earlier, later, outcome, middle, rfl, first, second⟩ := completes.seq
  obtain ⟨inner, same, within⟩ := first.attempted
  cases same
  cases outcome with
  | ok value =>
      cases second
      rw [List.append_nil]
      exact within
  | error error => cases second

theorem performed {call : S.Call} {result : Except ε (S.Answer call)}
    (completes : (Program.perform call).Completes semantics history state
      result final) :
    history = [⟨call, result⟩] ∧
      ∃ choice, semantics call choice state = some (result, final) := by
  cases completes with
  | @await _ _ choice answer _ _ _ _ _ answered rest =>
      cases answer with
      | ok value =>
          cases rest
          exact ⟨rfl, choice, answered⟩
      | error error =>
          cases rest
          exact ⟨rfl, choice, answered⟩

/-- A completion is one of the ends a program survives to. -/
theorem ends {program : Program S ε α} {result : Except ε α}
    {post : Except ε α → σ → Prop} {crash : σ → Prop}
    (completes : program.Completes semantics history state result final)
    (survives : program.Survives semantics post crash state) :
    post result final := by
  induction completes with
  | done => exact survives
  | fail => exact survives
  | await answered _ induction =>
      exact induction (survives.2 _ _ _ answered)

/-- Only what the program can call is recorded. -/
theorem calls {program : Program S ε α} {result : Except ε α}
    {allowed : S.Call → Prop}
    (completes : program.Completes semantics history state result final)
    (calls : program.Calls allowed) :
    ∀ answered ∈ history, allowed answered.call := by
  induction completes with
  | done => exact fun _ member => absurd member List.not_mem_nil
  | fail => exact fun _ member => absurd member List.not_mem_nil
  | await _ _ induction =>
      intro answered member
      rcases List.mem_cons.mp member with here | later
      · subst here
        exact calls.1
      · exact induction (calls.2 _) answered later

end Program.Completes

end Async
