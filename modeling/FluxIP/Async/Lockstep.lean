import FluxIP.Async.Program

/-!
# Runs in lockstep

Two states that the calls of a program cannot tell apart: the program, run
alone from either with the same choices, makes the same calls and ends in the
same way.
-/

namespace Async

variable {S : Signature} {ε ω σ α β : Type}
variable (semantics : Semantics S ε ω σ)

/-- The calls a run alone makes. -/
def Program.made : Program S ε α → List ω → σ → List S.Call
  | .done _, _, _ => []
  | .fail _, _, _ => []
  | .await _ _, [], _ => []
  | .await call resume, choice :: choices, state =>
      match semantics call choice state with
      | none => [call]
      | some (answer, next) => call :: (resume answer).made choices next

/-- These calls are answered alike in related states, and leave them
related. -/
def Lockstep (related : σ → σ → Prop) (allowed : S.Call → Prop) : Prop :=
  ∀ call, allowed call → ∀ choice left right, related left right →
    Option.Rel (fun first second =>
        first.1 = second.1 ∧ related first.2 second.2)
      (semantics call choice left) (semantics call choice right)

variable {semantics} {related : σ → σ → Prop} {allowed : S.Call → Prop}

theorem Lockstep.run (lockstep : Lockstep semantics related allowed)
    {program : Program S ε α} (calls : program.Calls allowed)
    (choices : List ω) {left right : σ} (relates : related left right) :
    (program.run semantics choices left).1 =
        (program.run semantics choices right).1 ∧
      program.made semantics choices left =
        program.made semantics choices right := by
  induction program generalizing choices left right with
  | done value => exact ⟨rfl, rfl⟩
  | fail error => exact ⟨rfl, rfl⟩
  | await call resume ih =>
      cases choices with
      | nil => exact ⟨rfl, rfl⟩
      | cons choice choices =>
          have step := lockstep call calls.1 choice left right relates
          cases first : semantics call choice left with
          | none =>
              rw [first] at step
              cases second : semantics call choice right with
              | none =>
                  simp only [Program.run, Program.made, first, second]
                  exact ⟨trivial, trivial⟩
              | some outcome =>
                  rw [second] at step
                  cases step
          | some outcome =>
              rw [first] at step
              cases second : semantics call choice right with
              | none =>
                  rw [second] at step
                  cases step
              | some other =>
                  rw [second] at step
                  obtain ⟨answer, next⟩ := outcome
                  obtain ⟨sameAnswer, after⟩ := other
                  cases step with
                  | some both =>
                      obtain ⟨same, relatesNext⟩ := both
                      dsimp only at same
                      subst same
                      simp only [Program.run, Program.made, first, second]
                      obtain ⟨sameEnd, sameCalls⟩ :=
                        ih answer (calls.2 answer) choices relatesNext
                      exact ⟨sameEnd, congrArg _ sameCalls⟩

end Async
