import Mathlib.Data.List.Basic

/-!
# Machines driven by moves

A machine takes a move or refuses it; a run folds a list of moves.  What every
move keeps holds at the end of every run.
-/

namespace Async.Machine

variable {σ μ : Type} {step : σ → μ → Option σ}
variable {start final : σ} {moves : List μ}

/-- What every move keeps holds after every run. -/
theorem invariant (holds : σ → Prop)
    (keeps : ∀ {before move after}, holds before →
      step before move = some after → holds after)
    (initially : holds start) (ran : moves.foldlM step start = some final) :
    holds final := by
  induction moves generalizing start with
  | nil =>
      cases ran
      exact initially
  | cons move moves ih =>
      rw [List.foldlM_cons] at ran
      obtain ⟨middle, stepped, rest⟩ := Option.bind_eq_some_iff.mp ran
      exact ih (keeps initially stepped) rest

/-- A relation that every move makes good, and that composes, holds from one
end of a run to the other. -/
theorem related {rel : σ → σ → Prop} (refl : ∀ state, rel state state)
    (trans : ∀ {first second third}, rel first second → rel second third →
      rel first third)
    (moved : ∀ {before move after}, step before move = some after →
      rel before after)
    (ran : moves.foldlM step start = some final) : rel start final :=
  invariant (rel start)
    (fun earlier stepped => trans earlier (moved stepped)) (refl start) ran

/-- A machine that answers every move of another one, and stays related to it,
follows all its runs. -/
theorem simulates {σ' : Type} {step' : σ' → μ → Option σ'}
    (rel : σ → σ' → Prop)
    (answers : ∀ {before move after other}, rel before other →
      step before move = some after →
      ∃ next, step' other move = some next ∧ rel after next)
    {other : σ'} (initially : rel start other)
    (ran : moves.foldlM step start = some final) :
    ∃ last, moves.foldlM step' other = some last ∧ rel final last := by
  induction moves generalizing start other with
  | nil =>
      cases ran
      exact ⟨other, rfl, initially⟩
  | cons move moves ih =>
      rw [List.foldlM_cons] at ran
      obtain ⟨middle, stepped, rest⟩ := Option.bind_eq_some_iff.mp ran
      obtain ⟨next, answered, related⟩ := answers initially stepped
      obtain ⟨last, further, ended⟩ := ih related rest
      refine ⟨last, ?_, ended⟩
      rw [List.foldlM_cons]
      exact Option.bind_eq_some_iff.mpr ⟨next, answered, further⟩

/-- A run in two parts. -/
theorem split {first second : List μ}
    (ran : (first ++ second).foldlM step start = some final) :
    ∃ middle, first.foldlM step start = some middle ∧
      second.foldlM step middle = some final := by
  rw [List.foldlM_append] at ran
  exact Option.bind_eq_some_iff.mp ran

end Async.Machine
