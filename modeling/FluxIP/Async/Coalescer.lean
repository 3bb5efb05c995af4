import Mathlib.Data.List.Basic

/-!
# Coalescing triggers into runs

Triggers that arrive before a run starts are served by that one run; triggers
during a run ask for exactly one more.  Each trigger may carry a cause, and a
run takes the causes collected since the previous one.
-/

namespace Async

variable {α : Type}

/-- `again` holds the causes collected during a run, if one arrived at all. -/
inductive Coalescer (α : Type) where
  | idle
  | waiting (causes : List α)
  | running (settled : Bool) (again : Option (List α))
  deriving DecidableEq, Repr

/-- What happens to a coalescer.  A run starts with the causes handed to it;
its work settles before the run is over. -/
inductive Coalescer.Label (α : Type) where
  | trigger (cause : Option α)
  | start (causes : List α)
  | settle
  | finish
  deriving DecidableEq, Repr

namespace Coalescer

open Label

def step [DecidableEq α] : Coalescer α → Label α → Option (Coalescer α)
  | idle, trigger cause => some (waiting cause.toList)
  | waiting causes, trigger cause => some (waiting (causes ++ cause.toList))
  | waiting causes, start taken =>
      if taken = causes then some (running false none) else none
  | running settled again, trigger cause =>
      some (running settled (some (again.getD [] ++ cause.toList)))
  | running false again, settle => some (running true again)
  | running true none, finish => some idle
  | running true (some causes), finish => some (waiting causes)
  | _, _ => none

/-- The state after a word of labels, if the coalescer accepts it. -/
def follow [DecidableEq α] (state : Coalescer α) :
    List (Label α) → Option (Coalescer α)
  | [] => some state
  | label :: labels => (state.step label).bind (follow · labels)

/-- The causes collected for the next run. -/
def collected : Coalescer α → List α
  | idle => []
  | waiting causes => causes
  | running _ again => again.getD []

/-- A further run is due. -/
def due : Coalescer α → Bool
  | idle => false
  | waiting _ => true
  | running _ again => again.isSome

/-- The number of runs whose work has not settled. -/
def inFlight : Coalescer α → Nat
  | running false _ => 1
  | _ => 0

/-- The causes that arrived, in order. -/
def arrivals : List (Label α) → List α
  | [] => []
  | trigger cause :: labels => cause.toList ++ arrivals labels
  | _ :: labels => arrivals labels

/-- The causes handed to each run, in order. -/
def batches : List (Label α) → List (List α)
  | [] => []
  | start causes :: labels => causes :: batches labels
  | _ :: labels => batches labels

/-- A run starts. -/
def Label.starts : Label α → Bool
  | start _ => true
  | _ => false

/-- The work of a run settles. -/
def Label.settles : Label α → Bool
  | settle => true
  | _ => false

theorem arrivals_append (before after : List (Label α)) :
    arrivals (before ++ after) = arrivals before ++ arrivals after := by
  induction before with
  | nil => rfl
  | cons label before ih =>
      cases label with
      | trigger cause => simp [arrivals, ih]
      | start causes => simp [arrivals, ih]
      | settle => simp [arrivals, ih]
      | finish => simp [arrivals, ih]

theorem batches_append (before after : List (Label α)) :
    batches (before ++ after) = batches before ++ batches after := by
  induction before with
  | nil => rfl
  | cons label before ih =>
      cases label with
      | trigger cause => simp [batches, ih]
      | start causes => simp [batches, ih]
      | settle => simp [batches, ih]
      | finish => simp [batches, ih]

variable {state middle next : Coalescer α} {label : Label α}

theorem follow_append [DecidableEq α] (state : Coalescer α) (before after : List (Label α)) :
    state.follow (before ++ after) =
      (state.follow before).bind (·.follow after) := by
  induction before generalizing state with
  | nil => rfl
  | cons label before ih =>
      simp only [List.cons_append, follow]
      cases state.step label with
      | none => rfl
      | some middle => exact ih middle

theorem follow_snoc [DecidableEq α] {labels : List (Label α)}
    (followed : state.follow labels = some middle)
    (stepped : middle.step label = some next) :
    state.follow (labels ++ [label]) = some next := by
  rw [follow_append, followed]
  simp [follow, stepped]

/-! ## One step -/

/-- The steps of a coalescer, one constructor each. -/
inductive Transition :
    Coalescer α → Label α → Coalescer α → Prop where
  | awaken (cause : Option α) :
      Transition idle (trigger cause) (waiting cause.toList)
  | collect (causes : List α) (cause : Option α) :
      Transition (waiting causes) (trigger cause)
        (waiting (causes ++ cause.toList))
  | start (causes : List α) :
      Transition (waiting causes) (start causes) (running false none)
  | retrigger (settled : Bool) (again : Option (List α)) (cause : Option α) :
      Transition (running settled again) (trigger cause)
        (running settled (some (again.getD [] ++ cause.toList)))
  | settle (again : Option (List α)) :
      Transition (running false again) settle (running true again)
  | rest : Transition (running true none) finish idle
  | resume (causes : List α) :
      Transition (running true (some causes)) finish (waiting causes)

theorem transition_of_step [DecidableEq α]
    (stepped : state.step label = some next) : Transition state label next := by
  revert stepped
  fun_cases step state label
  case case1 cause => rintro ⟨⟩; exact .awaken cause
  case case2 causes cause => rintro ⟨⟩; exact .collect causes cause
  case case3 causes => rintro ⟨⟩; exact .start causes
  case case5 settled again cause =>
    rintro ⟨⟩
    exact .retrigger settled again cause
  case case6 again => rintro ⟨⟩; exact .settle again
  case case7 => rintro ⟨⟩; exact .rest
  case case8 causes => rintro ⟨⟩; exact .resume causes
  all_goals
    intro stepped
    cases stepped

theorem Transition.inFlight (transition : Transition state label next) :
    state.inFlight + label.starts.toNat =
      next.inFlight + label.settles.toNat := by
  cases transition with
  | awaken cause => rfl
  | collect causes cause => rfl
  | start causes => rfl
  | retrigger settled again cause =>
      cases settled with
      | false => rfl
      | true => rfl
  | settle again => rfl
  | rest => rfl
  | resume causes => rfl

/-- No cause is lost, doubled or overtaken. -/
theorem Transition.conserves (transition : Transition state label next) :
    state.collected ++ arrivals [label] =
      (batches [label]).flatten ++ next.collected := by
  cases transition with
  | awaken cause => simp [collected, arrivals, batches]
  | collect causes cause => simp [collected, arrivals, batches]
  | start causes => simp [collected, arrivals, batches]
  | retrigger settled again cause => simp [collected, arrivals, batches]
  | settle again => simp [collected, arrivals, batches]
  | rest => simp [collected, arrivals, batches]
  | resume causes => simp [collected, arrivals, batches]

theorem Transition.due_of_trigger {cause : Option α}
    (transition : Transition state (trigger cause) next) :
    next.due = true := by
  cases transition with
  | awaken => rfl
  | collect causes => rfl
  | retrigger settled again => rfl

/-- What is due stays due until a run starts. -/
theorem Transition.due (transition : Transition state label next)
    (due : state.due = true) : next.due = true ∨ label.starts = true := by
  cases transition with
  | awaken cause => cases due
  | collect causes cause => exact .inl rfl
  | start causes => exact .inr rfl
  | retrigger settled again cause => exact .inl rfl
  | settle again => exact .inl due
  | rest => cases due
  | resume causes => exact .inl rfl

/-! ## Whole words -/

variable [DecidableEq α]

/-- The runs started are the runs settled and those in flight. -/
theorem follow_inFlight {labels : List (Label α)}
    (followed : state.follow labels = some next) :
    state.inFlight + labels.countP Label.starts =
      next.inFlight + labels.countP Label.settles := by
  induction labels generalizing state with
  | nil =>
      cases followed
      rfl
  | cons label labels ih =>
      obtain ⟨middle, stepped, rest⟩ := Option.bind_eq_some_iff.mp followed
      have first := (transition_of_step stepped).inFlight
      have others := ih rest
      simp only [List.countP_cons]
      cases starts : label.starts <;> cases settles : label.settles <;>
        simp [starts, settles] at first ⊢ <;> omega

theorem follow_conserves {labels : List (Label α)}
    (followed : state.follow labels = some next) :
    state.collected ++ arrivals labels =
      (batches labels).flatten ++ next.collected := by
  induction labels generalizing state with
  | nil =>
      cases followed
      simp [arrivals, batches]
  | cons label labels ih =>
      obtain ⟨middle, stepped, rest⟩ := Option.bind_eq_some_iff.mp followed
      have first := (transition_of_step stepped).conserves
      have others := ih rest
      calc
        state.collected ++ arrivals (label :: labels)
            = state.collected ++ arrivals [label] ++ arrivals labels := by
              rw [List.append_assoc, ← arrivals_append]
              rfl
        _ = (batches [label]).flatten ++ middle.collected ++
              arrivals labels := by rw [first]
        _ = (batches [label]).flatten ++ ((batches labels).flatten ++
              next.collected) := by rw [List.append_assoc, others]
        _ = (batches (label :: labels)).flatten ++ next.collected := by
              rw [← List.append_assoc, ← List.flatten_append, ← batches_append]
              rfl

theorem follow_due {labels : List (Label α)}
    (followed : state.follow labels = some next) (due : state.due = true) :
    next.due = true ∨ ∃ label ∈ labels, label.starts = true := by
  induction labels generalizing state with
  | nil =>
      cases followed
      exact .inl due
  | cons label labels ih =>
      obtain ⟨middle, stepped, rest⟩ := Option.bind_eq_some_iff.mp followed
      rcases (transition_of_step stepped).due due with still | starts
      · rcases ih rest still with later | ⟨other, member, starts⟩
        · exact .inl later
        · exact .inr ⟨other, List.mem_cons_of_mem _ member, starts⟩
      · exact .inr ⟨label, List.mem_cons_self, starts⟩

/-- A trigger is followed by the start of a run, or a run is still due. -/
theorem follow_served {before after : List (Label α)} {cause : Option α}
    (followed :
      state.follow (before ++ trigger cause :: after) = some next) :
    next.due = true ∨ ∃ label ∈ after, label.starts = true := by
  rw [follow_append] at followed
  obtain ⟨middle, _, rest⟩ := Option.bind_eq_some_iff.mp followed
  obtain ⟨triggered, stepped, rest⟩ := Option.bind_eq_some_iff.mp rest
  exact follow_due rest (transition_of_step stepped).due_of_trigger

end Coalescer

end Async
