import FluxIP.Adapters.Decisions

/-!
# What a request has checked

Some requests look at streams they do not append to: the devices of an account
before another one is registered, the actions before what they use is deleted.
No version guards such a look; it is worth something at the append only as far
as nothing has been added to these streams in the meantime.
-/

namespace FluxIP

open Async

/-- One of the reads of the stream has shown every such event it has. -/
def HasSeen (kind : StoredEvent → Bool) (store : EventStore)
    (history : BackendHistory) (params : ReadStreamParams) : Prop :=
  ∃ seen ∈ readsOf params history, ∀ event ∈ store.readStream params,
    kind event = true → event ∈ seen

instance (kind : StoredEvent → Bool) (store : EventStore)
    (history : BackendHistory) (params : ReadStreamParams) :
    Decidable (HasSeen kind store history params) :=
  inferInstanceAs (Decidable (∃ seen ∈ readsOf params history,
    ∀ event ∈ store.readStream params, kind event = true → event ∈ seen))

/-- A call that does not read the stream tells nothing of it. -/
theorem readAnswer_eq_none {params : ReadStreamParams} {call : Call}
    (other : call ≠ .store (.readStream params))
    (answer : Except Err call.Answer) :
    readAnswer params ⟨call, answer⟩ = none := by
  unfold readAnswer
  split
  · rename_i asked events same
    cases same
    split
    · rename_i own
      exact absurd (own ▸ rfl) other
    · rfl
  · rfl

theorem readsOf_concat (params : ReadStreamParams)
    (earlier later : BackendHistory) :
    readsOf params (earlier ++ later) =
      readsOf params earlier ++ readsOf params later :=
  List.filterMap_append

/-! ## Loading streams one after the other -/

variable {State α : Type} {initialState : State}
variable {reducer : State → StoredEvent → State}
variable {allowed : BackendHistory → Call → Prop}

/-- The answer to a read of a stream. -/
def readAs (params : ReadStreamParams) (seen : List StoredEvent) :
    Answered backend Err :=
  ⟨.store (.readStream params), .ok seen⟩

theorem readsOf_readAs (params asked : ReadStreamParams)
    (seen : List StoredEvent) :
    readsOf params [readAs asked seen] =
      if asked = params then [seen] else [] := by
  unfold readsOf readAs
  simp only [List.filterMap_cons, List.filterMap_nil, readAnswer]
  split
  · rename_i nothing
    split at nothing
    · cases nothing
    · rename_i other
      rw [if_neg other]
  · rename_i same
    split at same
    · rename_i own
      cases same
      rw [if_pos own]
    · cases same

/-- A load reads its stream once. -/
theorem load_traces (params : ReadStreamParams) (history : BackendHistory)
    (isAllowed : ∀ history call, Backend.reads call = true →
      allowed history call) :
    (loadAggregate params initialState reducer).Traces allowed
      (onReturn fun loaded later => ∃ seen,
        later = history ++ [readAs params seen] ∧
        loaded = replayed initialState reducer seen) history := by
  refine ⟨isAllowed _ _ rfl, ?_⟩
  intro answer
  cases answer with
  | error error => trivial
  | ok seen => exact ⟨seen, rfl, rfl⟩

/-- A load, and what the program does with what it has loaded. -/
theorem load_performing {β : Type} (params : ReadStreamParams)
    {history : BackendHistory}
    {next : LoadAggregateResult State → Backend β}
    {post : BackendHistory → Except Err β → Prop}
    (isAllowed : allowed history (.store (.readStream params)))
    (returns : ∀ seen, (next (replayed initialState reducer seen)).Traces
      allowed post (history ++ [readAs params seen]))
    (throws : ∀ later error, post later (.error error)) :
    ((loadAggregate params initialState reducer).bind next).Traces allowed
      post history := by
  refine ⟨isAllowed, ?_⟩
  intro answer
  cases answer with
  | error error => exact throws _ error
  | ok seen => exact returns seen

/-- A loop that loads one aggregate after the other and combines what it has
made of them. -/
structure LoadsEach (params : Id → ReadStreamParams) (initialState : State)
    (reducer : State → StoredEvent → State) (base : α)
    (combine : Id → State → α → α) (loop : List Id → Backend α) : Prop where
  nil : loop [] = .done base
  cons : ∀ id ids, loop (id :: ids) =
    (loadAggregate (params id) initialState reducer).bind fun loaded =>
      (loop ids).bind fun rest => .done (combine id loaded.state rest)

/-- The answers to the reads of a loop: the aggregates it has loaded, each with
the events it has read. -/
def loopAnswers (params : Id → ReadStreamParams)
    (reads : List (Id × List StoredEvent)) : BackendHistory :=
  reads.map fun read => readAs (params read.1) read.2

theorem mem_readsOf_loop {params : Id → ReadStreamParams}
    (distinct : ∀ left right, params left = params right → left = right)
    {reads : List (Id × List StoredEvent)} {id : Id}
    {seen : List StoredEvent} :
    seen ∈ readsOf (params id) (loopAnswers params reads) ↔
      (id, seen) ∈ reads := by
  induction reads with
  | nil => simp [loopAnswers, readsOf]
  | cons read reads ih =>
      have split : loopAnswers params (read :: reads) =
          [readAs (params read.1) read.2] ++ loopAnswers params reads := rfl
      rw [split, readsOf_concat, List.mem_append, ih, readsOf_readAs,
        List.mem_cons]
      by_cases own : read.1 = id
      · subst own
        simp [Prod.ext_iff]
      · have other : params read.1 ≠ params id :=
          fun same => own (distinct _ _ same)
        simp [other, Prod.ext_iff, Ne.symm own]

variable {params : Id → ReadStreamParams} {base : α}
variable {combine : Id → State → α → α} {loop : List Id → Backend α}

theorem LoadsEach.calls {permitted : Call → Prop}
    (each : LoadsEach params initialState reducer base combine loop)
    (reads : ∀ id, permitted (.store (.readStream (params id))))
    (ids : List Id) : (loop ids).Calls permitted := by
  induction ids with
  | nil =>
      rw [each.nil]
      trivial
  | cons id ids ih =>
      rw [each.cons]
      apply Program.Calls.bind
      · apply Program.Calls.bind ((Backend.calls_call _).mpr (reads id))
        exact fun _ => trivial
      intro loaded
      apply ih.bind
      exact fun _ => trivial

theorem LoadsEach.traces
    (each : LoadsEach params initialState reducer base combine loop)
    (isAllowed : ∀ history call, Backend.reads call = true →
      allowed history call) (ids : List Id) (history : BackendHistory) :
    (loop ids).Traces allowed
      (onReturn fun value later => ∃ reads : List (Id × List StoredEvent),
        reads.map (·.1) = ids ∧ later = history ++ loopAnswers params reads ∧
        value = reads.foldr (fun read rest =>
          combine read.1 (replayed initialState reducer read.2).state rest)
          base)
      history := by
  induction ids generalizing history with
  | nil =>
      rw [each.nil]
      exact ⟨[], rfl, (List.append_nil _).symm, rfl⟩
  | cons id ids ih =>
      rw [each.cons]
      apply (load_traces (params id) history isAllowed).seq
      intro loaded afterLoad loads
      obtain ⟨seen, rfl, rfl⟩ := loads
      apply (ih _).seq
      intro rest afterRest rests
      obtain ⟨reads, rfl, rfl, rfl⟩ := rests
      refine ⟨(id, seen) :: reads, rfl, ?_, rfl⟩
      rw [List.append_assoc]
      rfl

end FluxIP
