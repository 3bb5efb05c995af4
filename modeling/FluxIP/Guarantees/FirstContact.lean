import FluxIP.Adapters.Checks
import FluxIP.Adapters.Steps
import FluxIP.Domain.Accounts

/-!
# First contact

Every API request provisions its account first, and a browser opens several
requests at once on the first login.  A call inserts the registration only
after it has seen the stream empty.  As long as no call looks at the stream
between another's look and its insertion, the calls of an account all return
the same state, and the stream is one registration.
-/

namespace FluxIP

open Async

/-- A request to the API: `number` tells equal ones apart, `now` is what the
provisioning reads from the clock. -/
structure ApiRequest where
  number : Nat
  accountId : Id
  now : Timestamp := 0
  deriving DecidableEq, Repr

/-- The provisioning middleware of the API. -/
def provisioningService (defaultIpClientLimit : Nat) :
    Service backend Err ApiRequest AccountState Choice World where
  semantics := semantics
  program request := AccountService.ensureProvisioned defaultIpClientLimit
    request.accountId request.now
  admits _ _ := true

abbrev ProvisioningPool := Pool backend Err ApiRequest AccountState World

abbrev ProvisioningThread := Thread backend Err ApiRequest AccountState

def awaitsAppend : Backend AccountState → Bool
  | .await (.store (.append _)) _ => true
  | _ => false

/-- The call has seen the stream of the account empty and has yet to insert the
registration. -/
def isRegistering (accountId : Id) (thread : ProvisioningThread) : Bool :=
  decide (thread.request.accountId = accountId) && awaitsAppend thread.program

/-- The database answers the calls of the account, and none of them looks at
the stream while another has yet to insert the registration. -/
def registersInTurn (accountId : Id) (pool : ProvisioningPool) :
    Move ApiRequest Choice → Bool
  | .start _ => true
  | .advance index choice =>
      match pool.threads[index]? with
      | some thread =>
          thread.request.accountId ≠ accountId ∨
            choice.fate = .ok ∧
              (awaitsAppend thread.program ||
                pool.threads.all fun other => !isRegistering accountId other)
      | none => true

/-- The state a provisioned account starts in. -/
def provisionedState (defaultIpClientLimit : Nat) (accountId : Id) :
    AccountState :=
  ⟨some accountId, defaultIpClientLimit, .active⟩

/-- The event registers the account, at the beginning of its stream. -/
def IsRegistration (defaultIpClientLimit : Nat) (accountId : Id)
    (event : StoredEvent) : Prop :=
  event.sequenceNumber = 1 ∧ event.accountId = accountId ∧
    ∃ now, event.data =
      .account (.registered accountId defaultIpClientLimit now)

/-- No call of the account has failed, those that are over have returned the
same state, and there is one registration as soon as one of them is over. -/
structure ProvisionedOnce (defaultIpClientLimit : Nat) (accountId : Id)
    (pool : ProvisioningPool) : Prop where
  succeeds : ∀ thread ∈ pool.threads, thread.request.accountId = accountId →
    ∀ error, thread.program ≠ .fail error
  sameState : ∀ thread ∈ pool.threads, thread.request.accountId = accountId →
    ∀ state, thread.program = .done state →
      state = provisionedState defaultIpClientLimit accountId
  atMostOnce : (pool.state.store.stream .account accountId).length ≤ 1
  registered : ∀ event ∈ pool.state.store.stream .account accountId,
    IsRegistration defaultIpClientLimit accountId event
  once : ∀ thread ∈ pool.threads, thread.request.accountId = accountId →
    thread.program.isOver = true →
      ∃ event, pool.state.store.stream .account accountId = [event]

/-! ## The stages of a call -/

/-- What is left of a call that has seen the stream empty. -/
def registration (defaultIpClientLimit : Nat) (request : ApiRequest) :
    Backend AccountState :=
  (Backend.append (AccountService.appendInput request.accountId 0
    (.registered request.accountId defaultIpClientLimit request.now))).bind
      fun _ => pure (provisionedState defaultIpClientLimit request.accountId)

def accountStream (accountId : Id) : ReadStreamParams :=
  ⟨accountId, .account, accountId⟩

/-- How far a call has come. -/
inductive Stage (defaultIpClientLimit : Nat) (request : ApiRequest) :
    Backend AccountState → Prop where
  | arrived : Stage defaultIpClientLimit request
      (AccountService.ensureProvisioned defaultIpClientLimit request.accountId
        request.now)
  | registering : Stage defaultIpClientLimit request
      (registration defaultIpClientLimit request)
  | finished {program : Backend AccountState} : program.isOver = true →
      Stage defaultIpClientLimit request program

/-- The stream has not begun and no call of the account is over, but one at
most is about to insert the registration. -/
structure Unregistered (accountId : Id) (pool : ProvisioningPool) : Prop where
  empty : pool.state.store.stream .account accountId = []
  unfinished : ∀ thread ∈ pool.threads, thread.request.accountId = accountId →
    thread.program.isOver = false
  alone : ∀ (left right : Nat) (first second : ProvisioningThread),
    pool.threads[left]? = some first → pool.threads[right]? = some second →
    isRegistering accountId first = true → isRegistering accountId second = true →
    left = right

/-- The stream is one registration, and no call is about to insert another. -/
structure Registered (defaultIpClientLimit : Nat) (accountId : Id)
    (pool : ProvisioningPool) : Prop where
  single : ∃ event, pool.state.store.stream .account accountId = [event] ∧
    IsRegistration defaultIpClientLimit accountId event
  nobody : ∀ thread ∈ pool.threads, isRegistering accountId thread = false

structure FirstContact (defaultIpClientLimit : Nat) (accountId : Id)
    (pool : ProvisioningPool) : Prop where
  stages : ∀ thread ∈ pool.threads,
    Stage defaultIpClientLimit thread.request thread.program
  ends : ∀ thread ∈ pool.threads, thread.request.accountId = accountId →
    thread.program.isOver = true →
      thread.program = .done (provisionedState defaultIpClientLimit accountId)
  stream : Unregistered accountId pool ∨
    Registered defaultIpClientLimit accountId pool

variable {defaultIpClientLimit : Nat} {accountId : Id}
variable {pool next : ProvisioningPool} {request : ApiRequest}

theorem FirstContact.provisionedOnce
    (contact : FirstContact defaultIpClientLimit accountId pool) :
    ProvisionedOnce defaultIpClientLimit accountId pool where
  succeeds := by
    intro thread member own error failed
    have finished := contact.ends thread member own (by rw [failed]; rfl)
    rw [failed] at finished
    cases finished
  sameState := by
    intro thread member own state returned
    have finished := contact.ends thread member own (by rw [returned]; rfl)
    rw [returned] at finished
    cases finished
    rfl
  atMostOnce := by
    cases contact.stream with
    | inl unregistered => simp [unregistered.empty]
    | inr registered =>
        obtain ⟨event, single, -⟩ := registered.single
        simp [single]
  registered := by
    intro event member
    cases contact.stream with
    | inl unregistered =>
        rw [unregistered.empty] at member
        cases member
    | inr registered =>
        obtain ⟨only, single, isRegistration⟩ := registered.single
        rw [single, List.mem_singleton] at member
        exact member ▸ isRegistration
  once := by
    intro thread member own finished
    cases contact.stream with
    | inl unregistered =>
        rw [unregistered.unfinished thread member own] at finished
        cases finished
    | inr registered =>
        obtain ⟨event, single, -⟩ := registered.single
        exact ⟨event, single⟩

theorem FirstContact.initial {world : World}
    (new : world.store.stream .account accountId = []) :
    FirstContact defaultIpClientLimit accountId ⟨world, []⟩ where
  stages := fun _ member => by cases member
  ends := fun _ member => by cases member
  stream := .inl
    { empty := new
      unfinished := fun _ member => by cases member
      alone := fun _ _ _ _ found => by cases found }

theorem FirstContact.start
    (contact : FirstContact defaultIpClientLimit accountId pool) :
    FirstContact defaultIpClientLimit accountId
      ⟨pool.state, pool.threads ++
        [⟨request, [], AccountService.ensureProvisioned defaultIpClientLimit
          request.accountId request.now⟩]⟩ where
  stages := by
    intro thread member
    rcases List.mem_append.mp member with old | new
    · exact contact.stages thread old
    · cases List.mem_singleton.mp new
      exact .arrived
  ends := by
    intro thread member own finished
    rcases List.mem_append.mp member with old | new
    · exact contact.ends thread old own finished
    · cases List.mem_singleton.mp new
      cases finished
  stream := by
    have silent : isRegistering accountId
        ⟨request, [], AccountService.ensureProvisioned defaultIpClientLimit
          request.accountId request.now⟩ = false :=
      Bool.and_false _
    cases contact.stream with
    | inl unregistered =>
        refine .inl ⟨unregistered.empty, ?_, ?_⟩
        · intro thread member own
          rcases List.mem_append.mp member with old | new
          · exact unregistered.unfinished thread old own
          · cases List.mem_singleton.mp new
            rfl
        · have old (index : Nat) (thread : ProvisioningThread)
              (found : (pool.threads ++ [⟨request, [],
                AccountService.ensureProvisioned defaultIpClientLimit
                  request.accountId request.now⟩])[index]? = some thread)
              (registering : isRegistering accountId thread = true) :
              pool.threads[index]? = some thread := by
            rcases Nat.lt_or_ge index pool.threads.length with before | after
            · rw [List.getElem?_append_left before] at found
              exact found
            · rw [List.getElem?_append_right after] at found
              cases List.mem_singleton.mp (List.mem_of_getElem? found)
              rw [silent] at registering
              cases registering
          intro left right first second foundFirst foundSecond one two
          exact unregistered.alone left right first second
            (old left first foundFirst one) (old right second foundSecond two)
            one two
    | inr registered =>
        refine .inr ⟨registered.single, ?_⟩
        intro thread member
        rcases List.mem_append.mp member with old | new
        · exact registered.nobody thread old
        · cases List.mem_singleton.mp new
          exact silent

section Advance

variable {index : Nat} {after : ProvisioningThread} {state : World}

theorem FirstContact.advance
    (contact : FirstContact defaultIpClientLimit accountId pool)
    (stage : Stage defaultIpClientLimit after.request after.program)
    (ended : after.request.accountId = accountId →
      after.program.isOver = true → after.program =
        .done (provisionedState defaultIpClientLimit accountId))
    (stream : Unregistered accountId ⟨state, pool.threads.set index after⟩ ∨
      Registered defaultIpClientLimit accountId
        ⟨state, pool.threads.set index after⟩) :
    FirstContact defaultIpClientLimit accountId
      ⟨state, pool.threads.set index after⟩ where
  stages := by
    intro thread member
    rcases List.mem_or_eq_of_mem_set member with old | new
    · exact contact.stages thread old
    · exact new ▸ stage
  ends := by
    intro thread member own finished
    rcases List.mem_or_eq_of_mem_set member with old | new
    · exact contact.ends thread old own finished
    · subst new
      exact ended own finished
  stream := stream

/-- A call may set out to register when no other has. -/
theorem Unregistered.advance (unregistered : Unregistered accountId pool)
    (empty : state.store.stream .account accountId = [])
    (unfinished : after.request.accountId = accountId →
      after.program.isOver = false)
    (turn : isRegistering accountId after = true →
      ∀ thread ∈ pool.threads, isRegistering accountId thread = false) :
    Unregistered accountId ⟨state, pool.threads.set index after⟩ where
  empty := empty
  unfinished := by
    intro thread member own
    rcases List.mem_or_eq_of_mem_set member with old | new
    · exact unregistered.unfinished thread old own
    · subst new
      exact unfinished own
  alone := by
    have origin (position : Nat) (thread : ProvisioningThread)
        (found : (pool.threads.set index after)[position]? = some thread) :
        position = index ∧ thread = after ∨
          pool.threads[position]? = some thread := by
      rw [List.getElem?_set] at found
      split at found
      · split at found
        · exact .inl ⟨by omega, (Option.some.inj found).symm⟩
        · cases found
      · exact .inr found
    intro left right first second foundFirst foundSecond one two
    rcases origin left first foundFirst with ⟨atLeft, isAfter⟩ | oldLeft
    · rcases origin right second foundSecond with ⟨atRight, -⟩ | oldRight
      · omega
      · have silent := turn (isAfter ▸ one) second
          (List.mem_of_getElem? oldRight)
        rw [two] at silent
        cases silent
    · rcases origin right second foundSecond with ⟨-, isAfter⟩ | oldRight
      · have silent := turn (isAfter ▸ two) first
          (List.mem_of_getElem? oldLeft)
        rw [one] at silent
        cases silent
      · exact unregistered.alone left right first second oldLeft oldRight one
          two

theorem Registered.advance
    (registered : Registered defaultIpClientLimit accountId pool)
    (same : state.store.stream .account accountId =
      pool.state.store.stream .account accountId)
    (silent : isRegistering accountId after = false) :
    Registered defaultIpClientLimit accountId
      ⟨state, pool.threads.set index after⟩ where
  single := by
    obtain ⟨event, single, isRegistration⟩ := registered.single
    exact ⟨event, same.trans single, isRegistration⟩
  nobody := by
    intro thread member
    rcases List.mem_or_eq_of_mem_set member with old | new
    · exact registered.nobody thread old
    · exact new ▸ silent

/-- The one call that was about to register has inserted its event. -/
theorem Unregistered.registered {before : ProvisioningThread}
    {event : StoredEvent} (unregistered : Unregistered accountId pool)
    (found : pool.threads[index]? = some before)
    (registering : isRegistering accountId before = true)
    (inserted : state.store.stream .account accountId = [event])
    (isRegistration : IsRegistration defaultIpClientLimit accountId event)
    (silent : isRegistering accountId after = false) :
    Registered defaultIpClientLimit accountId
      ⟨state, pool.threads.set index after⟩ where
  single := ⟨event, inserted, isRegistration⟩
  nobody := by
    intro thread member
    obtain ⟨position, present⟩ := List.getElem?_of_mem member
    rw [List.getElem?_set] at present
    split at present
    · split at present
      · cases present
        exact silent
      · cases present
    · rename_i other
      by_contra still
      exact other (unregistered.alone index position before thread found
        present registering (Bool.eq_true_of_not_eq_false still))

end Advance

/-! ## One step -/

theorem registration_silent {thread : ProvisioningThread}
    (isOver : thread.program.isOver = true) :
    isRegistering accountId thread = false := by
  obtain ⟨request, history, program⟩ := thread
  cases program with
  | done state => exact Bool.and_false _
  | fail error => exact Bool.and_false _
  | await call resume => cases isOver

theorem foreign_silent {thread : ProvisioningThread}
    (foreign : thread.request.accountId ≠ accountId) :
    isRegistering accountId thread = false := by
  unfold isRegistering
  rw [decide_eq_false foreign, Bool.false_and]

theorem readStream_empty {store : EventStore}
    (empty : store.stream .account accountId = []) :
    store.readStream (accountStream accountId) = [] := by
  simp [EventStore.readStream, accountStream, empty]

theorem readStream_single {store : EventStore} {event : StoredEvent}
    (single : store.stream .account accountId = [event])
    (own : event.accountId = accountId) :
    store.readStream (accountStream accountId) = [event] := by
  simp [EventStore.readStream, accountStream, single, own]

/-- A call that sees the registration returns what it registers. -/
theorem replayed_registration {event : StoredEvent}
    (isRegistration :
      IsRegistration defaultIpClientLimit accountId event) :
    (replayed initialAccountState accountReducer [event]).state =
      provisionedState defaultIpClientLimit accountId := by
  obtain ⟨-, -, now, data⟩ := isRegistration
  simp [replayed, accountReducer, data, provisionedState]

/-- A look at the stream. -/
theorem FirstContact.looks {index : Nat} {choice : Choice} {state : World}
    {history : BackendHistory}
    {answer : Except Err (List StoredEvent)}
    (contact : FirstContact defaultIpClientLimit accountId pool)
    (found : pool.threads[index]? = some ⟨request, history,
      AccountService.ensureProvisioned defaultIpClientLimit request.accountId
        request.now⟩)
    (turn : registersInTurn accountId pool (.advance index choice) = true)
    (result : semantics
      (.store (.readStream (accountStream request.accountId))) choice
        pool.state = some (answer, state))
    {resumed : Backend AccountState}
    (resumes : resumed = match answer with
      | .error error => .fail error
      | .ok [] => registration defaultIpClientLimit request
      | .ok (event :: events) => .done
          (replayed initialAccountState accountReducer
            (event :: events)).state) :
    FirstContact defaultIpClientLimit accountId
      ⟨state, pool.threads.set index ⟨request,
        history ++ [⟨.store (.readStream (accountStream request.accountId)),
          answer⟩], resumed⟩⟩ := by
  have kept : state.store.stream .account accountId =
      pool.state.store.stream .account accountId :=
    congrArg (·.stream .account accountId) (store_frame result rfl)
  obtain ⟨-, answered⟩ := readStream_step result
  by_cases own : request.accountId = accountId
  · simp only [registersInTurn, found, own, ne_eq, not_true_eq_false, false_or,
      decide_eq_true_eq, Bool.or_eq_true, List.all_eq_true,
      Bool.not_eq_true'] at turn
    obtain ⟨ok, reads⟩ := turn
    have nobody : ∀ thread ∈ pool.threads,
        isRegistering accountId thread = false :=
      reads.resolve_left (by intro appends; cases appends)
    have answer_eq : answer =
        .ok (pool.state.store.readStream (accountStream accountId)) := by
      rcases answered with answered | ⟨failed, -⟩
      · rw [own] at answered
        exact answered
      · exact absurd ok failed
    cases contact.stream with
    | inl unregistered =>
        rw [readStream_empty unregistered.empty] at answer_eq
        subst answer_eq resumes
        refine contact.advance .registering (fun _ isOver => by cases isOver)
          (.inl (unregistered.advance (kept.trans unregistered.empty)
            (fun _ => rfl) fun _ => nobody))
    | inr registered =>
        obtain ⟨event, single, isRegistration⟩ := registered.single
        rw [readStream_single single isRegistration.2.1] at answer_eq
        subst answer_eq resumes
        refine contact.advance (.finished rfl) ?_
          (.inr (registered.advance kept (registration_silent rfl)))
        intro _ _
        rw [← replayed_registration isRegistration]
  · have stage : Stage defaultIpClientLimit request resumed := by
      subst resumes
      cases answer with
      | error error => exact .finished rfl
      | ok events =>
          cases events with
          | nil => exact .registering
          | cons event events => exact .finished rfl
    refine contact.advance stage (fun same => absurd same own) ?_
    cases contact.stream with
    | inl unregistered =>
        exact .inl (unregistered.advance (kept.trans unregistered.empty)
          (fun same => absurd same own)
          (fun registering => by
            rw [foreign_silent own] at registering
            cases registering))
    | inr registered =>
        exact .inr (registered.advance kept (foreign_silent own))

/-- A registration leaves the streams of the other accounts alone. -/
theorem append_foreign {world state : World} {choice : Choice}
    {answer : Except Err StoredEvent} {input : AppendEventInput}
    (result : semantics (.store (.append input)) choice world =
      some (answer, state))
    (foreign : input.aggregateId ≠ accountId) :
    state.store.stream .account accountId =
      world.store.stream .account accountId := by
  rcases append_step result with ⟨event, store, appended, rfl, -⟩ | ⟨rfl, -⟩
  · exact EventStore.append_stream_other appended fun same => foreign same.2
  · rfl

/-- A registration that finds the stream empty is its first event. -/
theorem append_first {world state : World} {choice : Choice}
    {answer : Except Err StoredEvent}
    (empty : world.store.stream .account accountId = [])
    (ok : choice.fate = .ok)
    (result : semantics (.store (.append
      (AccountService.appendInput accountId 0
        (.registered accountId defaultIpClientLimit request.now)))) choice
          world = some (answer, state)) :
    ∃ event, answer = .ok event ∧
      state.store.stream .account accountId = [event] ∧
      IsRegistration defaultIpClientLimit accountId event := by
  have appended := append_answered ok result
  have free : ∀ other ∈ world.store.stream .account accountId,
      other.sequenceNumber ≠ 1 := by
    intro other member
    rw [empty] at member
    cases member
  obtain ⟨event, inserted⟩ := @EventStore.append_free world.store
    (AccountService.appendInput accountId 0
      (.registered accountId defaultIpClientLimit request.now)) free
  rcases EventStore.append_cases appended with
    ⟨event, isOk, sameType, sameId, position, account, data, -, -, next⟩ |
    ⟨refused, -⟩
  · have own : event.isOf .account accountId = true :=
      EventStore.isOf_iff.mpr ⟨sameType, sameId⟩
    refine ⟨event, isOk, ?_, position, account, request.now, data⟩
    rw [next, EventStore.stream_append_event, empty, if_pos own,
      List.nil_append]
  · rw [appended, refused] at inserted
    cases inserted

theorem FirstContact.inserts {index : Nat} {choice : Choice} {state : World}
    {history later : BackendHistory} {answer : Except Err StoredEvent}
    (contact : FirstContact defaultIpClientLimit accountId pool)
    (found : pool.threads[index]? = some ⟨request, history,
      registration defaultIpClientLimit request⟩)
    (turn : registersInTurn accountId pool (.advance index choice) = true)
    (result : semantics (.store (.append
      (AccountService.appendInput request.accountId 0
        (.registered request.accountId defaultIpClientLimit request.now))))
          choice pool.state = some (answer, state))
    {resumed : Backend AccountState}
    (resumes : resumed = match answer with
      | .error error => .fail error
      | .ok _ => .done
          (provisionedState defaultIpClientLimit request.accountId)) :
    FirstContact defaultIpClientLimit accountId
      ⟨state, pool.threads.set index ⟨request, later, resumed⟩⟩ := by
  by_cases own : request.accountId = accountId
  · subst own
    simp only [registersInTurn, found, ne_eq, not_true_eq_false, false_or,
      decide_eq_true_eq] at turn
    have registering : isRegistering request.accountId
        ⟨request, history, registration defaultIpClientLimit request⟩ =
          true := by
      simp only [isRegistering, decide_true, Bool.true_and]
      rfl
    cases contact.stream with
    | inl unregistered =>
        obtain ⟨event, isOk, single, isRegistration⟩ :=
          append_first unregistered.empty turn.1 result
        subst isOk resumes
        exact contact.advance (.finished rfl) (fun _ _ => rfl)
          (.inr (unregistered.registered found registering single
            isRegistration (registration_silent rfl)))
    | inr registered =>
        rw [registered.nobody _ (List.mem_of_getElem? found)] at registering
        cases registering
  · have kept := append_foreign result own
    have isOver : resumed.isOver = true := by
      subst resumes
      cases answer with
      | error error => rfl
      | ok event => rfl
    refine contact.advance (.finished isOver) (fun same => absurd same own) ?_
    cases contact.stream with
    | inl unregistered =>
        exact .inl (unregistered.advance (kept.trans unregistered.empty)
          (fun same => absurd same own)
          (fun registering => by
            rw [foreign_silent own] at registering
            cases registering))
    | inr registered =>
        exact .inr (registered.advance kept (foreign_silent own))

theorem FirstContact.step {move : Move ApiRequest Choice}
    (contact : FirstContact defaultIpClientLimit accountId pool)
    (turn : registersInTurn accountId pool move = true)
    (moved : pool.step (provisioningService defaultIpClientLimit) move =
      some next) :
    FirstContact defaultIpClientLimit accountId next := by
  cases move with
  | start request =>
      obtain ⟨-, -, rfl⟩ := Pool.step_start moved
      exact contact.start
  | advance index choice =>
      obtain ⟨request, history, call, resume, answer, state, found, result,
        rfl⟩ := Pool.step_advance moved
      have stage : Stage defaultIpClientLimit request (.await call resume) :=
        contact.stages _ (List.mem_of_getElem? found)
      generalize left : Program.await call resume = program at stage found
      cases stage with
      | arrived =>
          cases left
          refine contact.looks found turn result ?_
          cases answer with
          | error error => rfl
          | ok events =>
              cases events with
              | nil => rfl
              | cons event events => rfl
      | registering =>
          cases left
          refine contact.inserts found turn result ?_
          cases answer with
          | error error => rfl
          | ok event => rfl
      | finished ended =>
          subst left
          cases ended

/-! ## All runs -/

/-- In every run in which the database answers and no call of the account looks
at its stream between another's look and its insertion, the first calls all
return the same state, and the stream is one registration at position 1. -/
theorem first_contact_is_idempotent {defaultIpClientLimit : Nat}
    {accountId : Id} {world : World}
    (new : world.store.stream .account accountId = [])
    {pool : ProvisioningPool}
    (run : Pool.Run (provisioningService defaultIpClientLimit)
      (fun pool move => registersInTurn accountId pool move = true) ⟨world, []⟩ pool) :
    ProvisionedOnce defaultIpClientLimit accountId pool := by
  apply FirstContact.provisionedOnce
  induction run with
  | refl => exact .initial new
  | step run turn moved contact => exact contact.step turn moved

/-! ## Two requests of one login -/

def loginRequest (number : Nat) : ApiRequest := ⟨number, 1, 0⟩

def bothArrive : List (Move ApiRequest Choice) :=
  [.start (loginRequest 0), .start (loginRequest 1)]

/-- One request after the other. -/
theorem first_contact_is_idempotent_login :
    ∃ pool : ProvisioningPool, pool.threads.length = 2 ∧
      (∀ thread ∈ pool.threads, thread.program.isOver = true) ∧
      ProvisionedOnce 5 1 pool := by
  have ends : ((⟨{}, []⟩ : ProvisioningPool).follow (provisioningService 5)
      (registersInTurn 1) (bothArrive ++ [.advance 0 .ok, .advance 0 .ok,
        .advance 1 .ok])).map (fun pool =>
          decide (pool.threads.length = 2) &&
            pool.threads.all (·.program.isOver)) = some true := by
    decide +kernel
  obtain ⟨pool, followed, all⟩ := Option.map_eq_some_iff.mp ends
  rw [Bool.and_eq_true, decide_eq_true_eq, List.all_eq_true] at all
  exact ⟨pool, all.1, all.2, first_contact_is_idempotent rfl
    (Pool.run_of_follow (fun _ _ passed => passed) followed)⟩

/-- The database answers. -/
def answers : ProvisioningPool → Move ApiRequest Choice → Bool
  | _, .start _ => true
  | _, .advance _ choice => choice.fate = .ok

/-- Both requests see the stream empty: the insertion of the second is
refused, and its call fails. -/
theorem first_contact_not_idempotent :
    ¬ ∀ pool : ProvisioningPool,
      Pool.Run (provisioningService 5)
        (fun pool move => answers pool move = true) ⟨{}, []⟩ pool →
      ProvisionedOnce 5 1 pool := by
  have ends : ((⟨{}, []⟩ : ProvisioningPool).follow (provisioningService 5)
      answers (bothArrive ++ [.advance 0 .ok, .advance 1 .ok,
        .advance 0 .ok, .advance 1 .ok])).map (fun pool =>
          pool.threads.map fun thread =>
            (thread.request.accountId, thread.program.outcome)) =
      some [(1, .returned ⟨some 1, 5, .active⟩),
        (1, .threw (.concurrency .account 1 1))] := by
    decide +kernel
  obtain ⟨pool, followed, threads⟩ := Option.map_eq_some_iff.mp ends
  intro always
  have once := always pool
    (Pool.run_of_follow (fun _ _ passed => passed) followed)
  have failed : (1, Outcome.threw (.concurrency .account 1 1)) ∈
      pool.threads.map fun thread =>
        (thread.request.accountId, thread.program.outcome) := by
    rw [threads]
    exact List.mem_cons_of_mem _ List.mem_cons_self
  obtain ⟨⟨request, history, program⟩, member, same⟩ := List.mem_map.mp failed
  obtain ⟨own, threw⟩ := Prod.mk.inj same
  cases program with
  | done state => cases threw
  | fail error => exact once.succeeds _ member own error rfl
  | await call resume => cases threw

end FluxIP
