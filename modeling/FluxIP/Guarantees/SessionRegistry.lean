import FluxIP.Guarantees.HelloFirst
import FluxIP.Guarantees.SessionEvents

/-!
# The registry of sessions

The registry holds at most one session for each provider: the one registered
last, as long as it is open.  A session that is replaced is told so and closed,
and nothing that happens on a closed session changes the registry.
-/

namespace FluxIP

open Async

/-- A session that was registered, and the one it has replaced. -/
structure Registration where
  providerId : Id
  sessionId : Id
  replaced : Option Id
  deriving DecidableEq, Repr

/-- What a message registers: its session, if it is a hello that is taken. -/
def Agents.registration (agents : Agents) (sessionId : Id)
    (message : AgentMessage) (now : Timestamp) : List Registration :=
  match (agents.process sessionId message now).1 with
  | .connected _ =>
      (agents.sessions sessionId).toList.map fun session =>
        ⟨session.providerId, sessionId,
          (agents.byProvider session.providerId).map (·.sessionId)⟩
  | _ => []

/-- What a move registers. -/
def registrations (pool : ProviderPool) :
    Move ProviderRequest Choice → List Registration
  | .start _ => []
  | .advance index _ =>
      match pool.threads[index]? with
      | some ⟨_, _, .await (.memory (.process sessionId message now)) _⟩ =>
          pool.state.agents.registration sessionId message now
      | _ => []

/-- The session a call is made on. -/
def MemoryCall.ofSession : MemoryCall → Option Id
  | .process sessionId _ _ => some sessionId
  | .recordConnected sessionId => some sessionId
  | .sendAgent sessionId _ => some sessionId
  | .startHeartbeat sessionId _ => some sessionId
  | .heartbeat sessionId _ => some sessionId
  | .terminate sessionId _ => some sessionId
  | .finish sessionId => some sessionId
  | .closed sessionId => some sessionId
  | .claimDisconnect sessionId => some sessionId
  | _ => none

/-- The session a move goes on with. -/
def onSession (pool : ProviderPool) : Move ProviderRequest Choice → Option Id
  | .start _ => none
  | .advance index _ =>
      match pool.threads[index]? with
      | some ⟨_, _, .await (.memory call) _⟩ => call.ofSession
      | _ => none

namespace Agents

/-- The handler of the session and its channel are closed. -/
def IsShut (agents : Agents) (sessionId : Id) : Prop :=
  ∃ session, agents.sessions sessionId = some session ∧
    session.closed = true ∧ session.ended = true

/-- The sessions after these registrations. -/
structure RegisteredInTurn (agents : Agents) (made : List Registration) :
    Prop where
  latest : ∀ providerId active, agents.byProvider providerId = some active →
    ((made.filter (·.providerId = providerId)).getLast?).map (·.sessionId) =
      some active.sessionId
  alive : ∀ providerId active, agents.byProvider providerId = some active →
    ∃ session, agents.sessions active.sessionId = some session ∧
      session.providerId = providerId ∧ session.closed = false ∧
      session.ended = false
  alone : ∀ sessionId session, agents.sessions sessionId = some session →
    session.helloSeen = true → session.closed = false →
    ∃ active, agents.byProvider session.providerId = some active ∧
      active.sessionId = sessionId
  replaced : ∀ registration ∈ made, ∀ old,
    registration.replaced = some old →
    ⟨old, .bye "superseded"⟩ ∈ agents.sent ∧ agents.IsShut old
  others : ∀ registration ∈ made,
    (∃ active, agents.byProvider registration.providerId = some active ∧
      active.sessionId = registration.sessionId) ∨
    agents.IsShut registration.sessionId

variable {before after agents : Agents} {sessionId : Id}

theorem IsClosed.isShut (closed : agents.IsClosed sessionId)
    (disciplined : agents.Disciplined none) : agents.IsShut sessionId := by
  obtain ⟨session, found, isClosed⟩ := closed
  refine ⟨session, found, isClosed, ?_⟩
  rw [← disciplined.closed sessionId session found]
  exact isClosed

theorem IsShut.progress (shut : before.IsShut sessionId)
    (progress : before.Progress after) : after.IsShut sessionId := by
  obtain ⟨session, found, closed, ended⟩ := shut
  obtain ⟨later, present, continues⟩ :=
    progress.goesOn sessionId session found
  exact ⟨later, present, continues.closed closed, continues.ended ended⟩

/-! ## Leaving the registry -/

/-- Nobody enters the registry, and who leaves it is closed. -/
structure Thins (before after : Agents) : Prop where
  shrinks : ∀ providerId active, after.byProvider providerId = some active →
    before.byProvider providerId = some active
  leaves : ∀ providerId active, before.byProvider providerId = some active →
    after.byProvider providerId = none → after.IsClosed active.sessionId

theorem Thins.of_same (same : after.byProvider = before.byProvider) :
    Thins before after where
  shrinks providerId active registered := by
    rw [same] at registered
    exact registered
  leaves providerId active registered gone := by
    rw [same] at gone
    cases registered.symm.trans gone

theorem terminateByAccount_thins {accountId : Id} {reason : CloseReason}
    (disciplined : Disciplined agents none) :
    Thins agents (agents.terminateByAccount accountId reason) where
  shrinks providerId active registered :=
    (terminateByAccount_registered disciplined registered).1
  leaves providerId active registered gone := by
    obtain ⟨session, found, isOpen, ofProvider, -⟩ :=
      disciplined.registered providerId active registered
    have ofAccount : active.accountId = accountId := by
      by_contra other
      simp [terminateByAccount, registered, other] at gone
    have shuts : Shuts agents (agents.close active.sessionId reason)
        active.sessionId := close_shuts disciplined
    obtain ⟨later, present, isClosed⟩ := shuts.isClosed disciplined found
    refine ⟨later, ?_, isClosed⟩
    simp [terminateByAccount, found, ofProvider, registered, ofAccount,
      present]

/-- Whoever was registered is, or is closed. -/
theorem Thins.stays {providerId : Id} {active : ActiveSession}
    (thins : Thins before after)
    (registered : before.byProvider providerId = some active) :
    after.byProvider providerId = some active ∨
      after.IsClosed active.sessionId := by
  cases entry : after.byProvider providerId with
  | none => exact .inr (thins.leaves providerId active registered entry)
  | some other =>
      cases registered.symm.trans (thins.shrinks providerId other entry)
      exact .inl rfl

end Agents

/-! ## One step -/

section

variable {deps : ProviderServiceDeps} {pool next : ProviderPool}
variable {index : Nat} {choice : Choice} {request : ProviderRequest}
variable {history : BackendHistory} {call : Call} {sessionId : Id}
variable {resume : Except Err call.Answer → Backend (Option Nat)}
variable {answer : Except Err call.Answer} {world : World}

theorem registration_nil {message : AgentMessage} {now : Timestamp}
    {agents : Agents}
    (other : ∀ data, (agents.process sessionId message now).1 ≠
      .connected data) : agents.registration sessionId message now = [] := by
  unfold Agents.registration
  split
  · rename_i data taken
    exact absurd taken (other data)
  · rfl

/-- A step takes a hello and registers its session, or it registers nothing. -/
theorem Standing.registers (standing : Standing pool)
    (found : pool.threads[index]? =
      some ⟨request, history, .await call resume⟩)
    (result : semantics call choice pool.state = some (answer, world)) :
    (∃ session now,
      pool.state.agents.Greets world.agents session now ∧
      registrations pool (.advance index choice) =
        [⟨session.providerId, session.sessionId,
          (pool.state.agents.byProvider session.providerId).map
            (·.sessionId)⟩]) ∨
    registrations pool (.advance index choice) = [] ∧
      pool.state.agents.Thins world.agents := by
  have disciplined := standing.seated.disciplined
  cases call with
  | memory awaited =>
      obtain ⟨value, rfl, does⟩ := standing.does result
      have nothing (other : ∀ sessionId message now,
          awaited ≠ .process sessionId message now) :
          registrations pool (.advance index choice) = [] := by
        cases awaited with
        | process sessionId message now =>
            exact absurd rfl (other sessionId message now)
        | _ => simp only [registrations, found]
      cases does with
      | calm still calm =>
          right
          refine ⟨?_, calm.shrinks, calm.leaves⟩
          by_cases isMessage : ∃ sessionId message now,
              awaited = .process sessionId message now
          · obtain ⟨sessionId, message, now, rfl⟩ := isMessage
            have answered : (pool.state.agents.process sessionId message
                now).1 = value :=
              Except.ok.inj (congrArg Prod.fst (Option.some.inj result))
            simp only [registrations, found]
            apply registration_nil
            intro data taken
            rw [answered] at taken
            subst taken
            cases still
          · apply nothing
            intro sessionId message now same
            exact isMessage ⟨sessionId, message, now, same⟩
      | opened sessionId fresh opens =>
          refine .inr ⟨nothing (by rintro _ _ _ ⟨⟩), .of_same ?_⟩
          rw [opens]
          rfl
      | @greeted message now data session ofSession hello greets =>
          left
          refine ⟨session, now, greets, ?_⟩
          have answered : (pool.state.agents.process session.sessionId message
              now).1 = .connected data :=
            Except.ok.inj (congrArg Prod.fst (Option.some.inj result))
          simp only [registrations, found, Agents.registration, answered,
            greets.found, Option.toList_some, List.map_cons, List.map_nil]
      | recorded marks =>
          refine .inr ⟨nothing (by rintro _ _ _ ⟨⟩), .of_same ?_⟩
          rw [marks]
          rfl
      | started marks =>
          refine .inr ⟨nothing (by rintro _ _ _ ⟨⟩), .of_same ?_⟩
          rw [marks]
          rfl
      | claimed present recorded unclaimed marks =>
          refine .inr ⟨nothing (by rintro _ _ _ ⟨⟩), .of_same ?_⟩
          rw [marks]
          rfl
      | expelled closes =>
          refine .inr ⟨nothing (by rintro _ _ _ ⟨⟩), ?_⟩
          rw [closes]
          exact Agents.terminateByAccount_thins disciplined
  | _ =>
      have same : world.agents = pool.state.agents := standing.does result
      refine .inr ⟨?_, .of_same (by rw [same])⟩
      simp only [registrations, found]

/-- Another registration does not change who was registered last for other
providers. -/
theorem lastRegistered_append {made : List Registration} {last : Registration}
    {providerId : Id} :
    ((made ++ [last]).filter (·.providerId = providerId)).getLast? =
      if last.providerId = providerId then some last
      else (made.filter (·.providerId = providerId)).getLast? := by
  rw [List.filter_append]
  by_cases same : last.providerId = providerId
  · simp [same]
  · simp [same]

/-- The sessions after a hello that was taken. -/
theorem registered_greets {before after : Agents} {session : AgentSession}
    {now : Timestamp} {made : List Registration}
    (inTurn : before.RegisteredInTurn made)
    (disciplined : after.Disciplined none)
    (greets : before.Greets after session now) :
    after.RegisteredInTurn (made ++ [⟨session.providerId, session.sessionId,
      (before.byProvider session.providerId).map (·.sessionId)⟩]) := by
  have progress := greets.progress
  constructor
  · intro providerId active registered
    rw [lastRegistered_append]
    by_cases own : session.providerId = providerId
    · subst own
      rw [greets.entry] at registered
      cases registered
      rw [if_pos rfl]
      rfl
    · rw [if_neg own]
      rw [greets.elsewhere providerId (Ne.symm own)] at registered
      exact inTurn.latest providerId active registered
  · intro providerId active registered
    obtain ⟨other, found, isOpen, ofProvider, -⟩ :=
      disciplined.registered providerId active registered
    refine ⟨other, found, ofProvider, ?_, isOpen⟩
    rw [disciplined.closed _ other found]
    exact isOpen
  · intro sessionId other found seen isOpen
    rw [disciplined.closed sessionId other found] at isOpen
    exact disciplined.live sessionId other found seen isOpen (by rintro ⟨⟩)
  · intro registration member old isReplaced
    rcases List.mem_append.mp member with earlier | last
    · obtain ⟨bye, shut⟩ := inTurn.replaced registration earlier old isReplaced
      exact ⟨progress.sent.subset bye, shut.progress progress⟩
    · rw [List.mem_singleton] at last
      subst last
      obtain ⟨active, registered, rfl⟩ := Option.map_eq_some_iff.mp isReplaced
      obtain ⟨closed, -⟩ := greets.replaced active registered
      refine ⟨?_, closed.isShut disciplined⟩
      rw [greets.sent, registered]
      exact List.mem_append_right _ (List.mem_singleton_self _)
  · intro registration member
    rcases List.mem_append.mp member with earlier | last
    · rcases inTurn.others registration earlier with
        ⟨active, registered, same⟩ | shut
      · by_cases own : registration.providerId = session.providerId
        · right
          rw [own] at registered
          rw [← same]
          exact (greets.replaced active registered).1.isShut disciplined
        · left
          refine ⟨active, ?_, same⟩
          rw [greets.elsewhere _ own]
          exact registered
      · exact .inr (shut.progress progress)
    · rw [List.mem_singleton] at last
      subst last
      exact .inl ⟨_, greets.entry, rfl⟩

/-- The sessions after a step that registers nothing. -/
theorem registered_thins {before after : Agents} {made : List Registration}
    (inTurn : before.RegisteredInTurn made)
    (disciplined : after.Disciplined none)
    (progress : before.Progress after) (thins : before.Thins after) :
    after.RegisteredInTurn made := by
  constructor
  · intro providerId active registered
    exact inTurn.latest providerId active
      (thins.shrinks providerId active registered)
  · intro providerId active registered
    obtain ⟨other, found, isOpen, ofProvider, -⟩ :=
      disciplined.registered providerId active registered
    refine ⟨other, found, ofProvider, ?_, isOpen⟩
    rw [disciplined.closed _ other found]
    exact isOpen
  · intro sessionId other found seen isOpen
    rw [disciplined.closed sessionId other found] at isOpen
    exact disciplined.live sessionId other found seen isOpen (by rintro ⟨⟩)
  · intro registration member old isReplaced
    obtain ⟨bye, shut⟩ := inTurn.replaced registration member old isReplaced
    exact ⟨progress.sent.subset bye, shut.progress progress⟩
  · intro registration member
    rcases inTurn.others registration member with
      ⟨active, registered, same⟩ | shut
    · rcases thins.stays registered with still | closed
      · exact .inl ⟨active, still, same⟩
      · right
        rw [← same]
        exact closed.isShut disciplined
    · exact .inr (shut.progress progress)

theorem Standing.registeredInTurn (standing : Standing pool)
    {move : Move ProviderRequest Choice} {made : List Registration}
    (inTurn : pool.state.agents.RegisteredInTurn made)
    (moved : pool.step (providerService deps) move = some next) :
    next.state.agents.RegisteredInTurn (made ++ registrations pool move) := by
  have disciplined := (standing.step moved).seated.disciplined
  have progress := standing.agents_progress moved
  cases move with
  | start request =>
      obtain ⟨-, -, rfl⟩ := Pool.step_start moved
      rw [registrations, List.append_nil]
      exact inTurn
  | advance index choice =>
      obtain ⟨request, history, call, resume, answer, world, found, result,
        rfl⟩ := Pool.step_advance moved
      rcases standing.registers found result with
        ⟨session, now, greets, made⟩ | ⟨none, thins⟩
      · rw [made]
        exact registered_greets inTurn disciplined greets
      · rw [none, List.append_nil]
        exact registered_thins inTurn disciplined progress thins

/-! ## Closed sessions -/

/-- Nothing that is done on a closed session changes the registry. -/
theorem ofSession_closed {awaited : MemoryCall} {value : awaited.Answer}
    {before after : World} (disciplined : before.agents.Disciplined none)
    (result : awaited.effect before = some (value, after))
    (same : awaited.ofSession = some sessionId)
    (closed : before.agents.IsClosed sessionId) :
    after.agents.byProvider = before.agents.byProvider := by
  obtain ⟨session, found, isClosed⟩ := closed
  have ended : session.ended = true := by
    rw [← disciplined.closed sessionId session found]
    exact isClosed
  have idle {changed : Agents} (shuts : before.agents.Shuts changed sessionId) :
      changed.byProvider = before.agents.byProvider := by
    obtain ⟨rfl, -⟩ | ⟨other, effective, present, isOpen, -⟩ := shuts
    · rfl
    · cases found.symm.trans present
      rw [ended] at isOpen
      cases isOpen
  cases awaited with
  | process id message now =>
      cases same
      cases result
      simp [Agents.process, found, isClosed]
  | recordConnected id => cases result; rfl
  | sendAgent id message =>
      cases result
      exact (Agents.send_sessions _ _ _).2.1
  | startHeartbeat id seconds => cases result; rfl
  | heartbeat id now =>
      cases same
      cases result
      simp only [World.onAgents, Agents.heartbeat, found]
      split
      · rfl
      · rw [if_pos isClosed]
  | terminate id reason =>
      cases same
      cases result
      simp only [World.onAgents, Agents.terminate, found]
      split
      · rfl
      · have stored : (before.agents.modify sessionId
            ({ · with closeReason := some reason })).sessions sessionId =
              some { session with closeReason := some reason } := by
          simp [Agents.modify, found]
        unfold Agents.close
        rw [stored, Option.any_some, ended]
        rfl
  | finish id =>
      cases same
      cases result
      exact idle (Agents.finish_shuts disciplined)
  | closed id =>
      simp only [MemoryCall.effect] at result
      split at result
      · cases result
      · cases result; rfl
  | claimDisconnect id =>
      cases result
      simp only [Agents.claimDisconnect]
      split <;> rfl
  | _ => cases same

/-- A step on a closed session leaves the registry as it is. -/
theorem Standing.late_close (standing : Standing pool)
    {move : Move ProviderRequest Choice}
    (moved : pool.step (providerService deps) move = some next)
    (on : onSession pool move = some sessionId)
    (closed : pool.state.agents.IsClosed sessionId) :
    next.state.agents.byProvider = pool.state.agents.byProvider := by
  cases move with
  | start request => cases on
  | advance index choice =>
      obtain ⟨request, history, call, resume, answer, world, found, result,
        rfl⟩ := Pool.step_advance moved
      cases call with
      | memory awaited =>
          obtain ⟨⟨value, after⟩, effect, same⟩ :=
            Option.map_eq_some_iff.mp result
          cases same
          have ofSession : awaited.ofSession = some sessionId := by
            simpa [onSession, found] using on
          have kept : after.agents.byProvider =
              (pool.state.elapse choice.elapsed).agents.byProvider :=
            ofSession_closed
              (standing.seated.elapse choice.elapsed).disciplined effect
              ofSession closed
          exact kept
      | _ => simp [onSession, found] at on

/-! ## The stream of a provider -/

/-- What the stream of a provider holds of a session is all that is recorded of
it, or nothing. -/
theorem Attending.presence_stream (attending : Attending pool)
    (providerId sessionId : Id) :
    presence sessionId (pool.state.store.ofProvider providerId) =
        presence sessionId pool.state.store.events ∨
      presence sessionId (pool.state.store.ofProvider providerId) = [] := by
  by_cases belongs : pool.state.agents.Belongs sessionId providerId
  · left
    unfold presence EventStore.ofProvider EventStore.stream
    rw [List.filterMap_filter]
    apply List.filterMap_congr
    intro event member
    cases speaks : event.data.presenceOf sessionId with
    | none => simp
    | some said =>
        obtain ⟨ofType, other⟩ :=
          attending.home sessionId said event member speaks
        obtain ⟨session, found, ofProvider⟩ := belongs
        obtain ⟨same, present, ofOther⟩ := other
        cases found.symm.trans present
        simp [StoredEvent.isOf, ofType, ← ofProvider, ofOther]
  · right
    apply List.filterMap_eq_nil_iff.mpr
    intro event member
    cases speaks : event.data.presenceOf sessionId with
    | none => rfl
    | some said =>
        obtain ⟨inTable, isOf⟩ := List.mem_filter.mp member
        obtain ⟨-, other⟩ :=
          attending.home sessionId said event inTable speaks
        have ofProvider : event.aggregateId = providerId :=
          (EventStore.isOf_iff.mp isOf).2
        rw [ofProvider] at other
        exact absurd other belongs

end

/-! ## The claim -/

/-- The registry is disciplined, whatever happens on any number of sessions, in
any order and with any failures.  The session registered for a provider is the
one registered last and is open, the only one of the provider that is past its
hello and open; every session that was replaced was sent its bye and closed;
nothing that is done on a closed session changes the registry; and of each
session, the stream of a provider holds at most one connect and then at most one
disconnect. -/
theorem session_registry_is_disciplined (deps : ProviderServiceDeps)
    {pool : ProviderPool} {made : List Registration}
    (observed : Pool.Observed (providerService deps) registrations
      (fun _ _ => True) ⟨{}, []⟩ pool made) :
    pool.state.agents.RegisteredInTurn made ∧
    (∀ move next sessionId,
      pool.step (providerService deps) move = some next →
      onSession pool move = some sessionId →
      pool.state.agents.IsShut sessionId →
      next.state.agents.byProvider = pool.state.agents.byProvider) ∧
    ∀ providerId sessionId,
      presence sessionId (pool.state.store.ofProvider providerId) <+:
        [true, false] := by
  have standing := Standing.of_run observed.run
  have attending := Attending.of_run observed.run
  refine ⟨?_, ?_, ?_⟩
  · suffices both : Standing pool ∧
        pool.state.agents.RegisteredInTurn made from both.2
    apply observed.invariant
    · refine ⟨.initial, ?_, ?_, ?_, ?_, ?_⟩
      · exact fun _ _ registered => by cases registered
      · exact fun _ _ registered => by cases registered
      · exact fun _ _ found => by cases found
      · exact fun _ member => by cases member
      · exact fun _ member => by cases member
    · intro pool made move next both _ moved
      exact ⟨both.1.step moved, both.1.registeredInTurn both.2 moved⟩
  · intro move next sessionId moved on shut
    obtain ⟨session, found, closed, -⟩ := shut
    exact standing.late_close moved on ⟨session, found, closed⟩
  · intro providerId sessionId
    rcases attending.presence_stream providerId sessionId with same | none
    · rw [same]
      exact attending.inOrder sessionId
    · rw [none]
      exact List.nil_prefix

open HelloFirst in
theorem session_registry_is_disciplined_replaced :
    ∃ (pool : ProviderPool) (made : List Registration),
      (pool.state.agents.byProvider 0).map (·.sessionId) = some 5 ∧
        pool.state.agents.RegisteredInTurn made := by
  have ends : ((⟨{}, []⟩ : ProviderPool).follow (providerService exampleDeps)
      (fun _ _ => true) replacedLater).map
        (fun pool => (pool.state.agents.byProvider 0).map (·.sessionId)) =
          some (some 5) := by
    decide +kernel
  obtain ⟨pool, followed, same⟩ := Option.map_eq_some_iff.mp ends
  have run : Pool.Run (providerService exampleDeps) (fun _ _ => True) ⟨{}, []⟩
      pool := Pool.run_of_follow (fun _ _ _ => trivial) followed
  obtain ⟨made, observed⟩ := run.observed
  exact ⟨pool, made, same,
    (session_registry_is_disciplined exampleDeps observed).1⟩

end FluxIP
