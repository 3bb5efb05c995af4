import FluxIP.Adapters.SessionTurns
import FluxIP.Guarantees.ProviderRuns
import FluxIP.Guarantees.Revocation

/-!
# The hello comes first

A session is registered when its hello is taken, and is sent the server's hello
two awaits later.  As long as nobody turns to the registered session in between,
the first message on every session is the server's hello.
-/

namespace FluxIP

open Async

namespace Agents

/-- The first message on the channel of a session. -/
def firstSent (agents : Agents) (sessionId : Id) : Option SentAgentMessage :=
  agents.sent.find? (·.sessionId = sessionId)

/-- The first message sent on every session is a hello. -/
def HelloFirst (agents : Agents) : Prop :=
  ∀ sessionId first, agents.firstSent sessionId = some first →
    first.message.isHello = true

/-- The session was sent its hello. -/
def told (agents : Agents) (sessionId : Id) : Bool :=
  (agents.firstSent sessionId).any (·.message.isHello)

/-- The registered session a call turns to: a push is for the provider's, and
the hello of a newer session says bye to it. -/
def addressee (agents : Agents) : MemoryCall → Option ActiveSession
  | .push providerId _ => agents.byProvider providerId
  | .process sessionId message _ =>
      (agents.sessions sessionId).bind fun session =>
        if session.closed || session.helloSeen || !message.isWelcome then none
        else agents.byProvider session.providerId
  | _ => none

end Agents

/-- Nobody turns to a registered session before its hello. -/
def waitsForHello (pool : ProviderPool) : Move ProviderRequest Choice → Bool
  | .start _ => true
  | .advance index _ =>
      match pool.threads[index]? with
      | some ⟨_, _, .await (.memory call) _⟩ =>
          (pool.state.agents.addressee call).all fun active =>
            pool.state.agents.told active.sessionId
      | _ => true

/-- The moves of a run in which nobody does. -/
def WaitsForHello (pool : ProviderPool) (move : Move ProviderRequest Choice) :
    Prop :=
  waitsForHello pool move = true

namespace Agents

variable {before after agents : Agents} {sessionId : Id}

/-! ## First messages -/

/-- The session was sent its hello, or has ended. -/
def Ready (agents : Agents) (sessionId : Id) : Prop :=
  agents.told sessionId = true ∨
    ∃ session, agents.sessions sessionId = some session ∧
      session.ended = true

theorem told_iff : agents.told sessionId = true ↔
    ∃ first, agents.firstSent sessionId = some first ∧
      first.message.isHello = true := by
  unfold told
  cases agents.firstSent sessionId <;> simp

theorem firstSent_grows (grows : before.sent <+: after.sent)
    {first : SentAgentMessage}
    (found : before.firstSent sessionId = some first) :
    after.firstSent sessionId = some first := by
  obtain ⟨new, same⟩ := grows
  unfold firstSent at found ⊢
  rw [← same, List.find?_append, found]
  rfl

theorem told_grows (grows : before.sent <+: after.sent)
    (told : before.told sessionId = true) : after.told sessionId = true := by
  obtain ⟨first, found, isHello⟩ := told_iff.mp told
  exact told_iff.mpr ⟨first, firstSent_grows grows found, isHello⟩

theorem Ready.later (ready : before.Ready sessionId)
    (progress : before.Progress after) : after.Ready sessionId := by
  rcases ready with told | ⟨session, found, ended⟩
  · exact .inl (told_grows progress.sent told)
  · obtain ⟨later, present, continues⟩ :=
      progress.goesOn sessionId session found
    exact .inr ⟨later, present, continues.ended ended⟩

/-- An open session that is ready was sent its hello. -/
theorem Ready.told (ready : agents.Ready sessionId) {session : AgentSession}
    (found : agents.sessions sessionId = some session)
    (isOpen : session.ended = false) : agents.told sessionId = true := by
  rcases ready with told | ⟨same, present, ended⟩
  · exact told
  · cases found.symm.trans present
    rw [isOpen] at ended
    cases ended

/-- Whoever was sent anything was sent the hello first. -/
theorem HelloFirst.told (first : agents.HelloFirst)
    {message : AgentMessage} (member : ⟨sessionId, message⟩ ∈ agents.sent) :
    agents.told sessionId = true := by
  cases found : agents.firstSent sessionId with
  | none =>
      have apart := List.find?_eq_none.mp found _ member
      exact absurd (decide_eq_true rfl) apart
  | some sent =>
      exact told_iff.mpr ⟨sent, found, first sessionId sent found⟩

/-- Only hellos go out on a session that was sent none. -/
theorem HelloFirst.append {new : List SentAgentMessage}
    (first : before.HelloFirst) (sent : after.sent = before.sent ++ new)
    (allowed : ∀ message ∈ new, message.message.isHello = true ∨
      before.told message.sessionId = true) : after.HelloFirst := by
  intro id message found
  unfold firstSent at found
  rw [sent, List.find?_append] at found
  cases earlier : before.sent.find? (·.sessionId = id) with
  | some other =>
      rw [earlier] at found
      cases found
      exact first id message earlier
  | none =>
      rw [earlier] at found
      have isFirst : new.find? (·.sessionId = id) = some message := found
      have ofSession : message.sessionId = id := by
        simpa using List.find?_some isFirst
      rcases allowed message (List.mem_of_find?_eq_some isFirst) with
        isHello | told
      · exact isHello
      · obtain ⟨other, present, -⟩ := told_iff.mp told
        rw [ofSession] at present
        cases earlier.symm.trans present

end Agents

/-! ## The invariant -/

/-- The session has a hello in its turn. -/
def MidHello (pool : ProviderPool) (sessionId : Id) : Prop :=
  ∃ (index : Nat) (thread : Thread backend Err ProviderRequest (Option Nat))
    (ticket : Nat), pool.threads[index]? = some thread ∧
      InsideAt (.chain sessionId) ticket thread.history ∧
      Welcomed sessionId thread.history

/-- What the programs know of their sessions, and what was sent on them. -/
structure Courteous (pool : ProviderPool) : Prop where
  standing : Standing pool
  reasoned : pool.state.agents.Reasoned
  chained : ∀ sessionId, pool.Traced fun _ => Chained sessionId
  linedUp : ∀ sessionId, LinedUp (.chain sessionId) pool
  first : pool.state.agents.HelloFirst
  welcomed : ∀ thread ∈ pool.threads, ∀ sessionId,
    Welcomed sessionId thread.history → pool.state.agents.Greeted sessionId
  follows : ∀ thread ∈ pool.threads, ∀ sessionId,
    MayFollow sessionId thread.history → pool.state.agents.Ready sessionId
  gaveUp : ∀ thread ∈ pool.threads, ∀ sessionId,
    GaveUp sessionId thread.history → pool.state.agents.Ready sessionId
  beats : ∀ sessionId session seconds,
    pool.state.agents.sessions sessionId = some session →
    session.heartbeatSeconds = some seconds →
    pool.state.agents.Ready sessionId
  seen : ∀ sessionId session,
    pool.state.agents.sessions sessionId = some session →
    session.helloSeen = true →
    pool.state.agents.Ready sessionId ∨ MidHello pool sessionId

namespace Courteous

variable {deps : ProviderServiceDeps} {pool next : ProviderPool}
variable {index : Nat} {choice : Choice} {request : ProviderRequest}
variable {history : BackendHistory} {call : Call} {sessionId : Id}
variable {resume : Except Err call.Answer → Backend (Option Nat)}
variable {answer : Except Err call.Answer} {world : World}

theorem initial : Courteous ⟨{}, []⟩ where
  standing := .initial
  reasoned _ _ found := by cases found
  chained _ _ member := by cases member
  linedUp _ := .initial rfl
  first _ _ found := by cases found
  welcomed _ member := by cases member
  follows _ member := by cases member
  gaveUp _ member := by cases member
  beats _ _ _ found := by cases found
  seen _ _ found := by cases found

/-- What a program may do next on a session. -/
theorem allowed (courteous : Courteous pool)
    (found : pool.threads[index]? =
      some ⟨request, history, .await call resume⟩) (sessionId : Id) :
    Chained sessionId history call :=
  (courteous.chained sessionId _ (List.mem_of_getElem? found)).1

/-- Whoever is sent something is sent the hello, or was. -/
theorem first_kept (courteous : Courteous pool)
    (waits : WaitsForHello pool (.advance index choice))
    (found : pool.threads[index]? =
      some ⟨request, history, .await call resume⟩)
    (result : semantics call choice pool.state = some (answer, world)) :
    world.agents.HelloFirst := by
  have does := courteous.standing.does result
  have running := List.mem_of_getElem? found
  cases call with
  | memory awaited =>
      have told (active : ActiveSession)
          (addressed : pool.state.agents.addressee awaited = some active) :
          pool.state.agents.told active.sessionId = true := by
        simpa [WaitsForHello, waitsForHello, found, addressed] using waits
      have silent (same : world.agents.sent = pool.state.agents.sent) :
          world.agents.HelloFirst := by
        have nothing : world.agents.sent = pool.state.agents.sent ++ [] :=
          same.trans (List.append_nil _).symm
        exact courteous.first.append nothing fun _ member => by cases member
      obtain ⟨value, rfl, does⟩ := does
      cases does with
      | calm still calm =>
          obtain ⟨new, sent, posts⟩ := calm.sent
          apply courteous.first.append sent
          intro message member
          obtain ⟨posted, session, present, isOpen⟩ := posts message member
          cases posted with
          | own =>
              rcases (courteous.allowed found message.sessionId).sends
                message.message rfl with ⟨isHello, -⟩ | may
              · exact .inl isHello
              · right
                exact (courteous.follows _ running _ may).told present isOpen
          | pushed registered same =>
              right
              rw [← same]
              exact told _ registered
          | beat stored beats =>
              right
              exact (courteous.beats _ _ _ stored beats).told present isOpen
      | opened id fresh opens => exact silent (by rw [opens]; rfl)
      | greeted session ofSession hello greets =>
          apply courteous.first.append greets.sent
          intro message member
          right
          obtain ⟨replaced, registered, rfl⟩ := Option.map_eq_some_iff.mp
            (Option.mem_toList.mp member)
          apply told replaced
          have notClosed : session.closed = false := by
            rw [courteous.standing.seated.disciplined.closed _ _ greets.found]
            exact greets.isOpen
          simp [Agents.addressee, greets.found, notClosed, greets.unseen,
            hello, registered]
      | recorded marks => exact silent (by rw [marks]; rfl)
      | started marks => exact silent (by rw [marks]; rfl)
      | claimed stored recorded unclaimed marks =>
          exact silent (by rw [marks]; rfl)
      | expelled closes => exact silent (by rw [closes]; rfl)
  | _ =>
      have same : world.agents = pool.state.agents := does
      rw [same]
      exact courteous.first

/-- The server's hello went out, unless the session has ended. -/
theorem ready_of_sent {hello : HelloMessage}
    {resume : Except Err Unit → Backend (Option Nat)} {value : Unit}
    (courteous : Courteous pool)
    (found : pool.threads[index]? = some ⟨request, history,
      @Program.await backend Err (Option Nat)
        (.memory (.sendAgent sessionId (.hello hello))) resume⟩)
    (result : semantics (.memory (.sendAgent sessionId (.hello hello))) choice
      pool.state = some (.ok value, world))
    (first : world.agents.HelloFirst) :
    world.agents.Ready sessionId := by
  have running := List.mem_of_getElem? found
  have progress := (courteous.standing.does result).progress
    courteous.standing.seated.disciplined
  rcases (courteous.allowed found sessionId).sends (.hello hello) rfl with
    ⟨-, welcomed, -⟩ | may
  · obtain ⟨session, present, -⟩ := courteous.welcomed _ running _ welcomed
    cases ended : session.ended with
    | true =>
        have ready : pool.state.agents.Ready sessionId :=
          .inr ⟨session, present, ended⟩
        exact ready.later progress
    | false =>
        have same : pool.state.agents.send sessionId (.hello hello) =
            world.agents := congrArg (·.2.agents) (Option.some.inj result)
        have member : ⟨sessionId, .hello hello⟩ ∈ world.agents.sent := by
          rw [← same]
          simp [Agents.send, present, ended]
        exact .inl (first.told member)
  · exact (courteous.follows _ running _ may).later progress

/-- A request to sync is taken after the hello. -/
theorem ready_of_asked {message : AgentMessage} {now : Timestamp}
    {resume : Except Err Agents.Processing → Backend (Option Nat)}
    (courteous : Courteous pool)
    (found : pool.threads[index]? = some ⟨request, history,
      @Program.await backend Err (Option Nat)
        (.memory (.process sessionId message now)) resume⟩)
    (result : semantics (.memory (.process sessionId message now)) choice
      pool.state = some (.ok .syncRequested, world)) :
    pool.state.agents.Ready sessionId := by
  obtain ⟨session, present, seen, -⟩ := process_step
    courteous.standing.seated courteous.standing.introduced result
    (by rintro ⟨⟩) (by rintro data ⟨⟩)
  rcases courteous.seen sessionId session present seen with ready | midHello
  · exact ready
  · obtain ⟨other, thread, ticket, running, inside, welcomed⟩ := midHello
    obtain ⟨⟨own, since, seat⟩, unprocessed⟩ :=
      (courteous.allowed found sessionId).processes message now rfl
    obtain ⟨awaited, otherSeat⟩ := inside
    have same : other = index := by
      apply (courteous.linedUp sessionId).alone
      · rw [seatOf_of_found running]
        exact otherSeat
      · rw [seatOf_of_found found]
        exact seat
    subst same
    cases found.symm.trans running
    obtain ⟨message, now, data, got⟩ := welcomed
    exact absurd got (unprocessed message now _)

/-- The turn of a hello goes on, or the session is ready. -/
theorem midHello_kept (courteous : Courteous pool)
    (found : pool.threads[index]? =
      some ⟨request, history, .await call resume⟩)
    (progress : pool.state.agents.Progress world.agents)
    (midHello : MidHello pool sessionId) :
    world.agents.Ready sessionId ∨ MidHello ⟨world, pool.threads.set index
      ⟨request, history ++ [⟨call, answer⟩], resume answer⟩⟩ sessionId := by
  obtain ⟨other, thread, ticket, running, inside, welcomed⟩ := midHello
  by_cases same : other = index
  · subst same
    cases found.symm.trans running
    have goesOn (aside : call.stepsOn (.chain sessionId) = false) :
        MidHello ⟨world, pool.threads.set other
          ⟨request, history ++ [⟨call, answer⟩], resume answer⟩⟩
          sessionId := by
      refine ⟨other, ⟨request, history ++ [⟨call, answer⟩], resume answer⟩,
        ticket, ?_, insideAt_aside aside inside,
        welcomed_lasting _ _ _ welcomed⟩
      simp [(List.getElem?_eq_some_iff.mp found).1]
    have allowed := courteous.allowed found sessionId
    obtain ⟨since, seat⟩ := inside
    cases aside : call.stepsOn (.chain sessionId) with
    | false => exact .inr (goesOn aside)
    | true =>
        cases call with
        | memory awaited =>
            cases awaited with
            | join key =>
                have same : key = .chain sessionId := of_decide_eq_true aside
                subst same
                cases seat.symm.trans (allowed.turns.joins rfl)
            | turn key own =>
                have same : key = .chain sessionId := of_decide_eq_true aside
                subst same
                cases seat.symm.trans (allowed.turns.waits own rfl)
            | leave key own =>
                have same : key = .chain sessionId := of_decide_eq_true aside
                subst same
                have running := List.mem_of_getElem? found
                left
                rcases allowed.leaves own rfl welcomed with told | gaveUp
                · exact (courteous.follows _ running _ (.inl told)).later
                    progress
                · exact (courteous.gaveUp _ running _ gaveUp).later progress
            | _ => cases aside
        | _ => cases aside
  · right
    refine ⟨other, thread, ticket, ?_, inside, welcomed⟩
    rw [List.getElem?_set_ne (Ne.symm same)]
    exact running

/-- The programs' own fields of the invariant, one program after another. -/
theorem programs_kept (know : Id → BackendHistory → Prop)
    {holds : Agents → Id → Prop}
    (known : ∀ thread ∈ pool.threads, ∀ sessionId,
      know sessionId thread.history → holds pool.state.agents sessionId)
    (found : pool.threads[index]? =
      some ⟨request, history, .await call resume⟩)
    (persists : ∀ sessionId, holds pool.state.agents sessionId →
      holds world.agents sessionId)
    (learns : ∀ sessionId, know sessionId (history ++ [⟨call, answer⟩]) →
      know sessionId history ∨ holds world.agents sessionId) :
    ∀ thread ∈ pool.threads.set index
        ⟨request, history ++ [⟨call, answer⟩], resume answer⟩,
      ∀ sessionId, know sessionId thread.history →
        holds world.agents sessionId := by
  have running := List.mem_of_getElem? found
  intro thread member sessionId knows
  rcases List.mem_or_eq_of_mem_set member with old | new
  · exact persists sessionId (known thread old sessionId knows)
  · subst new
    rcases learns sessionId knows with earlier | now
    · exact persists sessionId (known _ running sessionId earlier)
    · exact now

theorem welcomed_learns (courteous : Courteous pool)
    (result : semantics call choice pool.state = some (answer, world))
    (sessionId : Id)
    (welcomed : Welcomed sessionId (history ++ [⟨call, answer⟩])) :
    Welcomed sessionId history ∨ world.agents.Greeted sessionId := by
  obtain ⟨message, now, data, got⟩ := welcomed
  rcases List.mem_append.mp got with earlier | last
  · exact .inl ⟨message, now, data, earlier⟩
  · cases List.mem_singleton.mp last
    right
    obtain ⟨value, same, does⟩ := courteous.standing.does result
    cases same
    cases does with
    | calm still calm => cases still
    | greeted session ofSession hello greets => exact ⟨_, greets.own, rfl⟩

theorem follows_learns (courteous : Courteous pool)
    (found : pool.threads[index]? =
      some ⟨request, history, .await call resume⟩)
    (result : semantics call choice pool.state = some (answer, world))
    (first : world.agents.HelloFirst) (sessionId : Id)
    (may : MayFollow sessionId (history ++ [⟨call, answer⟩])) :
    MayFollow sessionId history ∨ world.agents.Ready sessionId := by
  rcases may with ⟨hello, got⟩ | ⟨message, now, got⟩
  · rcases List.mem_append.mp got with earlier | last
    · exact .inl (.inl ⟨hello, earlier⟩)
    · cases List.mem_singleton.mp last
      exact .inr (courteous.ready_of_sent found result first)
  · rcases List.mem_append.mp got with earlier | last
    · exact .inl (.inr ⟨message, now, earlier⟩)
    · cases List.mem_singleton.mp last
      right
      exact (courteous.ready_of_asked found result).later
        ((courteous.standing.does result).progress
          courteous.standing.seated.disciplined)

theorem gaveUp_learns (courteous : Courteous pool)
    (found : pool.threads[index]? =
      some ⟨request, history, .await call resume⟩)
    (result : semantics call choice pool.state = some (answer, world))
    (sessionId : Id)
    (gaveUp : GaveUp sessionId (history ++ [⟨call, answer⟩])) :
    GaveUp sessionId history ∨ world.agents.Ready sessionId := by
  have running := List.mem_of_getElem? found
  have progress := (courteous.standing.does result).progress
    courteous.standing.seated.disciplined
  obtain ⟨earlier, reason, value, welcomed, isPrefix⟩ := gaveUp
  rcases List.prefix_concat_iff.mp isPrefix with whole | before
  · obtain ⟨rfl, last⟩ := List.append_inj' whole rfl
    cases last
    obtain ⟨session, present, -⟩ :=
      courteous.welcomed _ running sessionId welcomed
    obtain ⟨later, stored, -⟩ := progress.goesOn sessionId session present
    exact .inr (.inr ⟨later, stored, terminate_step courteous.standing.seated
      courteous.reasoned result stored⟩)
  · exact .inl ⟨earlier, reason, value, welcomed, before⟩

/-- What a step leaves of the sessions that beat or have said hello. -/
theorem sessions_kept (courteous : Courteous pool)
    (found : pool.threads[index]? =
      some ⟨request, history, .await call resume⟩)
    (result : semantics call choice pool.state = some (answer, world)) :
    (∀ sessionId session seconds,
      world.agents.sessions sessionId = some session →
      session.heartbeatSeconds = some seconds →
      world.agents.Ready sessionId) ∧
    ∀ sessionId session, world.agents.sessions sessionId = some session →
      session.helloSeen = true →
      world.agents.Ready sessionId ∨
        MidHello ⟨world, pool.threads.set index
          ⟨request, history ++ [⟨call, answer⟩], resume answer⟩⟩ sessionId := by
  have disciplined := courteous.standing.seated.disciplined
  have does := courteous.standing.does result
  have progress := does.progress disciplined
  have running := List.mem_of_getElem? found
  constructor
  · intro sessionId session seconds present beats
    rcases (does.stems disciplined present).heartbeat beats with
      ⟨before, stored, beating⟩ | ⟨answered, same⟩
    · exact (courteous.beats sessionId before seconds stored beating).later
        progress
    · cases same
      have may := (courteous.allowed found sessionId).starts seconds rfl
      exact (courteous.follows _ running sessionId may).later progress
  · intro sessionId session present seen
    rcases (does.stems disciplined present).helloSeen seen with
      ⟨before, stored, wasSeen⟩ | ⟨message, now, data, same⟩
    · rcases courteous.seen sessionId before stored wasSeen with
        ready | midHello
      · exact .inl (ready.later progress)
      · exact courteous.midHello_kept found progress midHello
    · cases same
      obtain ⟨⟨ticket, inside⟩, -⟩ :=
        (courteous.allowed found sessionId).processes message now rfl
      right
      refine ⟨index, ⟨request, history ++ [@Answered.mk backend Err
        (.memory (.process sessionId message now)) (.ok (.connected data))],
        resume (.ok (.connected data))⟩, ticket, ?_,
        insideAt_aside rfl inside, message, now, data, got_last _ _ _⟩
      simp [(List.getElem?_eq_some_iff.mp found).1]

theorem start (courteous : Courteous pool)
    (thread : Thread backend Err ProviderRequest (Option Nat))
    (fresh : thread.history = [])
    (standing : Standing ⟨pool.state, pool.threads ++ [thread]⟩)
    (chained : ∀ sessionId,
      (⟨pool.state, pool.threads ++ [thread]⟩ : ProviderPool).Traced
        fun _ => Chained sessionId) :
    Courteous ⟨pool.state, pool.threads ++ [thread]⟩ where
  standing := standing
  reasoned := courteous.reasoned
  chained := chained
  linedUp sessionId := by
    unfold LinedUp
    rw [seatOf_start thread fresh]
    exact courteous.linedUp sessionId
  first := courteous.first
  welcomed := by
    intro running member sessionId welcomed
    rcases List.mem_append.mp member with old | new
    · exact courteous.welcomed running old sessionId welcomed
    · rw [List.mem_singleton] at new
      subst new
      obtain ⟨message, now, data, got⟩ := welcomed
      rw [fresh] at got
      cases got
  follows := by
    intro running member sessionId may
    rcases List.mem_append.mp member with old | new
    · exact courteous.follows running old sessionId may
    · rw [List.mem_singleton] at new
      subst new
      rcases may with ⟨hello, got⟩ | ⟨message, now, got⟩
      · rw [fresh] at got
        cases got
      · rw [fresh] at got
        cases got
  gaveUp := by
    intro running member sessionId gaveUp
    rcases List.mem_append.mp member with old | new
    · exact courteous.gaveUp running old sessionId gaveUp
    · rw [List.mem_singleton] at new
      subst new
      obtain ⟨earlier, reason, answer, -, isPrefix⟩ := gaveUp
      rw [fresh] at isPrefix
      have empty := List.prefix_nil.mp isPrefix
      simp at empty
  beats := courteous.beats
  seen := by
    intro sessionId session present seen
    rcases courteous.seen sessionId session present seen with ready | midHello
    · exact .inl ready
    · obtain ⟨index, running, ticket, found, rest⟩ := midHello
      right
      refine ⟨index, running, ticket, ?_, rest⟩
      rw [List.getElem?_append_left (List.getElem?_eq_some_iff.mp found).1]
      exact found

theorem step (courteous : Courteous pool)
    {move : Move ProviderRequest Choice} (waits : WaitsForHello pool move)
    (moved : pool.step (providerService deps) move = some next) :
    Courteous next := by
  have standing := courteous.standing.step moved
  have chained (sessionId : Id) : next.Traced fun _ => Chained sessionId :=
    (courteous.chained sessionId).step (fun request =>
      command_chained deps request.now request.command sessionId) moved
  have linedUp (sessionId : Id) : LinedUp (.chain sessionId) next :=
    (courteous.linedUp sessionId).step rfl (fun _ _ _ allowed => allowed.turns)
      (courteous.chained sessionId) moved
  cases move with
  | start request =>
      obtain ⟨-, -, rfl⟩ := Pool.step_start moved
      exact courteous.start _ rfl standing chained
  | advance index choice =>
      obtain ⟨request, history, call, resume, answer, world, found, result,
        rfl⟩ := Pool.step_advance moved
      have progress := (courteous.standing.does result).progress
        courteous.standing.seated.disciplined
      have first := courteous.first_kept waits found result
      have ready : ∀ sessionId, pool.state.agents.Ready sessionId →
          world.agents.Ready sessionId := fun _ ready => ready.later progress
      obtain ⟨beats, seen⟩ := courteous.sessions_kept found result
      exact
        { standing
          reasoned := call_reasoned courteous.standing.seated
            courteous.reasoned result
          chained
          linedUp
          first
          welcomed := programs_kept Welcomed courteous.welcomed found
            (fun _ greeted => progress.greeted greeted)
            (courteous.welcomed_learns result)
          follows := programs_kept MayFollow courteous.follows found ready
            (courteous.follows_learns found result first)
          gaveUp := programs_kept GaveUp courteous.gaveUp found ready
            (courteous.gaveUp_learns found result)
          beats
          seen }

theorem of_run
    (run : Pool.Run (providerService deps) WaitsForHello ⟨{}, []⟩ pool) :
    Courteous pool :=
  run.invariant initial fun _ _ _ courteous waits moved =>
    courteous.step waits moved

end Courteous

/-! ## The claim -/

namespace HelloFirst

def newerStream : ProviderRequest :=
  { Revocation.streamRequest with number := 5 }

def newerHello : ProviderRequest :=
  ⟨6, 0, .message ⟨1, 0, 2⟩ 5
    (.hello { protocolVersion := 1, agentVersion := "agent" })⟩

/-- A session is sent its hello and its snapshot; then a newer one says
hello. -/
def replacedLater : List (Move ProviderRequest Choice) :=
  Revocation.opened ++ [.start Revocation.helloRequest] ++ advances 2 25 ++
    [.start newerStream] ++ advances 3 4 ++
    [.start newerHello] ++ advances 4 3

/-- The resync comes around while the hello of a session is recorded. -/
def resyncedEarly : List (Move ProviderRequest Choice) :=
  Revocation.opened ++ [.start Revocation.helloRequest] ++ advances 2 3 ++
    [.start ⟨4, 0, .resync 1 0⟩] ++ advances 3 12

/-- The sessions sent to, and whether with a hello. -/
def sentHellos (pool : ProviderPool) : List (Id × Bool) :=
  pool.state.agents.sent.map fun sent =>
    (sent.sessionId, sent.message.isHello)

end HelloFirst

end FluxIP
