import FluxIP.Adapters.EndReasons
import FluxIP.Domain.SessionEnds
import FluxIP.Guarantees.OptimisticConcurrency
import FluxIP.Guarantees.SessionEvents
import FluxIP.Guarantees.Revocation

/-!
# The causes of disconnects

A session is ended once, by one step, and the disconnect that is recorded of it
carries the reason its fields were left with by this step.  That is the cause of
the step, unless the step closed the channel past the session's handler with an
error: then the listener of the stream was first and gave no reason.
-/

namespace FluxIP

open Async

/-! ## What a call is the cause of -/

/-- The reason with which a call closes the channel of a session past its
handler: a newer session takes its place, or it is terminated through the
registry. -/
def MemoryCall.pastHandler (session : AgentSession) :
    MemoryCall → Option CloseReason
  | .process sessionId _ _ =>
      if sessionId = session.sessionId then none
      else some ⟨.aborted, "superseded by a newer connection", .superseded⟩
  | .terminateByToken _ _ reason => some reason
  | .terminateByProvider _ reason => some reason
  | .terminateByAccount _ reason => some reason
  | _ => none

/-- The disconnect reason of what a call does when it ends the session. -/
def MemoryCall.cause (session : AgentSession) (call : MemoryCall) :
    DisconnectReason :=
  match call.pastHandler session with
  | some reason => reason.disconnect
  | none =>
      match call with
      | .process _ message _ => Agents.handlerCause session message
      | .heartbeat _ _ => .timeout
      | .terminate _ reason => reason.disconnect
      | _ => .closed

/-- The call closes the channel past the session's handler, with an error and a
reason of its own. -/
def MemoryCall.isUnheard (session : AgentSession) (call : MemoryCall) : Bool :=
  (call.pastHandler session).any fun reason =>
    reason.code ≠ .ok ∧ reason.disconnect ≠ .closed

/-- The step is a call that ends the session. -/
structure EndsSession (deps : BackendDeps) (pool next : BackendPool)
    (call : MemoryCall) (session : AgentSession) : Prop where
  moved : ∃ index choice thread resume,
    pool.step (backendService deps) (.advance index choice) = some next ∧
      pool.threads[index]? = some thread ∧
      thread.program = .await (.memory call) resume
  ends : ∃ later, Agents.Ends pool.state.agents next.state.agents session later

/-- The disconnect of a session. -/
def IsDisconnect (sessionId : Id)
    (data : TraefikProviderAgentDisconnectedData) (event : StoredEvent) :
    Prop :=
  event.data = .traefikProvider (.agentDisconnected data) ∧
    data.sessionId = sessionId

/-- What a session is left with by the call that ends it. -/
theorem memory_ends {call : MemoryCall} {answer : call.Answer}
    {world next : World} {session later : AgentSession}
    (seated : Seated world) (introduced : world.agents.Introduced)
    (reasoned : world.agents.Reasoned)
    (result : call.effect world = some (answer, next))
    (ends : Agents.Ends world.agents next.agents session later) :
    ∃ effective, later.effective = some effective ∧
      effective.disconnect =
        if call.isUnheard session then .closed else call.cause session := by
  have disciplined := seated.disciplined
  have unnoted : session.closeReason = none := by
    cases noted : session.closeReason with
    | none => rfl
    | some reason =>
        have isEnded := reasoned _ session ends.found (by rw [noted]; rfl)
        rw [ends.isOpen] at isEnded
        cases isEnded
  -- the channel is closed past the handler
  have past (reason : CloseReason) (given : call.pastHandler session =
        some reason)
      (left : later.effective = some (Agents.leftReason session reason)) :
      ∃ effective, later.effective = some effective ∧
        effective.disconnect =
          if call.isUnheard session then .closed else call.cause session := by
    refine ⟨_, left, ?_⟩
    unfold Agents.leftReason MemoryCall.isUnheard MemoryCall.cause
    rw [given, unnoted]
    by_cases isOk : reason.code = .ok
    · simp [isOk]
    · by_cases isClosed : reason.disconnect = .closed
      · simp [isOk, isClosed, Agents.closedByPeer]
      · simp [isOk, isClosed, Agents.closedByPeer]
  cases call with
  | join key => cases result; exact absurd rfl ends.changed
  | turn key ticket =>
      simp only [MemoryCall.effect] at result
      split at result
      · cases result; exact absurd rfl ends.changed
      · cases result
  | leave key ticket => cases result; exact absurd rfl ends.changed
  | openSession providerId accountId tokenId now =>
      cases result
      have other : session.sessionId ≠ world.nextUUID :=
        Nat.ne_of_lt (seated.drawn _ session ends.found)
      refine absurd ?_ ends.changed
      simp only [Agents.setSession, Function.update_of_ne other]
  | process sessionId message now =>
      cases result
      rcases Agents.process_ends introduced disciplined reasoned ends with
        ⟨own, reason, effective, cause⟩ | ⟨other, effective⟩
      · refine ⟨reason, effective, ?_⟩
        simp [MemoryCall.isUnheard, MemoryCall.cause, MemoryCall.pastHandler,
          own, cause]
      · apply past _ (if_neg other)
        exact effective
  | recordConnected sessionId =>
      cases result
      exact absurd ends (Agents.modify_not_ends fun _ => rfl)
  | sendAgent sessionId message =>
      cases result
      refine absurd ?_ ends.changed
      exact congrFun (Agents.send_sessions _ _ _).1 _
  | startHeartbeat sessionId seconds =>
      cases result
      exact absurd ends (Agents.modify_not_ends fun _ => rfl)
  | heartbeat sessionId now =>
      cases result
      obtain ⟨reason, effective, cause⟩ :=
        Agents.heartbeat_ends disciplined reasoned ends
      exact ⟨reason, effective, cause⟩
  | terminate sessionId reason =>
      cases result
      exact ⟨reason, (Agents.terminate_ends_with disciplined reasoned ends).2,
        rfl⟩
  | finish sessionId =>
      cases result
      obtain ⟨-, effective⟩ := Agents.finish_ends disciplined ends
      rw [unnoted] at effective
      exact ⟨_, effective, rfl⟩
  | closed sessionId =>
      simp only [MemoryCall.effect] at result
      split at result
      · cases result
      · cases result; exact absurd rfl ends.changed
  | claimDisconnect sessionId =>
      simp only [MemoryCall.effect, Agents.claimDisconnect] at result
      split at result
      · cases result
        exact absurd ends (Agents.modify_not_ends fun _ => rfl)
      · cases result
        exact absurd rfl ends.changed
  | push providerId message =>
      cases result
      refine absurd ?_ ends.changed
      simp only [World.onAgents, Agents.push]
      split
      · rfl
      · exact congrFun (Agents.send_sessions _ _ _).1 _
  | terminateByToken providerId tokenId reason =>
      cases result
      exact past reason rfl (Agents.terminateByToken_ends disciplined ends)
  | terminateByProvider providerId reason =>
      cases result
      exact past reason rfl (Agents.terminateByProvider_ends disciplined ends)
  | terminateByAccount accountId reason =>
      cases result
      exact past reason rfl (Agents.terminateByAccount_ends disciplined ends)

/-! ## What is recalled of an end -/

/-- The session has ended with this reason. -/
def Agents.EndedWith (agents : Agents) (sessionId : Id)
    (effective : CloseReason) : Prop :=
  ∃ session, agents.sessions sessionId = some session ∧
    session.closed = true ∧ session.effective = some effective

/-- A session has a reason of its end when it is closed. -/
def AgentSession.Explained (session : AgentSession) : Prop :=
  session.effective.isSome = true → session.closed = true

theorem AgentSession.Explained.law :
    AgentSession.Law (fun _ => True) AgentSession.Explained where
  own _ _ := trivial
  opened _ _ _ _ _ := fun given => by cases given
  ended _ explained := explained
  helloSeen _ explained := explained
  received _ _ explained := explained
  nonce _ _ explained := explained
  connected _ explained := explained
  claimed _ explained := explained
  noted _ _ _ explained := explained
  closed _ _ _ _ := fun _ => rfl

/-- What a request of the backend may record in the streams of providers. -/
def BackendRequest.MayRecord (request : BackendRequest)
    (history : BackendHistory) (call : Call) : Prop :=
  ∀ command, request.command = .provider command →
    Recording request.now command history call

/-- The sessions are disciplined, who was told the end of one was told its own,
and the recorded disconnects carry it. -/
structure Recalled (deps : BackendDeps) (pool : BackendPool) : Prop where
  seated : Seated pool.state
  introduced : pool.state.agents.Introduced
  reasoned : pool.state.agents.Reasoned
  explained : pool.state.agents.Every AgentSession.Explained
  decided : pool.Traced (Decides deps)
  recording : pool.Traced BackendRequest.MayRecord
  told : ∀ sessionId effective,
    pool.Knows (fun _ => Got (.closed sessionId) effective)
      (·.agents.EndedWith sessionId effective)
  recorded : ∀ event ∈ pool.state.store.events, ∀ data sessionId,
    IsDisconnect sessionId data event → ∃ effective,
      pool.state.agents.EndedWith sessionId effective ∧
        data.reason = effective.disconnect

variable {deps : BackendDeps} {pool next : BackendPool}
variable {before after : Agents} {sessionId : Id} {effective : CloseReason}

theorem Agents.EndedWith.progress (ended : before.EndedWith sessionId effective)
    (progress : before.Progress after) : after.EndedWith sessionId effective := by
  obtain ⟨session, found, closed, isEffective⟩ := ended
  obtain ⟨later, present, goesOn⟩ := progress.goesOn sessionId session found
  exact ⟨later, present, goesOn.closed closed,
    (goesOn.effective closed).trans isEffective⟩

theorem Agents.EndedWith.unique {other : CloseReason}
    (first : before.EndedWith sessionId effective)
    (second : before.EndedWith sessionId other) : effective = other := by
  obtain ⟨session, found, -, isEffective⟩ := first
  obtain ⟨same, present, -, isOther⟩ := second
  cases found.symm.trans present
  exact Option.some.inj (isEffective.symm.trans isOther)

/-- An event is new only if the call has appended it. -/
theorem event_cases {call : Call} {choice : Choice} {world later : World}
    {answer : Except Err call.Answer} {event : StoredEvent}
    (result : semantics call choice world = some (answer, later))
    (member : event ∈ later.store.events) :
    event ∈ world.store.events ∨
      ∃ input, call = .store (.append input) ∧ event.data = input.data := by
  by_cases keeps : call.keepsStore = true
  · rw [store_frame result keeps] at member
    exact .inl member
  · cases call with
    | store awaited =>
        cases awaited with
        | append input =>
            rcases append_step result with
              ⟨inserted, store, appended, rfl, -⟩ | ⟨rfl, -⟩
            · rcases EventStore.append_cases appended with
                ⟨own, same, -, -, -, -, written, -, -, grown⟩ | ⟨refused, -⟩
              · cases same
                dsimp only at member
                rw [grown] at member
                rcases List.mem_append.mp member with old | new
                · exact .inl old
                · exact .inr ⟨input, rfl,
                    List.mem_singleton.mp new ▸ written⟩
              · cases refused
            · exact .inl member
        | deleteAccount accountId =>
            rcases deleteAccount_step result with deleted | same
            · rw [deleted] at member
              exact .inl (List.mem_of_mem_filter member)
            · rw [same] at member
              exact .inl member
        | _ => exact absurd rfl keeps
    | _ => exact absurd rfl keeps

/-- The end a program is told is the session's. -/
theorem closed_told {call : Call} {choice : Choice} {world later : World}
    {answer : Except Err call.Answer} {history : BackendHistory}
    (explained : world.agents.Every AgentSession.Explained)
    (result : semantics call choice world = some (answer, later))
    (got : Got (.closed sessionId) effective (history ++ [⟨call, answer⟩])) :
    Got (.closed sessionId) effective history ∨
      later.agents.EndedWith sessionId effective := by
  rcases List.mem_append.mp got with before | last
  · exact .inl before
  · right
    cases List.mem_singleton.mp last
    obtain ⟨⟨value, after⟩, effect, same⟩ := Option.map_eq_some_iff.mp result
    cases same
    simp only [MemoryCall.effect] at effect
    split at effect
    · cases effect
    · rename_i given
      cases effect
      obtain ⟨session, found, isEffective⟩ := Option.bind_eq_some_iff.mp given
      exact ⟨session, found, explained sessionId session found
        (by rw [isEffective]; rfl), isEffective⟩

namespace Recalled

theorem initial : Recalled deps ⟨{}, []⟩ where
  seated := Standing.initial.seated
  introduced := Standing.initial.introduced
  reasoned := fun _ _ found => by cases found
  explained := fun _ _ found => by cases found
  decided := fun _ member => by cases member
  recording := fun _ member => by cases member
  told _ _ := .initial _
  recorded := fun _ member => by cases member

theorem mayRecord (request : BackendRequest) :
    (request.command.program deps request.now).Traces
      (BackendRequest.MayRecord request) anyEnd [] := by
  obtain ⟨number, now, command⟩ := request
  cases command with
  | provider command =>
      apply (command_records deps.providers now command []).allows
      intro history call records other same
      cases same
      exact records
  | _ =>
      apply (command_decides deps now _).allows
      intro history call _ other same
      cases same

/-- A disconnect is appended by who was told the end of its session. -/
theorem disconnects {thread : Thread backend Err BackendRequest (Option Nat)}
    {input : AppendEventInput}
    {resume : Except Err StoredEvent → Backend (Option Nat)}
    {data : TraefikProviderAgentDisconnectedData}
    (recalled : Recalled deps pool) (running : thread ∈ pool.threads)
    (appending : thread.program = .await (.store (.append input)) resume)
    (written : input.data = .traefikProvider (.agentDisconnected data)) :
    ∃ effective, pool.state.agents.EndedWith data.sessionId effective ∧
      data.reason = effective.disconnect := by
  obtain ⟨⟨number, now, command⟩, history, program⟩ := thread
  subst appending
  have guarded := ((recalled.decided _ running).1.1 input rfl).2
  unfold Guarded at guarded
  rw [written] at guarded
  cases command with
  | provider command =>
      obtain ⟨accountId, providerId, version, event, rfl, records⟩ :=
        (recalled.recording _ running).1 command rfl
      cases written
      obtain ⟨auth, effective, -, -, -, got, reason⟩ :=
        records.of_disconnected
      exact ⟨effective, recalled.told _ _ _ running got, reason⟩
  | _ => cases guarded

/-- The sessions go on. -/
theorem progress {move : Move BackendRequest Choice}
    (recalled : Recalled deps pool)
    (moved : pool.step (backendService deps) move = some next) :
    pool.state.agents.Progress next.state.agents := by
  cases move with
  | start request =>
      obtain ⟨-, -, rfl⟩ := Pool.step_start moved
      exact .refl _
  | advance index choice =>
      obtain ⟨request, history, call, resume, answer, world, found, result,
        rfl⟩ := Pool.step_advance moved
      exact (call_does recalled.seated recalled.introduced result).progress
        recalled.seated.disciplined

theorem step {move : Move BackendRequest Choice}
    (recalled : Recalled deps pool)
    (moved : pool.step (backendService deps) move = some next) :
    Recalled deps next := by
  have progress := recalled.progress moved
  have decided := recalled.decided.step
    (fun request => command_decides deps request.now request.command) moved
  have recording := recalled.recording.step mayRecord moved
  cases move with
  | start request =>
      have knows := fun sessionId effective =>
        (recalled.told sessionId effective).step
          (fun _ got => by cases got) (fun ended => ended.progress progress)
          (fun _ _ _ _ _ _ tells got =>
            closed_told recalled.explained tells.answered got) moved
      obtain ⟨-, -, rfl⟩ := Pool.step_start moved
      exact { recalled with decided, recording, told := knows }
  | advance index choice =>
      have knows := fun sessionId effective =>
        (recalled.told sessionId effective).step
          (fun _ got => by cases got) (fun ended => ended.progress progress)
          (fun _ _ _ _ _ _ tells got =>
            closed_told recalled.explained tells.answered got) moved
      obtain ⟨request, history, call, resume, answer, world, found, result,
        rfl⟩ := Pool.step_advance moved
      exact
        { seated := (call_sessionStep recalled.seated result).seated
          introduced := (call_does recalled.seated recalled.introduced
            result).introduced recalled.seated.disciplined recalled.introduced
          reasoned := call_reasoned recalled.seated recalled.reasoned result
          explained := call_every AgentSession.Explained.law
            (fun _ _ _ _ => trivial) (fun _ _ _ _ _ explained => explained)
            recalled.explained result
          decided
          recording
          told := knows
          recorded := by
            intro event member data sessionId isDisconnect
            rcases event_cases result member with old | ⟨input, rfl, same⟩
            · obtain ⟨effective, ended, reason⟩ :=
                recalled.recorded event old data sessionId isDisconnect
              exact ⟨effective, ended.progress progress, reason⟩
            · obtain ⟨effective, ended, reason⟩ := recalled.disconnects
                (List.mem_of_getElem? found) rfl
                (same.symm.trans isDisconnect.1)
              rw [isDisconnect.2] at ended
              exact ⟨effective, ended.progress progress, reason⟩ }

theorem of_run {allowed : BackendPool → Move BackendRequest Choice → Prop}
    (run : Pool.Run (backendService deps) allowed ⟨{}, []⟩ pool) :
    Recalled deps pool :=
  run.invariant initial fun _ _ _ recalled _ moved => recalled.step moved

/-- The sessions go on in all that follows. -/
theorem later {last : BackendPool}
    {allowed : BackendPool → Move BackendRequest Choice → Prop}
    (recalled : Recalled deps pool)
    (run : Pool.Run (backendService deps) allowed pool last) :
    Recalled deps last ∧ pool.state.agents.Progress last.state.agents := by
  induction run with
  | refl => exact ⟨recalled, .refl _⟩
  | step _ _ moved ih =>
      obtain ⟨here, progress⟩ := ih
      exact ⟨here.step moved, progress.trans (here.progress moved)⟩

/-- What a session is left with by the step that ends it. -/
theorem ended {call : MemoryCall} {session : AgentSession}
    (recalled : Recalled deps pool)
    (ends : EndsSession deps pool next call session) :
    ∃ effective, next.state.agents.EndedWith session.sessionId effective ∧
      effective.disconnect =
        if call.isUnheard session then .closed else call.cause session := by
  obtain ⟨⟨index, choice, thread, resume, moved, running, awaits⟩, later, ends⟩ :=
    ends
  have recalledNext := recalled.step moved
  obtain ⟨request, history, made, next, answer, world, found, result, rfl⟩ :=
    Pool.step_advance moved
  cases running.symm.trans found
  cases awaits
  obtain ⟨⟨value, after⟩, effect, same⟩ := Option.map_eq_some_iff.mp result
  cases same
  obtain ⟨effective, isEffective, cause⟩ := memory_ends
    (recalled.seated.elapse choice.elapsed) recalled.introduced
    recalled.reasoned effect ends
  refine ⟨effective, ⟨later, ends.present, ?_, isEffective⟩, cause⟩
  rw [recalledNext.seated.disciplined.closed _ later ends.present]
  exact ends.ended

end Recalled

/-! ## The claim -/

theorem recorded_only_after_the_end {allowed}
    (run : Pool.Run (backendService deps) allowed ⟨{}, []⟩ pool)
    {event : StoredEvent} (member : event ∈ pool.state.store.events)
    {data : TraefikProviderAgentDisconnectedData}
    (isDisconnect : IsDisconnect sessionId data event) :
    ∃ session, pool.state.agents.sessions sessionId = some session ∧
      session.ended = true := by
  have recalled := Recalled.of_run run
  obtain ⟨effective, ⟨session, found, closed, -⟩, -⟩ :=
    recalled.recorded event member data sessionId isDisconnect
  refine ⟨session, found, ?_⟩
  rw [← recalled.seated.disciplined.closed _ session found]
  exact closed

/-- Whatever comes first of all that may end a session: the disconnect that is
recorded of it carries the reason of the step that ended it, if and only if this
step did not close the channel past the session's handler with an error and a
reason of its own. -/
theorem disconnect_carries_its_cause (deps : BackendDeps)
    {pool next last : BackendPool} {call : MemoryCall} {session : AgentSession}
    (before : Pool.Run (backendService deps) (fun _ _ => True) ⟨{}, []⟩ pool)
    (ends : EndsSession deps pool next call session)
    (after : Pool.Run (backendService deps) (fun _ _ => True) next last)
    {event : StoredEvent} (member : event ∈ last.state.store.events)
    {data : TraefikProviderAgentDisconnectedData}
    (isDisconnect : IsDisconnect session.sessionId data event) :
    data.reason = call.cause session ↔ call.isUnheard session = false := by
  have recalled := Recalled.of_run before
  obtain ⟨effective, endedWith, reason⟩ := recalled.ended ends
  obtain ⟨⟨index, choice, thread, resume, moved, -⟩, -⟩ := ends
  obtain ⟨recalledLast, progress⟩ := (recalled.step moved).later after
  obtain ⟨recorded, recordedEnd, same⟩ :=
    recalledLast.recorded event member data session.sessionId isDisconnect
  cases recordedEnd.unique (endedWith.progress progress)
  rw [same, reason]
  cases unheard : call.isUnheard session with
  | false => simp
  | true =>
      simp only [if_true, Bool.true_eq_false, iff_false]
      unfold MemoryCall.isUnheard at unheard
      obtain ⟨given, past, own⟩ := (Option.any_eq_true _ _).mp unheard
      unfold MemoryCall.cause
      rw [past]
      intro isClosed
      simp [← isClosed] at own

/-! ## A timeout and a revocation -/

namespace DisconnectCauses

def awaitedMemory : Backend (Option Nat) → Option MemoryCall
  | .await (.memory call) _ => some call
  | _ => none

/-- What is seen of an end of a session: whether it was open before and has
ended, the cause of the call, whether it went unheard, and the reasons of the
disconnects that are recorded after the rest. -/
structure Seen where
  wasOpen : Bool
  ended : Bool
  cause : DisconnectReason
  unheard : Bool
  recorded : List DisconnectReason
  deriving DecidableEq

def recordedReason (sessionId : Id) (event : StoredEvent) :
    Option DisconnectReason :=
  match event.data with
  | .traefikProvider (.agentDisconnected data) =>
      if data.sessionId = sessionId then some data.reason else none
  | _ => none

/-- The program of this index ends the session, and the rest follows. -/
def seen (index : Nat) (rest : List (Move ProviderRequest Choice))
    (pool : BackendPool) : Option Seen := do
  let next ← pool.step (backendService exampleBackendDeps) (.advance index .ok)
  let call ← (pool.threads[index]?).bind (awaitedMemory ·.program)
  let session ← pool.state.agents.sessions 3
  let last ← next.follow (backendService exampleBackendDeps) (fun _ _ => true)
    (rest.map ofProvider)
  pure
    { wasOpen := session.sessionId = 3 && !session.ended
      ended := (next.state.agents.sessions 3).any (·.ended)
      cause := call.cause session
      unheard := call.isUnheard session
      recorded := last.state.store.events.filterMap (recordedReason 3) }

/-- A session that has ended, with the disconnect that is recorded of it. -/
structure RecordedEnd (pool next last : BackendPool) (call : MemoryCall)
    (session : AgentSession) (event : StoredEvent)
    (data : TraefikProviderAgentDisconnectedData) : Prop where
  before : Pool.Run (backendService exampleBackendDeps) (fun _ _ => True)
    ⟨{}, []⟩ pool
  ends : EndsSession exampleBackendDeps pool next call session
  after : Pool.Run (backendService exampleBackendDeps) (fun _ _ => True) next
    last
  member : event ∈ last.state.store.events
  isDisconnect : IsDisconnect session.sessionId data event

theorem recordedReason_eq_some {event : StoredEvent} {reason : DisconnectReason}
    (same : recordedReason sessionId event = some reason) :
    ∃ data, IsDisconnect sessionId data event ∧ data.reason = reason := by
  unfold recordedReason at same
  split at same
  · rename_i data written
    split at same
    · rename_i ofSession
      cases same
      exact ⟨data, ⟨written, ofSession⟩, rfl⟩
    · cases same
  · cases same

theorem recorded_of_seen {index : Nat}
    {schedule rest : List (Move ProviderRequest Choice)}
    {cause reason : DisconnectReason} {unheard : Bool}
    (ends : ((⟨{}, []⟩ : BackendPool).follow (backendService exampleBackendDeps)
      (fun _ _ => true) (schedule.map ofProvider)).bind (seen index rest) =
        some ⟨true, true, cause, unheard, [reason]⟩) :
    ∃ pool next last call session event data,
      RecordedEnd pool next last call session event data ∧
        call.cause session = cause ∧ call.isUnheard session = unheard ∧
        data.reason = reason := by
  obtain ⟨pool, followed, ends⟩ := Option.bind_eq_some_iff.mp ends
  obtain ⟨next, moved, ends⟩ := Option.bind_eq_some_iff.mp ends
  obtain ⟨call, awaits, ends⟩ := Option.bind_eq_some_iff.mp ends
  obtain ⟨thread, running, awaits⟩ := Option.bind_eq_some_iff.mp awaits
  obtain ⟨session, found, ends⟩ := Option.bind_eq_some_iff.mp ends
  obtain ⟨last, rested, ends⟩ := Option.bind_eq_some_iff.mp ends
  obtain ⟨wasOpen, isEnded, isCause, isUnheard, recorded⟩ := by
    simpa only [Option.pure_def, Option.some.injEq, Seen.mk.injEq] using ends
  obtain ⟨identity, isOpen⟩ : session.sessionId = 3 ∧ session.ended = false := by
    simpa using wasOpen
  obtain ⟨later, present, laterEnded⟩ := (Option.any_eq_true _ _).mp isEnded
  obtain ⟨event, member, told⟩ : ∃ event ∈ last.state.store.events,
      recordedReason 3 event = some reason := by
    apply List.mem_filterMap.mp
    rw [recorded]
    exact List.mem_singleton_self _
  obtain ⟨data, isDisconnect, isReason⟩ := recordedReason_eq_some told
  refine ⟨pool, next, last, call, session, event, data, ?_, isCause, isUnheard,
    isReason⟩
  rw [← identity] at found present isDisconnect
  exact
    { before := Pool.run_of_follow (fun _ _ _ => trivial) followed
      ends := by
        refine ⟨?_, later, found, isOpen, present, laterEnded⟩
        cases left : thread.program with
        | await made resume =>
            cases made with
            | memory made =>
                rw [left] at awaits
                cases awaits
                exact ⟨index, .ok, thread, resume, moved, running, left⟩
            | _ => simp [left, awaitedMemory] at awaits
        | _ => simp [left, awaitedMemory] at awaits
      after := Pool.run_of_follow (fun _ _ _ => trivial) rested
      member
      isDisconnect }

/-- The session has said hello and was sent its snapshot. -/
def greeted : List (Move ProviderRequest Choice) :=
  Revocation.opened ++ [.start Revocation.helloRequest] ++ advances 2 25

/-- No message has come for too long. -/
def silent : List (Move ProviderRequest Choice) :=
  greeted ++ [.start ⟨4, 1000000, .heartbeat ⟨1, 0, 2⟩ 3⟩]

/-- The token is revoked, and its session is next to be terminated. -/
def revoked : List (Move ProviderRequest Choice) :=
  greeted ++ [.start Revocation.revokeRequest] ++ advances 3 6

/-- The end of the session is recorded. -/
def endRecorded : List (Move ProviderRequest Choice) :=
  [.start ⟨5, 0, .closed ⟨1, 0, 2⟩ 3⟩] ++ advances 4 11

end DisconnectCauses

open DisconnectCauses in
theorem disconnect_carries_its_cause_timeout :
    ∃ pool next last call session event data,
      RecordedEnd pool next last call session event data ∧
        data.reason = .timeout ∧ call.cause session = .timeout ∧
        (data.reason = call.cause session ↔
          call.isUnheard session = false) := by
  have ends : ((⟨{}, []⟩ : BackendPool).follow
      (backendService exampleBackendDeps) (fun _ _ => true)
      (silent.map ofProvider)).bind (seen 3 endRecorded) =
        some ⟨true, true, .timeout, false, [.timeout]⟩ := by
    decide +kernel
  obtain ⟨pool, next, last, call, session, event, data, recorded, cause, -,
    reason⟩ := recorded_of_seen ends
  exact ⟨pool, next, last, call, session, event, data, recorded, reason, cause,
    disconnect_carries_its_cause exampleBackendDeps recorded.before
      recorded.ends recorded.after recorded.member recorded.isDisconnect⟩

open DisconnectCauses in
/-- A session whose token is revoked is recorded as closed. -/
theorem revoked_session_recorded_as_closed :
    ¬ ∀ (deps : BackendDeps) (pool next last : BackendPool) (call : MemoryCall)
      (session : AgentSession) (event : StoredEvent)
      (data : TraefikProviderAgentDisconnectedData),
      Pool.Run (backendService deps) (fun _ _ => True) ⟨{}, []⟩ pool →
      EndsSession deps pool next call session →
      Pool.Run (backendService deps) (fun _ _ => True) next last →
      event ∈ last.state.store.events →
      IsDisconnect session.sessionId data event →
      data.reason = call.cause session := by
  intro claim
  have ends : ((⟨{}, []⟩ : BackendPool).follow
      (backendService exampleBackendDeps) (fun _ _ => true)
      (revoked.map ofProvider)).bind (seen 3 endRecorded) =
        some ⟨true, true, .revoked, true, [.closed]⟩ := by
    decide +kernel
  obtain ⟨pool, next, last, call, session, event, data, recorded, cause, -,
    reason⟩ := recorded_of_seen ends
  have same := claim exampleBackendDeps pool next last call session event data
    recorded.before recorded.ends recorded.after recorded.member
    recorded.isDisconnect
  rw [cause, reason] at same
  cases same

end FluxIP
