import FluxIP.Adapters.Steps
import FluxIP.Domain.SessionActs

/-!
# The sessions across calls

What any call does to the memory of the agent sessions: the registry stays
disciplined, sessions stay what they are, and a snapshot goes out only by a
call that sends it.
-/

namespace FluxIP

open Async

/-- The registry is disciplined, and the ids of its sessions were drawn. -/
structure Seated (world : World) : Prop where
  disciplined : world.agents.Disciplined none
  drawn : ∀ id session, world.agents.sessions id = some session →
    id < world.nextUUID

/-- The call sends this message: to the session itself, or to the one that is
registered for a provider. -/
inductive Call.Sends (agents : Agents) (sent : SentAgentMessage) :
    Call → Prop where
  | own : Call.Sends agents sent (.memory (.sendAgent sent.sessionId
      sent.message))
  | pushed (providerId : Id) (active : ActiveSession)
      (registered : agents.byProvider providerId = some active)
      (same : active.sessionId = sent.sessionId) :
      Call.Sends agents sent (.memory (.push providerId sent.message))

structure SessionStep (call : Call) (before after : World) : Prop where
  seated : Seated after
  persists : ∀ id session, before.agents.sessions id = some session →
    ∃ later, after.agents.sessions id = some later ∧
      later.providerId = session.providerId ∧
      later.tokenId = session.tokenId ∧
      (session.helloSeen = true → later.helloSeen = true)
  sends : ∀ sent ∈ after.agents.sent, sent.message.isSnapshot = true →
    sent ∈ before.agents.sent ∨ call.Sends before.agents sent

variable {world before after next : World} {choice : Choice} {call : Call}
variable {sessionId : Id}

theorem Seated.elapse (seated : Seated world) (elapsed : Nat) :
    Seated (world.elapse elapsed) :=
  ⟨seated.disciplined, seated.drawn⟩

theorem Agents.mem_sent_of_carries {earlier later : Agents}
    (carries : earlier.Carries later) {sent : SentAgentMessage}
    (member : sent ∈ later.sent) (isSnapshot : sent.message.isSnapshot = true) :
    sent ∈ earlier.sent := by
  have found : sent ∈ later.snapshotsTo sent.sessionId := by
    simp [snapshotsTo, member, isSnapshot]
  rw [carries.snapshots] at found
  exact (List.mem_filter.mp found).1

namespace SessionStep

theorem of_same (seated : Seated world) (agents : next.agents = world.agents)
    (drawn : world.nextUUID ≤ next.nextUUID) : SessionStep call world next where
  seated := ⟨agents ▸ seated.disciplined, fun id session found =>
    (seated.drawn id session (agents ▸ found)).trans_le drawn⟩
  persists id session found :=
    ⟨session, agents ▸ found, rfl, rfl, fun seen => seen⟩
  sends sent member _ := .inl (agents ▸ member)

theorem of_carries {agents : Agents} (seated : Seated world)
    (disciplined : agents.Disciplined none)
    (carries : world.agents.Carries agents) :
    SessionStep call world { world with agents } where
  seated := by
    refine ⟨disciplined, ?_⟩
    intro id session found
    obtain ⟨earlier, present⟩ := carries.known id session found
    exact seated.drawn id earlier present
  persists := carries.persists
  sends _ member isSnapshot :=
    .inl (Agents.mem_sent_of_carries carries member isSnapshot)

theorem of_settles {step : Agents → Agents} (seated : Seated world)
    (settles : world.agents.Settles (step world.agents)) :
    SessionStep call world (world.onAgents step) := by
  obtain ⟨disciplined, eases⟩ := settles seated.disciplined
  exact of_carries seated disciplined eases.toCarries

theorem of_terminates {agents : Agents} {termination : Termination}
    (seated : Seated world)
    (terminates : world.agents.Terminates agents termination) :
    SessionStep call world { world with agents } where
  seated := by
    refine ⟨terminates.disciplined, ?_⟩
    intro id session found
    obtain ⟨earlier, present⟩ := terminates.eases.known id session found
    exact seated.drawn id earlier present
  persists := terminates.eases.persists
  sends _ member isSnapshot := .inl (Agents.mem_sent_of_carries
    terminates.eases.toCarries member isSnapshot)

/-- A message that goes out to a session. -/
theorem of_send {message : AgentMessage} (seated : Seated world)
    (sends : call.Sends world.agents ⟨sessionId, message⟩) :
    SessionStep call world (world.onAgents (·.send sessionId message)) where
  seated := by
    refine ⟨Agents.send_disciplined message seated.disciplined, ?_⟩
    intro id session found
    obtain ⟨sessions, -⟩ := Agents.send_sessions world.agents sessionId message
    exact seated.drawn id session (sessions ▸ found)
  persists id session found := by
    obtain ⟨sessions, -⟩ := Agents.send_sessions world.agents sessionId message
    exact ⟨session, sessions ▸ found, rfl, rfl, fun seen => seen⟩
  sends sent member _ := by
    simp only [World.onAgents, Agents.send] at member
    split at member
    · rcases List.mem_append.mp member with old | new
      · exact .inl old
      · rw [List.mem_singleton] at new
        subst new
        exact .inr sends
    · exact .inl member

theorem of_openSession {session : AgentSession} (seated : Seated world)
    (drawn : session.sessionId = world.nextUUID)
    (isOpen : session.closed = session.ended)
    (unseen : session.helloSeen = false) :
    SessionStep call world { world with
      nextUUID := world.nextUUID + 1
      agents := world.agents.setSession session } := by
  have fresh : world.agents.sessions session.sessionId = none := by
    cases found : world.agents.sessions session.sessionId with
    | none => rfl
    | some other =>
        have below := seated.drawn _ other found
        rw [drawn] at below
        exact absurd below (Nat.lt_irrefl _)
  refine ⟨⟨Agents.setSession_disciplined seated.disciplined fresh isOpen
    unseen, ?_⟩, ?_, fun _ member _ => .inl member⟩
  · intro id other found
    by_cases same : id = session.sessionId
    · rw [same, drawn]
      exact Nat.lt_succ_self _
    · simp only [Agents.setSession, Function.update_of_ne same] at found
      exact (seated.drawn id other found).trans (Nat.lt_succ_self _)
  · intro id other found
    have different : id ≠ session.sessionId := by
      rintro rfl
      rw [fresh] at found
      cases found
    refine ⟨other, ?_, rfl, rfl, fun seen => seen⟩
    simp only [Agents.setSession, Function.update_of_ne different]
    exact found

end SessionStep

theorem push_sessionStep {providerId : Id} {message : AgentMessage}
    (seated : Seated world) :
    SessionStep (.memory (.push providerId message)) world
      (world.onAgents (·.push providerId message)) := by
  cases registered : world.agents.byProvider providerId with
  | none =>
      have same : world.onAgents (·.push providerId message) = world := by
        simp [World.onAgents, Agents.push, registered]
      rw [same]
      exact .of_same seated rfl (Nat.le_refl _)
  | some active =>
      have same : world.onAgents (·.push providerId message) =
          world.onAgents (·.send active.sessionId message) := by
        simp [World.onAgents, Agents.push, registered]
      rw [same]
      exact .of_send seated (.pushed providerId active registered rfl)

theorem memory_sessionStep {call : MemoryCall} {answer : call.Answer}
    (seated : Seated world)
    (result : call.effect world = some (answer, next)) :
    SessionStep (.memory call) world next := by
  have inert (change : AgentSession → AgentSession)
      (isInert : Agents.Inert change) (id : Id) :
      SessionStep (.memory call) world (world.onAgents (·.modify id change)) :=
    .of_settles seated (Agents.modify_settles isInert)
  cases call with
  | join key => cases result; exact .of_same seated rfl (Nat.le_refl _)
  | turn key ticket =>
      simp only [MemoryCall.effect] at result
      split at result
      · cases result; exact .of_same seated rfl (Nat.le_refl _)
      · cases result
  | leave key ticket => cases result; exact .of_same seated rfl (Nat.le_refl _)
  | openSession providerId accountId tokenId now =>
      cases result
      exact .of_openSession seated rfl rfl rfl
  | process sessionId message now =>
      cases result
      have processed : world.agents.Processed sessionId message
          (world.agents.process sessionId message now) :=
        Agents.process_spec message now seated.disciplined
      exact .of_carries seated processed.disciplined processed.carries
  | recordConnected sessionId =>
      cases result
      apply inert
      constructor <;> exact fun _ => rfl
  | sendAgent sessionId message =>
      cases result
      exact .of_send seated .own
  | startHeartbeat sessionId seconds =>
      cases result
      apply inert
      constructor <;> exact fun _ => rfl
  | heartbeat sessionId now =>
      cases result
      exact .of_settles seated Agents.heartbeat_settles
  | terminate sessionId reason =>
      cases result
      exact .of_settles seated Agents.terminate_settles
  | finish sessionId =>
      cases result
      exact .of_settles seated Agents.finish_settles
  | closed sessionId =>
      simp only [MemoryCall.effect] at result
      split at result
      · cases result
      · cases result; exact .of_same seated rfl (Nat.le_refl _)
  | claimDisconnect sessionId =>
      cases result
      exact @SessionStep.of_settles world _
        (fun agents => (agents.claimDisconnect sessionId).2) seated
        Agents.claimDisconnect_settles
  | push providerId message =>
      cases result
      exact push_sessionStep seated
  | terminateByToken providerId tokenId reason =>
      cases result
      exact .of_terminates seated (Agents.terminateByToken_spec providerId
        tokenId reason seated.disciplined)
  | terminateByProvider providerId reason =>
      cases result
      exact .of_terminates seated (Agents.terminateByProvider_spec providerId
        reason seated.disciplined)
  | terminateByAccount accountId reason =>
      cases result
      exact .of_settles seated
        (Agents.terminateByAccount_settles _ accountId reason)

/-- The sessions are the business of memory calls alone. -/
theorem agents_frame {answer : Except Err call.Answer}
    (result : semantics call choice world = some (answer, next))
    (outer : ∀ awaited, call ≠ .memory awaited) :
    next.agents = world.agents := by
  refine semantics_frame World.agents (fun _ _ => rfl) ?_ result
  cases call with
  | store call => cases call <;> exact fun _ => rfl
  | redis call => exact call.effect_keeps _ fun _ _ => rfl
  | queue call => cases call <;> exact fun _ => rfl
  | hetzner call => exact call.effect_keeps _ fun _ _ => rfl
  | send channelType message => exact fun _ => rfl
  | clock call => exact fun _ _ _ => ClockCall.effect_keeps _ fun _ _ => rfl
  | process call => cases call <;> exact fun _ => rfl
  | memory call => exact absurd rfl (outer call)

/-- No identifier is drawn twice. -/
theorem draws_onward {answer : Except Err call.Answer}
    (result : semantics call choice world = some (answer, next))
    (outer : ∀ awaited, call ≠ .memory awaited) :
    world.nextUUID ≤ next.nextUUID := by
  by_cases drawing : call = .clock .randomUUID
  · subst drawing
    cases result
    exact Nat.le_succ _
  · apply Nat.le_of_eq
    symm
    refine semantics_frame World.nextUUID (fun _ _ => rfl) ?_ result
    cases call with
    | store call => cases call <;> exact fun _ => rfl
    | redis call => exact call.effect_keeps _ fun _ _ => rfl
    | queue call => cases call <;> exact fun _ => rfl
    | hetzner call => exact call.effect_keeps _ fun _ _ => rfl
    | send channelType message => exact fun _ => rfl
    | clock call =>
        intro before value after effect
        cases call with
        | dateNow => cases effect; rfl
        | sleepUntil wakeAt =>
            simp only [ClockCall.effect] at effect
            split at effect
            · cases effect; rfl
            · cases effect
        | randomUUID => exact absurd rfl drawing
    | process call => cases call <;> exact fun _ => rfl
    | memory call => exact absurd rfl (outer call)

/-! ## What a memory call does to the sessions -/

/-- The call posts this message. -/
inductive MemoryCall.Posts (before : Agents) (sent : SentAgentMessage) :
    MemoryCall → Prop where
  | own : Posts before sent (.sendAgent sent.sessionId sent.message)
  | pushed {providerId active}
      (registered : before.byProvider providerId = some active)
      (same : active.sessionId = sent.sessionId) :
      Posts before sent (.push providerId sent.message)
  | beat {now session seconds}
      (found : before.sessions sent.sessionId = some session)
      (beats : session.heartbeatSeconds = some seconds) :
      Posts before sent (.heartbeat sent.sessionId now)

/-- With this answer the call has done more than to send and to close. -/
def MemoryCall.stirs : (call : MemoryCall) → call.Answer → Bool
  | .openSession _ _ _ _, _ => true
  | .process _ _ _, .connected _ => true
  | .recordConnected _, _ => true
  | .startHeartbeat _ _, _ => true
  | .claimDisconnect _, true => true
  | .terminateByAccount _ _, _ => true
  | _, _ => false

/-- What a call has done to the sessions when it is answered so. -/
inductive MemoryCall.Does (before after : Agents) :
    (call : MemoryCall) → call.Answer → Prop where
  | calm {call answer} (still : call.stirs answer = false)
      (calm : Agents.Calm (fun sent => call.Posts before sent) before after) :
      Does before after call answer
  | opened {providerId accountId tokenId now answer} (sessionId : Id)
      (fresh : before.sessions sessionId = none)
      (opens : after = before.setSession
        { providerId
          accountId
          sessionId
          tokenId
          lastReceivedAt := now }) :
      Does before after (.openSession providerId accountId tokenId now) answer
  | greeted {message now data} (session : AgentSession)
      (ofSession : data.sessionId = session.sessionId)
      (hello : message.isWelcome = true)
      (greets : before.Greets after session now) :
      Does before after (.process session.sessionId message now)
        (.connected data)
  | recorded {sessionId answer}
      (marks : after =
        before.modify sessionId ({ · with connectedRecorded := true })) :
      Does before after (.recordConnected sessionId) answer
  | started {sessionId seconds answer}
      (marks : after = before.modify sessionId
        ({ · with heartbeatSeconds := some seconds })) :
      Does before after (.startHeartbeat sessionId seconds) answer
  | claimed {sessionId session}
      (found : before.sessions sessionId = some session)
      (recorded : session.connectedRecorded = true)
      (unclaimed : session.disconnectRecorded = false)
      (marks : after =
        before.modify sessionId ({ · with disconnectRecorded := true })) :
      Does before after (.claimDisconnect sessionId) true
  | expelled {accountId reason answer}
      (closes : after = before.terminateByAccount accountId reason) :
      Does before after (.terminateByAccount accountId reason) answer

theorem memory_does {call : MemoryCall} {answer : call.Answer}
    (seated : Seated world) (introduced : world.agents.Introduced)
    (result : call.effect world = some (answer, next)) :
    call.Does world.agents next.agents answer := by
  have disciplined := seated.disciplined
  have closing {may : SentAgentMessage → Prop} {agents : Agents}
      (acts : Agents.Acts (fun _ => False) world.agents agents) :
      Agents.Calm may world.agents agents := by
    apply acts.calm.mono
    intro sent impossible
    exact impossible.elim
  cases call with
  | join key => cases result; exact .calm rfl (.refl _)
  | turn key ticket =>
      simp only [MemoryCall.effect] at result
      split at result
      · cases result; exact .calm rfl (.refl _)
      · cases result
  | leave key ticket => cases result; exact .calm rfl (.refl _)
  | openSession providerId accountId tokenId now =>
      cases result
      apply MemoryCall.Does.opened world.nextUUID _ rfl
      cases found : world.agents.sessions world.nextUUID with
      | none => rfl
      | some other =>
          exact absurd (seated.drawn _ other found) (Nat.lt_irrefl _)
  | process sessionId message now =>
      have moves := @Agents.process_moves world.agents sessionId message now
        introduced disciplined
      have answered : (world.agents.process sessionId message now).1 =
          answer := congrArg Prod.fst (Option.some.inj result)
      have same : (world.agents.process sessionId message now).2 =
          next.agents :=
        congrArg (·.2.agents) (Option.some.inj result)
      rw [answered, same] at moves
      rcases moves with
        ⟨session, data, rfl, rfl, ofSession, hello, greets⟩ |
        ⟨notConnected, acts, -⟩
      · exact .greeted session ofSession hello greets
      · refine .calm ?_ (closing acts)
        cases answer with
        | connected data => exact absurd rfl (notConnected data)
        | _ => rfl
  | recordConnected sessionId => cases result; exact .recorded rfl
  | sendAgent sessionId message =>
      cases result
      exact .calm rfl (Agents.send_calm .own)
  | startHeartbeat sessionId seconds => cases result; exact .started rfl
  | heartbeat sessionId now =>
      cases result
      apply MemoryCall.Does.calm rfl
      apply (Agents.heartbeat_acts disciplined).calm.mono
      intro sent beats
      obtain ⟨rfl, session, seconds, found, beats⟩ := beats
      exact .beat found beats
  | terminate sessionId reason =>
      cases result
      exact .calm rfl (closing (Agents.terminate_acts disciplined))
  | finish sessionId =>
      cases result
      exact .calm rfl (closing (Agents.finish_acts disciplined))
  | closed sessionId =>
      simp only [MemoryCall.effect] at result
      split at result
      · cases result
      · cases result; exact .calm rfl (.refl _)
  | claimDisconnect sessionId =>
      simp only [MemoryCall.effect, Agents.claimDisconnect] at result
      split at result
      · rename_i unclaimed
        cases result
        cases found : world.agents.sessions sessionId with
        | none => simp [found] at unclaimed
        | some session =>
            rw [found] at unclaimed
            simp only [Option.any_some, Bool.and_eq_true,
              Bool.not_eq_true'] at unclaimed
            exact .claimed found unclaimed.1 unclaimed.2 rfl
      · cases result
        exact .calm rfl (.refl _)
  | push providerId message =>
      cases result
      apply MemoryCall.Does.calm rfl
      apply Agents.push_acts.calm.mono
      intro sent pushes
      obtain ⟨rfl, active, registered, same⟩ := pushes
      exact .pushed registered same
  | terminateByToken providerId tokenId reason =>
      cases result
      exact .calm rfl (closing (Agents.terminateByToken_acts disciplined))
  | terminateByProvider providerId reason =>
      cases result
      exact .calm rfl (closing (Agents.terminateByProvider_acts disciplined))
  | terminateByAccount accountId reason => cases result; exact .expelled rfl

theorem MemoryCall.Does.progress {call : MemoryCall} {answer : call.Answer}
    {earlier later : Agents} (disciplined : earlier.Disciplined none)
    (does : call.Does earlier later answer) : earlier.Progress later := by
  cases does with
  | calm still calm => exact calm.progress
  | opened sessionId fresh opens =>
      rw [opens]
      exact Agents.opening_progress fresh
  | greeted session ofSession hello greets => exact greets.progress
  | recorded marks =>
      rw [marks]
      apply Agents.modify_progress
      exact fun _ => ⟨rfl, rfl, rfl, rfl, id, id, id, fun _ => rfl,
        fun _ => rfl, id⟩
  | started marks =>
      rw [marks]
      apply Agents.modify_progress
      exact fun _ => ⟨rfl, rfl, rfl, rfl, id, id, id, fun _ => rfl, id, id⟩
  | claimed found recorded unclaimed marks =>
      rw [marks]
      apply Agents.modify_progress
      exact fun _ => ⟨rfl, rfl, rfl, rfl, id, id, id, fun _ => rfl, id,
        fun _ => rfl⟩
  | expelled closes =>
      rw [closes]
      exact Agents.terminateByAccount_progress disciplined

/-- What any call has done to the sessions: nothing, unless it is a step in
the memory of the process. -/
def Call.Does (before after : Agents) :
    (call : Call) → Except Err call.Answer → Prop
  | .memory call, answer =>
      ∃ value, answer = .ok value ∧ call.Does before after value
  | _, _ => after = before

theorem call_does {answer : Except Err call.Answer} (seated : Seated world)
    (introduced : world.agents.Introduced)
    (result : semantics call choice world = some (answer, next)) :
    call.Does world.agents next.agents answer := by
  cases call with
  | memory awaited =>
      obtain ⟨⟨value, after⟩, effect, same⟩ :=
        Option.map_eq_some_iff.mp result
      cases same
      have does : awaited.Does (world.elapse choice.elapsed).agents
          after.agents value :=
        memory_does (seated.elapse choice.elapsed) introduced effect
      exact ⟨value, rfl, does⟩
  | _ => exact agents_frame result (by rintro awaited ⟨⟩)

/-- Across every call messages stay sent and sessions go on. -/
theorem Call.Does.progress {answer : Except Err call.Answer}
    {earlier later : Agents} (disciplined : earlier.Disciplined none)
    (does : call.Does earlier later answer) : earlier.Progress later := by
  cases call with
  | memory awaited =>
      obtain ⟨value, -, does⟩ := does
      exact does.progress disciplined
  | _ =>
      have same : later = earlier := does
      rw [same]
      exact .refl earlier

theorem MemoryCall.Does.introduced {call : MemoryCall} {answer : call.Answer}
    {earlier later : Agents} (disciplined : earlier.Disciplined none)
    (introduced : earlier.Introduced)
    (does : call.Does earlier later answer) : later.Introduced := by
  have progress := does.progress disciplined
  intro providerId active registered
  have known (same : earlier.byProvider providerId = some active) :
      later.Greeted active.sessionId :=
    progress.greeted (introduced providerId active same)
  cases does with
  | calm still calm => exact known (calm.shrinks providerId active registered)
  | opened sessionId fresh opens =>
      rw [opens] at registered
      exact known registered
  | greeted session ofSession hello greets =>
      by_cases same : providerId = session.providerId
      · rw [same, greets.entry] at registered
        cases registered
        exact ⟨_, greets.own, rfl⟩
      · rw [greets.elsewhere providerId same] at registered
        exact known registered
  | recorded marks =>
      rw [marks] at registered
      exact known registered
  | started marks =>
      rw [marks] at registered
      exact known registered
  | claimed found recorded unclaimed marks =>
      rw [marks] at registered
      exact known registered
  | expelled closes =>
      rw [closes] at registered
      exact known
        (Agents.terminateByAccount_registered disciplined registered).1

/-- Whatever is called, those registered have said hello. -/
theorem Call.Does.introduced {answer : Except Err call.Answer}
    {earlier later : Agents} (disciplined : earlier.Disciplined none)
    (introduced : earlier.Introduced)
    (does : call.Does earlier later answer) : later.Introduced := by
  cases call with
  | memory awaited =>
      obtain ⟨value, -, does⟩ := does
      exact does.introduced disciplined introduced
  | _ =>
      have same : later = earlier := does
      rw [same]
      exact introduced

/-! ## What becomes of a session -/

/-- What becomes of a session when a call is answered so. -/
inductive Develops (sessionId : Id) (session : AgentSession) :
    Answered backend Err → AgentSession → Prop where
  | keeps {answered later} (keeps : Agents.Keeps session later) :
      Develops sessionId session answered later
  | greeted {message now data} (unseen : session.helloSeen = false) :
      Develops sessionId session
        (@Answered.mk backend Err (.memory (.process sessionId message now))
          (.ok (.connected data)))
        { session with lastReceivedAt := now, helloSeen := true }
  | recorded {answer} :
      Develops sessionId session
        (@Answered.mk backend Err (.memory (.recordConnected sessionId)) answer)
        { session with connectedRecorded := true }
  | started {seconds answer} :
      Develops sessionId session
        (@Answered.mk backend Err
          (.memory (.startHeartbeat sessionId seconds)) answer)
        { session with heartbeatSeconds := some seconds }
  | claimed (recorded : session.connectedRecorded = true)
      (unclaimed : session.disconnectRecorded = false) :
      Develops sessionId session
        (@Answered.mk backend Err (.memory (.claimDisconnect sessionId))
          (.ok true))
        { session with disconnectRecorded := true }

/-- A session that is there after a call was opened by it, or was there. -/
inductive Stems (before : Agents) (sessionId : Id)
    (answered : Answered backend Err) (later : AgentSession) : Prop where
  | opened (absent : before.sessions sessionId = none)
      (isOpen : later.ended = false) (unseen : later.helloSeen = false)
      (unrecorded : later.connectedRecorded = false)
      (unclaimed : later.disconnectRecorded = false)
      (still : later.heartbeatSeconds = none)
  | developed (session : AgentSession)
      (found : before.sessions sessionId = some session)
      (develops : Develops sessionId session answered later)

theorem stems_of_modify {agents : Agents} {id : Id} {later : AgentSession}
    {change : AgentSession → AgentSession} {answered : Answered backend Err}
    (found : (agents.modify id change).sessions sessionId = some later)
    (develops : ∀ session, agents.sessions id = some session →
      Develops id session answered (change session)) :
    Stems agents sessionId answered later := by
  by_cases own : sessionId = id
  · subst own
    simp only [Agents.modify, Function.update_self,
      Option.map_eq_some_iff] at found
    obtain ⟨session, present, rfl⟩ := found
    exact .developed session present (develops session present)
  · simp only [Agents.modify, Function.update_of_ne own] at found
    exact .developed later found (.keeps (.refl later))

theorem MemoryCall.Does.stems {call : MemoryCall} {answer : call.Answer}
    {earlier later : Agents} {session : AgentSession}
    (disciplined : earlier.Disciplined none)
    (does : call.Does earlier later answer)
    (found : later.sessions sessionId = some session) :
    Stems earlier sessionId
      (@Answered.mk backend Err (.memory call) (.ok answer)) session := by
  cases does with
  | calm still calm =>
      obtain ⟨before, present, keeps⟩ := calm.earlier found
      exact .developed before present (.keeps keeps)
  | opened id fresh opens =>
      rw [opens] at found
      by_cases own : sessionId = id
      · subst own
        simp only [Agents.setSession, Function.update_self,
          Option.some.injEq] at found
        subst found
        exact .opened fresh rfl rfl rfl rfl rfl
      · simp only [Agents.setSession, Function.update_of_ne own] at found
        exact .developed session found (.keeps (.refl session))
  | greeted own ofSession hello greets =>
      by_cases same : sessionId = own.sessionId
      · subst same
        rw [greets.own] at found
        cases found
        exact .developed own greets.found (.greeted greets.unseen)
      · cases present : earlier.sessions sessionId with
        | none =>
            have absent := greets.known sessionId present
            rw [found] at absent
            cases absent
        | some before =>
            obtain ⟨other, stored, keeps⟩ :=
              greets.goesOn sessionId before same present
            cases found.symm.trans stored
            exact .developed before present (.keeps keeps)
  | recorded marks =>
      rw [marks] at found
      exact stems_of_modify found fun _ _ => .recorded
  | started marks =>
      rw [marks] at found
      exact stems_of_modify found fun _ _ => .started
  | claimed present recorded unclaimed marks =>
      rw [marks] at found
      apply stems_of_modify found
      intro other stored
      cases present.symm.trans stored
      exact .claimed recorded unclaimed
  | @expelled accountId reason answer closes =>
      rw [closes] at found
      rcases Agents.terminateByAccount_session found with closed | ⟨same, -⟩
      · have acts : Agents.Acts (fun _ => True) earlier
            (earlier.close sessionId reason) := Agents.close_acts disciplined
        obtain ⟨before, present, keeps⟩ := acts.calm.earlier closed
        exact .developed before present (.keeps keeps)
      · exact .developed session same (.keeps (.refl session))

/-- Where a session comes from that is there after a call. -/
theorem Call.Does.stems {answer : Except Err call.Answer}
    {earlier later : Agents} {session : AgentSession}
    (disciplined : earlier.Disciplined none)
    (does : call.Does earlier later answer)
    (found : later.sessions sessionId = some session) :
    Stems earlier sessionId ⟨call, answer⟩ session := by
  cases call with
  | memory awaited =>
      obtain ⟨value, rfl, does⟩ := does
      exact does.stems disciplined found
  | _ =>
      have same : later = earlier := does
      rw [same] at found
      exact .developed session found (.keeps (.refl session))

/-- A hello is seen in the step that takes it. -/
theorem Stems.helloSeen {before : Agents} {answered : Answered backend Err}
    {later : AgentSession} (stems : Stems before sessionId answered later)
    (seen : later.helloSeen = true) :
    (∃ session, before.sessions sessionId = some session ∧
      session.helloSeen = true) ∨
    ∃ message now data, answered = @Answered.mk backend Err
      (.memory (.process sessionId message now)) (.ok (.connected data)) := by
  cases stems with
  | opened absent isOpen unseen =>
      rw [unseen] at seen
      cases seen
  | developed session found develops =>
      cases develops with
      | keeps keeps => exact .inl ⟨session, found, keeps.sameHello ▸ seen⟩
      | @greeted message now data unseen =>
          exact .inr ⟨message, now, data, rfl⟩
      | _ => exact .inl ⟨session, found, seen⟩

/-- A heartbeat starts in the step that starts it. -/
theorem Stems.heartbeat {before : Agents} {answered : Answered backend Err}
    {later : AgentSession} {seconds : Nat}
    (stems : Stems before sessionId answered later)
    (beats : later.heartbeatSeconds = some seconds) :
    (∃ session, before.sessions sessionId = some session ∧
      session.heartbeatSeconds = some seconds) ∨
    ∃ answer, answered = @Answered.mk backend Err
      (.memory (.startHeartbeat sessionId seconds)) answer := by
  cases stems with
  | opened absent isOpen unseen unrecorded unclaimed still =>
      rw [still] at beats
      cases beats
  | developed session found develops =>
      cases develops with
      | keeps keeps =>
          rcases keeps.heartbeat with same | stopped
          · exact .inl ⟨session, found, same ▸ beats⟩
          · rw [stopped] at beats
            cases beats
      | @started started answer =>
          cases beats
          exact .inr ⟨answer, rfl⟩
      | _ => exact .inl ⟨session, found, beats⟩

/-- A connect is noted in the step that notes it. -/
theorem Stems.connectedRecorded {before : Agents}
    {answered : Answered backend Err} {later : AgentSession}
    (stems : Stems before sessionId answered later)
    (recorded : later.connectedRecorded = true) :
    (∃ session, before.sessions sessionId = some session ∧
      session.connectedRecorded = true) ∨
    ∃ answer, answered = @Answered.mk backend Err
      (.memory (.recordConnected sessionId)) answer := by
  cases stems with
  | opened absent isOpen unseen unrecorded =>
      rw [unrecorded] at recorded
      cases recorded
  | developed session found develops =>
      cases develops with
      | keeps keeps => exact .inl ⟨session, found, keeps.sameConnect ▸ recorded⟩
      | @recorded answer => exact .inr ⟨answer, rfl⟩
      | _ => exact .inl ⟨session, found, recorded⟩

/-- A disconnect is claimed in the step that claims it. -/
theorem Stems.disconnectRecorded {before : Agents}
    {answered : Answered backend Err} {later : AgentSession}
    (stems : Stems before sessionId answered later)
    (claimed : later.disconnectRecorded = true) :
    (∃ session, before.sessions sessionId = some session ∧
      session.disconnectRecorded = true) ∨
    answered = @Answered.mk backend Err (.memory (.claimDisconnect sessionId))
      (.ok true) := by
  cases stems with
  | opened absent isOpen unseen unrecorded unclaimed =>
      rw [unclaimed] at claimed
      cases claimed
  | developed session found develops =>
      cases develops with
      | keeps keeps =>
          exact .inl ⟨session, found, keeps.sameDisconnect ▸ claimed⟩
      | claimed => exact .inr rfl
      | _ => exact .inl ⟨session, found, claimed⟩

/-! ## Sessions their handlers have given up -/

theorem memory_reasoned {call : MemoryCall} {answer : call.Answer}
    (seated : Seated world) (reasoned : world.agents.Reasoned)
    (result : call.effect world = some (answer, next)) :
    next.agents.Reasoned := by
  have disciplined := seated.disciplined
  have noted (termination : Termination) :
      (world.agents.note termination).Reasoned := reasoned
  have closing {agents : Agents} {id : Id} {reason : CloseReason}
      (disciplined : agents.Disciplined none) (reasoned : agents.Reasoned) :
      (agents.close id reason).Reasoned :=
    (Agents.close_shuts disciplined).reasoned reasoned
  cases call with
  | join key => cases result; exact reasoned
  | turn key ticket =>
      simp only [MemoryCall.effect] at result
      split at result
      · cases result; exact reasoned
      · cases result
  | leave key ticket => cases result; exact reasoned
  | openSession providerId accountId tokenId now =>
      cases result
      intro id session found given
      by_cases same : id = world.nextUUID
      · subst same
        simp only [Agents.setSession, Function.update_self,
          Option.some.injEq] at found
        subst found
        cases given
      · simp only [Agents.setSession, Function.update_of_ne same] at found
        exact reasoned id session found given
  | process sessionId message now =>
      cases result
      exact Agents.process_reasoned disciplined reasoned
  | recordConnected sessionId =>
      cases result
      exact Agents.modify_reasoned (fun _ => rfl) (fun _ => rfl) reasoned
  | sendAgent sessionId message =>
      cases result
      exact Agents.send_reasoned reasoned
  | startHeartbeat sessionId seconds =>
      cases result
      exact Agents.modify_reasoned (fun _ => rfl) (fun _ => rfl) reasoned
  | heartbeat sessionId now =>
      cases result
      exact Agents.heartbeat_reasoned disciplined reasoned
  | terminate sessionId reason =>
      cases result
      exact Agents.terminate_reasoned disciplined reasoned
  | finish sessionId =>
      cases result
      exact (Agents.finish_shuts disciplined).reasoned reasoned
  | closed sessionId =>
      simp only [MemoryCall.effect] at result
      split at result
      · cases result
      · cases result; exact reasoned
  | claimDisconnect sessionId =>
      simp only [MemoryCall.effect, Agents.claimDisconnect] at result
      split at result
      · cases result
        exact Agents.modify_reasoned (fun _ => rfl) (fun _ => rfl) reasoned
      · cases result
        exact reasoned
  | push providerId message =>
      cases result
      simp only [World.onAgents, Agents.push]
      split
      · exact reasoned
      · exact Agents.send_reasoned reasoned
  | terminateByToken providerId tokenId reason =>
      cases result
      simp only [World.onAgents, Agents.terminateByToken]
      split
      · exact noted _
      split
      · exact noted _
      · exact closing (Agents.note_disciplined _ disciplined) (noted _)
  | terminateByProvider providerId reason =>
      cases result
      simp only [World.onAgents, Agents.terminateByProvider]
      split
      · exact noted _
      · exact closing (Agents.note_disciplined _ disciplined) (noted _)
  | terminateByAccount accountId reason =>
      cases result
      exact Agents.terminateByAccount_reasoned disciplined reasoned

theorem call_reasoned {answer : Except Err call.Answer}
    (seated : Seated world) (reasoned : world.agents.Reasoned)
    (result : semantics call choice world = some (answer, next)) :
    next.agents.Reasoned := by
  by_cases outer : ∀ awaited, call ≠ .memory awaited
  · rw [agents_frame result outer]
    exact reasoned
  · simp only [not_forall, not_not] at outer
    obtain ⟨awaited, rfl⟩ := outer
    obtain ⟨⟨value, after⟩, effect, same⟩ :=
      Option.map_eq_some_iff.mp result
    cases same
    exact memory_reasoned (seated.elapse choice.elapsed) reasoned effect

/-- Of a message that is not only dropped, the session has said hello. -/
theorem process_step {message : AgentMessage} {now : Timestamp}
    {processing : Agents.Processing} (seated : Seated world)
    (introduced : world.agents.Introduced)
    (result : semantics (.memory (.process sessionId message now)) choice
      world = some (.ok processing, next))
    (goesOn : processing ≠ .finished)
    (taken : ∀ data, processing ≠ .connected data) :
    ∃ session, world.agents.sessions sessionId = some session ∧
      session.helloSeen = true ∧ session.closed = false := by
  have moves := @Agents.process_moves world.agents sessionId message now
    introduced seated.disciplined
  have answered : (world.agents.process sessionId message now).1 =
      processing :=
    Except.ok.inj (congrArg Prod.fst (Option.some.inj result))
  rw [answered] at moves
  rcases moves with ⟨_, data, -, connected, -⟩ | ⟨-, -, going⟩
  · exact absurd connected (taken data)
  · exact going goesOn

theorem terminate_step {reason : CloseReason} {answer : Except Err Unit}
    {session : AgentSession} (seated : Seated world)
    (reasoned : world.agents.Reasoned)
    (result : semantics (.memory (.terminate sessionId reason)) choice world =
      some (answer, next))
    (found : next.agents.sessions sessionId = some session) :
    session.ended = true := by
  have same : world.agents.terminate sessionId reason = next.agents :=
    congrArg (·.2.agents) (Option.some.inj result)
  rw [← same] at found
  exact Agents.terminate_ends seated.disciplined reasoned found

/-- What every call does to the sessions. -/
theorem call_sessionStep {answer : Except Err call.Answer}
    (seated : Seated world)
    (result : semantics call choice world = some (answer, next)) :
    SessionStep call world next := by
  by_cases outer : ∀ awaited, call ≠ .memory awaited
  · exact .of_same seated (agents_frame result outer)
      (draws_onward result outer)
  · simp only [not_forall, not_not] at outer
    obtain ⟨awaited, rfl⟩ := outer
    obtain ⟨⟨value, after⟩, effect, same⟩ :=
      Option.map_eq_some_iff.mp result
    cases same
    have step : SessionStep (.memory awaited) (world.elapse choice.elapsed)
        after := memory_sessionStep (seated.elapse _) effect
    exact ⟨step.seated, step.persists, step.sends⟩

end FluxIP
