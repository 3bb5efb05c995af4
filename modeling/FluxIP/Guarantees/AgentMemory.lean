import FluxIP.Adapters.Sending
import FluxIP.Adapters.SessionMemory
import FluxIP.Agent.Agent
import FluxIP.Guarantees.PublishedVersions

/-!
# The agent never goes back

The backend and one agent process, which is sent the messages of its provider's
sessions: each may be lost, arrive late, out of order or several times.  What
the agent keeps as applied is what the provider's stream says was published
under that version.
-/

namespace FluxIP

open Async

/-! ## The backend and the agent -/

structure AgentSystem where
  pool : SnapshotPool
  agent : Agent

/-- What can happen next.  `deliver` hands the agent a message that was sent to
some session, at this position among all that were sent so far. -/
inductive AgentEvent where
  | backend (move : Move SnapshotRequest Choice)
  | deliver (index : Nat) (now : Timestamp) (applied : ApplyResult)
      (check : Option (List String → TraefikCheckResult))
  | connected
  | disconnected (now : Timestamp)
  | tick (now : Timestamp) (applied : ApplyResult)
  | reload (now : Timestamp) (loaded : Except String (List AgentTemplate))

namespace AgentSystem

/-- The snapshot at this position, if it went to a session of the provider. -/
def messageAt (system : AgentSystem) (providerId : Id) (index : Nat) :
    Option SnapshotPayload :=
  match system.pool.state.agents.sent[index]? with
  | some ⟨sessionId, .snapshot payload⟩ =>
      if (system.pool.state.agents.sessions sessionId).any
          (·.providerId = providerId) then some payload
      else none
  | _ => none

def step (deps : BackendDeps) (providerId : Id) (system : AgentSystem) :
    AgentEvent → Option AgentSystem
  | .backend move =>
      (system.pool.step (snapshotService deps) move).map
        fun pool => { system with pool }
  | .deliver index now applied check =>
      (system.messageAt providerId index).map fun payload =>
        { system with
          agent := (system.agent.onSnapshot payload now applied check).2 }
  | .connected => some { system with agent := system.agent.onConnected }
  | .disconnected now =>
      some { system with agent := system.agent.onDisconnected now }
  | .tick now applied =>
      some { system with agent := (system.agent.tick now applied).2 }
  | .reload now loaded =>
      some { system with agent := (system.agent.reload now loaded).2 }

/-- One event, which deletes no account. -/
def Steps (deps : BackendDeps) (providerId : Id)
    (before after : AgentSystem) : Prop :=
  ∃ event, before.step deps providerId event = some after ∧
    ∀ move, event = .backend move → NoDeletion before.pool move

end AgentSystem

/-! ## What sessions are sent was published -/

variable {deps : BackendDeps} {pool next : SnapshotPool}

/-- What a program of the pool may send. -/
def MaySend (deps : BackendDeps) (request : SnapshotRequest)
    (history : BackendHistory) (call : Call) : Prop :=
  ∀ providerId, Sending deps.providers.server.publisher
    request.command.decidesLike providerId history call

theorem SnapshotRequest.sends (request : SnapshotRequest) :
    (request.command.program deps request.now).Traces (MaySend deps request)
      anyEnd [] := by
  obtain ⟨number, now, command⟩ := request
  apply Program.Traces.all
  intro providerId
  cases command with
  | publish accountId owner causationId absorbedCausationIds =>
      apply (publish_vouched rfl).bind
      · exact fun _ _ _ => trivial
      · exact fun _ _ _ => trivial
  | backend command =>
      apply (command_sends deps now command providerId).bind
      · exact fun _ _ _ => trivial
      · exact fun _ _ _ => trivial

/-- A program that handles a message of a session knows whose session it is,
and the snapshots sent to a session were published for its provider. -/
structure Delivering (deps : BackendDeps) (pool : SnapshotPool) : Prop where
  seated : Seated pool.state
  handles : ∀ thread ∈ pool.threads, ∀ auth sessionId received,
    thread.request.command.decidesLike =
      .provider (.message auth sessionId received) →
    ∃ session, pool.state.agents.sessions sessionId = some session ∧
      session.providerId = auth.providerId
  published : ∀ sent ∈ pool.state.agents.sent, ∀ payload,
    sent.message = .snapshot payload →
    ∃ session, pool.state.agents.sessions sent.sessionId = some session ∧
      PublishedAs deps.providers.server.publisher pool.state.store
        session.providerId payload.version payload.toSnapshotContent

theorem PublishedAs.mono {deps : SnapshotPublisherDeps}
    {before after : EventStore} (grows : before.Extends after)
    {providerId : Id} {version : Nat} {content : SnapshotContent}
    (published : PublishedAs deps before providerId version content) :
    PublishedAs deps after providerId version content := by
  obtain ⟨event, member, last, rest⟩ := published
  refine ⟨event, ?_, last, rest⟩
  exact (grows.stream_prefix _ _).subset member

theorem Consistent.vouched (consistent : Consistent pool)
    {thread : Thread backend Err SnapshotRequest SnapshotAnswer}
    (member : thread ∈ pool.threads) {deps : SnapshotPublisherDeps}
    {providerId : Id} {payload : SnapshotPayload}
    (vouched : Vouched deps providerId payload thread.history) :
    PublishedAs deps pool.state.store providerId payload.version
      payload.toSnapshotContent := by
  obtain ⟨accountId, result, since, rfl, within, certified⟩ := vouched
  exact consistent.publishedAs member within certified

/-- What a call sends was published for the provider of the session. -/
theorem Delivering.sends (delivering : Delivering deps pool)
    (consistent : Consistent pool) {index : Nat} {request : SnapshotRequest}
    {history : BackendHistory} {call : Call}
    {resume : Except Err call.Answer → Backend SnapshotAnswer}
    (found : pool.threads[index]? = some ⟨request, history, .await call resume⟩)
    (may : MaySend deps request history call) {sent : SentAgentMessage}
    (sends : call.Sends pool.state.agents sent) {payload : SnapshotPayload}
    (carries : sent.message = .snapshot payload) :
    ∃ session, pool.state.agents.sessions sent.sessionId = some session ∧
      PublishedAs deps.providers.server.publisher pool.state.store
        session.providerId payload.version payload.toSnapshotContent := by
  have member := List.mem_of_getElem? found
  obtain ⟨sessionId, message⟩ := sent
  cases carries
  cases sends with
  | own =>
      obtain ⟨auth, received, isMessage, -⟩ :=
        (may 0).own sessionId payload rfl
      obtain ⟨session, present, ofProvider⟩ :=
        delivering.handles _ member auth sessionId received isMessage
      obtain ⟨_, _, same, vouched⟩ :=
        (may auth.providerId).own sessionId payload rfl
      cases isMessage.symm.trans same
      refine ⟨session, present, ?_⟩
      rw [ofProvider]
      exact consistent.vouched member (vouched rfl)
  | pushed providerId active registered same =>
      obtain ⟨session, present, -, ofProvider, -⟩ :=
        delivering.seated.disciplined.registered providerId active registered
      dsimp only at same
      rw [same] at present
      refine ⟨session, present, ?_⟩
      rw [ofProvider]
      exact consistent.vouched member ((may providerId).pushed payload rfl)

theorem Delivering.step {move : Move SnapshotRequest Choice}
    (delivering : Delivering deps pool) (consistent : Consistent pool)
    (sending : pool.Traced (MaySend deps))
    (grows : pool.state.store.Extends next.state.store)
    (moved : pool.step (snapshotService deps) move = some next) :
    Delivering deps next := by
  cases move with
  | start request =>
      obtain ⟨admitted, -, rfl⟩ := Pool.step_start moved
      refine ⟨delivering.seated, ?_, delivering.published⟩
      intro thread member auth sessionId received isMessage
      rcases List.mem_append.mp member with old | new
      · exact delivering.handles thread old auth sessionId received isMessage
      · rw [List.mem_singleton] at new
        subst new
        obtain ⟨number, now, command⟩ := request
        cases command with
        | publish accountId owner causationId absorbed => cases isMessage
        | backend command =>
            have same : command = .provider (.message auth sessionId
              received) := isMessage
            subst same
            have isOpen : pool.state.agents.isOpen auth sessionId = true :=
              admitted
            unfold Agents.isOpen at isOpen
            cases present : pool.state.agents.sessions sessionId with
            | none =>
                rw [present] at isOpen
                cases isOpen
            | some session =>
                rw [present] at isOpen
                exact ⟨session, rfl, (of_decide_eq_true isOpen).2.1⟩
  | advance index choice =>
      obtain ⟨request, history, call, resume, answer, world, found, result,
        rfl⟩ := Pool.step_advance moved
      have session : SessionStep call pool.state world :=
        call_sessionStep delivering.seated result
      have stays : ∀ id providerId,
          (∃ session, pool.state.agents.sessions id = some session ∧
            session.providerId = providerId) →
          ∃ later, world.agents.sessions id = some later ∧
            later.providerId = providerId := by
        rintro id providerId ⟨earlier, present, rfl⟩
        obtain ⟨later, found, sameProvider, -⟩ :=
          session.persists id earlier present
        exact ⟨later, found, sameProvider⟩
      refine ⟨session.seated, ?_, ?_⟩
      · intro thread member auth sessionId received isMessage
        apply stays
        rcases List.mem_or_eq_of_mem_set member with old | rfl
        · exact delivering.handles thread old auth sessionId received isMessage
        · exact delivering.handles _ (List.mem_of_getElem? found) auth
            sessionId received isMessage
      · intro sent member payload carries
        have before : ∃ session,
            pool.state.agents.sessions sent.sessionId = some session ∧
            PublishedAs deps.providers.server.publisher pool.state.store
              session.providerId payload.version
              payload.toSnapshotContent := by
          rcases session.sends sent member (by rw [carries]; rfl) with
            old | sends
          · exact delivering.published sent old payload carries
          · exact delivering.sends consistent found
              (sending _ (List.mem_of_getElem? found)).1 sends carries
        obtain ⟨earlier, present, published⟩ := before
        obtain ⟨later, stillThere, sameProvider, -⟩ :=
          session.persists sent.sessionId earlier present
        refine ⟨later, stillThere, ?_⟩
        rw [sameProvider]
        exact published.mono grows

/-! ## The invariant -/

/-- What holds of the backend and the agent in every state. -/
structure Faithful (deps : BackendDeps) (providerId : Id)
    (system : AgentSystem) : Prop where
  consistent : Consistent system.pool
  traced : system.pool.Traced (MayCall deps)
  sending : system.pool.Traced (MaySend deps)
  delivering : Delivering deps system.pool
  fresh : system.agent.haveApplied = false → system.agent.appliedVersion = 0
  applied : system.agent.haveApplied = true → ∃ last,
    system.agent.last = some last ∧
    last.version = system.agent.appliedVersion ∧
    PublishedAs deps.providers.server.publisher system.pool.state.store
      providerId last.version last.toSnapshotContent

namespace Faithful

variable {providerId : Id} {system after : AgentSystem}

theorem create {world : World} {version : String} {maxOffline : Nat}
    {now : Timestamp} (sequenced : world.store.Sequenced)
    (alternating : ∀ providerId, Alternating world.store providerId)
    (idle : ∀ key, world.mutexes.waiting key = [])
    (noSession : world.agents = {}) :
    Faithful deps providerId
      ⟨⟨world, []⟩, .create version maxOffline now⟩ where
  consistent := .initial sequenced alternating idle
  traced _ member := by cases member
  sending _ member := by cases member
  delivering := by
    refine ⟨⟨?_, ?_⟩, ?_, ?_⟩
    · rw [noSession]
      constructor
      · rintro id session ⟨⟩
      · rintro id session ⟨⟩
      · rintro id active ⟨⟩
      · rintro id session ⟨⟩
    · rw [noSession]
      rintro id session ⟨⟩
    · rintro thread ⟨⟩
    · rw [noSession]
      rintro sent ⟨⟩
  fresh _ := rfl
  applied := by rintro ⟨⟩

/-- The backend takes a step. -/
theorem backend {move : Move SnapshotRequest Choice}
    {next : SnapshotPool} (faithful : Faithful deps providerId system)
    (noDeletion : NoDeletion system.pool move)
    (moved : system.pool.step (snapshotService deps) move = some next) :
    Faithful deps providerId { system with pool := next } := by
  obtain ⟨consistent, traced, sending, delivering, fresh, applied⟩ := faithful
  have decided : system.pool.Traced fun request => Decided
      deps.ipClients.credentials request.command.decidesLike :=
    fun thread member => (traced thread member).allows fun _ _ may => may.1
  have grows : system.pool.state.store.Extends next.state.store :=
    consistent.sound.extends rfl decided noDeletion moved
  refine ⟨consistent.step traced noDeletion moved,
    traced.step (fun request => request.traces) moved,
    sending.step (fun request => request.sends) moved,
    delivering.step consistent sending grows moved, fresh, ?_⟩
  intro haveApplied
  obtain ⟨last, isLast, version, published⟩ := applied haveApplied
  exact ⟨last, isLast, version, published.mono grows⟩

/-- The agent takes a step that keeps what it has applied. -/
theorem keeps {agent : Agent} (faithful : Faithful deps providerId system)
    (kept : system.agent.KeepsApplied agent) :
    Faithful deps providerId { system with agent } where
  consistent := faithful.consistent
  traced := faithful.traced
  sending := faithful.sending
  delivering := faithful.delivering
  fresh unapplied := by
    rw [kept.haveApplied] at unapplied
    exact kept.appliedVersion.trans (faithful.fresh unapplied)
  applied haveApplied := by
    rw [kept.haveApplied] at haveApplied
    obtain ⟨last, isLast, version, published⟩ := faithful.applied haveApplied
    exact ⟨last, kept.last.trans isLast,
      version.trans kept.appliedVersion.symm, published⟩

/-- The agent applies a snapshot that it was sent. -/
theorem accept {index : Nat} {payload : SnapshotPayload} {now : Timestamp}
    (faithful : Faithful deps providerId system)
    (sent : system.messageAt providerId index = some payload) :
    Faithful deps providerId
      { system with agent := system.agent.accept payload now } where
  consistent := faithful.consistent
  traced := faithful.traced
  sending := faithful.sending
  delivering := faithful.delivering
  fresh unapplied := by cases unapplied
  applied _ := by
    refine ⟨payload, rfl, rfl, ?_⟩
    unfold AgentSystem.messageAt at sent
    split at sent
    · rename_i sessionId received found
      split at sent
      · rename_i ofProvider
        cases sent
        obtain ⟨session, present, published⟩ := faithful.delivering.published
          _ (List.mem_of_getElem? found) payload rfl
        have same : session.providerId = providerId := by
          simpa [present] using ofProvider
        rw [← same]
        exact published
      · cases sent
    · cases sent

theorem step {event : AgentEvent} (faithful : Faithful deps providerId system)
    (noDeletion : ∀ move, event = .backend move →
      NoDeletion system.pool move)
    (stepped : system.step deps providerId event = some after) :
    Faithful deps providerId after ∧
      system.agent.appliedVersion ≤ after.agent.appliedVersion := by
  cases event with
  | backend move =>
      obtain ⟨next, moved, rfl⟩ := Option.map_eq_some_iff.mp stepped
      exact ⟨faithful.backend (noDeletion move rfl) moved, Nat.le_refl _⟩
  | deliver index now applied check =>
      obtain ⟨payload, sent, rfl⟩ := Option.map_eq_some_iff.mp stepped
      have outcome : (system.agent.onSnapshot payload now applied check).2 =
          system.agent ∨ (system.agent.haveApplied = true →
            system.agent.appliedVersion ≤ payload.version) ∧
          (system.agent.onSnapshot payload now applied check).2 =
            system.agent.accept payload now := Agent.onSnapshot_cases
      rcases outcome with ignored | ⟨newer, accepted⟩
      · rw [ignored]
        exact ⟨faithful, Nat.le_refl _⟩
      · rw [accepted]
        refine ⟨faithful.accept sent, ?_⟩
        cases before : system.agent.haveApplied with
        | false =>
            rw [faithful.fresh before]
            exact Nat.zero_le _
        | true => exact newer before
  | connected =>
      cases stepped
      exact ⟨faithful.keeps ⟨rfl, rfl, rfl⟩, Nat.le_refl _⟩
  | disconnected now =>
      cases stepped
      exact ⟨faithful.keeps ⟨rfl, rfl, rfl⟩, Nat.le_refl _⟩
  | tick now applied =>
      cases stepped
      exact ⟨faithful.keeps Agent.tick_keepsApplied,
        Agent.tick_keepsApplied.appliedVersion.ge⟩
  | reload now loaded =>
      cases stepped
      exact ⟨faithful.keeps Agent.reload_keepsApplied,
        Agent.reload_keepsApplied.appliedVersion.ge⟩

theorem run (faithful : Faithful deps providerId system)
    (steps : Relation.ReflTransGen (AgentSystem.Steps deps providerId) system
      after) :
    Faithful deps providerId after ∧
      system.agent.appliedVersion ≤ after.agent.appliedVersion := by
  induction steps with
  | refl => exact ⟨faithful, Nat.le_refl _⟩
  | tail _ last ih =>
      obtain ⟨event, stepped, noDeletion⟩ := last
      obtain ⟨next, grows⟩ := ih.1.step noDeletion stepped
      exact ⟨next, ih.2.trans grows⟩

end Faithful

/-! ## The agent never goes back -/

/-- What the agent keeps: a version it has applied was published, and the
snapshot it keeps has the provider name and groups published under it.  Files
are rendered again from just these. -/
structure NeverGoesBack (deps : BackendDeps) (providerId : Id)
    (earlier later : AgentSystem) : Prop where
  advances : earlier.agent.appliedVersion ≤ later.agent.appliedVersion
  published : later.agent.haveApplied = true →
    ∃ content, PublishedAs deps.providers.server.publisher
      later.pool.state.store providerId later.agent.appliedVersion content
  last : later.agent.haveApplied = true → ∀ content,
    PublishedAs deps.providers.server.publisher later.pool.state.store
      providerId later.agent.appliedVersion content →
    ∃ last, later.agent.last = some last ∧
      last.providerName = content.providerName ∧ last.groups = content.groups
  rendered : later.agent.haveApplied = true → ∀ content now stale,
    PublishedAs deps.providers.server.publisher later.pool.state.store
      providerId later.agent.appliedVersion content →
    (later.agent.lastData now stale).provider = content.providerName ∧
      (later.agent.lastData now stale).version = later.agent.appliedVersion ∧
      (later.agent.lastData now stale).groups =
        Render.entriesOf content.groups

theorem Faithful.last {providerId : Id} {system : AgentSystem}
    (faithful : Faithful deps providerId system)
    (injective : Function.Injective
      deps.providers.server.publisher.contentHash)
    (haveApplied : system.agent.haveApplied = true)
    {content : SnapshotContent}
    (published : PublishedAs deps.providers.server.publisher
      system.pool.state.store providerId system.agent.appliedVersion
      content) :
    ∃ last, system.agent.last = some last ∧
      last.version = system.agent.appliedVersion ∧
      last.toSnapshotContent = content := by
  obtain ⟨last, isLast, version, own⟩ := faithful.applied haveApplied
  rw [version] at own
  exact ⟨last, isLast, version,
    own.unique injective faithful.consistent.sound.sequenced published⟩

/-- The agent never goes back.  Whatever its sessions were sent arrives, as
often and in whatever order, among all commands of the backend but the deletion
of an account, with any failures of either side: the applied version never
decreases, it was published, and what the agent keeps under it is what was
published. -/
theorem agent_never_goes_back {providerId : Id} {initial : World}
    {version : String} {maxOffline : Nat} {now : Timestamp}
    {earlier later : AgentSystem}
    (injective : Function.Injective
      deps.providers.server.publisher.contentHash)
    (sequenced : initial.store.Sequenced)
    (alternating : ∀ providerId, Alternating initial.store providerId)
    (idle : ∀ key, initial.mutexes.waiting key = [])
    (noSession : initial.agents = {})
    (first : Relation.ReflTransGen (AgentSystem.Steps deps providerId)
      ⟨⟨initial, []⟩, .create version maxOffline now⟩ earlier)
    (second : Relation.ReflTransGen (AgentSystem.Steps deps providerId)
      earlier later) :
    NeverGoesBack deps providerId earlier later := by
  have start : Faithful deps providerId
      ⟨⟨initial, []⟩, .create version maxOffline now⟩ :=
    .create sequenced alternating idle noSession
  obtain ⟨faithful, advances⟩ := (start.run first).1.run second
  constructor
  · exact advances
  · intro haveApplied
    obtain ⟨last, -, version, published⟩ := faithful.applied haveApplied
    rw [version] at published
    exact ⟨_, published⟩
  · intro haveApplied content published
    obtain ⟨last, isLast, -, rfl⟩ :=
      faithful.last injective haveApplied published
    exact ⟨last, isLast, rfl, rfl⟩
  · intro haveApplied content now stale published
    obtain ⟨last, isLast, version, rfl⟩ :=
      faithful.last injective haveApplied published
    simp [Agent.lastData, Agent.dataFrom, isLast, version]

/-! ## A small deployment -/

def AgentEvent.keepsAccounts (pool : SnapshotPool) : AgentEvent → Bool
  | .backend move => deletesNothing pool move
  | _ => true

/-- The system after a sequence of events, if each of them can happen. -/
def AgentSystem.follow (deps : BackendDeps) (providerId : Id)
    (system : AgentSystem) : List AgentEvent → Option AgentSystem
  | [] => some system
  | event :: events =>
      if event.keepsAccounts system.pool then
        (system.step deps providerId event).bind
          (·.follow deps providerId events)
      else none

theorem AgentSystem.reaches_of_follow {providerId : Id}
    {system after : AgentSystem} {events : List AgentEvent}
    (followed : system.follow deps providerId events = some after) :
    Relation.ReflTransGen (AgentSystem.Steps deps providerId) system after := by
  induction events generalizing system with
  | nil =>
      cases followed
      exact .refl
  | cons event events ih =>
      simp only [AgentSystem.follow] at followed
      split at followed
      · rename_i keeps
        obtain ⟨next, stepped, rest⟩ := Option.bind_eq_some_iff.mp followed
        refine .head ⟨event, stepped, ?_⟩ (ih rest)
        rintro move rfl
        exact keeps
      · cases followed

/-- A provider is created, and its agent connects and is sent a snapshot. -/
def agentConnects : List (Move SnapshotRequest Choice) :=
  [.start ⟨0, 0, .backend (.provider (.post 1 (some "home") none))⟩] ++
    snapshotAdvances 0 14 ++
    [.start ⟨1, 0, .backend (.provider
      (.stream ⟨some 0, "Bearer hash", "agent"⟩))⟩] ++
    snapshotAdvances 1 4 ++
    [.start ⟨2, 0, .backend (.provider (.message ⟨1, 0, 2⟩ 3
      (.hello { protocolVersion := 1, agentVersion := "1" })))⟩] ++
    snapshotAdvances 2 25

/-- The provider is renamed, and a run pushes the next snapshot. -/
def providerRenamed : List (Move SnapshotRequest Choice) :=
  [.start ⟨3, 0, .backend (.provider (.patch 1 0 (some "away") none))⟩] ++
    snapshotAdvances 3 10 ++
    [.start ⟨4, 0, .backend (.provider (.coordinatorRun 1 0 []))⟩] ++
    snapshotAdvances 4 12

/-- The first snapshot arrives once more after the second one, and then the
offline timer runs out. -/
def snapshotDelayed : List AgentEvent :=
  (agentConnects ++ providerRenamed).map .backend ++
    [.deliver 1 10 (.ok []) none, .deliver 2 20 (.ok []) none,
      .deliver 1 30 (.ok []) none, .tick 9000 (.ok [])]

theorem agent_never_goes_back_delayed :
    ∃ later : AgentSystem,
      later.agent.appliedVersion = 6 ∧
      later.agent.last.map (·.providerName) = some "away" ∧
      later.agent.stale = true ∧
      NeverGoesBack textDeps 0
        ⟨⟨{}, []⟩, .create "1" 1000 0⟩ later := by
  have ends : ((⟨⟨{}, []⟩, .create "1" 1000 0⟩ : AgentSystem).follow textDeps 0
      snapshotDelayed).map (fun system =>
        (system.agent.appliedVersion,
          system.agent.last.map (·.providerName), system.agent.stale)) =
      some (6, some "away", true) := by
    decide +kernel
  obtain ⟨later, followed, shown⟩ := Option.map_eq_some_iff.mp ends
  have alternating : ∀ providerId, Alternating ({} : EventStore) providerId :=
    fun _ => List.IsChain.nil
  refine ⟨later, congrArg Prod.fst shown,
    congrArg (·.2.1) shown, congrArg (·.2.2) shown, ?_⟩
  exact agent_never_goes_back contentText_injective
    EventStore.empty_sequenced alternating (fun _ => rfl) rfl .refl
    (AgentSystem.reaches_of_follow followed)

end FluxIP
