import FluxIP.Adapters.SessionTurns
import FluxIP.Async.Knowledge
import FluxIP.Guarantees.ProviderRuns

/-!
# The events of a session

The hello of a session is taken once and its disconnect claimed once, each by
one program; so its connect and its disconnect are recorded at most once, and
in this order, in the stream of its provider.
-/

namespace FluxIP

open Async

/-- What the event says of the session: that it has connected, or
disconnected. -/
def EventData.presenceOf (sessionId : Id) : EventData → Option Bool
  | .traefikProvider (.agentConnected data) =>
      if data.sessionId = sessionId then some true else none
  | .traefikProvider (.agentDisconnected data) =>
      if data.sessionId = sessionId then some false else none
  | _ => none

/-- What the events say of the session, in their order. -/
def presence (sessionId : Id) (events : List StoredEvent) : List Bool :=
  events.filterMap (·.data.presenceOf sessionId)

/-- The command handles a message or the end of this session. -/
def ProviderCommand.onSession (auth : AgentAuth) (sessionId : Id) :
    ProviderCommand → Prop
  | .message own session _ => own = auth ∧ session = sessionId
  | .closed own session => own = auth ∧ session = sessionId
  | _ => False

/-- The session is one of the provider's. -/
def Agents.Belongs (agents : Agents) (sessionId providerId : Id) : Prop :=
  ∃ session, agents.sessions sessionId = some session ∧
    session.providerId = providerId

/-- The disconnect of the session is claimed. -/
def Agents.Claimed (agents : Agents) (sessionId : Id) : Prop :=
  ∃ session, agents.sessions sessionId = some session ∧
    session.disconnectRecorded = true

/-- The disconnect of the session was claimed by the program. -/
def HasClaimed (sessionId : Id) (history : BackendHistory) : Prop :=
  Got (.claimDisconnect sessionId) true history

/-- The connect of the session is recorded in the table. -/
def EventStore.Connected (store : EventStore) (sessionId : Id) : Prop :=
  true ∈ presence sessionId store.events

/-- What the programs know of the sessions, and what is recorded of them. -/
structure Attending (pool : ProviderPool) : Prop where
  standing : Standing pool
  chained : ∀ sessionId, pool.Traced fun _ => Chained sessionId
  belongs : ∀ thread ∈ pool.threads, ∀ auth sessionId,
    thread.request.command.onSession auth sessionId →
    pool.state.agents.Belongs sessionId auth.providerId
  welcomed : ∀ sessionId, pool.Knows (fun _ => Welcomed sessionId)
    (·.agents.Greeted sessionId)
  oneWelcome : ∀ sessionId, pool.OneKnows fun _ => Welcomed sessionId
  ofSession : ∀ sessionId message now data,
    data.sessionId ≠ sessionId → pool.Knows
      (fun _ => Got (.process sessionId message now) (.connected data))
      fun _ => False
  acked : ∀ event, pool.Knows (fun _ => Acked event)
    fun world => ∃ stored ∈ world.store.events,
      stored.data = .traefikProvider event
  claimed : ∀ sessionId, pool.Knows (fun _ => HasClaimed sessionId)
    fun world => world.agents.Claimed sessionId ∧
      world.store.Connected sessionId
  oneClaim : ∀ sessionId, pool.OneKnows fun _ => HasClaimed sessionId
  recorded : ∀ sessionId session,
    pool.state.agents.sessions sessionId = some session →
    session.connectedRecorded = true → pool.state.store.Connected sessionId
  home : ∀ sessionId said, ∀ event ∈ pool.state.store.events,
    event.data.presenceOf sessionId = some said →
    event.aggregateType = .traefikProvider ∧
      pool.state.agents.Belongs sessionId event.aggregateId
  connectedBy : ∀ sessionId, pool.state.store.Connected sessionId →
    ∃ thread ∈ pool.threads, Welcomed sessionId thread.history ∧
      ¬ Refused TraefikProviderEvent.connects thread.history
  disconnectedBy : ∀ sessionId,
    false ∈ presence sessionId pool.state.store.events →
    ∃ thread ∈ pool.threads, HasClaimed sessionId thread.history ∧
      ¬ Refused TraefikProviderEvent.disconnects thread.history
  inOrder : ∀ sessionId,
    presence sessionId pool.state.store.events <+: [true, false]

variable {before after : Agents} {earlier later : EventStore}
variable {sessionId providerId : Id}

/-! ## Facts that persist -/

theorem Agents.Belongs.progress (belongs : before.Belongs sessionId providerId)
    (progress : before.Progress after) : after.Belongs sessionId providerId := by
  obtain ⟨session, found, ofProvider⟩ := belongs
  obtain ⟨still, present, goesOn⟩ := progress.goesOn sessionId session found
  exact ⟨still, present, goesOn.providerId.trans ofProvider⟩

theorem Agents.Claimed.progress (claimed : before.Claimed sessionId)
    (progress : before.Progress after) : after.Claimed sessionId := by
  obtain ⟨session, found, recorded⟩ := claimed
  obtain ⟨still, present, goesOn⟩ := progress.goesOn sessionId session found
  exact ⟨still, present, goesOn.disconnectRecorded recorded⟩

theorem EventStore.Connected.extends (connected : earlier.Connected sessionId)
    (grows : earlier.Extends later) : later.Connected sessionId :=
  (grows.1.filterMap _).subset connected

theorem connected_of_stored {event : StoredEvent}
    {data : TraefikProviderAgentConnectedData}
    (member : event ∈ later.events)
    (written : event.data = .traefikProvider (.agentConnected data))
    (ofSession : data.sessionId = sessionId) : later.Connected sessionId := by
  apply List.mem_filterMap.mpr
  refine ⟨event, member, ?_⟩
  rw [written]
  exact if_pos ofSession

/-- The data of an event that says something of a session. -/
theorem presenceOf_cases {data : EventData} {said : Bool}
    (speaks : data.presenceOf sessionId = some said) :
    (said = true ∧ ∃ connected : TraefikProviderAgentConnectedData,
      data = .traefikProvider (.agentConnected connected) ∧
        connected.sessionId = sessionId) ∨
    (said = false ∧ ∃ disconnected : TraefikProviderAgentDisconnectedData,
      data = .traefikProvider (.agentDisconnected disconnected) ∧
        disconnected.sessionId = sessionId) := by
  unfold EventData.presenceOf at speaks
  split at speaks
  · rename_i connected
    split at speaks
    · rename_i same
      cases speaks
      exact .inl ⟨rfl, connected, rfl, same⟩
    · cases speaks
  · rename_i disconnected
    split at speaks
    · rename_i same
      cases speaks
      exact .inr ⟨rfl, disconnected, rfl, same⟩
    · cases speaks
  · cases speaks

theorem presence_append (events : List StoredEvent) (event : StoredEvent) :
    presence sessionId (events ++ [event]) =
      presence sessionId events ++
        (event.data.presenceOf sessionId).toList := by
  unfold presence
  rw [List.filterMap_append]
  cases speaks : event.data.presenceOf sessionId <;> simp [speaks]

/-! ## What is told in a step -/

variable {deps : ProviderServiceDeps} {pool next : ProviderPool}
variable {index : Nat} {choice : Choice} {request : ProviderRequest}
variable {history : BackendHistory} {call : Call}
variable {answer : Except Err call.Answer} {world : World}

abbrev TellsProvider (deps : ProviderServiceDeps) (pool : ProviderPool)
    (world : World) (index : Nat) (choice : Choice)
    (request : ProviderRequest) (history : BackendHistory) (call : Call)
    (answer : Except Err call.Answer) : Prop :=
  Pool.Tells (providerService deps) pool world index choice request history
    call answer

theorem tells_result
    (tells : TellsProvider deps pool world index choice request history call
      answer) : semantics call choice pool.state = some (answer, world) :=
  tells.answered

namespace Attending

/-- A hello that is taken was not taken before. -/
theorem welcomed_told (attending : Attending pool)
    (tells : TellsProvider deps pool world index choice request history call
      answer)
    (welcomed : Welcomed sessionId (history ++ [⟨call, answer⟩])) :
    Welcomed sessionId history ∨ world.agents.Greeted sessionId ∧
      (¬ pool.state.agents.Greeted sessionId) ∧
      ∃ message now data, data.sessionId = sessionId ∧
        (⟨call, answer⟩ : Answered backend Err) =
          @Answered.mk backend Err (.memory (.process sessionId message now))
            (.ok (.connected data)) := by
  obtain ⟨message, now, data, got⟩ := welcomed
  rcases List.mem_append.mp got with before | last
  · exact .inl ⟨message, now, data, before⟩
  · cases List.mem_singleton.mp last
    right
    obtain ⟨value, same, does⟩ := attending.standing.does (tells_result tells)
    cases same
    cases does with
    | calm still calm => cases still
    | greeted session ofSession hello greets =>
        refine ⟨⟨_, greets.own, rfl⟩, ?_, message, now, data, ofSession, rfl⟩
        intro greeted
        obtain ⟨other, found, seen⟩ := greeted
        cases greets.found.symm.trans found
        rw [greets.unseen] at seen
        cases seen

/-- A disconnect that is claimed was not claimed before, and its connect was
recorded. -/
theorem claimed_told (attending : Attending pool)
    (tells : TellsProvider deps pool world index choice request history call
      answer)
    (claimed : HasClaimed sessionId (history ++ [⟨call, answer⟩])) :
    HasClaimed sessionId history ∨ world.agents.Claimed sessionId ∧
      (¬ pool.state.agents.Claimed sessionId) ∧
      pool.state.store.Connected sessionId := by
  rcases List.mem_append.mp claimed with before | last
  · exact .inl before
  · cases List.mem_singleton.mp last
    right
    obtain ⟨value, same, does⟩ := attending.standing.does (tells_result tells)
    cases same
    cases does with
    | calm still calm => cases still
    | @claimed _ session found recorded unclaimed marks =>
        refine ⟨⟨{ session with disconnectRecorded := true }, ?_, rfl⟩, ?_,
          attending.recorded sessionId session found recorded⟩
        · rw [marks]
          simp [Agents.modify, found]
        · intro already
          obtain ⟨other, present, isClaimed⟩ := already
          cases found.symm.trans present
          rw [unclaimed] at isClaimed
          cases isClaimed

/-- An acknowledged event was inserted. -/
theorem acked_told {event : TraefikProviderEvent}
    (tells : TellsProvider deps pool world index choice request history call
      answer)
    (acked : Acked event (history ++ [⟨call, answer⟩])) :
    Acked event history ∨ ∃ stored ∈ world.store.events,
      stored.data = .traefikProvider event := by
  obtain ⟨input, stored, member, written⟩ := acked
  rcases List.mem_append.mp member with before | last
  · exact .inl ⟨input, stored, before, written⟩
  · cases List.mem_singleton.mp last
    right
    rcases append_step (tells_result tells) with
      ⟨inserted, store, appended, same, -⟩ | ⟨-, error, failed, -⟩
    · rcases EventStore.append_cases appended with
        ⟨_, ⟨⟩, -, -, -, -, data, -, -, table⟩ | ⟨conflict, -⟩
      · refine ⟨inserted, ?_, data.trans written⟩
        rw [same]
        change inserted ∈ store.events
        rw [table]
        exact List.mem_append_right _ (List.mem_singleton_self _)
      · cases conflict
    · cases failed

/-- A connect is noted after it was recorded. -/
theorem recorded_told (attending : Attending pool) {session : AgentSession}
    (tells : TellsProvider deps pool world index choice request history call
      answer)
    (found : world.agents.sessions sessionId = some session)
    (recorded : session.connectedRecorded = true) :
    pool.state.store.Connected sessionId := by
  obtain ⟨resume, running⟩ := tells.running
  have member := List.mem_of_getElem? running
  have does := attending.standing.does (tells_result tells)
  have stems := does.stems attending.standing.seated.disciplined found
  rcases stems.connectedRecorded recorded with
    ⟨before, present, wasRecorded⟩ | ⟨value, same⟩
  · exact attending.recorded sessionId before present wasRecorded
  · cases same
    obtain ⟨message, now, data, got, acked⟩ :=
      (attending.chained sessionId _ member).1.notes rfl
    obtain ⟨stored, inTable, written⟩ :=
      attending.acked (.agentConnected data) _ member acked
    apply connected_of_stored inTable written
    by_contra different
    exact attending.ofSession sessionId message now data different _ member got

end Attending

/-! ## What is recorded of a session -/

/-- A connect is recorded by the program that has taken the hello. -/
theorem ProviderCommand.Records.of_connected {now : Timestamp}
    {command : ProviderCommand} {data : TraefikProviderAgentConnectedData}
    (records : command.Records now history providerId
      (.agentConnected data)) :
    ∃ auth sessionId received, command = .message auth sessionId received ∧
      auth.providerId = providerId ∧
      Got (.process sessionId received now) (.connected data) history := by
  cases records with
  | firstToken issues => cases issues
  | token issues => cases issues
  | connected got => exact ⟨_, _, _, rfl, rfl, got⟩
  | reported got isEvent =>
      unfold AgentSessionHandler.reportEvent at isEvent
      split at isEvent <;> cases isEvent
  | sent publishes => cases publishes
  | run publishes => cases publishes
  | resync publishes => cases publishes

/-- A disconnect is recorded by the program that has claimed it. -/
theorem ProviderCommand.Records.of_disconnected {now : Timestamp}
    {command : ProviderCommand} {data : TraefikProviderAgentDisconnectedData}
    (records : command.Records now history providerId
      (.agentDisconnected data)) :
    ∃ auth effective, command = .closed auth data.sessionId ∧
      auth.providerId = providerId ∧ HasClaimed data.sessionId history ∧
      Got (.closed data.sessionId) effective history ∧
      data.reason = effective.disconnect := by
  cases records with
  | firstToken issues => cases issues
  | token issues => cases issues
  | reported got isEvent =>
      unfold AgentSessionHandler.reportEvent at isEvent
      split at isEvent <;> cases isEvent
  | sent publishes => cases publishes
  | disconnected closed claimed =>
      exact ⟨_, _, rfl, rfl, claimed, closed, rfl⟩
  | run publishes => cases publishes
  | resync publishes => cases publishes

namespace Attending

variable {event : StoredEvent} {input : AppendEventInput}
variable {recorded : TraefikProviderEvent} {data : EventData}

/-- What is refused for its position is not inserted. -/
theorem not_refused {kind : TraefikProviderEvent → Bool}
    {answer : Except Err StoredEvent}
    (answered : semantics (.store (.append input)) choice pool.state =
      some (answer, world))
    (appended : RecordsEvent pool.state world request history providerId event
      recorded)
    (written : input.data = .traefikProvider recorded)
    (isKind : kind recorded = true) :
    ¬ Refused kind (history ++
      [@Answered.mk backend Err (.store (.append input)) answer]) := by
  intro refused
  obtain ⟨aggregateType, aggregateId, expected, conflict⟩ :=
    refused input answer recorded
      (List.mem_append_right _ (List.mem_singleton_self _)) written isKind
  rcases append_step answered with
    ⟨inserted, store, -, -, ⟨isOk, -⟩ | ⟨message, -, lost⟩⟩ | ⟨same, -⟩
  · cases isOk.symm.trans conflict
  · cases lost.symm.trans conflict
  · have grown := appended.inserted
    rw [same] at grown
    simp [World.elapse] at grown

variable {resume : Except Err call.Answer → Backend (Option Nat)}

/-- The connect of a session is recorded once. -/
theorem unconnected (attending : Attending pool)
    {resume : Except Err StoredEvent → Backend (Option Nat)}
    {connected : TraefikProviderAgentConnectedData}
    (found : pool.threads[index]? =
      some ⟨request, history, .await (.store (.append input)) resume⟩)
    (written : input.data = .traefikProvider (.agentConnected connected))
    (welcomed : Welcomed sessionId history) :
    ¬ pool.state.store.Connected sessionId := by
  intro already
  obtain ⟨thread, member, welcomedToo, notRefused⟩ :=
    attending.connectedBy sessionId already
  obtain ⟨other, atOther⟩ := List.getElem?_of_mem member
  have same : other = index :=
    attending.oneWelcome sessionId other index thread _ atOther found
      welcomedToo welcomed
  subst same
  cases found.symm.trans atOther
  have chained := (attending.chained sessionId _ member).1
  have allowed := chained.connects input connected rfl written welcomed
  exact notRefused allowed.2.1

/-- The disconnect of a session is recorded once. -/
theorem undisconnected (attending : Attending pool)
    {resume : Except Err StoredEvent → Backend (Option Nat)}
    {disconnected : TraefikProviderAgentDisconnectedData}
    (found : pool.threads[index]? =
      some ⟨request, history, .await (.store (.append input)) resume⟩)
    (written : input.data = .traefikProvider (.agentDisconnected disconnected))
    (claimed : HasClaimed sessionId history) :
    false ∉ presence sessionId pool.state.store.events := by
  intro already
  obtain ⟨thread, member, claimedToo, notRefused⟩ :=
    attending.disconnectedBy sessionId already
  obtain ⟨other, atOther⟩ := List.getElem?_of_mem member
  have same : other = index :=
    attending.oneClaim sessionId other index thread _ atOther found claimedToo
      claimed
  subst same
  cases found.symm.trans atOther
  have chained := (attending.chained sessionId _ member).1
  exact notRefused (chained.disconnects input disconnected rfl written claimed)

theorem presence_cases {marks : List Bool}
    (inOrder : marks <+: [true, false]) :
    marks = [] ∨ marks = [true] ∨ marks = [true, false] := by
  rcases List.prefix_cons_iff.mp inOrder with rfl | ⟨rest, rfl, short⟩
  · exact .inl rfl
  · rcases List.prefix_cons_iff.mp short with rfl | ⟨last, rfl, none⟩
    · exact .inr (.inl rfl)
    · rw [List.prefix_nil.mp none]
      exact .inr (.inr rfl)

/-- What a recorded event says of a session, its program knows. -/
theorem recorder (attending : Attending pool)
    (found : pool.threads[index]? =
      some ⟨request, history, .await call resume⟩)
    (appended : RecordsEvent pool.state world request history providerId event
      recorded) {said : Bool}
    (speaks : event.data.presenceOf sessionId = some said) :
    pool.state.agents.Belongs sessionId providerId ∧
      ((said = true ∧ Welcomed sessionId history ∧
        ∃ connected, recorded = .agentConnected connected) ∨
      (said = false ∧ HasClaimed sessionId history ∧
        ∃ disconnected, recorded = .agentDisconnected disconnected)) := by
  have member := List.mem_of_getElem? found
  have records := appended.records
  rcases presenceOf_cases speaks with
    ⟨rfl, connected, written, ofSession⟩ |
    ⟨rfl, disconnected, written, ofSession⟩
  · cases appended.data.symm.trans written
    obtain ⟨auth, session, received, command, rfl, got⟩ :=
      records.of_connected
    have same : connected.sessionId = session := by
      by_contra different
      exact attending.ofSession session received request.now connected
        different _ member got
    cases ofSession.symm.trans same
    refine ⟨?_, .inl ⟨rfl, ⟨received, request.now, connected, got⟩,
      connected, rfl⟩⟩
    apply attending.belongs _ member auth sessionId
    simp only [command, ProviderCommand.onSession, and_self]
  · cases appended.data.symm.trans written
    obtain ⟨auth, effective, command, rfl, claimed, -⟩ :=
      records.of_disconnected
    subst ofSession
    refine ⟨?_, .inr ⟨rfl, claimed, disconnected, rfl⟩⟩
    apply attending.belongs _ member auth disconnected.sessionId
    simp only [command, ProviderCommand.onSession, and_self]

theorem inOrder_step (attending : Attending pool)
    (found : pool.threads[index]? =
      some ⟨request, history, .await call resume⟩)
    (result : semantics call choice pool.state = some (answer, world))
    (sessionId : Id) :
    presence sessionId world.store.events <+: [true, false] := by
  have before := attending.inOrder sessionId
  rcases attending.standing.inserts found result with
    same | ⟨input, owner, event, recorded, rfl, written, appended, -⟩
  · rw [same]
    exact before
  · rw [appended.inserted, presence_append]
    cases speaks : event.data.presenceOf sessionId with
    | none =>
        rw [Option.toList_none, List.append_nil]
        exact before
    | some said =>
        have member := List.mem_of_getElem? found
        obtain ⟨-, ⟨rfl, welcomed, connected, rfl⟩ |
          ⟨rfl, claimed, disconnected, rfl⟩⟩ :=
            attending.recorder found appended speaks
        · have notYet := attending.unconnected found written welcomed
          rcases presence_cases before with none | once | both
          · rw [none]
            exact ⟨[false], rfl⟩
          · exact absurd (by rw [EventStore.Connected, once]; simp) notYet
          · exact absurd (by rw [EventStore.Connected, both]; simp) notYet
        · have notYet := attending.undisconnected found written claimed
          have connected : pool.state.store.Connected sessionId :=
            (attending.claimed sessionId _ member claimed).2
          rcases presence_cases before with none | once | both
          · rw [EventStore.Connected, none] at connected
            cases connected
          · rw [once]
            exact ⟨[], rfl⟩
          · rw [both] at notYet
            simp at notYet

theorem home_step (attending : Attending pool)
    (found : pool.threads[index]? =
      some ⟨request, history, .await call resume⟩)
    (result : semantics call choice pool.state = some (answer, world))
    (sessionId : Id) (said : Bool) :
    ∀ event ∈ world.store.events,
      event.data.presenceOf sessionId = some said →
      event.aggregateType = .traefikProvider ∧
        world.agents.Belongs sessionId event.aggregateId := by
  have progress := (attending.standing.does result).progress
    attending.standing.seated.disciplined
  have before : ∀ event ∈ pool.state.store.events,
      event.data.presenceOf sessionId = some said →
      event.aggregateType = .traefikProvider ∧
        world.agents.Belongs sessionId event.aggregateId := by
    intro event member speaks
    obtain ⟨ofType, belongs⟩ :=
      attending.home sessionId said event member speaks
    exact ⟨ofType, belongs.progress progress⟩
  rcases attending.standing.inserts found result with
    same | ⟨input, owner, inserted, recorded, rfl, written, appended, -⟩
  · rw [same]
    exact before
  · rw [appended.inserted]
    intro event member speaks
    rcases List.mem_append.mp member with old | new
    · exact before event old speaks
    · rw [List.mem_singleton] at new
      subst new
      obtain ⟨belongs, -⟩ := attending.recorder found appended speaks
      rw [appended.ofProvider]
      exact ⟨appended.ofType, belongs.progress progress⟩

/-- Who has recorded something of a session, as long as it is recorded. -/
theorem recordedBy_step (attending : Attending pool) {said : Bool}
    {knows : BackendHistory → Prop} {kind : TraefikProviderEvent → Bool}
    (known : Lasting knows)
    (learns : ∀ event recorded owner, RecordsEvent pool.state world request
        history owner event recorded →
      event.data.presenceOf sessionId = some said →
      knows history ∧ kind recorded = true)
    (found : pool.threads[index]? =
      some ⟨request, history, .await call resume⟩)
    (result : semantics call choice pool.state = some (answer, world))
    (before : said ∈ presence sessionId pool.state.store.events →
      ∃ thread ∈ pool.threads, knows thread.history ∧
        ¬ Refused kind thread.history)
    (now : said ∈ presence sessionId world.store.events) :
    ∃ thread ∈ pool.threads.set index
        ⟨request, history ++ [⟨call, answer⟩], resume answer⟩,
      knows thread.history ∧ ¬ Refused kind thread.history := by
  have inBounds := (List.getElem?_eq_some_iff.mp found).1
  have own : ⟨request, history ++ [⟨call, answer⟩], resume answer⟩ ∈
      pool.threads.set index
        ⟨request, history ++ [⟨call, answer⟩], resume answer⟩ :=
    List.mem_set inBounds _
  have kept (already : said ∈ presence sessionId pool.state.store.events) :
      ∃ thread ∈ pool.threads.set index
          ⟨request, history ++ [⟨call, answer⟩], resume answer⟩,
        knows thread.history ∧ ¬ Refused kind thread.history := by
    obtain ⟨thread, member, knew, notRefused⟩ := before already
    obtain ⟨other, atOther⟩ := List.getElem?_of_mem member
    by_cases same : index = other
    · subst same
      cases found.symm.trans atOther
      refine ⟨_, own, known _ _ knew, ?_⟩
      intro refused
      apply notRefused
      intro input answer event earlier
      exact refused input answer event (List.mem_append_left _ earlier)
    · refine ⟨thread, ?_, knew, notRefused⟩
      apply List.mem_of_getElem? (i := other)
      rw [List.getElem?_set_ne same]
      exact atOther
  rcases attending.standing.inserts found result with
    same | ⟨input, owner, inserted, recorded, rfl, written, appended, -⟩
  · rw [same] at now
    exact kept now
  · rw [appended.inserted, presence_append] at now
    rcases List.mem_append.mp now with old | new
    · exact kept old
    · have speaks : inserted.data.presenceOf sessionId = some said :=
        Option.mem_toList.mp new
      obtain ⟨knew, isKind⟩ := learns inserted recorded owner appended speaks
      exact ⟨_, own, known _ _ knew,
        not_refused result appended written isKind⟩

theorem initial : Attending ⟨{}, []⟩ where
  standing := .initial
  chained _ _ member := by cases member
  belongs _ member := by cases member
  welcomed _ := .initial _
  oneWelcome _ := .initial _
  ofSession _ _ _ _ _ := .initial _
  acked _ := .initial _
  claimed _ := .initial _
  oneClaim _ := .initial _
  recorded _ _ found := by cases found
  home _ _ _ member := by cases member
  connectedBy _ connected := by cases connected
  disconnectedBy _ connected := by cases connected
  inOrder _ := List.nil_prefix

/-- A message or an end is of a session that is there. -/
theorem belongs_step (attending : Attending pool)
    {move : Move ProviderRequest Choice}
    (moved : pool.step (providerService deps) move = some next) :
    ∀ thread ∈ next.threads, ∀ auth sessionId,
      thread.request.command.onSession auth sessionId →
      next.state.agents.Belongs sessionId auth.providerId := by
  have progress := attending.standing.agents_progress moved
  cases move with
  | start request =>
      obtain ⟨admitted, -, rfl⟩ := Pool.step_start moved
      intro thread member auth sessionId on
      rcases List.mem_append.mp member with old | new
      · exact attending.belongs thread old auth sessionId on
      · rw [List.mem_singleton] at new
        subst new
        have isOpen : pool.state.agents.isOpen auth sessionId = true := by
          obtain ⟨number, now, command⟩ := request
          cases command with
          | message own session received =>
              obtain ⟨rfl, rfl⟩ := on
              exact admitted
          | closed own session =>
              obtain ⟨rfl, rfl⟩ := on
              exact admitted
          | _ => exact on.elim
        unfold Agents.isOpen at isOpen
        cases found : pool.state.agents.sessions sessionId with
        | none => simp [found] at isOpen
        | some session =>
            simp only [found, Option.any_some, decide_eq_true_eq] at isOpen
            exact ⟨session, found, isOpen.2.1⟩
  | advance index choice =>
      obtain ⟨request, history, call, resume, answer, world, found, result,
        rfl⟩ := Pool.step_advance moved
      intro thread member auth sessionId on
      rcases List.mem_or_eq_of_mem_set member with old | new
      · exact (attending.belongs thread old auth sessionId on).progress
          progress
      · subst new
        exact (attending.belongs _ (List.mem_of_getElem? found) auth sessionId
          on).progress progress

/-- What the table says of the sessions, after a step. -/
structure Records (next : ProviderPool) (sessionId : Id) : Prop where
  recorded : ∀ session, next.state.agents.sessions sessionId = some session →
    session.connectedRecorded = true → next.state.store.Connected sessionId
  home : ∀ said, ∀ event ∈ next.state.store.events,
    event.data.presenceOf sessionId = some said →
    event.aggregateType = .traefikProvider ∧
      next.state.agents.Belongs sessionId event.aggregateId
  connectedBy : next.state.store.Connected sessionId →
    ∃ thread ∈ next.threads, Welcomed sessionId thread.history ∧
      ¬ Refused TraefikProviderEvent.connects thread.history
  disconnectedBy : false ∈ presence sessionId next.state.store.events →
    ∃ thread ∈ next.threads, HasClaimed sessionId thread.history ∧
      ¬ Refused TraefikProviderEvent.disconnects thread.history
  inOrder : presence sessionId next.state.store.events <+: [true, false]

theorem records_step (attending : Attending pool)
    {move : Move ProviderRequest Choice}
    (moved : pool.step (providerService deps) move = some next)
    (sessionId : Id) : Records next sessionId := by
  have grows := attending.standing.store_extends moved
  cases move with
  | start request =>
      obtain ⟨-, -, rfl⟩ := Pool.step_start moved
      refine ⟨attending.recorded sessionId, attending.home sessionId, ?_, ?_,
        attending.inOrder sessionId⟩
      · intro connected
        obtain ⟨thread, member, rest⟩ :=
          attending.connectedBy sessionId connected
        exact ⟨thread, List.mem_append_left _ member, rest⟩
      · intro disconnected
        obtain ⟨thread, member, rest⟩ :=
          attending.disconnectedBy sessionId disconnected
        exact ⟨thread, List.mem_append_left _ member, rest⟩
  | advance index choice =>
      obtain ⟨request, history, call, resume, answer, world, found, result,
        rfl⟩ := Pool.step_advance moved
      constructor
      · intro session present recorded
        have tells : TellsProvider deps pool world index choice request history
            call answer := ⟨⟨resume, found⟩, result⟩
        exact (attending.recorded_told tells present recorded).extends grows
      · exact attending.home_step found result sessionId
      · apply attending.recordedBy_step (welcomed_lasting sessionId) _ found
          result (attending.connectedBy sessionId)
        intro event recorded owner appended speaks
        obtain ⟨-, ⟨-, welcomed, connected, rfl⟩ | ⟨impossible, -⟩⟩ :=
          attending.recorder found appended speaks
        · exact ⟨welcomed, rfl⟩
        · cases impossible
      · have lasting : Lasting (HasClaimed sessionId) := got_lasting _ _
        apply attending.recordedBy_step lasting _ found result
          (attending.disconnectedBy sessionId)
        intro event recorded owner appended speaks
        obtain ⟨-, ⟨impossible, -⟩ | ⟨-, claimed, disconnected, rfl⟩⟩ :=
          attending.recorder found appended speaks
        · cases impossible
        · exact ⟨claimed, rfl⟩
      · exact attending.inOrder_step found result sessionId

theorem step (attending : Attending pool)
    {move : Move ProviderRequest Choice}
    (moved : pool.step (providerService deps) move = some next) :
    Attending next := by
  have progress := attending.standing.agents_progress moved
  have grows := attending.standing.store_extends moved
  have records := attending.records_step moved
  refine
    { standing := attending.standing.step moved
      chained := ?_
      belongs := attending.belongs_step moved
      welcomed := ?_
      oneWelcome := ?_
      ofSession := ?_
      acked := ?_
      claimed := ?_
      oneClaim := ?_
      recorded := fun sessionId => (records sessionId).recorded
      home := fun sessionId => (records sessionId).home
      connectedBy := fun sessionId => (records sessionId).connectedBy
      disconnectedBy := fun sessionId => (records sessionId).disconnectedBy
      inOrder := fun sessionId => (records sessionId).inOrder }
  · exact fun sessionId => (attending.chained sessionId).step (fun request =>
      command_chained deps request.now request.command sessionId) moved
  · intro sessionId
    apply (attending.welcomed sessionId).step _ progress.greeted _ moved
    · intro request welcomed
      obtain ⟨message, now, data, got⟩ := welcomed
      cases got
    · intro index choice request history call answer tells welcomed
      rcases attending.welcomed_told tells welcomed with earlier | ⟨now, -⟩
      · exact .inl earlier
      · exact .inr now
  · intro sessionId
    apply (attending.oneWelcome sessionId).step _ _ moved
    · intro request welcomed
      obtain ⟨message, now, data, got⟩ := welcomed
      cases got
    · intro index choice request history call answer tells welcomed
      rcases attending.welcomed_told tells welcomed with
        earlier | ⟨-, fresh, -⟩
      · exact .inl earlier
      · right
        intro thread member known
        exact fresh (attending.welcomed sessionId thread member known)
  · intro sessionId message now data different
    apply (attending.ofSession sessionId message now data different).step _ id
      _ moved
    · intro request got
      cases got
    · intro index choice request history call answer tells got
      rcases List.mem_append.mp got with earlier | last
      · exact .inl earlier
      · cases List.mem_singleton.mp last
        obtain ⟨value, same, does⟩ :=
          attending.standing.does (tells_result tells)
        cases same
        cases does with
        | calm still calm => cases still
        | greeted session ofSession hello greets =>
            exact absurd ofSession different
  · intro event
    apply (attending.acked event).step _ _ _ moved
    · intro request acked
      obtain ⟨input, stored, member, -⟩ := acked
      cases member
    · intro present
      obtain ⟨stored, member, written⟩ := present
      exact ⟨stored, grows.1.subset member, written⟩
    · exact fun index choice request history call answer tells acked =>
        acked_told tells acked
  · intro sessionId
    apply (attending.claimed sessionId).step _ _ _ moved
    · intro request claimed
      cases claimed
    · intro holds
      exact ⟨holds.1.progress progress, holds.2.extends grows⟩
    · intro index choice request history call answer tells claimed
      rcases attending.claimed_told tells claimed with
        earlier | ⟨now, -, connected⟩
      · exact .inl earlier
      · exact .inr ⟨now, connected.extends grows⟩
  · intro sessionId
    apply (attending.oneClaim sessionId).step _ _ moved
    · intro request claimed
      cases claimed
    · intro index choice request history call answer tells claimed
      rcases attending.claimed_told tells claimed with
        earlier | ⟨-, fresh, -⟩
      · exact .inl earlier
      · right
        intro thread member known
        exact fresh (attending.claimed sessionId thread member known).1

/-- It holds in every state of every run. -/
theorem of_run {allowed : ProviderPool → Move ProviderRequest Choice → Prop}
    (run : Pool.Run (providerService deps) allowed ⟨{}, []⟩ pool) :
    Attending pool :=
  run.invariant initial fun _ _ _ attending _ moved => attending.step moved

end Attending

end FluxIP
