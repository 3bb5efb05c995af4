import FluxIP.Adapters.EndReasons
import FluxIP.Guarantees.HelloFirst
import FluxIP.Guarantees.SessionRegistry

/-!
# The folded presence

The fold of a provider's stream says whether its agent is connected.  It agrees
with the registry whenever no append of a session is outstanding, in every run
in which no disconnect is recorded after the connect of the session that is
registered, and none is given up.
-/

namespace FluxIP

open Async

/-! ## Outstanding appends -/

/-- The hello of the session was taken, and since then its connect was neither
noted nor the session terminated. -/
def connectPending (sessionId : Id) (history : BackendHistory) : Bool :=
  history.foldl (fun pending answered =>
    match answered with
    | ⟨.memory (.process id _ _), .ok (.connected _)⟩ =>
        pending || id = sessionId
    | ⟨.memory (.recordConnected id), _⟩ => pending && id ≠ sessionId
    | ⟨.memory (.terminate id _), _⟩ => pending && id ≠ sessionId
    | _ => pending) false

/-- The sessions whose disconnects the program has claimed. -/
def disconnectClaims (history : BackendHistory) : List Id :=
  history.filterMap fun answered =>
    match answered with
    | ⟨.memory (.claimDisconnect id), .ok true⟩ => some id
    | _ => none

/-- An append of the session is outstanding: of its connect; or of its
disconnect, which its handler has yet to claim, or has claimed and not ended. -/
def outstanding (pool : ProviderPool) (sessionId : Id) : Bool :=
  pool.threads.any (fun thread => connectPending sessionId thread.history) ||
    (pool.state.agents.sessions sessionId).any (fun session =>
      session.closed && session.connectedRecorded &&
        !session.disconnectRecorded) ||
    pool.threads.any fun thread =>
      sessionId ∈ disconnectClaims thread.history && !thread.program.isOver

/-- No append of a session of the provider is outstanding. -/
def Quiet (pool : ProviderPool) (providerId : Id) : Prop :=
  ∀ sessionId, pool.state.agents.Belongs sessionId providerId →
    outstanding pool sessionId = false

/-- What the stream of the provider folds to. -/
def EventStore.presence (store : EventStore) (providerId : Id) : Presence :=
  (providerOf (store.ofProvider providerId)).lastPresence

/-! ## The condition -/

/-- The table has the connect of the session. -/
def EventStore.connected (store : EventStore) (sessionId : Id) : Bool :=
  true ∈ FluxIP.presence sessionId store.events

/-- The disconnect is no news: it does not come after the connect of the
session that is registered. -/
def comesInTime (before : World) (event : StoredEvent) : Bool :=
  match event.data with
  | .traefikProvider (.agentDisconnected _) =>
      (before.agents.byProvider event.aggregateId).all fun active =>
        !before.store.connected active.sessionId
  | _ => true

/-- A session is not given up whose connect the table has, unless its handler
knows. -/
def heardOf (world : World) : Call → Bool
  | .memory (.terminate sessionId _) =>
      !world.store.connected sessionId ||
        (world.agents.sessions sessionId).any (·.connectedRecorded)
  | _ => true

/-- A program that has ended has recorded the disconnects it has claimed. -/
def keptClaims (pool : ProviderPool) (index : Nat) : Bool :=
  (pool.threads[index]?).all fun thread =>
    !thread.program.isOver || (disconnectClaims thread.history).all
      fun sessionId => false ∈ presence sessionId pool.state.store.events

/-- A step of a run in which the fold can be believed. -/
def truthful (deps : ProviderServiceDeps) (pool : ProviderPool) :
    Move ProviderRequest Choice → Bool
  | .start _ => true
  | .advance index choice =>
      (match pool.threads[index]? with
        | some ⟨_, _, .await call _⟩ => heardOf pool.state call
        | _ => true) &&
      (pool.step (providerService deps) (.advance index choice)).all
        fun next =>
          (next.state.store.events.drop pool.state.store.events.length).all
              (comesInTime pool.state) &&
            keptClaims next index

/-- The moves of a run in which the fold can be believed. -/
def Truthful (deps : ProviderServiceDeps) (pool : ProviderPool)
    (move : Move ProviderRequest Choice) : Prop :=
  truthful deps pool move = true

variable {sessionId providerId : Id} {history : BackendHistory} {call : Call}

theorem connectPending_append (answered : Answered backend Err) :
    connectPending sessionId (history ++ [answered]) =
      match answered with
      | ⟨.memory (.process id _ _), .ok (.connected _)⟩ =>
          connectPending sessionId history || id = sessionId
      | ⟨.memory (.recordConnected id), _⟩ =>
          connectPending sessionId history && id ≠ sessionId
      | ⟨.memory (.terminate id _), _⟩ =>
          connectPending sessionId history && id ≠ sessionId
      | _ => connectPending sessionId history := by
  unfold connectPending
  rw [List.foldl_append]
  rfl

/-- Of a hello that was taken the connect is noted, the session given up, or
the append pending. -/
theorem noted_or_gaveUp (welcomed : Welcomed sessionId history)
    (settled : connectPending sessionId history = false) :
    NotedConnect sessionId history ∨ GaveUp sessionId history := by
  induction history using List.reverseRecOn with
  | nil =>
      obtain ⟨message, now, data, got⟩ := welcomed
      cases got
  | append_singleton history answered ih =>
      rw [connectPending_append] at settled
      have earlier (other : ∀ message now data, answered ≠
            @Answered.mk backend Err (.memory (.process sessionId message now))
              (.ok (.connected data))) : Welcomed sessionId history := by
        obtain ⟨message, now, data, got⟩ := welcomed
        rcases List.mem_append.mp got with before | last
        · exact ⟨message, now, data, before⟩
        · exact absurd (List.mem_singleton.mp last).symm
            (other message now data)
      have goesOn (before : Welcomed sessionId history)
          (quiet : connectPending sessionId history = false) :
          NotedConnect sessionId (history ++ [answered]) ∨
            GaveUp sessionId (history ++ [answered]) := by
        rcases ih before quiet with noted | gaveUp
        · exact .inl (notedConnect_lasting _ _ _ noted)
        · exact .inr (gaveUp_lasting _ _ _ gaveUp)
      split at settled
      · rename_i id message now data
        simp only [Bool.or_eq_false_iff, decide_eq_false_iff_not] at settled
        apply goesOn _ settled.1
        apply earlier
        rintro message now data ⟨⟩
        exact settled.2 rfl
      · rename_i id answer
        by_cases own : id = sessionId
        · subst own
          exact .inl ⟨answer, List.mem_append_right _
            (List.mem_singleton_self _)⟩
        · apply goesOn
          · apply earlier
            rintro message now data ⟨⟩
          · simpa [own] using settled
      · rename_i id reason answer
        have before : Welcomed sessionId history := by
          apply earlier
          rintro message now data ⟨⟩
        by_cases own : id = sessionId
        · subst own
          exact .inr ⟨history, reason, answer, before, List.prefix_refl _⟩
        · exact goesOn before (by simpa [own] using settled)
      · rename_i notConnected notNoted notTerminated
        apply goesOn _ settled
        apply earlier
        rintro message now data rfl
        exact notConnected _ _ _ _ rfl

theorem mem_disconnectClaims :
    sessionId ∈ disconnectClaims history ↔ HasClaimed sessionId history := by
  unfold disconnectClaims HasClaimed Got
  rw [List.mem_filterMap]
  constructor
  · intro found
    obtain ⟨answered, member, same⟩ := found
    split at same
    · cases same
      exact member
    · cases same
  · intro member
    exact ⟨_, member, rfl⟩

/-! ## The fold -/

/-- What the event makes of the folded presence. -/
def TraefikProviderEvent.presents : TraefikProviderEvent → Option Presence
  | .agentConnected _ => some .connected
  | .agentDisconnected data =>
      if data.reason = .superseded then none else some .disconnected
  | _ => none

theorem reducer_lastPresence {state : TraefikProviderState}
    {event : StoredEvent} {recorded : TraefikProviderEvent}
    (written : event.data = .traefikProvider recorded) :
    (traefikProviderReducer state event).lastPresence =
      recorded.presents.getD state.lastPresence := by
  unfold traefikProviderReducer
  rw [written]
  cases recorded with
  | agentDisconnected data =>
      simp only [TraefikProviderEvent.presents]
      split <;> rfl
  | _ => rfl

/-- The folded presence after an event was recorded. -/
theorem RecordsEvent.presence {before after : World}
    {request : ProviderRequest} {event : StoredEvent}
    {recorded : TraefikProviderEvent}
    (appended : RecordsEvent before after request history providerId event
      recorded) (other : Id) :
    after.store.presence other =
      if other = providerId then
        recorded.presents.getD (before.store.presence other)
      else before.store.presence other := by
  unfold EventStore.presence
  rw [appended.stream other]
  by_cases same : other = providerId
  · rw [if_pos same, if_pos same]
    unfold providerOf
    rw [List.foldl_append]
    exact reducer_lastPresence appended.data
  · rw [if_neg same, if_neg same, List.append_nil]

/-! ## The invariant -/

/-- The handler of the session has noted its connect. -/
def Agents.Noted (agents : Agents) (sessionId : Id) : Prop :=
  ∃ session, agents.sessions sessionId = some session ∧
    session.connectedRecorded = true

/-- The channel of the session has ended. -/
def Agents.Ended (agents : Agents) (sessionId : Id) : Prop :=
  ∃ session, agents.sessions sessionId = some session ∧
    session.ended = true

/-- What the programs know of their sessions, and what the fold tells of
them. -/
structure Believable (pool : ProviderPool) : Prop where
  attending : Attending pool
  reasoned : pool.state.agents.Reasoned
  unsuperseded : pool.state.agents.Unsuperseded
  givesReasons : pool.Traced fun _ _ call => Call.supersedes call = false
  effective : ∀ sessionId effective, effective.supersedes = true →
    pool.Knows (fun _ => Got (.closed sessionId) effective) fun _ => False
  noted : ∀ sessionId, pool.Knows (fun _ => NotedConnect sessionId)
    (·.agents.Noted sessionId)
  gaveUp : ∀ sessionId, pool.Knows (fun _ => GaveUp sessionId)
    (·.agents.Ended sessionId)
  heard : ∀ sessionId, ∀ thread ∈ pool.threads,
    GaveUp sessionId thread.history → pool.state.store.Connected sessionId →
    pool.state.agents.Noted sessionId
  greeted : ∀ sessionId, pool.SomeKnows (fun _ => Welcomed sessionId)
    (·.agents.Greeted sessionId)
  claimed : ∀ sessionId, pool.SomeKnows (fun _ => HasClaimed sessionId)
    (·.agents.Claimed sessionId)
  kept : ∀ sessionId, ∀ thread ∈ pool.threads,
    HasClaimed sessionId thread.history → thread.program.isOver = true →
    false ∈ presence sessionId pool.state.store.events
  present : ∀ providerId active,
    pool.state.agents.byProvider providerId = some active →
    pool.state.store.Connected active.sessionId →
    pool.state.store.presence providerId = .connected
  unended : ∀ providerId, pool.state.store.presence providerId = .connected →
    ∃ sessionId, pool.state.agents.Belongs sessionId providerId ∧
      presence sessionId pool.state.store.events = [true]

theorem Agents.Noted.progress {before after : Agents}
    (noted : before.Noted sessionId) (progress : before.Progress after) :
    after.Noted sessionId := by
  obtain ⟨session, found, recorded⟩ := noted
  obtain ⟨later, present, continues⟩ := progress.goesOn sessionId session found
  exact ⟨later, present, continues.connectedRecorded recorded⟩

theorem Agents.Ended.progress {before after : Agents}
    (gone : before.Ended sessionId) (progress : before.Progress after) :
    after.Ended sessionId := by
  obtain ⟨session, found, ended⟩ := gone
  obtain ⟨later, present, continues⟩ := progress.goesOn sessionId session found
  exact ⟨later, present, continues.ended ended⟩

theorem EventStore.connected_iff {store : EventStore} :
    store.connected sessionId = true ↔ store.Connected sessionId :=
  decide_eq_true_iff

variable {deps : ProviderServiceDeps} {pool next : ProviderPool}
variable {index : Nat} {choice : Choice} {request : ProviderRequest}
variable {resume : Except Err call.Answer → Backend (Option Nat)}
variable {answer : Except Err call.Answer} {world : World}

namespace Truthful

theorem heard (told : Truthful deps pool (.advance index choice))
    (found : pool.threads[index]? =
      some ⟨request, history, .await call resume⟩) :
    heardOf pool.state call = true := by
  have first := (Bool.and_eq_true_iff.mp told).1
  rw [found] at first
  exact first

theorem inTime (told : Truthful deps pool (.advance index choice))
    (moved : pool.step (providerService deps) (.advance index choice) =
      some next) {event : StoredEvent}
    (inserted : next.state.store.events =
      pool.state.store.events ++ [event]) :
    comesInTime pool.state event = true := by
  have both := (Bool.and_eq_true_iff.mp told).2
  rw [moved, Option.all_some, inserted, List.drop_left] at both
  simpa using (Bool.and_eq_true_iff.mp both).1

theorem kept (told : Truthful deps pool (.advance index choice))
    (moved : pool.step (providerService deps) (.advance index choice) =
      some next) : keptClaims next index = true := by
  have both := (Bool.and_eq_true_iff.mp told).2
  rw [moved, Option.all_some] at both
  exact (Bool.and_eq_true_iff.mp both).2

end Truthful

namespace Believable

theorem initial : Believable ⟨{}, []⟩ where
  attending := .initial
  reasoned _ _ found := by cases found
  unsuperseded _ _ found := by cases found
  givesReasons _ member := by cases member
  effective _ _ _ := .initial _
  noted _ := .initial _
  gaveUp _ := .initial _
  heard _ _ member := by cases member
  greeted _ greeted := by
    obtain ⟨session, found, -⟩ := greeted
    cases found
  claimed _ claimed := by
    obtain ⟨session, found, -⟩ := claimed
    cases found
  kept _ _ member := by cases member
  present _ _ registered := by cases registered
  unended _ connected := by cases connected

/-! ## What is told in a step -/

theorem noted_told (attending : Attending pool)
    (tells : TellsProvider deps pool world index choice request history call
      answer)
    (noted : NotedConnect sessionId (history ++ [⟨call, answer⟩])) :
    NotedConnect sessionId history ∨ world.agents.Noted sessionId := by
  obtain ⟨value, member⟩ := noted
  rcases List.mem_append.mp member with before | last
  · exact .inl ⟨value, before⟩
  · cases List.mem_singleton.mp last
    right
    obtain ⟨resume, running⟩ := tells.running
    have member := List.mem_of_getElem? running
    obtain ⟨message, now, data, got, -⟩ :=
      (attending.chained sessionId _ member).1.notes rfl
    obtain ⟨session, found, -⟩ :=
      attending.welcomed sessionId _ member ⟨message, now, data, got⟩
    obtain ⟨_, rfl, does⟩ := attending.standing.does (tells_result tells)
    cases does with
    | calm still calm => cases still
    | recorded marks =>
        refine ⟨{ session with connectedRecorded := true }, ?_, rfl⟩
        rw [marks]
        simp [Agents.modify, found]

theorem gaveUp_told (attending : Attending pool)
    (reasoned : pool.state.agents.Reasoned)
    (tells : TellsProvider deps pool world index choice request history call
      answer)
    (gaveUp : GaveUp sessionId (history ++ [⟨call, answer⟩])) :
    GaveUp sessionId history ∨ world.agents.Ended sessionId := by
  obtain ⟨resume, running⟩ := tells.running
  have member := List.mem_of_getElem? running
  have result := tells_result tells
  have disciplined := attending.standing.seated.disciplined
  have progress := (attending.standing.does result).progress disciplined
  obtain ⟨earlier, reason, value, welcomed, isPrefix⟩ := gaveUp
  rcases List.prefix_concat_iff.mp isPrefix with whole | before
  · obtain ⟨rfl, last⟩ := List.append_inj' whole rfl
    cases last
    obtain ⟨session, present, -⟩ :=
      attending.welcomed sessionId _ member welcomed
    obtain ⟨later, stored, -⟩ := progress.goesOn sessionId session present
    exact .inr ⟨later, stored, terminate_step attending.standing.seated
      reasoned result stored⟩
  · exact .inl ⟨earlier, reason, value, welcomed, before⟩

theorem effective_told {effective : CloseReason}
    (unsuperseded : pool.state.agents.Unsuperseded)
    (tells : TellsProvider deps pool world index choice request history call
      answer)
    (superseding : effective.supersedes = true)
    (got : Got (.closed sessionId) effective (history ++ [⟨call, answer⟩])) :
    Got (.closed sessionId) effective history := by
  rcases List.mem_append.mp got with before | last
  · exact before
  · cases List.mem_singleton.mp last
    have other := closed_effective unsuperseded (tells_result tells)
    rw [superseding] at other
    cases other

theorem greeted_told (attending : Attending pool)
    (tells : TellsProvider deps pool world index choice request history call
      answer)
    (greeted : world.agents.Greeted sessionId) :
    pool.state.agents.Greeted sessionId ∨
      Welcomed sessionId (history ++ [⟨call, answer⟩]) := by
  obtain ⟨session, found, seen⟩ := greeted
  have does := attending.standing.does (tells_result tells)
  have stems := does.stems attending.standing.seated.disciplined found
  rcases stems.helloSeen seen with before | ⟨message, now, data, same⟩
  · exact .inl before
  · right
    rw [same]
    exact ⟨message, now, data, got_last _ _ _⟩

theorem claim_told (attending : Attending pool)
    (tells : TellsProvider deps pool world index choice request history call
      answer)
    (claimed : world.agents.Claimed sessionId) :
    pool.state.agents.Claimed sessionId ∨
      HasClaimed sessionId (history ++ [⟨call, answer⟩]) := by
  obtain ⟨session, found, recorded⟩ := claimed
  have does := attending.standing.does (tells_result tells)
  have stems := does.stems attending.standing.seated.disciplined found
  rcases stems.disconnectRecorded recorded with before | same
  · exact .inl before
  · right
    rw [same]
    exact got_last _ _ _

/-! ## What a step leaves -/

/-- An event that says something of a session is recorded by a program that
knows of it. -/
theorem connected_step (attending : Attending pool)
    (found : pool.threads[index]? =
      some ⟨request, history, .await call resume⟩)
    (result : semantics call choice pool.state = some (answer, world))
    (connected : world.store.Connected sessionId) :
    pool.state.store.Connected sessionId ∨
      Welcomed sessionId history ∧ ¬ GaveUp sessionId history := by
  rcases attending.standing.inserts found result with
    same | ⟨input, owner, event, recorded, rfl, written, appended, -⟩
  · rw [same] at connected
    exact .inl connected
  · rw [EventStore.Connected, appended.inserted, presence_append] at connected
    rcases List.mem_append.mp connected with old | new
    · exact .inl old
    · right
      obtain ⟨-, ⟨-, welcomed, data, rfl⟩ | ⟨impossible, -⟩⟩ :=
        attending.recorder found appended (Option.mem_toList.mp new)
      · have chained :=
          (attending.chained sessionId _ (List.mem_of_getElem? found)).1
        exact ⟨welcomed,
          (chained.connects input data rfl written welcomed).2.2⟩
      · cases impossible

/-- A session that was given up is not connected afterwards. -/
theorem heard_step (believable : Believable pool)
    (truthful : Truthful deps pool (.advance index choice))
    (found : pool.threads[index]? =
      some ⟨request, history, .await call resume⟩)
    (result : semantics call choice pool.state = some (answer, world)) :
    ∀ thread ∈ pool.threads.set index
        ⟨request, history ++ [⟨call, answer⟩], resume answer⟩,
      GaveUp sessionId thread.history → world.store.Connected sessionId →
      world.agents.Noted sessionId := by
  have attending := believable.attending
  have does := attending.standing.does result
  have progress := does.progress attending.standing.seated.disciplined
  have running := List.mem_of_getElem? found
  have kept (thread) (member : thread ∈ pool.threads)
      (gaveUp : GaveUp sessionId thread.history)
      (connected : world.store.Connected sessionId) :
      world.agents.Noted sessionId := by
    rcases connected_step attending found result connected with
      before | ⟨welcomed, notGivenUp⟩
    · exact (believable.heard sessionId thread member gaveUp before).progress
        progress
    · -- only one program has taken the hello, and it has not given up
      obtain ⟨earlier, reason, value, welcomedToo, isPrefix⟩ := gaveUp
      have welcomedLater : Welcomed sessionId thread.history := by
        obtain ⟨message, now, data, got⟩ := welcomedToo
        exact ⟨message, now, data,
          isPrefix.subset (List.mem_append_left _ got)⟩
      obtain ⟨other, atOther⟩ := List.getElem?_of_mem member
      have same : other = index :=
        attending.oneWelcome sessionId other index thread _ atOther found
          welcomedLater welcomed
      subst same
      cases found.symm.trans atOther
      exact absurd ⟨earlier, reason, value, welcomedToo, isPrefix⟩ notGivenUp
  intro thread member gaveUp connected
  rcases List.mem_or_eq_of_mem_set member with old | new
  · exact kept thread old gaveUp connected
  · subst new
    obtain ⟨earlier, reason, value, welcomed, isPrefix⟩ := gaveUp
    rcases List.prefix_concat_iff.mp isPrefix with whole | before
    · obtain ⟨rfl, last⟩ := List.append_inj' whole rfl
      cases last
      have before : pool.state.store.Connected sessionId := by
        rcases attending.standing.inserts found result with
          same | ⟨input, _, _, _, impossible, -⟩
        · rw [same] at connected
          exact connected
        · cases impossible
      have heard := truthful.heard found
      obtain ⟨session, present, -⟩ :=
        attending.welcomed sessionId _ running welcomed
      simp only [heardOf, EventStore.connected_iff.mpr before, Bool.not_true,
        Bool.false_or, present, Option.any_some] at heard
      have noted : pool.state.agents.Noted sessionId :=
        ⟨session, present, heard⟩
      exact noted.progress progress
    · exact kept _ running ⟨earlier, reason, value, welcomed, before⟩ connected

theorem kept_step (believable : Believable pool)
    (truthful : Truthful deps pool (.advance index choice))
    (moved : pool.step (providerService deps) (.advance index choice) =
      some next) :
    ∀ thread ∈ next.threads, HasClaimed sessionId thread.history →
      thread.program.isOver = true →
      false ∈ presence sessionId next.state.store.events := by
  have grows := believable.attending.standing.store_extends moved
  have keptNow := truthful.kept moved
  obtain ⟨request, history, call, resume, answer, world, found, result,
    rfl⟩ := Pool.step_advance moved
  have inBounds := (List.getElem?_eq_some_iff.mp found).1
  intro thread member claimed isOver
  rcases List.mem_or_eq_of_mem_set member with old | new
  · have before := believable.kept sessionId thread old claimed isOver
    exact (grows.1.filterMap _).subset before
  · subst new
    simp only [keptClaims, List.getElem?_set_self inBounds, Option.all_some,
      isOver, Bool.not_true, Bool.false_or, List.all_eq_true,
      decide_eq_true_eq] at keptNow
    exact keptNow sessionId (mem_disconnectClaims.mpr claimed)

/-- What an event says of a session, it says in its provider's stream. -/
theorem silent_elsewhere {event : StoredEvent} {owner : Id}
    {recorded : TraefikProviderEvent} (attending : Attending pool)
    (found : pool.threads[index]? =
      some ⟨request, history, .await call resume⟩)
    (appended : RecordsEvent pool.state world request history owner event
      recorded)
    (belongs : pool.state.agents.Belongs sessionId providerId)
    (elsewhere : providerId ≠ owner) :
    presence sessionId world.store.events =
      presence sessionId pool.state.store.events := by
  rw [appended.inserted, presence_append]
  cases speaks : event.data.presenceOf sessionId with
  | none => exact List.append_nil _
  | some said =>
      obtain ⟨⟨other, present, ofOwner⟩, -⟩ :=
        attending.recorder found appended speaks
      obtain ⟨session, stored, ofProvider⟩ := belongs
      cases stored.symm.trans present
      exact absurd (ofProvider.symm.trans ofOwner) elsewhere

theorem silent_event {event : StoredEvent} {recorded : TraefikProviderEvent}
    (written : event.data = .traefikProvider recorded)
    (silent : recorded.ofPresence = false) :
    event.data.presenceOf sessionId = none := by
  rw [written]
  cases recorded <;> first | rfl | cases silent

theorem presents_silent {recorded : TraefikProviderEvent}
    (silent : recorded.ofPresence = false) : recorded.presents = none := by
  cases recorded <;> first | rfl | cases silent

/-- A disconnect is recorded with another reason than being superseded. -/
theorem presents_disconnect (believable : Believable pool)
    {data : TraefikProviderAgentDisconnectedData} {owner : Id}
    (found : pool.threads[index]? =
      some ⟨request, history, .await call resume⟩)
    (records : request.command.Records request.now history owner
      (.agentDisconnected data)) :
    (TraefikProviderEvent.agentDisconnected data).presents =
      some .disconnected := by
  obtain ⟨auth, effective, -, -, -, got, reason⟩ := records.of_disconnected
  have other : data.reason ≠ .superseded := by
    intro superseded
    have superseding : effective.supersedes = true :=
      decide_eq_true (reason.symm.trans superseded)
    exact believable.effective data.sessionId effective superseding _
      (List.mem_of_getElem? found) got
  exact if_neg other

/-- The session of a recorded event of presence. -/
theorem recorder_told (attending : Attending pool)
    (found : pool.threads[index]? =
      some ⟨request, history, .await call resume⟩)
    {event : StoredEvent} {owner : Id}
    {data : TraefikProviderAgentConnectedData}
    (appended : RecordsEvent pool.state world request history owner event
      (.agentConnected data)) :
    pool.state.agents.Belongs data.sessionId owner ∧
      presence data.sessionId world.store.events =
        presence data.sessionId pool.state.store.events ++ [true] := by
  have speaks : event.data.presenceOf data.sessionId = some true := by
    rw [appended.data]
    exact if_pos rfl
  refine ⟨(attending.recorder found appended speaks).1, ?_⟩
  rw [appended.inserted, presence_append, speaks]
  rfl

/-- Who is registered and connected is present in the fold. -/
theorem present_step (believable : Believable pool)
    (truthful : Truthful deps pool (.advance index choice))
    (moved : pool.step (providerService deps) (.advance index choice) =
      some next) {active : ActiveSession}
    (registered : next.state.agents.byProvider providerId = some active)
    (connected : next.state.store.Connected active.sessionId) :
    next.state.store.presence providerId = .connected := by
  have attending := believable.attending
  have disciplined := attending.standing.seated.disciplined
  have inTime (event : StoredEvent) (inserted : next.state.store.events =
      pool.state.store.events ++ [event]) :
      comesInTime pool.state event = true := truthful.inTime moved inserted
  obtain ⟨request, history, call, resume, answer, world, found, result,
    rfl⟩ := Pool.step_advance moved
  have does := attending.standing.does result
  change world.agents.byProvider providerId = some active at registered
  change world.store.Connected active.sessionId at connected
  change world.store.presence providerId = .connected
  rcases attending.standing.inserts found result with
    same | ⟨input, owner, event, recorded, rfl, written, appended, -⟩
  · rw [same] at connected ⊢
    rcases attending.standing.registers found result with
      ⟨session, now, greets, -⟩ | ⟨-, thins⟩
    · by_cases own : providerId = session.providerId
      · -- a session that is only now registered has no connect yet
        subst own
        rw [greets.entry] at registered
        cases registered
        obtain ⟨thread, member, welcomed, -⟩ :=
          attending.connectedBy session.sessionId connected
        obtain ⟨other, present, seen⟩ :=
          attending.welcomed session.sessionId thread member welcomed
        cases greets.found.symm.trans present
        rw [greets.unseen] at seen
        cases seen
      · rw [greets.elsewhere providerId own] at registered
        exact believable.present providerId active registered connected
    · exact believable.present providerId active
        (thins.shrinks providerId active registered) connected
  · have same : world.agents = pool.state.agents := does
    rw [same] at registered
    rw [appended.presence]
    obtain ⟨session, stored, -, ofProvider, -⟩ :=
      disciplined.registered providerId active registered
    have belongs : pool.state.agents.Belongs active.sessionId providerId :=
      ⟨session, stored, ofProvider⟩
    by_cases own : providerId = owner
    · rw [if_pos own]
      subst own
      have before (silent : event.data.presenceOf active.sessionId ≠
          some true) : pool.state.store.Connected active.sessionId := by
        rw [EventStore.Connected, appended.inserted,
          presence_append] at connected
        rcases List.mem_append.mp connected with old | new
        · exact old
        · exact absurd (Option.mem_toList.mp new) silent
      cases kind : recorded.ofPresence with
      | false =>
          rw [presents_silent kind]
          apply believable.present providerId active registered
          apply before
          rw [silent_event appended.data kind]
          exact fun impossible => by cases impossible
      | true =>
          cases recorded with
          | agentConnected data => rfl
          | agentDisconnected data =>
              have timely := inTime event appended.inserted
              have unconnected : ¬ pool.state.store.Connected
                  active.sessionId := by
                simpa [comesInTime, appended.data, appended.ofProvider,
                  registered, EventStore.connected,
                  EventStore.Connected] using timely
              apply absurd (before _) unconnected
              rw [appended.data]
              simp [EventData.presenceOf]
          | _ => cases kind
    · rw [if_neg own]
      rw [EventStore.Connected,
        silent_elsewhere attending found appended belongs own] at connected
      exact believable.present providerId active registered connected

/-- A provider whose fold is connected has a session that is recorded as
connected and no more. -/
theorem unended_step (believable : Believable pool)
    (moved : pool.step (providerService deps) (.advance index choice) =
      some next)
    (connected : next.state.store.presence providerId = .connected) :
    ∃ sessionId, next.state.agents.Belongs sessionId providerId ∧
      presence sessionId next.state.store.events = [true] := by
  have attending := believable.attending
  have progress := attending.standing.agents_progress moved
  have inOrder (sessionId : Id) := (attending.records_step moved
    sessionId).inOrder
  obtain ⟨request, history, call, resume, answer, world, found, result,
    rfl⟩ := Pool.step_advance moved
  change world.store.presence providerId = .connected at connected
  have asBefore (before : pool.state.store.presence providerId = .connected)
      (silent : ∀ sessionId,
        pool.state.agents.Belongs sessionId providerId →
        presence sessionId world.store.events =
          presence sessionId pool.state.store.events) :
      ∃ sessionId, world.agents.Belongs sessionId providerId ∧
        presence sessionId world.store.events = [true] := by
    obtain ⟨sessionId, belongs, once⟩ := believable.unended providerId before
    exact ⟨sessionId, belongs.progress progress,
      (silent sessionId belongs).trans once⟩
  rcases attending.standing.inserts found result with
    same | ⟨input, owner, event, recorded, rfl, written, appended, -⟩
  · rw [same] at connected
    apply asBefore connected
    intro sessionId _
    rw [same]
  · rw [appended.presence] at connected
    by_cases own : providerId = owner
    · rw [if_pos own] at connected
      subst own
      cases kind : recorded.ofPresence with
      | false =>
          rw [presents_silent kind] at connected
          apply asBefore connected
          intro sessionId _
          rw [appended.inserted, presence_append,
            silent_event appended.data kind]
          exact List.append_nil _
      | true =>
          cases recorded with
          | agentConnected data =>
              obtain ⟨belongs, told⟩ := recorder_told attending found appended
              refine ⟨data.sessionId, belongs.progress progress, ?_⟩
              have order : presence data.sessionId world.store.events <+:
                  [true, false] := inOrder data.sessionId
              rw [told] at order
              rcases Attending.presence_cases order with none | once | both
              · simp at none
              · exact told.trans once
              · have last := congrArg List.getLast? both
                simp at last
          | agentDisconnected data =>
              rw [believable.presents_disconnect found
                appended.records] at connected
              cases connected
          | _ => cases kind
    · rw [if_neg own] at connected
      apply asBefore connected
      exact fun sessionId belongs =>
        silent_elsewhere attending found appended belongs own

theorem start (believable : Believable pool)
    (moved : pool.step (providerService deps) (.start request) = some next)
    (attending : Attending next)
    (givesReasons : next.Traced fun _ _ call => Call.supersedes call = false)
    (effective : ∀ sessionId effective, effective.supersedes = true →
      next.Knows (fun _ => Got (.closed sessionId) effective) fun _ => False)
    (noted : ∀ sessionId, next.Knows (fun _ => NotedConnect sessionId)
      (·.agents.Noted sessionId))
    (gaveUp : ∀ sessionId, next.Knows (fun _ => GaveUp sessionId)
      (·.agents.Ended sessionId))
    (greeted : ∀ sessionId, next.SomeKnows (fun _ => Welcomed sessionId)
      (·.agents.Greeted sessionId))
    (claimed : ∀ sessionId, next.SomeKnows (fun _ => HasClaimed sessionId)
      (·.agents.Claimed sessionId)) : Believable next := by
  obtain ⟨-, -, rfl⟩ := Pool.step_start moved
  refine
    { attending
      reasoned := believable.reasoned
      unsuperseded := believable.unsuperseded
      givesReasons
      effective
      noted
      gaveUp
      heard := ?_
      greeted
      claimed
      kept := ?_
      present := believable.present
      unended := believable.unended }
  · intro sessionId thread member gaveUp
    rcases List.mem_append.mp member with old | new
    · exact believable.heard sessionId thread old gaveUp
    · rw [List.mem_singleton] at new
      subst new
      obtain ⟨earlier, reason, answer, -, isPrefix⟩ := gaveUp
      have empty := List.prefix_nil.mp isPrefix
      simp at empty
  · intro sessionId thread member claimed
    rcases List.mem_append.mp member with old | new
    · exact believable.kept sessionId thread old claimed
    · rw [List.mem_singleton] at new
      subst new
      cases claimed

theorem step (believable : Believable pool)
    {move : Move ProviderRequest Choice} (told : Truthful deps pool move)
    (moved : pool.step (providerService deps) move = some next) :
    Believable next := by
  have attending := believable.attending
  have progress := attending.standing.agents_progress moved
  have later := attending.step moved
  have givesReasons : next.Traced fun _ _ call =>
      Call.supersedes call = false :=
    believable.givesReasons.step (fun request => .of_quiet (fun _ => True)
      (command_givesReasons deps request.now request.command)
      (fun _ _ _ _ _ => trivial) (fun _ _ _ other => other) trivial) moved
  have effective (sessionId : Id) (reason : CloseReason)
      (superseding : reason.supersedes = true) :
      next.Knows (fun _ => Got (.closed sessionId) reason)
        fun _ => False := by
    apply (believable.effective sessionId reason superseding).step _ id _ moved
    · intro request got
      cases got
    · intro index choice request history call answer tells got
      exact .inl (effective_told believable.unsuperseded tells superseding got)
  have noted (sessionId : Id) : next.Knows (fun _ => NotedConnect sessionId)
      (·.agents.Noted sessionId) := by
    apply (believable.noted sessionId).step _ _ _ moved
    · intro request noted
      obtain ⟨answer, member⟩ := noted
      cases member
    · exact fun noted => noted.progress progress
    · exact fun index choice request history call answer tells noted =>
        noted_told attending tells noted
  have gaveUp (sessionId : Id) : next.Knows (fun _ => GaveUp sessionId)
      (·.agents.Ended sessionId) := by
    apply (believable.gaveUp sessionId).step _ _ _ moved
    · intro request gaveUp
      obtain ⟨earlier, reason, answer, -, isPrefix⟩ := gaveUp
      have empty := List.prefix_nil.mp isPrefix
      simp at empty
    · exact fun ended => ended.progress progress
    · exact fun index choice request history call answer tells gaveUp =>
        gaveUp_told attending believable.reasoned tells gaveUp
  have greeted (sessionId : Id) : next.SomeKnows
      (fun _ => Welcomed sessionId) (·.agents.Greeted sessionId) := by
    apply (believable.greeted sessionId).step _ _ moved
    · exact fun _ => welcomed_lasting sessionId
    · exact fun index choice request history call answer tells greeted =>
        greeted_told attending tells greeted
  have claimed (sessionId : Id) : next.SomeKnows
      (fun _ => HasClaimed sessionId) (·.agents.Claimed sessionId) := by
    apply (believable.claimed sessionId).step _ _ moved
    · exact fun _ => got_lasting _ _
    · exact fun index choice request history call answer tells claimed =>
        claim_told attending tells claimed
  cases move with
  | start request =>
      exact believable.start moved later givesReasons effective noted gaveUp
        greeted claimed
  | advance index choice =>
      have kept : ∀ sessionId, ∀ thread ∈ next.threads,
          HasClaimed sessionId thread.history →
          thread.program.isOver = true →
          false ∈ presence sessionId next.state.store.events :=
        fun _ => believable.kept_step told moved
      have present : ∀ providerId active,
          next.state.agents.byProvider providerId = some active →
          next.state.store.Connected active.sessionId →
          next.state.store.presence providerId = .connected :=
        fun _ _ => believable.present_step told moved
      have unended : ∀ providerId,
          next.state.store.presence providerId = .connected →
          ∃ sessionId, next.state.agents.Belongs sessionId providerId ∧
            presence sessionId next.state.store.events = [true] :=
        fun _ => believable.unended_step moved
      obtain ⟨request, history, call, resume, answer, world, found, result,
        rfl⟩ := Pool.step_advance moved
      have running := List.mem_of_getElem? found
      exact
        { attending := later
          reasoned := call_reasoned attending.standing.seated
            believable.reasoned result
          unsuperseded := call_unsuperseded
            (believable.givesReasons _ running).1 believable.unsuperseded
            result
          givesReasons
          effective
          noted
          gaveUp
          heard := fun sessionId => believable.heard_step told found result
          greeted
          claimed
          kept
          present
          unended }

theorem of_run
    (run : Pool.Run (providerService deps) (Truthful deps) ⟨{}, []⟩ pool) :
    Believable pool :=
  run.invariant initial fun _ _ _ believable told moved =>
    believable.step told moved

/-! ## Quiet states -/

/-- In a quiet state the connect of a session that has said hello is noted, or
the session was given up. -/
theorem dealt (believable : Believable pool)
    (greeted : pool.state.agents.Greeted sessionId)
    (quiet : outstanding pool sessionId = false) :
    pool.state.agents.Noted sessionId ∨
      (∃ thread ∈ pool.threads, GaveUp sessionId thread.history) := by
  obtain ⟨thread, member, welcomed⟩ := believable.greeted sessionId greeted
  have settled : connectPending sessionId thread.history = false := by
    simp only [outstanding, Bool.or_eq_false_iff, List.any_eq_false,
      Bool.not_eq_true] at quiet
    exact quiet.1.1 thread member
  rcases noted_or_gaveUp welcomed settled with noted | gaveUp
  · exact .inl (believable.noted sessionId thread member noted)
  · exact .inr ⟨thread, member, gaveUp⟩

/-- In a quiet state the disconnect of a closed session is recorded. -/
theorem disconnected (believable : Believable pool) {session : AgentSession}
    (found : pool.state.agents.sessions sessionId = some session)
    (closed : session.closed = true)
    (recorded : session.connectedRecorded = true)
    (quiet : outstanding pool sessionId = false) :
    false ∈ presence sessionId pool.state.store.events := by
  simp only [outstanding, Bool.or_eq_false_iff, List.any_eq_false, found,
    Option.any_some, closed, recorded, Bool.true_and, Bool.not_eq_false',
    Bool.and_eq_true, decide_eq_true_eq, Bool.not_eq_true', not_and,
    Bool.not_eq_false] at quiet
  obtain ⟨⟨-, claimed⟩, ended⟩ := quiet
  obtain ⟨thread, member, hasClaimed⟩ :=
    believable.claimed sessionId ⟨session, found, claimed⟩
  apply believable.kept sessionId thread member hasClaimed
  exact ended thread member (mem_disconnectClaims.mpr hasClaimed)

/-- Who is registered is connected in the fold. -/
theorem connected_of_registered (believable : Believable pool)
    {active : ActiveSession}
    (registered : pool.state.agents.byProvider providerId = some active)
    (quiet : Quiet pool providerId) :
    pool.state.store.presence providerId = .connected := by
  have attending := believable.attending
  obtain ⟨session, found, isOpen, ofProvider, -⟩ :=
    attending.standing.seated.disciplined.registered providerId active
      registered
  have greeted := attending.standing.introduced providerId active registered
  apply believable.present providerId active registered
  rcases believable.dealt greeted (quiet _ ⟨session, found, ofProvider⟩) with
    ⟨noted, present, recorded⟩ | ⟨thread, member, gaveUp⟩
  · exact attending.recorded _ noted present recorded
  · obtain ⟨other, present, ended⟩ :=
      believable.gaveUp _ thread member gaveUp
    cases found.symm.trans present
    rw [isOpen] at ended
    cases ended

/-- Who is connected in the fold is registered. -/
theorem registered_of_connected (believable : Believable pool)
    (connected : pool.state.store.presence providerId = .connected)
    (quiet : Quiet pool providerId) :
    ∃ active, pool.state.agents.byProvider providerId = some active := by
  have attending := believable.attending
  have disciplined := attending.standing.seated.disciplined
  obtain ⟨sessionId, belongs, once⟩ := believable.unended providerId connected
  have recorded : pool.state.store.Connected sessionId := by
    rw [EventStore.Connected, once]
    exact List.mem_singleton_self _
  obtain ⟨thread, member, welcomed, -⟩ :=
    attending.connectedBy sessionId recorded
  have greeted := attending.welcomed sessionId thread member welcomed
  have settled := quiet sessionId belongs
  have noted : pool.state.agents.Noted sessionId := by
    rcases believable.dealt greeted settled with
      noted | ⟨other, running, gaveUp⟩
    · exact noted
    · exact believable.heard sessionId other running gaveUp recorded
  obtain ⟨session, found, isNoted⟩ := noted
  obtain ⟨same, present, seen⟩ := greeted
  cases found.symm.trans present
  obtain ⟨other, stored, ofProvider⟩ := belongs
  cases found.symm.trans stored
  cases isOpen : session.ended with
  | false =>
      obtain ⟨active, registered, -⟩ := disciplined.live sessionId session found
        seen isOpen (by rintro ⟨⟩)
      rw [ofProvider] at registered
      exact ⟨active, registered⟩
  | true =>
      have closed : session.closed = true := by
        rw [disciplined.closed sessionId session found]
        exact isOpen
      have ended := believable.disconnected found closed isNoted settled
      rw [once] at ended
      simp at ended

end Believable

/-! ## The claim -/

/-- Sessions open, replace one another and end in any order, with any failures.
As long as no disconnect is recorded after the connect of the session that is
registered for the provider, no session is given up whose connect was recorded
unheard, and no disconnect that was claimed is abandoned, the fold tells whether
a session is registered in every state in which no append of a session is
outstanding. -/
theorem folded_presence_is_true (deps : ProviderServiceDeps)
    {pool : ProviderPool}
    (run : Pool.Run (providerService deps) (Truthful deps) ⟨{}, []⟩ pool)
    (providerId : Id) (quiet : Quiet pool providerId) :
    pool.state.store.presence providerId = .connected ↔
      (pool.state.agents.byProvider providerId).isSome = true := by
  have believable := Believable.of_run run
  rw [Option.isSome_iff_exists]
  constructor
  · intro connected
    exact believable.registered_of_connected connected quiet
  · intro registered
    obtain ⟨active, registered⟩ := registered
    exact believable.connected_of_registered registered quiet

/-! ## A session whose end is recorded late -/

/-- The ids of sessions are drawn. -/
theorem quiet_of_drawn {deps : ProviderServiceDeps} {pool : ProviderPool}
    {allowed : ProviderPool → Move ProviderRequest Choice → Prop}
    (run : Pool.Run (providerService deps) allowed ⟨{}, []⟩ pool)
    (none : (List.range pool.state.nextUUID).any (outstanding pool) = false)
    (providerId : Id) : Quiet pool providerId := by
  intro sessionId belongs
  obtain ⟨session, found, -⟩ := belongs
  have drawn := (Standing.of_run run).seated.drawn sessionId session found
  have all := List.any_eq_false.mp none sessionId (List.mem_range.mpr drawn)
  exact Bool.eq_false_iff.mpr all

namespace FoldedPresence

open HelloFirst

def endRequest : ProviderRequest := ⟨7, 0, .closed ⟨1, 0, 2⟩ 3⟩

/-- A session is replaced, and its end recorded after the newer session has
connected. -/
def endedLate : List (Move ProviderRequest Choice) :=
  replacedLater ++ advances 4 6 ++ [.start endRequest] ++ advances 5 11

/-- A session ends, and a newer one connects. -/
def endedFirst : List (Move ProviderRequest Choice) :=
  Revocation.opened ++ [.start Revocation.helloRequest] ++ advances 2 25 ++
    [.start ⟨8, 0, .transportEnd ⟨1, 0, 2⟩ 3⟩] ++ advances 3 1 ++
    [.start endRequest] ++ advances 4 11 ++
    [.start newerStream] ++ advances 5 4 ++
    [.start newerHello] ++ advances 6 9

/-- The folded presence, the session that is registered, and whether an append
of any session is outstanding. -/
def presenceOf (pool : ProviderPool) : Presence × Option Id × Bool :=
  (pool.state.store.presence 0,
    (pool.state.agents.byProvider 0).map (·.sessionId),
    (List.range pool.state.nextUUID).any (outstanding pool))

end FoldedPresence

open FoldedPresence in
theorem folded_presence_is_true_endedFirst :
    ∃ pool : ProviderPool, presenceOf pool = (.connected, some 5, false) ∧
      (pool.state.store.presence 0 = .connected ↔
        (pool.state.agents.byProvider 0).isSome = true) := by
  have ends : ((⟨{}, []⟩ : ProviderPool).follow (providerService exampleDeps)
      (truthful exampleDeps) endedFirst).map presenceOf =
        some (.connected, some 5, false) := by
    decide +kernel
  obtain ⟨pool, followed, same⟩ := Option.map_eq_some_iff.mp ends
  have run : Pool.Run (providerService exampleDeps) (Truthful exampleDeps)
      ⟨{}, []⟩ pool := Pool.run_of_follow (fun _ _ passed => passed) followed
  refine ⟨pool, same, folded_presence_is_true exampleDeps run 0 ?_⟩
  exact quiet_of_drawn run (congrArg (·.2.2) same) 0

open FoldedPresence in
/-- The disconnect of a replaced session hides the session that is
registered. -/
theorem replaced_session_hides_its_successor :
    ¬ ∀ (deps : ProviderServiceDeps) (pool : ProviderPool),
      Pool.Run (providerService deps) (fun _ _ => True) ⟨{}, []⟩ pool →
      ∀ providerId, Quiet pool providerId →
        (pool.state.store.presence providerId = .connected ↔
          (pool.state.agents.byProvider providerId).isSome = true) := by
  intro claim
  have ends : ((⟨{}, []⟩ : ProviderPool).follow (providerService exampleDeps)
      (fun _ _ => true) endedLate).map presenceOf =
        some (.disconnected, some 5, false) := by
    decide +kernel
  obtain ⟨pool, followed, same⟩ := Option.map_eq_some_iff.mp ends
  have run : Pool.Run (providerService exampleDeps) (fun _ _ => True) ⟨{}, []⟩
      pool := Pool.run_of_follow (fun _ _ _ => trivial) followed
  obtain ⟨disconnected, registered, none⟩ : _ ∧ _ ∧ _ := by
    simpa only [presenceOf, Prod.mk.injEq] using same
  have told := claim exampleDeps pool run 0 (quiet_of_drawn run none 0)
  rw [disconnected] at told
  obtain ⟨active, present, -⟩ := Option.map_eq_some_iff.mp registered
  have connected := told.mpr (by rw [present]; rfl)
  cases connected

end FluxIP
