import FluxIP.Adapters.DeliveryStatus
import FluxIP.Guarantees.ProviderRuns
import FluxIP.Guarantees.Revocation

/-!
# What agents report

A report is recorded with whatever version the agent puts into it.  As long as
agents report versions that were published, and report the current one as
applied only after it was sent to them, the stream of the provider reports on
published versions alone.
-/

namespace FluxIP

open Async

/-- The version a report is about. -/
def EventData.reportedVersion : EventData → Option Nat
  | .traefikProvider (.snapshotApplied data) => some data.version
  | .traefikProvider (.snapshotApplyFailed data) => some data.version
  | _ => none

/-- Every report of the stream is about a version published before it. -/
def ReportsFollow (events : List StoredEvent) : Prop :=
  ∀ before event after version, events = before ++ event :: after →
    event.data.reportedVersion = some version →
    ∃ last ∈ publications before, last.version = version

/-- A snapshot with this version was sent to a session of the provider. -/
def Agents.given (agents : Agents) (providerId : Id) (version : Nat) : Bool :=
  agents.sent.any fun sent =>
    (agents.sessions sent.sessionId).any (·.providerId = providerId) &&
      match sent.message with
      | .snapshot payload => decide (payload.version = version)
      | _ => false

/-! ## The condition -/

/-- The report is about a published version; the last one is reported as
applied only after it was sent. -/
def honestReport (world : World) (providerId : Id) (report : ReportMessage) :
    Bool :=
  let published := publications (world.store.ofProvider providerId)
  published.any (·.version = report.version) &&
    (report.result ≠ .ok ||
      published.getLast?.all (·.version ≠ report.version) ||
      world.agents.given providerId report.version)

/-- The session is open and past its hello. -/
def Agents.listens (agents : Agents) (sessionId : Id) : Bool :=
  (agents.sessions sessionId).any fun session =>
    !session.closed && session.helloSeen

/-- A report that is taken and recorded is honest. -/
def reportsHonestly (pool : ProviderPool) :
    Move ProviderRequest Choice → Bool
  | .start _ => true
  | .advance index _ =>
      match pool.threads[index]? with
      | some ⟨⟨_, _, .message auth _ _⟩, _,
          .await (.memory (.process sessionId (.report report) _)) _⟩ =>
          !pool.state.agents.listens sessionId ||
            report.result = .ignoredStale ||
            honestReport pool.state auth.providerId report
      | _ => true

/-- The moves of a run in which agents report honestly. -/
def HonestReports (pool : ProviderPool) (move : Move ProviderRequest Choice) :
    Prop :=
  reportsHonestly pool move = true

/-! ## Reports and publications -/

variable {before after : World} {providerId : Id} {version : Nat}

theorem given_of_progress {earlier later : Agents}
    (progress : earlier.Progress later)
    (given : earlier.given providerId version = true) :
    later.given providerId version = true := by
  obtain ⟨sent, member, isGiven⟩ := List.any_eq_true.mp given
  rw [Bool.and_eq_true] at isGiven
  obtain ⟨ofProvider, isSnapshot⟩ := isGiven
  apply List.any_eq_true.mpr
  refine ⟨sent, progress.sent.subset member, ?_⟩
  rw [Bool.and_eq_true]
  refine ⟨?_, isSnapshot⟩
  cases found : earlier.sessions sent.sessionId with
  | none => simp [found] at ofProvider
  | some session =>
      obtain ⟨still, present, goesOn⟩ :=
        progress.goesOn sent.sessionId session found
      simpa [present, goesOn.providerId, found] using ofProvider

theorem publications_extends {earlier later : EventStore}
    (grows : earlier.Extends later) :
    publications (earlier.ofProvider providerId) <+:
      publications (later.ofProvider providerId) :=
  (grows.stream_prefix .traefikProvider providerId).filterMap _

/-- What may be said of this version at any later time: it was published, and
it was sent or is no longer the last one. -/
structure Grounded (world : World) (providerId : Id)
    (report : ReportMessage) : Prop where
  published : ∃ last ∈ publications (world.store.ofProvider providerId),
    last.version = report.version
  given : report.result = .ok →
    world.agents.given providerId report.version = true ∨
      ∃ last ∈ publications (world.store.ofProvider providerId),
        report.version < last.version

theorem Grounded.later {report : ReportMessage}
    (grounded : Grounded before providerId report)
    (grows : before.store.Extends after.store)
    (progress : before.agents.Progress after.agents) :
    Grounded after providerId report := by
  have longer : publications (before.store.ofProvider providerId) <+:
      publications (after.store.ofProvider providerId) :=
    publications_extends grows
  obtain ⟨⟨last, member, same⟩, given⟩ := grounded
  refine ⟨⟨last, longer.subset member, same⟩, ?_⟩
  intro isOk
  rcases given isOk with sent | ⟨newer, present, less⟩
  · exact .inl (given_of_progress progress sent)
  · exact .inr ⟨newer, longer.subset present, less⟩

/-- The last published version is the newest. -/
theorem newest_published (sequenced : before.store.Sequenced)
    {last published : LastPublished}
    (isLast : (publications (before.store.ofProvider providerId)).getLast? =
      some last)
    (member : published ∈ publications (before.store.ofProvider providerId)) :
    published.version = last.version ∨ published.version < last.version := by
  have increase := publications_increase sequenced providerId
  obtain ⟨earlier, same⟩ := List.getLast?_eq_some_iff.mp isLast
  rw [same] at member increase
  rcases List.mem_append.mp member with old | new
  · right
    exact (List.pairwise_append.mp increase).2.2 published old last
      (List.mem_singleton.mpr rfl)
  · left
    rw [List.mem_singleton] at new
    rw [new]

theorem grounded_of_honest (sequenced : before.store.Sequenced)
    {report : ReportMessage}
    (honest : honestReport before providerId report = true) :
    Grounded before providerId report := by
  simp only [honestReport, Bool.and_eq_true, List.any_eq_true] at honest
  obtain ⟨⟨published, member, same⟩, rest⟩ := honest
  have isVersion : published.version = report.version := of_decide_eq_true same
  refine ⟨⟨published, member, isVersion⟩, ?_⟩
  intro isOk
  cases isLast : (publications
      (before.store.ofProvider providerId)).getLast? with
  | none =>
      rw [List.getLast?_eq_none_iff.mp isLast] at member
      cases member
  | some last =>
      simp only [isOk, isLast, Option.all_some, Bool.or_eq_true] at rest
      rcases rest with (impossible | differs) | sent
      · simp at impossible
      · right
        refine ⟨last, List.mem_of_getLast? isLast, ?_⟩
        have apart : last.version ≠ report.version := of_decide_eq_true differs
        rcases newest_published sequenced isLast member with equal | less
        · exact absurd (equal.symm.trans isVersion) apart
        · exact isVersion ▸ less
      · exact .inl sent

/-! ## What is recorded of a report -/

/-- A report is recorded by the program of a message that has taken it. -/
theorem ProviderCommand.Records.of_report {now : Timestamp}
    {history : BackendHistory} {command : ProviderCommand}
    {event : TraefikProviderEvent}
    (records : command.Records now history providerId event)
    (reports : (EventData.traefikProvider event).reportedVersion =
      some version) :
    ∃ auth sessionId received report,
      command = .message auth sessionId received ∧
        auth.providerId = providerId ∧
        Got (.process sessionId received now) (.reported report) history ∧
        AgentSessionHandler.reportEvent report now = some event := by
  have quiet (isOther : event.issuesToken = true ∨
      event.ofPublisher = true) : False := by
    cases event <;> simp [EventData.reportedVersion,
      TraefikProviderEvent.issuesToken,
      TraefikProviderEvent.ofPublisher] at reports isOther
  cases records with
  | create providerId requested => cases reports
  | firstToken issues => exact (quiet (.inl issues)).elim
  | rename requested => cases reports
  | delete => cases reports
  | token issues => exact (quiet (.inl issues)).elim
  | revoke => cases reports
  | connected got => cases reports
  | @reported auth sessionId received report event got isEvent =>
      exact ⟨auth, sessionId, received, report, rfl, rfl, got, isEvent⟩
  | sent publishes => exact (quiet (.inr publishes)).elim
  | disconnected closed claimed => cases reports
  | run publishes => exact (quiet (.inr publishes)).elim
  | resync publishes => exact (quiet (.inr publishes)).elim

theorem reportEvent_version {report : ReportMessage} {now : Timestamp}
    {event : TraefikProviderEvent}
    (isEvent : AgentSessionHandler.reportEvent report now = some event) :
    report.result ≠ .ignoredStale ∧
      (EventData.traefikProvider event).reportedVersion =
        some report.version ∧
      ∀ data, event = .snapshotApplied data →
        report.result = .ok ∧ data.version = report.version := by
  unfold AgentSessionHandler.reportEvent at isEvent
  cases result : report.result with
  | ignoredStale => simp [result] at isEvent
  | ok =>
      simp only [result, Option.some.injEq] at isEvent
      subst isEvent
      refine ⟨by simp, rfl, ?_⟩
      intro data same
      cases same
      exact ⟨rfl, rfl⟩
  | error =>
      simp only [result, Option.some.injEq] at isEvent
      subst isEvent
      refine ⟨by simp, rfl, ?_⟩
      intro data same
      cases same

/-- What is taken as a report was one, on a session that listens. -/
theorem process_reported {agents : Agents} {sessionId : Id}
    {message : AgentMessage} {now : Timestamp} {report : ReportMessage}
    (taken : (agents.process sessionId message now).1 = .reported report) :
    message = .report report ∧ agents.listens sessionId = true := by
  unfold Agents.process at taken
  cases found : agents.sessions sessionId with
  | none => simp [found] at taken
  | some session =>
      simp only [found] at taken
      split at taken
      · cases taken
      rename_i isOpen
      split at taken
      · simp only [Agents.onHello] at taken
        split at taken
        · cases taken
        · split at taken
          · cases taken
          · cases taken
      · cases taken
      · rename_i seen
        cases taken
        simp [Agents.listens, found, seen, isOpen]
      · cases taken
      · cases taken
      · cases taken

/-! ## The invariant -/

/-- The reports of the streams, and those the programs have yet to record. -/
structure Reliable (pool : ProviderPool) : Prop where
  standing : Standing pool
  grounded : ∀ thread ∈ pool.threads, ∀ auth sessionId received report,
    thread.request.command = .message auth sessionId received →
    Got (.process sessionId received thread.request.now) (.reported report)
      thread.history →
    report.result ≠ .ignoredStale →
    Grounded pool.state auth.providerId report
  follow : ∀ providerId, ReportsFollow (pool.state.store.ofProvider providerId)
  applied : ∀ providerId, ∀ event ∈ pool.state.store.ofProvider providerId,
    ∀ data, event.data = .traefikProvider (.snapshotApplied data) →
    pool.state.agents.given providerId data.version = true ∨
      ∃ last ∈ publications (pool.state.store.ofProvider providerId),
        data.version < last.version

theorem ReportsFollow.append {events : List StoredEvent} {event : StoredEvent}
    (follow : ReportsFollow events)
    (last : ∀ version, event.data.reportedVersion = some version →
      ∃ published ∈ publications events, published.version = version) :
    ReportsFollow (events ++ [event]) := by
  intro before reporting after version same reports
  rcases List.eq_nil_or_concat after with rfl | ⟨init, final, rfl⟩
  · obtain ⟨rfl, final⟩ := List.append_inj' same rfl
    cases final
    exact last version reports
  · rw [List.concat_eq_append, ← List.cons_append, ← List.append_assoc] at same
    obtain ⟨whole, -⟩ := List.append_inj' same rfl
    exact follow before reporting init version whole reports

variable {deps : ProviderServiceDeps} {pool next : ProviderPool}

theorem Reliable.initial : Reliable ⟨{}, []⟩ where
  standing := .initial
  grounded _ member := by cases member
  follow providerId before event after version same := by
    cases before <;> cases same
  applied _ _ member := by cases member

/-- A report that is about to be taken is grounded. -/
theorem Reliable.taken (reliable : Reliable pool) {index : Nat}
    {choice : Choice} {request : ProviderRequest} {history : BackendHistory}
    {auth : AgentAuth} {sessionId : Id} {received : AgentMessage}
    {report : ReportMessage} {world : World}
    {resume : Except Err Agents.Processing → Backend (Option Nat)}
    (honest : HonestReports pool (.advance index choice))
    (found : pool.threads[index]? = some ⟨request, history,
      @Program.await backend Err (Option Nat)
        (.memory (.process sessionId received request.now)) resume⟩)
    (ofMessage : request.command = .message auth sessionId received)
    (result : semantics (.memory (.process sessionId received request.now))
      choice pool.state = some (.ok (.reported report), world))
    (recorded : report.result ≠ .ignoredStale) :
    Grounded pool.state auth.providerId report := by
  have taken : (pool.state.agents.process sessionId received
      request.now).1 = .reported report :=
    Except.ok.inj (congrArg Prod.fst (Option.some.inj result))
  obtain ⟨rfl, listens⟩ := process_reported taken
  obtain ⟨number, now, command⟩ := request
  cases ofMessage
  apply grounded_of_honest reliable.standing.sound.sequenced
  simpa [HonestReports, reportsHonestly, found, listens, recorded] using honest

theorem Reliable.step (reliable : Reliable pool)
    {move : Move ProviderRequest Choice}
    (honest : HonestReports pool move)
    (moved : pool.step (providerService deps) move = some next) :
    Reliable next := by
  have grows := reliable.standing.store_extends moved
  have progress := reliable.standing.agents_progress moved
  have standing := reliable.standing.step moved
  cases move with
  | start request =>
      obtain ⟨-, -, rfl⟩ := Pool.step_start moved
      refine ⟨standing, ?_, reliable.follow, reliable.applied⟩
      intro thread member auth sessionId received report ofMessage got
      rcases List.mem_append.mp member with old | new
      · exact reliable.grounded thread old auth sessionId received report
          ofMessage got
      · rw [List.mem_singleton] at new
        subst new
        cases got
  | advance index choice =>
      obtain ⟨request, history, call, resume, answer, world, found, result,
        rfl⟩ := Pool.step_advance moved
      have running := List.mem_of_getElem? found
      refine ⟨standing, ?_, ?_, ?_⟩
      · intro thread member auth sessionId received report ofMessage got
          recorded
        rcases List.mem_or_eq_of_mem_set member with old | new
        · exact (reliable.grounded thread old auth sessionId received report
            ofMessage got recorded).later grows progress
        · subst new
          dsimp only at ofMessage got
          rcases List.mem_append.mp got with earlier | last
          · exact (reliable.grounded _ running auth sessionId received report
              ofMessage earlier recorded).later grows progress
          · cases List.mem_singleton.mp last
            exact (reliable.taken honest found ofMessage result
              recorded).later grows progress
      · intro providerId
        rcases reliable.standing.call_records found result with
          same | ⟨owner, event, recorded, appended⟩
        · rw [same]
          exact reliable.follow providerId
        · rw [appended.stream]
          split
          · rename_i own
            subst own
            apply (reliable.follow providerId).append
            intro version reports
            rw [appended.data] at reports
            obtain ⟨auth, sessionId, received, report, ofMessage, rfl, got,
              isEvent⟩ := appended.records.of_report reports
            obtain ⟨taken, isVersion, -⟩ := reportEvent_version isEvent
            cases isVersion.symm.trans reports
            exact (reliable.grounded _ running auth sessionId received report
              ofMessage got taken).published
          · rw [List.append_nil]
            exact reliable.follow providerId
      · intro providerId event member data written
        have longer : publications (pool.state.store.ofProvider providerId) <+:
            publications (world.store.ofProvider providerId) :=
          publications_extends grows
        have kept (known : pool.state.agents.given providerId data.version =
              true ∨ ∃ last ∈ publications
                (pool.state.store.ofProvider providerId),
                data.version < last.version) :
            world.agents.given providerId data.version = true ∨
              ∃ last ∈ publications (world.store.ofProvider providerId),
                data.version < last.version := by
          rcases known with sent | ⟨newer, present, less⟩
          · exact .inl (given_of_progress progress sent)
          · exact .inr ⟨newer, longer.subset present, less⟩
        rcases reliable.standing.call_records found result with
          same | ⟨owner, inserted, recorded, appended⟩
        · rw [same] at member
          exact kept (reliable.applied providerId event member data written)
        · rw [appended.stream] at member
          rcases List.mem_append.mp member with old | new
          · exact kept (reliable.applied providerId event old data written)
          · split at new
            · rename_i own
              subst own
              rw [List.mem_singleton] at new
              subst new
              cases appended.data.symm.trans written
              obtain ⟨auth, sessionId, received, report, ofMessage, rfl, got,
                isEvent⟩ := appended.records.of_report rfl
              obtain ⟨taken, -, applies⟩ := reportEvent_version isEvent
              obtain ⟨isOk, sameVersion⟩ := applies data rfl
              rw [sameVersion] at kept ⊢
              exact kept ((reliable.grounded _ running auth sessionId received
                report ofMessage got taken).given isOk)
            · cases new

theorem Reliable.of_run
    (run : Pool.Run (providerService deps) HonestReports ⟨{}, []⟩ pool) :
    Reliable pool :=
  run.invariant .initial fun _ _ _ reliable honest moved =>
    reliable.step honest moved

/-! ## What the routes say -/

theorem lastApplied_providerOf {events : List StoredEvent}
    {applied : LastApplied}
    (last : (providerOf events).lastApplied = some applied) :
    ∃ event ∈ events, ∃ data,
      event.data = .traefikProvider (.snapshotApplied data) ∧
        data.version = applied.version := by
  induction events using List.reverseRecOn with
  | nil => cases last
  | append_singleton events event ih =>
      unfold providerOf at last ih
      rw [List.foldl_append, List.foldl_cons, List.foldl_nil] at last
      have earlier (same : (events.foldl traefikProviderReducer
          initialTraefikProviderState).lastApplied = some applied) :
          ∃ event_1 ∈ events ++ [event], ∃ data,
            event_1.data = .traefikProvider (.snapshotApplied data) ∧
              data.version = applied.version := by
        obtain ⟨found, member, rest⟩ := ih same
        exact ⟨found, List.mem_append_left _ member, rest⟩
      cases written : event.data with
      | traefikProvider recorded =>
          cases recorded with
          | snapshotApplied data =>
              simp only [traefikProviderReducer, written,
                Option.some.injEq] at last
              subst last
              exact ⟨event, by simp, data, written, rfl⟩
          | agentDisconnected data =>
              simp only [traefikProviderReducer, written] at last
              split at last
              · exact earlier last
              · exact earlier last
          | _ =>
              simp only [traefikProviderReducer, written] at last
              exact earlier last
      | _ =>
          simp only [traefikProviderReducer, written] at last
          exact earlier last

/-- An action is said to be applied only after the published version was sent
to the provider. -/
theorem Reliable.status (reliable : Reliable pool)
    {accountId providerId processStartedAt now : Nat}
    {connected actionEnabled : Bool}
    (status : deriveDeliveryStatus processStartedAt (providerOf
      (pool.state.store.readStream ⟨accountId, .traefikProvider, providerId⟩))
      connected actionEnabled now = .applied) :
    ∃ published, (providerOf (pool.state.store.readStream
        ⟨accountId, .traefikProvider, providerId⟩)).lastPublished =
          some published ∧
      pool.state.agents.given providerId published.version = true := by
  obtain ⟨published, applied, isPublished, isApplied, newer⟩ :=
    applied_of_status status
  refine ⟨published, isPublished, ?_⟩
  have sequenced := reliable.standing.sound.sequenced
  have whole : pool.state.store.readStream
      ⟨accountId, .traefikProvider, providerId⟩ =
      pool.state.store.ofProvider providerId := by
    rcases sequenced.readStream_eq
      ⟨accountId, .traefikProvider, providerId⟩ with ⟨same, -⟩ | ⟨none, -⟩
    · exact same
    · rw [none] at isPublished
      cases isPublished
  rw [whole] at isPublished isApplied
  obtain ⟨event, member, data, written, sameVersion⟩ :=
    lastApplied_providerOf isApplied
  have isLast := (lastPublished_providerOf _).symm.trans isPublished
  rcases reliable.applied providerId event member data written with
    sent | ⟨other, present, less⟩
  · obtain ⟨before, after, split⟩ := List.append_of_mem member
    obtain ⟨earlier, present, itsVersion⟩ := reliable.follow providerId
      before event after data.version split (by rw [written]; rfl)
    have inStream : earlier ∈
        publications (pool.state.store.ofProvider providerId) := by
      rw [split]
      unfold publications
      rw [List.filterMap_append]
      exact List.mem_append_left _ present
    have same : data.version = published.version := by
      rcases newest_published sequenced isLast inStream with equal | less
      · exact itsVersion.symm.trans equal
      · omega
    exact same ▸ sent
  · rcases newest_published sequenced isLast present with equal | older
    · omega
    · omega

/-! ## The claim -/

/-- Reports follow publications, as long as agents report honestly.  Requests,
sessions, messages and pushes of any number of providers are interleaved in
any order and with any failures: every report in a provider's stream is about
a version published before it, and an action is said to be applied only if the
published version was sent to the provider's agent. -/
theorem reports_follow_publications (deps : ProviderServiceDeps)
    (run : Pool.Run (providerService deps) HonestReports ⟨{}, []⟩ pool) :
    (∀ providerId,
      ReportsFollow (pool.state.store.ofProvider providerId)) ∧
    ∀ accountId providerId processStartedAt now connected actionEnabled,
      deriveDeliveryStatus processStartedAt (providerOf
          (pool.state.store.readStream
            ⟨accountId, .traefikProvider, providerId⟩))
        connected actionEnabled now = .applied →
      ∃ published, (providerOf (pool.state.store.readStream
          ⟨accountId, .traefikProvider, providerId⟩)).lastPublished =
            some published ∧
        pool.state.agents.given providerId published.version = true := by
  have reliable := Reliable.of_run run
  refine ⟨reliable.follow, ?_⟩
  intro accountId providerId processStartedAt now connected actionEnabled
    status
  exact reliable.status status

/-! ## A report on the snapshot, and one on nothing -/

namespace ReportedVersions

/-- A report of success for this version. -/
def reportOn (version : Nat) : ProviderRequest :=
  ⟨4, 0, .message ⟨1, 0, 2⟩ 3 (.report
    { version
      correlationId := 0
      result := .ok
      error := ""
      agentVersion := "agent"
      stale := false
      files := []
      templates := []
      traefikCheck := none })⟩

/-- The agent of a new provider says hello, is sent its snapshot and reports on
this version. -/
def reporting (version : Nat) : List (Move ProviderRequest Choice) :=
  Revocation.opened ++ [.start Revocation.helloRequest] ++ advances 2 25 ++
    [.start (reportOn version)] ++ advances 3 8

/-- The versions reported on and the versions published. -/
def versions (pool : ProviderPool) : List Nat × List Nat :=
  let events := pool.state.store.ofProvider 0
  (events.filterMap (·.data.reportedVersion),
    (publications events).map (·.version))

end ReportedVersions

open ReportedVersions in
theorem reports_follow_the_snapshot :
    ∃ pool : ProviderPool, versions pool = ([4], [4]) ∧
      ∀ providerId,
        ReportsFollow (pool.state.store.ofProvider providerId) := by
  have ends : ((⟨{}, []⟩ : ProviderPool).follow (providerService exampleDeps)
      reportsHonestly (reporting 4)).map versions = some ([4], [4]) := by
    decide +kernel
  obtain ⟨pool, followed, same⟩ := Option.map_eq_some_iff.mp ends
  have run : Pool.Run (providerService exampleDeps) HonestReports ⟨{}, []⟩
      pool := Pool.run_of_follow (fun _ _ passed => passed) followed
  exact ⟨pool, same, (reports_follow_publications exampleDeps run).1⟩

open ReportedVersions in
/-- An agent may report on a version that was never published. -/
theorem report_on_nothing :
    ¬ ∀ (deps : ProviderServiceDeps) (pool : ProviderPool),
      Pool.Run (providerService deps) (fun _ _ => True) ⟨{}, []⟩ pool →
      ∀ providerId,
        ReportsFollow (pool.state.store.ofProvider providerId) := by
  intro claim
  have ends : ((⟨{}, []⟩ : ProviderPool).follow (providerService exampleDeps)
      (fun _ _ => true) (reporting 99)).map versions = some ([99], [4]) := by
    decide +kernel
  obtain ⟨pool, followed, same⟩ := Option.map_eq_some_iff.mp ends
  obtain ⟨reported, published⟩ := Prod.mk.inj same
  have follow := claim exampleDeps pool
    (Pool.run_of_follow (fun _ _ _ => trivial) followed) 0
  have member : 99 ∈ (pool.state.store.ofProvider 0).filterMap
      (·.data.reportedVersion) := by
    rw [reported]
    exact List.mem_singleton.mpr rfl
  obtain ⟨event, inStream, isReport⟩ := List.mem_filterMap.mp member
  obtain ⟨before, after, split⟩ := List.append_of_mem inStream
  obtain ⟨last, earlier, its⟩ := follow before event after 99 split isReport
  have version : 99 ∈
      (publications (pool.state.store.ofProvider 0)).map (·.version) := by
    rw [split]
    unfold publications
    rw [List.filterMap_append, List.map_append]
    exact List.mem_append_left _ (List.mem_map.mpr ⟨last, earlier, its⟩)
  rw [published] at version
  exact absurd version (by decide)

end FluxIP
