import FluxIP.Adapters.SessionMemory
import FluxIP.Adapters.Writes
import FluxIP.Async.Knowledge
import FluxIP.Guarantees.AccountIsolation

/-!
# Addresses stay with their devices

Whatever the requests, jobs, sessions and timers of the process do to each
other, an address goes only to actions of the device that has reported it: to
the records and firewalls these were configured with, and to agents in the
groups they deliver to.
-/

namespace FluxIP

open Async Origins

/-- The events of the store before a move. -/
def storedBefore (pool : BackendPool) (_ : Move BackendRequest Choice) :
    List StoredEvent :=
  pool.state.store.events

/-- Confirmed changes, execution jobs and the snapshots that were sent have
their origin in these events. -/
structure World.Traceable (stored : List StoredEvent) (world : World) :
    Prop where
  changes : ∀ event ∈ world.store.events, event.Warranted stored
  jobs : ∀ job ∈ world.queues.executions, job.data.Warranted stored
  snapshots : ∀ sent ∈ world.agents.sent, ∀ payload,
    sent.message = .snapshot payload → ∃ session accountId,
      world.agents.sessions sent.sessionId = some session ∧
      payload.Warranted stored accountId session.providerId

/-- The program has read these rules of the firewall. -/
def ReadBy (history : BackendHistory) (firewallId : Nat)
    (rules : List HetznerFirewallRule) : Prop :=
  ∃ apiToken, @Answered.mk backend Err
    (.hetzner (.getFirewall apiToken firewallId)) (.ok rules) ∈ history

/-- Nothing in the process has an address of another device: neither what it
holds, nor what an execution is about to write. -/
structure AddressesStay (stored : List StoredEvent) (pool : BackendPool) :
    Prop where
  held : pool.state.Traceable stored
  written : ∀ thread ∈ pool.threads, ∀ data attempts clocks,
    thread.request.command = .execute data attempts clocks →
    data.Warranted stored ∧ ∀ call resume,
      thread.program = .await call resume →
      call.Writes stored (ReadBy thread.history) data

namespace Origins

/-! ## More events -/

section Mono

variable {stored more : List StoredEvent} (grows : stored ⊆ more)
variable {accountId ipClientId actionId providerId : Id}

include grows

theorem ReportedBy.mono {family : AddressFamily} {address : String}
    (reported : ReportedBy stored accountId ipClientId family address) :
    ReportedBy more accountId ipClientId family address := by
  obtain ⟨event, member, rest⟩ := reported
  exact ⟨event, grows member, rest⟩

theorem AttachedTo.mono
    (attached : AttachedTo stored accountId actionId ipClientId) :
    AttachedTo more accountId actionId ipClientId := by
  obtain ⟨event, member, rest⟩ := attached
  exact ⟨event, grows member, rest⟩

theorem WasGiven.mono {config : ActionConfig}
    (given : WasGiven stored accountId actionId config) :
    WasGiven more accountId actionId config := by
  obtain ⟨event, member, rest⟩ := given
  exact ⟨event, grows member, rest⟩

theorem ComeFrom.mono {values : FamilyValues}
    (come : values.ComeFrom stored accountId ipClientId) :
    values.ComeFrom more accountId ipClientId :=
  fun family address carried =>
    ReportedBy.mono grows (come family address carried)

theorem traceable_mono {world : World} (traceable : world.Traceable stored) :
    world.Traceable more where
  changes event member data isChange :=
    ComeFrom.mono grows (traceable.changes event member data isChange)
  jobs job member :=
    ⟨AttachedTo.mono grows (traceable.jobs job member).attached,
      ComeFrom.mono grows (traceable.jobs job member).reported⟩
  snapshots sent member payload isSnapshot := by
    obtain ⟨session, account, known, warranted⟩ :=
      traceable.snapshots sent member payload isSnapshot
    refine ⟨session, account, known, ?_⟩
    intro group isGroup entry isEntry
    obtain ⟨action, client, attached, given, reported⟩ :=
      warranted group isGroup entry isEntry
    refine ⟨action, client, AttachedTo.mono grows attached,
      WasGiven.mono grows given, ?_⟩
    intro ip isIp
    obtain ⟨family, isReported⟩ := reported ip isIp
    exact ⟨family, ReportedBy.mono grows isReported⟩

end Mono

/-! ## What programs may do -/

variable {deps : BackendDeps} {stored : List StoredEvent}
variable {pool next : BackendPool} {request : BackendRequest}
variable {history : BackendHistory} {call : Call} {choice : Choice}
variable {answer : Except Err call.Answer} {world : World}

/-- As long as it was answered with what was stored, a program passes on
addresses to their own actions only. -/
def Confined (deps : BackendDeps) (stored : List StoredEvent)
    (request : BackendRequest) (history : BackendHistory) (call : Call) :
    Prop :=
  AppendsAllowed deps request history call ∧
  ∀ listed, (∀ answered ∈ history, Found stored listed answered) →
    call.Assigns stored ∧ call.Delivers stored request.command ∧
    ∀ data attempts clocks,
      request.command = .execute data attempts clocks →
      call.Writes stored listed data

theorem command_confined (registered : deps.worker.executors = registeredExecutors)
    (request : BackendRequest) :
    (request.command.program deps request.now).Traces
      (Confined deps stored request) anyEnd [] := by
  have assigns (listed : Nat → List HetznerFirewallRule → Prop) :=
    (@command_assigns stored listed deps request.now request.command).traces []
  have delivers (listed : Nat → List HetznerFirewallRule → Prop) :=
    @command_delivers stored listed deps request.now request.command
  have writes (listed : Nat → List HetznerFirewallRule → Prop) :
      (request.command.program deps request.now).Traces
        (fun history call => (∀ answered ∈ history,
          Found stored listed answered) → ∀ data attempts clocks,
            request.command = .execute data attempts clocks →
            call.Writes stored listed data) anyEnd [] := by
    by_cases executes : ∃ data attempts clocks,
        request.command = .execute data attempts clocks
    · obtain ⟨data, attempts, clocks, same⟩ := executes
      rw [same]
      apply (Program.CallsGiven.traces
        (@execute_writes stored listed data deps request.now attempts clocks
          registered) []).allows
      intro history call writes found _ _ _ other
      cases other
      exact writes found
    · apply (command_appends deps request.now request.command).allows
      intro history call _ _ data attempts clocks same
      exact absurd ⟨data, attempts, clocks, same⟩ executes
  have each := Program.Traces.all fun listed =>
    ((assigns listed).and (delivers listed)).and (writes listed)
  apply ((command_appends deps request.now request.command).and each).allows
  intro history call both
  refine ⟨both.1, ?_⟩
  intro listed found
  have here := both.2 listed
  exact ⟨here.1.1 found, here.1.2 found, here.2 found⟩

/-- Whatever a firewall's rules were. -/
def anyRules (_ : Nat) (_ : List HetznerFirewallRule) : Prop := True

theorem found_error {listed : Nat → List HetznerFirewallRule → Prop}
    {error : Err} : Found stored listed ⟨call, .error error⟩ := by
  cases call with
  | store call => cases call <;> trivial
  | hetzner call => cases call <;> trivial
  | _ => trivial

theorem found_readBy
    (found : ∀ answered ∈ history, Found stored anyRules answered) :
    ∀ answered ∈ history, Found stored (ReadBy history) answered := by
  intro answered member
  have known := found answered member
  obtain ⟨call, answer⟩ := answered
  cases answer with
  | error error => exact found_error
  | ok value =>
      cases call with
      | store call =>
          cases call with
          | readStream params => exact known
          | _ => trivial
      | hetzner call =>
          cases call with
          | getFirewall apiToken firewallId => exact ⟨apiToken, member⟩
          | _ => trivial
      | _ => trivial

/-! ## Steps -/

/-- What holds in every state of a run, if all it has stored is `stored`. -/
structure Following (deps : BackendDeps) (stored : List StoredEvent)
    (pool : BackendPool) : Prop where
  seated : Seated pool.state
  held : pool.state.Traceable stored
  within : pool.state.store.events ⊆ stored
  confined : pool.Traced (Confined deps stored)
  found : ∀ thread ∈ pool.threads, ∀ answered ∈ thread.history,
    Found stored anyRules answered
  jobs : pool.Asks fun request => ∀ data attempts clocks,
    request.command = .execute data attempts clocks → data.Warranted stored
  sessions : ∀ thread ∈ pool.threads, ∀ auth sessionId received,
    thread.request.command = .provider (.message auth sessionId received) →
    ∃ session, pool.state.agents.sessions sessionId = some session ∧
      session.providerId = auth.providerId

/-- What is read was stored. -/
theorem found_answer (held : pool.state.Traceable stored)
    (within : pool.state.store.events ⊆ stored)
    (result : semantics call choice pool.state = some (answer, world)) :
    Found stored anyRules ⟨call, answer⟩ := by
  cases call with
  | store call =>
      cases call with
      | readStream params =>
          rcases (readStream_step result).2 with rfl | ⟨-, message, rfl⟩
          · intro event member
            obtain ⟨isStored, -, ofId, ofAccount⟩ :=
              EventStore.mem_readStream.mp member
            exact ⟨within isStored, ⟨ofAccount, ofId⟩,
              held.changes event isStored⟩
          · exact found_error
      | _ => trivial
  | hetzner call =>
      cases call with
      | getFirewall apiToken firewallId =>
          cases answer with
          | ok rules => trivial
          | error error => exact found_error
      | _ => trivial
  | _ => trivial

/-- What a program appends confirms what was reported. -/
theorem appended_warranted {input : AppendEventInput} {event : StoredEvent}
    (appends : AppendsAllowed deps request history
      (.store (.append input)))
    (found : ∀ answered ∈ history, Found stored anyRules answered)
    (ofId : event.aggregateId = input.aggregateId)
    (ofAccount : event.accountId = input.accountId)
    (written : event.data = input.data) : event.Warranted stored := by
  obtain ⟨-, allowed⟩ := appends.1 input rfl
  have seen : SeenOf stored input.accountId input.aggregateId
      (request.command.basis (readsOf input.params history)) := by
    rcases AccountIsolation.basis_cases request.command
      (readsOf input.params history) with nothing | isRead
    · rw [nothing]
      intro event member
      cases member
    · obtain ⟨answered, member, read⟩ := List.mem_filterMap.mp isRead
      have known := found answered member
      unfold readAnswer at read
      split at read
      · split at read
        · rename_i asked
          subst asked
          cases read
          exact known
        · cases read
      · cases read
  intro data isChange
  rw [written] at isChange
  rw [ofAccount, ofId]
  generalize request.command.basis (readsOf input.params history) = basis
    at allowed seen
  generalize request.command = command at allowed
  cases allowed with
  | account kind =>
      unfold AppendEventInput.ofAccount at kind
      rw [isChange, Bool.and_false] at kind
      cases kind
  | register => cases isChange
  | clientStatus change alive =>
      rename_i command _ _
      cases isChange
      cases command <;> cases change
  | rotate alive => cases isChange
  | preference => cases isChange
  | report presented authorized => cases isChange
  | settle confirmed =>
      cases isChange
      exact confirmed_comeFrom seen confirmed
  | attach => cases isChange
  | reconfigure => cases isChange
  | actionStatus change alive => cases isChange
  | execute kind =>
      unfold AppendEventInput.ofExecution at kind
      rw [isChange, Bool.and_false] at kind
      cases kind
  | provider kind =>
      unfold AppendEventInput.ofProvider at kind
      rw [isChange, Bool.and_false] at kind
      cases kind

/-- What a call leaves in the store. -/
theorem changes_step (held : pool.state.Traceable stored)
    (appends : AppendsAllowed deps request history call)
    (found : ∀ answered ∈ history, Found stored anyRules answered)
    (result : semantics call choice pool.state = some (answer, world)) :
    ∀ event ∈ world.store.events, event.Warranted stored := by
  by_cases keeps : call.keepsStore = true
  · rw [store_frame result keeps]
    exact held.changes
  cases call with
  | store call =>
      cases call with
      | append input =>
          rcases append_step result with
            ⟨event, store, appended, rfl, -⟩ | ⟨rfl, -⟩
          · rcases EventStore.append_cases appended with
              ⟨_, ⟨⟩, -, ofId, -, ofAccount, written, -, -, rfl⟩ | ⟨conflict, -⟩
            · intro other member
              rcases List.mem_append.mp member with old | new
              · exact held.changes other old
              · rw [List.mem_singleton] at new
                subst new
                exact appended_warranted appends found ofId ofAccount written
            · cases conflict
          · exact held.changes
      | deleteAccount accountId =>
          rcases deleteAccount_step result with deleted | same
          · rw [deleted]
            intro event member
            exact held.changes event (List.mem_filter.mp member).1
          · rw [same]
            exact held.changes
      | _ => exact absurd rfl keeps
  | _ => exact absurd rfl keeps

/-- What a call leaves in the queue. -/
theorem jobs_step (held : pool.state.Traceable stored)
    (assigns : call.Assigns stored)
    (result : semantics call choice pool.state = some (answer, world)) :
    ∀ job ∈ world.queues.executions, job.data.Warranted stored := by
  by_cases keeps : call.keepsExecutions = true
  · rw [executions_frame result keeps]
    exact held.jobs
  cases call with
  | queue call =>
      cases call with
      | addExecution jobId data =>
          rcases addExecution_step result with ⟨rfl, -⟩ | ⟨rfl, -⟩
          · intro job member
            rcases Queues.mem_addExecution member with old | rfl
            · exact held.jobs job old
            · exact assigns
          · exact held.jobs
      | removeExecution jobId =>
          rcases outside_cases (Option.some.inj result) with
            ⟨-, effect⟩ | ⟨message, -, -, rfl⟩ | ⟨message, -, -, rfl⟩
          · cases effect
            exact fun job member => held.jobs job (List.mem_filter.mp member).1
          · exact held.jobs
          · exact fun job member => held.jobs job (List.mem_filter.mp member).1
      | _ => exact absurd rfl keeps
  | _ => exact absurd rfl keeps

/-- What a call has sent. -/
theorem snapshots_step (seated : Seated pool.state)
    (held : pool.state.Traceable stored)
    (delivers : call.Delivers stored request.command)
    (sessions : ∀ auth sessionId received,
      request.command = .provider (.message auth sessionId received) →
      ∃ session, pool.state.agents.sessions sessionId = some session ∧
        session.providerId = auth.providerId)
    (result : semantics call choice pool.state = some (answer, world)) :
    ∀ sent ∈ world.agents.sent, ∀ payload,
      sent.message = .snapshot payload → ∃ session accountId,
        world.agents.sessions sent.sessionId = some session ∧
        payload.Warranted stored accountId session.providerId := by
  have step := call_sessionStep seated result
  have remains {id : Id} {session : AgentSession} {accountId : Id}
      {payload : SnapshotPayload}
      (known : pool.state.agents.sessions id = some session)
      (warranted : payload.Warranted stored accountId session.providerId) :
      ∃ session accountId, world.agents.sessions id = some session ∧
        payload.Warranted stored accountId session.providerId := by
    obtain ⟨later, isLater, same, -⟩ := step.persists id session known
    exact ⟨later, accountId, isLater, same ▸ warranted⟩
  intro sent member payload isSnapshot
  have carries : sent.message.isSnapshot = true := by
    rw [isSnapshot]
    rfl
  rcases step.sends sent member carries with old | sends
  · obtain ⟨session, accountId, known, warranted⟩ :=
      held.snapshots sent old payload isSnapshot
    exact remains known warranted
  · cases sends with
    | own =>
        rw [isSnapshot] at delivers
        obtain ⟨auth, received, isMessage, warranted⟩ := delivers
        obtain ⟨session, known, same⟩ := sessions auth _ received isMessage
        exact remains known (same ▸ warranted)
    | pushed providerId active registered same =>
        rw [isSnapshot] at delivers
        obtain ⟨accountId, warranted⟩ := delivers
        obtain ⟨session, known, -, own, -⟩ :=
          seated.disciplined.registered providerId active registered
        rw [same] at known
        exact remains known (own ▸ warranted)

theorem Following.step {move : Move BackendRequest Choice}
    (registered : deps.worker.executors = registeredExecutors)
    (following : Following deps stored pool)
    (grown : next.state.store.events ⊆ stored)
    (moved : pool.step (backendService deps) move = some next) :
    Following deps stored next := by
  have traced := following.confined.step (command_confined registered) moved
  cases move with
  | start request =>
      obtain ⟨admitted, -, rfl⟩ := Pool.step_start moved
      refine ⟨following.seated, following.held, grown, traced, ?_, ?_, ?_⟩
      · intro thread member
        rcases List.mem_append.mp member with old | new
        · exact following.found thread old
        · rw [List.mem_singleton] at new
          subst new
          intro answered isAnswered
          cases isAnswered
      · apply following.jobs.step _ moved
        intro other same data attempts clocks executes
        cases same
        change request.command.possible pool.state = true at admitted
        rw [executes] at admitted
        obtain ⟨job, queued, isData⟩ := List.any_eq_true.mp admitted
        have isJob : job.data = data := of_decide_eq_true isData
        exact isJob ▸ following.held.jobs job queued
      · intro thread member auth sessionId received isMessage
        rcases List.mem_append.mp member with old | new
        · exact following.sessions thread old auth sessionId received isMessage
        · rw [List.mem_singleton] at new
          subst new
          change request.command.possible pool.state = true at admitted
          change request.command = _ at isMessage
          rw [isMessage] at admitted
          obtain ⟨session, known, isOpen⟩ :=
            (Option.any_eq_true _ _).mp admitted
          exact ⟨session, known, (of_decide_eq_true isOpen).2.1⟩
  | advance index choice =>
      have jobs := following.jobs.step
        (fun request same => by cases same) moved
      obtain ⟨request, history, call, resume, answer, world, running, result,
        rfl⟩ := Pool.step_advance moved
      have member := List.mem_of_getElem? running
      have found := following.found _ member
      obtain ⟨appends, passes⟩ := (following.confined _ member).1
      obtain ⟨assigns, delivers, -⟩ := passes anyRules found
      have step := call_sessionStep following.seated result
      refine ⟨step.seated, ⟨?_, ?_, ?_⟩, grown, traced, ?_, jobs, ?_⟩
      · exact changes_step following.held appends found result
      · exact jobs_step following.held assigns result
      · exact snapshots_step following.seated following.held delivers
          (following.sessions _ member) result
      · intro thread isThread
        rcases List.mem_or_eq_of_mem_set isThread with old | new
        · exact following.found thread old
        · subst new
          intro answered isAnswered
          rcases List.mem_append.mp isAnswered with before | now
          · exact found answered before
          · rw [List.mem_singleton] at now
            subst now
            exact found_answer following.held following.within result
      · intro thread isThread auth sessionId received isMessage
        have known : ∃ session,
            pool.state.agents.sessions sessionId = some session ∧
              session.providerId = auth.providerId := by
          rcases List.mem_or_eq_of_mem_set isThread with old | new
          · exact following.sessions thread old auth sessionId received
              isMessage
          · subst new
            exact following.sessions _ member auth sessionId received isMessage
        obtain ⟨session, isOpen, own⟩ := known
        obtain ⟨later, isLater, same, -⟩ := step.persists _ session isOpen
        exact ⟨later, isLater, same.trans own⟩

/-- What a run leads to is followed, whatever superset of its events is
considered. -/
theorem following_run {initial : World} {past : List StoredEvent}
    (registered : deps.worker.executors = registeredExecutors)
    (seated : Seated initial)
    (traceable : initial.Traceable initial.store.events)
    (observed : Pool.Observed (backendService deps) storedBefore
      (fun _ _ => True) ⟨initial, []⟩ pool past)
    (within : past ++ pool.state.store.events ⊆ stored) :
    Following deps stored pool := by
  suffices general : past ++ pool.state.store.events ⊆ stored →
      Following deps stored pool from general within
  apply Pool.Observed.invariant observed
  · intro within
    refine ⟨seated, traceable_mono within traceable, within, ?_, ?_, ?_, ?_⟩
    all_goals
      intro thread member
      cases member
  · intro pool past move next earlier _ moved within
    obtain ⟨before, grown⟩ := List.append_subset.mp within
    exact (earlier before).step registered grown moved

theorem Following.addressesStay (following : Following deps stored pool) :
    AddressesStay stored pool where
  held := following.held
  written thread member data attempts clocks executes := by
    refine ⟨following.jobs thread member data attempts clocks executes, ?_⟩
    intro call resume awaits
    have confined := following.confined thread member
    rw [awaits] at confined
    obtain ⟨-, -, writes⟩ := confined.1.2 (ReadBy thread.history)
      (found_readBy (following.found thread member))
    exact writes data attempts clocks executes

end Origins

/-- In every run of the backend, whatever fails in it and whichever accounts
are deleted: each address that a change confirms, that a job carries, that an
agent was sent, or that an execution is about to write was reported by the
device of the action it is for, and goes where this action was configured to
bring it. -/
theorem addresses_stay_with_their_devices (deps : BackendDeps)
    (registered : deps.worker.executors = registeredExecutors)
    (initial : World) (pool : BackendPool) (past : List StoredEvent)
    (seated : Seated initial)
    (traceable : initial.Traceable initial.store.events)
    (observed : Pool.Observed (backendService deps) storedBefore
      (fun _ _ => True) ⟨initial, []⟩ pool past) :
    AddressesStay (past ++ pool.state.store.events) pool := by
  have following : Following deps (past ++ pool.state.store.events) pool :=
    following_run registered seated traceable observed (List.Subset.refl _)
  exact following.addressesStay

/-! ## From a report to a record -/

namespace Origins

/-- A device that has reported, with an action for its IPv4 address, before
its settlement. -/
def reportingWorld : World where
  nextUUID := 100
  store := EventStore.recorded 1
    [(.ipClient, 20, .ipClient (.registered 20 1 "router" "hash" 0)),
      (.providerCredential, 30, .providerCredential
        (.stored 30 1 "hetzner" "cloud" "token" "oken" 0)),
      (.action, 40, .action (.attached
        { actionId := 40
          accountId := 1
          ipClientId := 20
          type := .hetznerCloudDnsUpdate
          addressFamilies := [.ipv4]
          config := .dns ⟨30, some "example.org", some "home"⟩
          attachedAt := 0 })),
      (.ipClient, 20, .ipClient
        (.ipReportReceived ⟨some "203.0.113.7", none, 1⟩))]
  queues := { settlements := [⟨20, 1⟩] }

theorem traceable_of_nothing {world : World} {stored : List StoredEvent}
    (none : ∀ event ∈ world.store.events, event.data.confirmsChange = false)
    (executions : world.queues.executions = [])
    (sent : world.agents.sent = []) : world.Traceable stored where
  changes event member data isChange := by
    have here := none event member
    rw [isChange] at here
    cases here
  jobs job member := by
    rw [executions] at member
    cases member
  snapshots payload member := by
    rw [sent] at member
    cases member

theorem reportingWorld_traceable :
    reportingWorld.Traceable reportingWorld.store.events :=
  traceable_of_nothing (by decide) rfl rfl

theorem reportingWorld_seated : Seated reportingWorld where
  disciplined := by
    constructor
    · intro id session found
      cases found
    · intro id session found
      cases found
    · intro providerId active found
      cases found
    · intro id session found
      cases found
  drawn := by
    intro id session found
    cases found

/-- The job of the fan-out. -/
def recordJob : ActionExecutionJobData where
  accountId := 1
  executionId := 100
  actionId := 40
  ipClientId := 20
  causationEventId := 4
  triggeredBy := .ipChange
  ipValues := ⟨some "203.0.113.7", none⟩

/-- The settlement, and the execution up to its write. -/
def settleAndExecute : List (Move BackendRequest Choice) :=
  [.start ⟨0, 0, .settle ⟨20, 1⟩⟩] ++ List.replicate 9 (.advance 0 .ok) ++
    [.start ⟨1, 0, .execute recordJob 3 []⟩] ++
    List.replicate 5 (.advance 1 .ok)

/-- The command of a program and the call it awaits. -/
def awaitedBy (pool : BackendPool) (index : Nat) :
    Option (BackendCommand × Call) :=
  pool.threads[index]?.bind fun thread =>
    match thread.program with
    | .await call _ => some (thread.request.command, call)
    | _ => none

theorem awaitedBy_spec {pool : BackendPool} {index : Nat}
    {command : BackendCommand} {call : Call}
    (awaited : awaitedBy pool index = some (command, call)) :
    ∃ thread ∈ pool.threads, thread.request.command = command ∧
      ∃ resume, thread.program = .await call resume := by
  obtain ⟨thread, found, awaits⟩ := Option.bind_eq_some_iff.mp awaited
  split at awaits
  · rename_i resume program
    cases awaits
    exact ⟨thread, List.mem_of_getElem? found, rfl, resume, program⟩
  · cases awaits

end Origins

theorem addresses_stay_with_their_devices_record :
    ∃ (pool : BackendPool) (past : List StoredEvent),
      awaitedBy pool 1 = some (.execute recordJob 3 [], .hetzner (.setRecords
        "token" "example.org" "home" .a "203.0.113.7")) ∧
      ReportedBy (past ++ pool.state.store.events) 1 20 .ipv4
        "203.0.113.7" := by
  have ends : ((⟨reportingWorld, []⟩ : BackendPool).follow
      (backendService exampleBackendDeps) (fun _ _ => true)
      settleAndExecute).map (awaitedBy · 1) =
        some (some (.execute recordJob 3 [], .hetzner (.setRecords "token"
          "example.org" "home" .a "203.0.113.7"))) := by
    decide +kernel
  obtain ⟨pool, followed, awaited⟩ := Option.map_eq_some_iff.mp ends
  obtain ⟨past, observed⟩ := Pool.Run.observed
    (Pool.run_of_follow (fun _ _ _ => trivial) followed)
  have stay := addresses_stay_with_their_devices exampleBackendDeps rfl
    reportingWorld pool past reportingWorld_seated reportingWorld_traceable
    observed
  obtain ⟨thread, member, executes, resume, awaits⟩ := awaitedBy_spec awaited
  obtain ⟨warranted, writes⟩ := stay.written thread member _ _ _ executes
  exact ⟨pool, past, awaited,
    warranted.reported .ipv4 _ (writes _ _ awaits).1⟩

end FluxIP
