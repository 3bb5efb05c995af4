import FluxIP.Adapters.Decisions
import FluxIP.Adapters.Trigger
import FluxIP.Guarantees.SettlementDelivery

/-!
# Confirmed changes

What a settlement makes of the reports in a client's stream: which addresses
it resolves, and whether it confirms a change.
-/

namespace FluxIP

open Async

def IpClientIpReportReceivedData.reported
    (data : IpClientIpReportReceivedData) : AddressFamily → Option String
  | .ipv4 => data.reportedIPv4
  | .ipv6 => data.reportedIPv6

def IpClientIpChangedData.address (data : IpClientIpChangedData) :
    AddressFamily → Option String
  | .ipv4 => data.newIPv4
  | .ipv6 => data.newIPv6

def IpClientState.lastKnown (state : IpClientState) :
    AddressFamily → Option String
  | .ipv4 => state.lastKnownIPv4
  | .ipv6 => state.lastKnownIPv6

/-- The report in an event, if it is one. -/
def StoredEvent.report (event : StoredEvent) :
    Option IpClientIpReportReceivedData :=
  match event.data with
  | .ipClient (.ipReportReceived data) => some data
  | _ => none

/-- The last address of this family that was reported. -/
def newestReported (events : List StoredEvent) (family : AddressFamily) :
    Option String :=
  events.reverse.findSome? fun event =>
    event.report.bind fun report => truthy (report.reported family)

/-- A settlement that has loaded `settled` is over: the change it had to
confirm comes first in what has followed, and no other one is there. -/
def FollowsSettlement (settled window : List StoredEvent) : Prop :=
  settled = [] ∨ (ipClientOf settled).status = .enabled ∧ ∃ settledAt,
    match (replayed initialIpClientState ipClientReducer
        settled).confirmedChange settledAt with
    | some change => ∃ event rest, window = event :: rest ∧
        event.data = .ipClient (.ipChanged change) ∧
        ∀ other ∈ rest, ∀ data, other.data ≠ .ipClient (.ipChanged data)
    | none => ∀ other ∈ window, ∀ data,
        other.data ≠ .ipClient (.ipChanged data)

/-- The last report leaves nothing newer of this family out: it carries an
address, or none was reported since the settlement but the last known one. -/
def LeavesNothingOut (report : IpClientIpReportReceivedData)
    (window : List StoredEvent) (state : IpClientState)
    (family : AddressFamily) : Prop :=
  match report.reported family with
  | some address => address ≠ "" ∨
      newestReported window family = none ∧ state.lastKnown family = some ""
  | none => newestReported window family = none ∨
      newestReported window family = state.lastKnown family

variable {settled window events : List StoredEvent} {event : StoredEvent}
variable {report : IpClientIpReportReceivedData} {family : AddressFamily}
variable {state : IpClientState} {settledAt : Timestamp}

/-! ## The last report -/

theorem lastReport_eq (events : List StoredEvent) :
    lastReport events = events.reverse.findSome? StoredEvent.report := rfl

theorem lastReport_append :
    lastReport (settled ++ window) =
      (lastReport window <|> lastReport settled) := by
  simp only [lastReport_eq, List.reverse_append, List.findSome?_append]
  cases window.reverse.findSome? StoredEvent.report with
  | none => rfl
  | some report => rfl

/-- What the last report carries is the newest of its family. -/
theorem newestReported_of_lastReport {address : String}
    (last : lastReport events = some report)
    (carries : truthy (report.reported family) = some address) :
    newestReported events family = some address := by
  rw [lastReport_eq] at last
  unfold newestReported
  generalize events.reverse = backwards at last ⊢
  induction backwards with
  | nil => cases last
  | cons event rest induction =>
      simp only [List.findSome?_cons] at last ⊢
      cases here : event.report with
      | some data =>
          rw [here] at last
          cases last
          simp only [Option.bind_some, carries]
      | none =>
          rw [here] at last
          exact induction last

theorem newestReported_of_silent (silent : lastReport events = none) :
    newestReported events family = none := by
  rw [lastReport_eq, List.findSome?_eq_none_iff] at silent
  unfold newestReported
  rw [List.findSome?_eq_none_iff]
  intro event member
  rw [silent event member]
  rfl

/-! ## What is known after a settlement -/

theorem reducer_lastKnown
    (other : ∀ data, event.data ≠ .ipClient (.ipChanged data)) :
    (ipClientReducer state event).lastKnown family =
      state.lastKnown family := by
  unfold ipClientReducer
  split
  case h_6 data isChange => exact absurd isChange (other data)
  all_goals
    cases family with
    | ipv4 => rfl
    | ipv6 => rfl

theorem foldl_lastKnown
    (others : ∀ other ∈ events, ∀ data,
      other.data ≠ .ipClient (.ipChanged data)) :
    (events.foldl ipClientReducer state).lastKnown family =
      state.lastKnown family := by
  induction events generalizing state with
  | nil => rfl
  | cons event rest induction =>
      obtain ⟨here, later⟩ := List.forall_mem_cons.mp others
      exact (induction later).trans (reducer_lastKnown here)

theorem reducer_lastKnown_changed {data : IpClientIpChangedData}
    (isChange : event.data = .ipClient (.ipChanged data)) :
    (ipClientReducer state event).lastKnown family =
      (data.address family <|> state.lastKnown family) := by
  unfold ipClientReducer
  rw [isChange]
  cases family with
  | ipv4 => rfl
  | ipv6 => rfl

theorem settlementOf_address :
    (settlementOf state report settledAt).address family =
      (report.reported family <|> state.lastKnown family) := by
  cases family with
  | ipv4 => rfl
  | ipv6 => rfl

theorem changed_iff :
    (settlementOf state report settledAt).changed = true ↔
      ∃ family, (settlementOf state report settledAt).address family ≠
        state.lastKnown family := by
  simp only [IpClientIpChangedData.changed, decide_eq_true_eq]
  constructor
  · intro differs
    rcases differs with four | six
    · exact ⟨.ipv4, four⟩
    · exact ⟨.ipv6, six⟩
  · intro differs
    obtain ⟨family, differs⟩ := differs
    cases family with
    | ipv4 => exact .inl differs
    | ipv6 => exact .inr differs

/-- What the settlement of an enabled client that has reported confirms. -/
theorem confirmedChange_eq (settledAt : Timestamp)
    (enabled : (ipClientOf events).status = .enabled)
    (last : lastReport events = some report) :
    (replayed initialIpClientState ipClientReducer
        events).confirmedChange settledAt =
      if (settlementOf (ipClientOf events) report settledAt).changed then
        some (settlementOf (ipClientOf events) report settledAt)
      else none := by
  unfold LoadAggregateResult.confirmedChange
  have status : (replayed initialIpClientState ipClientReducer
      events).state.status = .enabled := enabled
  have reported : lastReport (replayed initialIpClientState ipClientReducer
      events).events = some report := last
  rw [if_pos status, reported]
  rfl

theorem orElse_orElse_self (first second : Option String) :
    ((first <|> second) <|> second) = (first <|> second) := by
  cases first with
  | none => cases second with
    | none => rfl
    | some value => rfl
  | some value => rfl

/-- A settlement makes known what it has resolved. -/
theorem lastKnown_of_followsSettlement
    (follows : FollowsSettlement settled window)
    (last : lastReport settled = some report) :
    (ipClientOf (settled ++ window)).lastKnown family =
      (report.reported family <|> (ipClientOf settled).lastKnown family) := by
  rcases follows with empty | ⟨enabled, settledAt, decided⟩
  · subst empty
    cases last
  · have confirmed := confirmedChange_eq settledAt enabled last
    have folded : ipClientOf (settled ++ window) =
        window.foldl ipClientReducer (ipClientOf settled) :=
      List.foldl_append
    rw [folded]
    rw [confirmed] at decided
    split at decided
    · rename_i change isSome
      split at isSome
      · cases isSome
        obtain ⟨event, rest, rfl, isChange, others⟩ := decided
        have later : (rest.foldl ipClientReducer (ipClientReducer
            (ipClientOf settled) event)).lastKnown family =
              (ipClientReducer (ipClientOf settled) event).lastKnown family :=
          foldl_lastKnown others
        change (rest.foldl ipClientReducer (ipClientReducer
          (ipClientOf settled) event)).lastKnown family = _
        rw [later, reducer_lastKnown_changed isChange, settlementOf_address,
          orElse_orElse_self]
      · cases isSome
    · rename_i isNone
      split at isNone
      · cases isNone
      · rename_i unchanged
        rw [foldl_lastKnown decided]
        by_contra differs
        apply unchanged
        rw [changed_iff]
        refine ⟨family, ?_⟩
        rw [settlementOf_address]
        exact fun same => differs same.symm

theorem newestReported_ne_empty :
    newestReported events family ≠ some "" := by
  intro isEmpty
  obtain ⟨event, -, carries⟩ := List.exists_of_findSome?_eq_some isEmpty
  obtain ⟨report, -, empty⟩ := Option.bind_eq_some_iff.mp carries
  exact (truthy_eq_some.mp empty).2 rfl

/-- What the last report resolves to, beside the newest address. -/
theorem resolves_newest_iff (last : lastReport window = some report) :
    (report.reported family <|> state.lastKnown family) =
        (newestReported window family <|> state.lastKnown family) ↔
      LeavesNothingOut report window state family := by
  have carried : ∀ address, truthy (report.reported family) = some address →
      newestReported window family = some address :=
    fun _ carries => newestReported_of_lastReport last carries
  have notEmpty : newestReported window family ≠ some "" :=
    newestReported_ne_empty
  unfold LeavesNothingOut
  generalize newestReported window family = newest at carried notEmpty ⊢
  generalize state.lastKnown family = known
  cases reported : report.reported family with
  | none =>
      cases newest with
      | none => simp
      | some address =>
          change known = some address ↔ _
          simp [eq_comm]
  | some address =>
      by_cases empty : address = ""
      · subst empty
        cases newest with
        | none =>
            change some "" = known ↔ _
            simp [eq_comm]
        | some other =>
            change some "" = some other ↔ _
            constructor
            · exact fun same => absurd same.symm notEmpty
            · simp
      · have found := carried address
          (truthy_eq_some.mpr ⟨reported, empty⟩)
        subst found
        simp [empty]

/-- The addresses a settlement resolves are those of the last report, and for
a family it leaves out the last known one.  They are the newest that were
reported since the settlement before it, else the last known ones, exactly
when the last report leaves nothing newer out. -/
theorem settlement_resolves_last_report (settled window : List StoredEvent)
    (report : IpClientIpReportReceivedData) (settledAt : Timestamp)
    (follows : FollowsSettlement settled window)
    (last : lastReport (settled ++ window) = some report) :
    (∀ family, (settlementOf (ipClientOf (settled ++ window)) report
        settledAt).address family =
      (report.reported family <|>
        (ipClientOf (settled ++ window)).lastKnown family)) ∧
    ((∀ family, (settlementOf (ipClientOf (settled ++ window)) report
        settledAt).address family =
        (newestReported window family <|>
          (ipClientOf (settled ++ window)).lastKnown family)) ↔
      ∀ family, LeavesNothingOut report window
        (ipClientOf (settled ++ window)) family) := by
  refine ⟨fun family => settlementOf_address, ?_⟩
  apply forall_congr'
  intro family
  rw [settlementOf_address]
  rw [lastReport_append] at last
  cases inWindow : lastReport window with
  | some newest =>
      rw [inWindow] at last
      cases last
      exact resolves_newest_iff inWindow
  | none =>
      rw [inWindow] at last
      have settles : (ipClientOf (settled ++ window)).lastKnown family =
          (report.reported family <|>
            (ipClientOf settled).lastKnown family) :=
        lastKnown_of_followsSettlement follows last
      unfold LeavesNothingOut
      rw [newestReported_of_silent inWindow, settles]
      cases report.reported family with
      | none => simp
      | some address =>
          by_cases empty : address = ""
          · simp [empty]
          · simp [empty]

/-- A client that reports both addresses. -/
def dualRequest : NicUpdate where
  credentials := some ⟨20, "secret"⟩
  myip := some "192.0.2.7"
  myip6 := some "2001:db8::7"
  remoteAddress := some "192.0.2.7"

/-- The same client, without the second parameter. -/
def ipv4Request : NicUpdate := { dualRequest with myip6 := none }

/-- The stream of a client that was registered and has sent these requests. -/
def reportedBy (requests : List NicUpdate) : List StoredEvent :=
  (EventStore.recorded 1
    ((.ipClient, 20, .ipClient (.registered 20 1 "router" "hash" 0)) ::
      requests.map fun request => (.ipClient, 20, .ipClient
        (.ipReportReceived (Trigger.reportData request 1))))).events

/-- The second report of the window hides the address of the first. -/
theorem ipv4_report_hides_ipv6_address :
    FollowsSettlement [] (reportedBy [dualRequest, ipv4Request]) ∧
      lastReport (reportedBy [dualRequest, ipv4Request]) =
        some (Trigger.reportData ipv4Request 1) ∧
      ((settlementOf (ipClientOf (reportedBy [dualRequest, ipv4Request]))
        (Trigger.reportData ipv4Request 1) 2).address .ipv6) = none ∧
      newestReported (reportedBy [dualRequest, ipv4Request]) .ipv6 =
        some "2001:db8::7" :=
  ⟨.inl rfl, by decide, by decide, by decide⟩

theorem settlement_resolves_last_report_dual :
    (settlementOf (ipClientOf (reportedBy [ipv4Request, dualRequest]))
        (Trigger.reportData dualRequest 1) 2).address .ipv6 =
      newestReported (reportedBy [ipv4Request, dualRequest]) .ipv6 := by
  have resolves := settlement_resolves_last_report []
    (reportedBy [ipv4Request, dualRequest]) (Trigger.reportData dualRequest 1)
    2 (.inl rfl) (by decide)
  refine (resolves.2.mpr ?_ .ipv6).trans (by decide)
  intro family
  cases family with
  | ipv4 => exact .inl (by decide)
  | ipv6 => exact .inl (by decide)

/-! ## Whether a change is confirmed -/

/-- The stream a settlement loads. -/
def World.clientStream (world : World) (job : DebounceJobData) :
    List StoredEvent :=
  world.store.readStream ⟨job.accountId, .ipClient, job.ipClientId⟩

/-- The report carries an address that is not the last known one. -/
def CarriesChange (report : IpClientIpReportReceivedData)
    (state : IpClientState) : Prop :=
  ∃ family address, truthy (report.reported family) = some address ∧
    state.lastKnown family ≠ some address

/-- The settlement has appended this event: the addresses the report carries,
and the last known ones of the families it does not. -/
structure Confirmed (job : DebounceJobData)
    (report : IpClientIpReportReceivedData) (before after : World)
    (event : StoredEvent) : Prop where
  appended : after.store.events = before.store.events ++ [event]
  confirms : event.confirms job.ipClientId = true
  addresses : ∀ change, event.data = .ipClient (.ipChanged change) →
    ∀ family, change.address family =
      (truthy (report.reported family) <|>
        (ipClientOf (before.clientStream job)).lastKnown family)

/-- Every action that receives the changes of the client has its job. -/
def Enqueued (job : DebounceJobData) (before after : World)
    (event : StoredEvent) : Prop :=
  ∀ actionId, ReceivedAt job before.store.events actionId →
    after.queues.HasJob (.exec event.id actionId)

/-- However a settlement of this report ends, it appends a change and enqueues
executions only if the report carries one; and it has done both when it
returns. -/
def ConfirmsRealChanges (deps : DebounceWorkerDeps) (job : DebounceJobData)
    (report : IpClientIpReportReceivedData) (before : World) : Prop :=
  ∀ choices outcome after,
    (settle deps job).run semantics choices before = (outcome, after) →
    (CarriesChange report (ipClientOf (before.clientStream job)) →
      (after.store = before.store ∨
        ∃ event, Confirmed job report before after event) ∧
      (outcome = .returned () →
        ∃ event, Confirmed job report before after event ∧
          Enqueued job before after event)) ∧
    (¬ CarriesChange report (ipClientOf (before.clientStream job)) →
      after.store = before.store ∧ after.queues = before.queues)

/-- How a settlement can end. -/
inductive SettleEnds (deps : DebounceWorkerDeps) (job : DebounceJobData)
    (before : World) (outcome : Outcome Err Unit) (after : World) : Prop where
  | unread : outcome ≠ .returned () → after.store = before.store →
      after.queues = before.queues → SettleEnds deps job before outcome after
  | unchanged :
      (replayed initialIpClientState ipClientReducer
        (before.clientStream job)).confirmedChange deps.settledAt = none →
      after.store = before.store → after.queues = before.queues →
      SettleEnds deps job before outcome after
  | appended {change event} :
      (replayed initialIpClientState ipClientReducer
        (before.clientStream job)).confirmedChange deps.settledAt =
          some change →
      before.store.append (ipChangedInput job
        (before.clientStream job).length change) = (.ok event, after.store) →
      SettleEnds deps job before outcome after

theorem publishChange_keepsStore (deps : DebounceWorkerDeps)
    (job : DebounceJobData) (change : IpClientIpChangedData) :
    (publishChange deps job state change event).Calls
      fun call => Call.keepsStore call = true := by
  unfold publishChange
  apply Program.Calls.bind
  · exact keepsStore_of_quiet (upsertIpClientProjection_calls _ _)
  intro _
  apply Program.Calls.bind
  · exact keepsStore_of_quiet
      (Program.Calls.onlyIf (scheduleSnapshots_calls _ _ _))
  intro _
  apply Program.Calls.bind
  · exact (Backend.calls_call _).mpr rfl
  intro actionIds
  apply fanOutToAll_calls
  · exact fun call isRead => keepsStore_of_read isRead
  · rfl
  · exact fun _ _ => rfl

theorem settle_eq (deps : DebounceWorkerDeps) (job : DebounceJobData) :
    settle deps job = (Backend.readStream
      ⟨job.accountId, .ipClient, job.ipClientId⟩).bind fun events =>
        match (replayed initialIpClientState ipClientReducer
            events).confirmedChange deps.settledAt with
        | none => pure ()
        | some change => confirmChange deps job (replayed
            initialIpClientState ipClientReducer events) change :=
  Program.bind_assoc _ _ _

theorem settle_ends {deps : DebounceWorkerDeps} {job : DebounceJobData}
    {choices : List Choice} {before after : World}
    {outcome : Outcome Err Unit}
    (ran : (settle deps job).run semantics choices before =
      (outcome, after)) : SettleEnds deps job before outcome after := by
  rw [settle_eq] at ran
  cases Program.performed semantics ran with
  | stopped isCut same =>
      subst isCut same
      exact .unread (fun impossible => by cases impossible) rfl rfl
  | thrown result threw =>
      obtain ⟨rfl, -⟩ := readStream_step result
      subst threw
      exact .unread (fun impossible => by cases impossible) rfl rfl
  | @answered choice events middle choices result ran =>
      obtain ⟨rfl, answer⟩ := readStream_step result
      have isStream : events = before.clientStream job := by
        rcases answer with same | ⟨-, message, impossible⟩
        · exact Except.ok.inj same
        · cases impossible
      subst isStream
      cases confirmed : (replayed initialIpClientState ipClientReducer
          (before.clientStream job)).confirmedChange deps.settledAt with
      | none =>
          rw [confirmed] at ran
          cases ran
          exact .unchanged confirmed rfl rfl
      | some change =>
          rw [confirmed] at ran
          cases Program.performed semantics ran with
          | stopped isCut same =>
              subst isCut same
              exact .unread (fun impossible => by cases impossible) rfl rfl
          | thrown result threw =>
              subst threw
              rcases append_step result with inserted | failed
              · obtain ⟨event, store, appended, same, -⟩ := inserted
                apply SettleEnds.appended confirmed
                rw [same]
                exact appended
              · obtain ⟨same, -⟩ := failed
                subst same
                exact .unread (fun impossible => by cases impossible) rfl rfl
          | @answered _ causationEvent middle choices result ran =>
              rcases append_step result with inserted | failed
              · obtain ⟨event, store, appended, same, -⟩ := inserted
                have kept : ((publishChange deps job
                    (ipClientOf (before.clientStream job)) change
                    causationEvent).run semantics choices middle).2.store =
                      middle.store :=
                  run_keepsStore (publishChange_keepsStore deps job change)
                    choices middle
                change (publishChange deps job
                  (ipClientOf (before.clientStream job)) change
                  causationEvent).run semantics choices middle =
                    (outcome, after) at ran
                rw [ran, same] at kept
                apply SettleEnds.appended confirmed
                rw [kept]
                exact appended
              · obtain ⟨-, error, impossible, -⟩ := failed
                cases impossible

/-- An empty address is no other than the last known one. -/
def EmptyIsKnown (report : IpClientIpReportReceivedData)
    (state : IpClientState) : Prop :=
  ∀ family, report.reported family = some "" →
    state.lastKnown family = some ""

theorem EmptyIsKnown.address (known : EmptyIsKnown report state)
    (settledAt : Timestamp) (family : AddressFamily) :
    (settlementOf state report settledAt).address family =
      (truthy (report.reported family) <|> state.lastKnown family) := by
  rw [settlementOf_address]
  cases carried : truthy (report.reported family) with
  | some address => rw [(truthy_eq_some.mp carried).1]
  | none =>
      cases reported : report.reported family with
      | none => rfl
      | some address =>
          by_cases empty : address = ""
          · subst empty
            rw [known family reported]
            rfl
          · have impossible := truthy_eq_some.mpr ⟨reported, empty⟩
            rw [carried] at impossible
            cases impossible

theorem EmptyIsKnown.changed_iff (known : EmptyIsKnown report state)
    (settledAt : Timestamp) :
    (settlementOf state report settledAt).changed = true ↔
      CarriesChange report state := by
  rw [FluxIP.changed_iff]
  apply exists_congr
  intro family
  rw [known.address]
  cases carried : truthy (report.reported family) with
  | none => simp
  | some address =>
      change some address ≠ state.lastKnown family ↔ _
      simp [eq_comm]

variable {deps : DebounceWorkerDeps} {job : DebounceJobData}
variable {before after : World}

/-- What an append of the change leaves. -/
theorem confirmed_of_append {change : IpClientIpChangedData} {version : Nat}
    {store : EventStore}
    (addresses : ∀ family, change.address family =
      (truthy (report.reported family) <|>
        (ipClientOf (before.clientStream job)).lastKnown family))
    (appended : before.store.append (ipChangedInput job version change) =
      (.ok event, store)) (stored : after.store = store) :
    Confirmed job report before after event := by
  rcases EventStore.append_cases appended with inserted | ⟨conflict, -⟩
  · obtain ⟨inserted, same, isType, isId, -, -, isData, -, -, grown⟩ :=
      inserted
    cases same
    refine ⟨?_, ?_, ?_⟩
    · rw [stored, grown]
    · unfold StoredEvent.confirms
      rw [isData, Bool.and_eq_true]
      exact ⟨EventStore.isOf_iff.mpr ⟨isType, isId⟩, rfl⟩
    · intro other isOther
      rw [isData] at isOther
      cases isOther
      exact addresses
  · cases conflict

theorem enqueued_of_not_lost
    (confirmed : Confirmed job report before after event)
    (complete : ¬ SettlementDelivery.Lost job before after) :
    Enqueued job before after event := by
  intro actionId received
  by_contra missing
  exact complete ⟨before.store.events, event, [], confirmed.appended,
    Nat.le_refl _, confirmed.confirms, actionId, received, missing⟩

/-- A settlement that has a change to confirm gets to its append. -/
theorem settle_appends {change : IpClientIpChangedData}
    (sequenced : before.store.Sequenced)
    (confirmed : (replayed initialIpClientState ipClientReducer
      (before.clientStream job)).confirmedChange deps.settledAt = some change)
    (nonempty : before.clientStream job ≠ []) :
    ∃ event store, before.store.append (ipChangedInput job
        (before.clientStream job).length change) = (.ok event, store) ∧
      ((settle deps job).run semantics [.ok, .ok] before).2.store =
        store := by
  have whole : before.clientStream job =
      before.store.stream .ipClient job.ipClientId := by
    rcases sequenced.readStream_eq
        ⟨job.accountId, .ipClient, job.ipClientId⟩ with own | foreign
    · exact own.1
    · exact absurd foreign.1 nonempty
  have free : ∀ other ∈ before.store.stream .ipClient job.ipClientId,
      other.sequenceNumber ≠ (before.clientStream job).length + 1 := by
    intro other member same
    have bound := (sequenced.sequenceNumber_le member).2
    rw [whole] at same
    omega
  have fits : ∃ event, (before.store.append (ipChangedInput job
      (before.clientStream job).length change)).1 = .ok event :=
    EventStore.append_free free
  obtain ⟨event, inserted⟩ := fits
  refine ⟨event, _, Prod.ext inserted rfl, ?_⟩
  have reads : semantics (.store (.readStream
      ⟨job.accountId, .ipClient, job.ipClientId⟩)) .ok before =
        some (.ok (before.clientStream job), before.elapse 0) := rfl
  have appends : semantics (.store (.append (ipChangedInput job
      (before.clientStream job).length change))) .ok (before.elapse 0) =
        some ((before.store.append (ipChangedInput job
          (before.clientStream job).length change)).1,
          { (before.elapse 0).elapse 0 with
            store := (before.store.append (ipChangedInput job
              (before.clientStream job).length change)).2 }) := rfl
  rw [inserted] at appends
  have loads : (settle deps job).run semantics [.ok, .ok] before =
      (confirmChange deps job (replayed initialIpClientState
        ipClientReducer (before.clientStream job)) change).run semantics
          [.ok] (before.elapse 0) := by
    rw [settle_eq]
    refine (Program.run_perform semantics reads).trans ?_
    simp only [confirmed]
  have stores : (confirmChange deps job (replayed initialIpClientState
      ipClientReducer (before.clientStream job)) change).run semantics
        [.ok] (before.elapse 0) = _ :=
    Program.run_perform semantics appends
  rw [loads, stores]
  exact congrArg World.store (Program.run_nil semantics _ _)

theorem confirms_real_changes (orderly : SettlementDelivery.Orderly before)
    (enabled : (ipClientOf (before.clientStream job)).status = .enabled)
    (last : lastReport (before.clientStream job) = some report)
    (known : EmptyIsKnown report (ipClientOf (before.clientStream job))) :
    ConfirmsRealChanges deps job report before := by
  intro choices outcome after ran
  have decided := confirmedChange_eq deps.settledAt enabled last
  have changed := known.changed_iff deps.settledAt
  have complete : outcome = .returned () →
      ¬ SettlementDelivery.Lost job before after := by
    obtain ⟨history, execution⟩ := Program.run_execution semantics
      (SettlementDelivery.Beside.refl job) (settle deps job) choices before []
      (fun _ _ _ _ _ => trivial)
    rw [ran] at execution
    exact (SettlementDelivery.delivery_ends orderly execution).2.2 ()
  cases settle_ends ran with
  | unread notReturned store queues =>
      exact ⟨fun _ => ⟨.inl store, fun returned =>
        absurd returned notReturned⟩, fun _ => ⟨store, queues⟩⟩
  | unchanged nothing store queues =>
      rw [decided] at nothing
      refine ⟨?_, fun _ => ⟨store, queues⟩⟩
      intro carries
      rw [if_pos (changed.mpr carries)] at nothing
      cases nothing
  | @appended change event confirmed appended =>
      rw [decided] at confirmed
      split at confirmed
      · rename_i isChanged
        cases confirmed
        have isConfirmed : Confirmed job report before after event :=
          confirmed_of_append (known.address deps.settledAt) appended rfl
        refine ⟨fun _ => ⟨.inr ⟨event, isConfirmed⟩, ?_⟩, ?_⟩
        · intro returned
          exact ⟨event, isConfirmed,
            enqueued_of_not_lost isConfirmed (complete returned)⟩
        · intro nothing
          exact absurd (changed.mp isChanged) nothing
      · cases confirmed

/-- A settlement of an enabled client confirms real changes only, and all of
them, exactly when its last report carries no empty address for a family whose
last known address is another one. -/
theorem only_real_changes_are_confirmed (deps : DebounceWorkerDeps)
    (job : DebounceJobData) (world : World)
    (orderly : SettlementDelivery.Orderly world) (request : NicUpdate)
    (receivedAt : Timestamp)
    (enabled : (ipClientOf (world.clientStream job)).status = .enabled)
    (last : lastReport (world.clientStream job) =
      some (Trigger.reportData request receivedAt)) :
    ConfirmsRealChanges deps job (Trigger.reportData request receivedAt)
        world ↔
      EmptyIsKnown (Trigger.reportData request receivedAt)
        (ipClientOf (world.clientStream job)) := by
  constructor
  · intro confirms family empty
    by_contra unknown
    have isChanged : (settlementOf (ipClientOf (world.clientStream job))
        (Trigger.reportData request receivedAt) deps.settledAt).changed =
          true := by
      rw [changed_iff]
      refine ⟨family, ?_⟩
      rw [settlementOf_address, empty]
      exact Ne.symm unknown
    have confirmed := confirmedChange_eq deps.settledAt enabled last
    rw [if_pos isChanged] at confirmed
    have nonempty : world.clientStream job ≠ [] := by
      intro isEmpty
      rw [isEmpty] at last
      cases last
    obtain ⟨event, store, appended, stored⟩ :=
      settle_appends orderly.sequenced confirmed nonempty
    have grown : store.events = world.store.events ++ [event] ∧
        event.data = .ipClient (.ipChanged (settlementOf
          (ipClientOf (world.clientStream job))
          (Trigger.reportData request receivedAt) deps.settledAt)) := by
      rcases EventStore.append_cases appended with inserted | ⟨conflict, -⟩
      · obtain ⟨inserted, same, -, -, -, -, isData, -, -, rfl⟩ := inserted
        cases same
        exact ⟨rfl, isData⟩
      · cases conflict
    have ends := confirms [.ok, .ok]
      ((settle deps job).run semantics [.ok, .ok] world).1
      ((settle deps job).run semantics [.ok, .ok] world).2 rfl
    rw [stored] at ends
    have differs : store ≠ world.store := by
      intro same
      rw [same] at grown
      simpa using congrArg List.length grown.1
    by_cases carries : CarriesChange (Trigger.reportData request receivedAt)
        (ipClientOf (world.clientStream job))
    · rcases (ends.1 carries).1 with same | ⟨other, isConfirmed⟩
      · exact differs same
      · have appendedTo := isConfirmed.appended
        rw [stored, grown.1] at appendedTo
        cases List.append_cancel_left appendedTo
        have address := isConfirmed.addresses _ grown.2 family
        rw [settlementOf_address, empty] at address
        exact unknown address.symm
    · exact differs (ends.2 carries).1
  · exact confirms_real_changes orderly enabled last

/-- The same addresses again, the second parameter empty. -/
def emptyRequest : NicUpdate := { dualRequest with myip6 := some "" }

/-- A client with this last known address has sent these requests. -/
def knownWorld (requests : List NicUpdate) : World where
  store := EventStore.recorded 1
    ((.ipClient, 20, .ipClient (.registered 20 1 "router" "hash" 0)) ::
      (.ipClient, 20, .ipClient (.ipChanged
        ⟨none, some "192.0.2.7", none, none, 1⟩)) ::
      requests.map fun request => (.ipClient, 20, .ipClient
        (.ipReportReceived (Trigger.reportData request 2))))

theorem knownWorld_orderly (requests : List NicUpdate) :
    SettlementDelivery.Orderly (knownWorld requests) :=
  ⟨EventStore.recorded_sequenced 1 _, List.nodup_nil⟩

theorem only_real_changes_are_confirmed_dual :
    ConfirmsRealChanges SettlementDelivery.exampleDeps
      SettlementDelivery.exampleJob (Trigger.reportData dualRequest 2)
      (knownWorld [dualRequest]) := by
  have confirms := only_real_changes_are_confirmed
    SettlementDelivery.exampleDeps SettlementDelivery.exampleJob
    (knownWorld [dualRequest]) (knownWorld_orderly _) dualRequest 2
    (by decide) (by decide)
  apply confirms.mpr
  intro family empty
  cases family with
  | ipv4 => exact absurd empty (by decide)
  | ipv6 => exact absurd empty (by decide)

/-- An empty parameter is confirmed as a change. -/
theorem empty_parameter_is_confirmed :
    (ipClientOf ((knownWorld [emptyRequest]).clientStream
        SettlementDelivery.exampleJob)).status = .enabled ∧
      lastReport ((knownWorld [emptyRequest]).clientStream
        SettlementDelivery.exampleJob) =
          some (Trigger.reportData emptyRequest 2) ∧
      ¬ CarriesChange (Trigger.reportData emptyRequest 2)
        (ipClientOf ((knownWorld [emptyRequest]).clientStream
          SettlementDelivery.exampleJob)) ∧
      ¬ ConfirmsRealChanges SettlementDelivery.exampleDeps
        SettlementDelivery.exampleJob (Trigger.reportData emptyRequest 2)
        (knownWorld [emptyRequest]) := by
  have nothing : ¬ CarriesChange (Trigger.reportData emptyRequest 2)
      (ipClientOf ((knownWorld [emptyRequest]).clientStream
        SettlementDelivery.exampleJob)) := by
    intro carries
    obtain ⟨family, address, carried, differs⟩ := carries
    cases family with
    | ipv4 =>
        apply differs
        rw [← carried]
        decide
    | ipv6 => cases carried
  refine ⟨by decide, by decide, nothing, ?_⟩
  intro confirms
  have ends := confirms [.ok, .ok] _ _ rfl
  exact absurd (ends.2 nothing).1 (by decide)

end FluxIP
