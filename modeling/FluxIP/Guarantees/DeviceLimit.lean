import FluxIP.Adapters.Checks
import FluxIP.Adapters.Folds
import FluxIP.Guarantees.DecidedRuns
import Mathlib.Data.List.Perm.Subperm

/-!
# The device limit

How many devices an account has, while devices are registered and
decommissioned in any order and administrators raise its limit.  A registration
counts the devices one stream after the other and then appends to a stream of
its own, which no version guards.
-/

namespace FluxIP

open Async

/-- The state of an account after its events in a store. -/
def accountIn (store : EventStore) (accountId : Id) : AccountState :=
  (replayed initialAccountState accountReducer
    (store.readStream ⟨accountId, .account, accountId⟩)).state

/-- The devices of the account that are not decommissioned. -/
def activeIpClients (store : EventStore) (accountId : Id) : List Id :=
  (store.listAggregateIds accountId .ipClient []).filter fun ipClientId =>
    (ipClientIn store accountId ipClientId).status ≠ .decommissioned

/-- The account has no more devices than it may have. -/
def WithinLimit (store : EventStore) (accountId : Id) : Prop :=
  (activeIpClients store accountId).length ≤
    (accountIn store accountId).deviceLimit

/-- The requests the limit is about. -/
def BackendCommand.ofDeviceLimit (accountId : Id) : BackendCommand → Bool
  | .ipClient owner (.register _) => owner = accountId
  | .ipClient owner (.decommission _) => owner = accountId
  | .account owner (.overrideDeviceLimit _ _) => owner = accountId
  | _ => false

variable {deps : BackendDeps} {pool next : BackendPool}

/-- Devices are registered and decommissioned and the limit is overridden, but
not lowered. -/
def limitIsRaised (deps : BackendDeps) (accountId : Id) (pool : BackendPool)
    (move : Move BackendRequest Choice) : Bool :=
  (match move with
    | .start request => request.command.ofDeviceLimit accountId
    | .advance _ _ => true) &&
  (pool.step (backendService deps) move).all fun next =>
    decide ((accountIn pool.state.store accountId).deviceLimit ≤
      (accountIn next.state.store accountId).deviceLimit)

/-- When a device is registered, the request has read every device stream of
the account there is by then. -/
def countIsCurrent (accountId : Id) (pool : BackendPool) :
    Move BackendRequest Choice → Bool
  | .start _ => true
  | .advance index _ =>
      match pool.threads[index]? with
      | some ⟨⟨_, _, .ipClient _ (.register _)⟩, history,
          .await (.store (.append _)) _⟩ =>
          (pool.state.store.listAggregateIds accountId .ipClient []).all
            fun ipClientId => decide
              (readsOf ⟨accountId, .ipClient, ipClientId⟩ history ≠ [])
      | _ => true

namespace DeviceLimit

variable {store after : EventStore} {accountId : Id}

/-! ## Counting -/

/-- The devices of a loop's reads that are not decommissioned. -/
def counted (reads : List (Id × List StoredEvent)) :
    List (Id × List StoredEvent) :=
  reads.filter fun read => (ipClientOf read.2).status ≠ .decommissioned

/-- The account has read that it has room for another device. -/
def SeenRoom (accountId : Id) (history : BackendHistory) : Prop :=
  ∃ account ∈ readsOf ⟨accountId, .account, accountId⟩ history,
    ∃ reads : List (Id × List StoredEvent),
      (∀ ipClientId, ∀ seen ∈
          readsOf ⟨accountId, .ipClient, ipClientId⟩ history,
        (ipClientId, seen) ∈ reads) ∧
      (counted reads).length <
        (account.foldl accountReducer initialAccountState).deviceLimit

/-- A call that reads no stream leaves what was seen. -/
theorem SeenRoom.later {history : BackendHistory} (room : SeenRoom accountId history)
    {answered : Answered backend Err}
    (unread : ∀ params, readAnswer params answered = none) :
    SeenRoom accountId (history ++ [answered]) := by
  obtain ⟨account, ofAccount, reads, complete, room⟩ := room
  refine ⟨account, ?_, reads, ?_, room⟩
  · rw [readsOf_append]
    exact List.mem_append_left _ ofAccount
  · intro ipClientId seen member
    rw [readsOf_append, unread] at member
    exact complete ipClientId seen (by simpa using member)

theorem countActiveOf_loads (accountId : Id) :
    LoadsEach (fun ipClientId => ⟨accountId, .ipClient, ipClientId⟩)
      initialIpClientState ipClientReducer 0
      (fun _ state count =>
        if state.status ≠ .decommissioned then count + 1 else count)
      (IpClients.countActiveOf accountId) where
  nil := rfl
  cons _ _ := rfl

theorem foldr_counted (reads : List (Id × List StoredEvent)) :
    reads.foldr (fun read count =>
      if (replayed initialIpClientState ipClientReducer
        read.2).state.status ≠ .decommissioned then count + 1 else count) 0 =
      (counted reads).length := by
  induction reads with
  | nil => rfl
  | cons read reads ih =>
      rw [List.foldr_cons, ih]
      unfold counted
      rw [List.filter_cons]
      by_cases alive : (ipClientOf read.2).status ≠ .decommissioned
      · have same : (replayed initialIpClientState ipClientReducer
            read.2).state.status ≠ .decommissioned := alive
        simp [alive, same]
      · have same : ¬ (replayed initialIpClientState ipClientReducer
            read.2).state.status ≠ .decommissioned := alive
        simp only [alive, same, if_false, decide_false]
        rfl

/-- An append follows a count that has left room. -/
def CountsFirst (accountId : Id) (history : BackendHistory) (call : Call) :
    Prop :=
  ∀ input, call = .store (.append input) → SeenRoom accountId history

theorem countsFirst_of_quiet {history : BackendHistory} {call : Call}
    (quiet : Call.standsAside call = true) :
    CountsFirst accountId history call := by
  intro input same
  subst same
  cases quiet

theorem register_counts (deps : IpClientsRouteDeps) (label : Option String)
    (now : Timestamp) :
    (IpClients.register deps accountId label now).Traces
      (CountsFirst accountId) anyEnd [] := by
  have reads : ∀ history call, Backend.reads call = true →
      CountsFirst accountId history call :=
    fun history call isRead => countsFirst_of_quiet (standsAside_of_read isRead)
  unfold IpClients.register AccountService.getState AccountService.load
    IpClients.countActiveIpClients
  simp only [Program.monadBind_eq_bind, Program.bind_assoc,
    Program.pure_eq_done, Program.done_bind]
  apply (load_traces _ _ reads).bind _ fun _ _ _ => trivial
  intro afterLoad loaded loads
  obtain ⟨account, rfl, rfl⟩ := loads
  refine ⟨reads _ _ rfl, ?_⟩
  intro listing
  cases listing with
  | error error => trivial
  | ok ids =>
      apply ((countActiveOf_loads accountId).traces reads ids _).bind _
        fun _ _ _ => trivial
      intro history count counts
      obtain ⟨seen, -, rfl, rfl⟩ := counts
      rw [foldr_counted]
      split
      · trivial
      rename_i room
      have here : SeenRoom accountId
          ([] ++ [readAs ⟨accountId, .account, accountId⟩ account] ++
            [⟨.store (.listAggregateIds accountId .ipClient), .ok ids⟩] ++
            loopAnswers
              (fun ipClientId => ⟨accountId, .ipClient, ipClientId⟩) seen) := by
        refine ⟨account, ?_, seen, ?_, Nat.lt_of_not_le room⟩
        · rw [readsOf_concat, readsOf_concat]
          apply List.mem_append_left
          apply List.mem_append_left
          rw [List.nil_append, readsOf_readAs, if_pos rfl]
          exact List.mem_singleton_self _
        · intro ipClientId events member
          have other : (⟨accountId, .account, accountId⟩ : ReadStreamParams) ≠
              ⟨accountId, .ipClient, ipClientId⟩ := by simp
          rw [readsOf_concat, readsOf_concat, List.nil_append, readsOf_readAs,
            if_neg other] at member
          exact (mem_readsOf_loop (fun _ _ same => by simpa using same)).mp
            member
      refine ⟨countsFirst_of_quiet rfl, ?_⟩
      intro drawnId
      cases drawnId with
      | error error => trivial
      | ok ipClientId =>
          refine ⟨countsFirst_of_quiet rfl, ?_⟩
          intro drawn
          cases drawn with
          | error error => trivial
          | ok drawn =>
              have drawing : ∀ history id, SeenRoom accountId history →
                  SeenRoom accountId
                    (history ++ [⟨.clock .randomUUID, .ok id⟩]) :=
                fun _ _ room => room.later fun _ => rfl
              refine ⟨fun _ _ => drawing _ _ (drawing _ _ here), ?_⟩
              intro stored
              cases stored with
              | error error => trivial
              | ok stored =>
                  have refreshes := standsAside_of_quiet
                    (IpClients.refreshProjection_quiet accountId ipClientId)
                  apply (Program.Traces.of_calls (fun _ => True) refreshes
                    (fun _ _ _ => trivial)
                    (fun _ _ _ => countsFirst_of_quiet) trivial).bind
                  · exact fun _ _ _ => trivial
                  · exact fun _ _ _ => trivial

theorem ended_counts {program : Backend Nat}
    (counts : program.Traces (CountsFirst accountId) anyEnd []) :
    (answered program).Traces (CountsFirst accountId) anyEnd [] :=
  counts.bind (fun _ _ _ => trivial) fun _ _ _ => trivial

/-! ## What an insertion does to the devices -/

theorem mem_activeIpClients {ipClientId : Id} :
    ipClientId ∈ activeIpClients store accountId ↔
      (∃ event ∈ store.events, event.accountId = accountId ∧
        event.aggregateType = .ipClient ∧ event.aggregateId = ipClientId) ∧
      (ipClientIn store accountId ipClientId).status ≠ .decommissioned := by
  unfold activeIpClients
  rw [List.mem_filter, EventStore.mem_listAggregateIds, decide_eq_true_eq]

theorem activeIpClients_nodup (store : EventStore) (accountId : Id) :
    (activeIpClients store accountId).Nodup := by
  apply List.Nodup.filter
  unfold EventStore.listAggregateIds
  dsimp only
  split
  · exact List.nodup_nil
  · exact List.nodup_dedup _

variable {input : AppendEventInput} {event : StoredEvent}

/-- Only the device whose stream an event goes to can become active. -/
theorem active_before {ipClientId : Id}
    (appended : store.append input = (.ok event, after))
    (active : ipClientId ∈ activeIpClients after accountId) :
    ipClientId ∈ activeIpClients store accountId ∨
      input.params = ⟨accountId, .ipClient, ipClientId⟩ := by
  by_cases own : input.params = ⟨accountId, .ipClient, ipClientId⟩
  · exact .inr own
  left
  rw [mem_activeIpClients] at active ⊢
  obtain ⟨⟨found, member, ofAccount, ofType, ofId⟩, alive⟩ := active
  have same := ChangesScheduled.append_changesOnly appended
    ⟨accountId, .ipClient, ipClientId⟩ (Ne.symm own)
  constructor
  · rcases EventStore.append_cases appended with
      ⟨_, ⟨⟩, writtenType, writtenId, -, writtenAccount, -, -, -, rfl⟩ |
      ⟨conflict, -⟩
    · rcases List.mem_append.mp member with old | new
      · exact ⟨found, old, ofAccount, ofType, ofId⟩
      · rw [List.mem_singleton] at new
        subst new
        refine absurd ?_ own
        simp only [AppendEventInput.params, ReadStreamParams.mk.injEq]
        exact ⟨writtenAccount.symm.trans ofAccount,
          writtenType.symm.trans ofType, writtenId.symm.trans ofId⟩
    · cases conflict
  · unfold ipClientIn at alive ⊢
    rw [same]
    exact alive

/-- An event of another type leaves the devices as they are. -/
theorem activeIpClients_other
    (appended : store.append input = (.ok event, after))
    (other : input.aggregateType ≠ .ipClient) :
    (activeIpClients after accountId).length ≤
      (activeIpClients store accountId).length := by
  apply (List.subperm_of_subset (activeIpClients_nodup _ _) _).length_le
  intro ipClientId active
  rcases active_before appended active with before | own
  · exact before
  · exact absurd (congrArg ReadStreamParams.aggregateType own) other

/-- An event of a device makes at most this one active. -/
theorem activeIpClients_device {ipClientId : Id}
    (appended : store.append input = (.ok event, after))
    (own : input.aggregateId = ipClientId) :
    (activeIpClients after accountId).length ≤
      (activeIpClients store accountId).length + 1 := by
  have within : activeIpClients after accountId ⊆
      ipClientId :: activeIpClients store accountId := by
    intro other active
    rcases active_before appended active with before | same
    · exact List.mem_cons_of_mem _ before
    · have isOwn : ipClientId = other :=
        own.symm.trans (congrArg ReadStreamParams.aggregateId same)
      exact isOwn ▸ List.mem_cons_self
  exact (List.subperm_of_subset (activeIpClients_nodup _ _) within).length_le

/-- A device that is decommissioned does not become active. -/
theorem activeIpClients_decommissioned {ipClientId : Id}
    (appended : store.append input = (.ok event, after))
    (own : input.params = ⟨accountId, .ipClient, ipClientId⟩)
    (ended : (ipClientIn after accountId ipClientId).status =
      .decommissioned) :
    (activeIpClients after accountId).length ≤
      (activeIpClients store accountId).length := by
  apply (List.subperm_of_subset (activeIpClients_nodup _ _) _).length_le
  intro other active
  rcases active_before appended active with before | same
  · exact before
  · have isOwn : ipClientId = other :=
      congrArg ReadStreamParams.aggregateId (own.symm.trans same)
    subst isOwn
    exact absurd ended (mem_activeIpClients.mp active).2

/-! ## The requests -/

/-- What the requests of the limit may insert into the stream of a device. -/
theorem insertion_cases {credentials : Credentials} {now : Timestamp}
    {command : BackendCommand} {seen : List StoredEvent}
    (ofLimit : command.ofDeviceLimit accountId = true)
    (appends : Appends credentials now command input seen) :
    input.aggregateType ≠ .ipClient ∨
      (∃ label ipClientId event,
        command = .ipClient accountId (.register label) ∧
        input = IpClients.appendInput accountId ipClientId 0 event) ∨
      ∃ ipClientId version, input = IpClients.appendInput accountId ipClientId
        version (.decommissioned now) := by
  cases appends with
  | account kind => exact .inl (typed_of_ofAccount kind).1
  | register =>
      have own := of_decide_eq_true ofLimit
      subst own
      exact .inr (.inl ⟨_, _, _, rfl, rfl⟩)
  | @clientStatus owner command ipClientId event seen change alive =>
      cases command with
      | decommission decommissioned =>
          have own := of_decide_eq_true ofLimit
          subst own
          cases change
          exact .inr (.inr ⟨_, _, rfl⟩)
      | enable enabled => cases ofLimit
      | disable disabled => cases ofLimit
      | _ => cases change
  | rotate alive => cases ofLimit
  | preference => cases ofLimit
  | report presented authorized => cases ofLimit
  | settle confirmed => cases ofLimit
  | attach => cases ofLimit
  | reconfigure => cases ofLimit
  | actionStatus change alive => cases ofLimit
  | execute kind => cases ofLimit
  | provider kind => cases ofLimit

/-- The calls of the requests of the limit. -/
def LimitCalls (accountId : Id) (request : BackendRequest)
    (history : BackendHistory) (call : Call) : Prop :=
  request.command.ofDeviceLimit accountId = true →
    call.keepsAccounts ∧
    ∀ label, request.command = .ipClient accountId (.register label) →
      CountsFirst accountId history call

theorem limitCalls (deps : BackendDeps) (accountId : Id)
    (request : BackendRequest) :
    (request.command.program deps request.now).Traces
      (LimitCalls accountId request) anyEnd [] := by
  by_cases ofLimit : request.command.ofDeviceLimit accountId = true
  · have spares : (request.command.program deps request.now).Calls
        Call.keepsAccounts := by
      apply command_keepsAccounts
      intro owner close
      rw [close] at ofLimit
      cases ofLimit
    by_cases registers :
        ∃ label, request.command = .ipClient accountId (.register label)
    · obtain ⟨label, isRegister⟩ := registers
      have counts : (request.command.program deps request.now).Traces
          (CountsFirst accountId) anyEnd [] := by
        rw [isRegister]
        exact ended_counts (register_counts _ label _)
      apply (counts.calling spares).allows
      intro history call both _
      exact ⟨both.2, fun _ _ => both.1⟩
    · apply Program.AlwaysTraces.of_calls spares
      intro history call keeps _
      exact ⟨keeps, fun label isRegister =>
        (registers ⟨label, isRegister⟩).elim⟩
  · exact (command_appends deps request.now request.command).allows
      fun _ _ _ isLimit => (ofLimit isLimit).elim

/-! ## Runs -/

/-- What holds in every state of a run in which the counts are current. -/
structure Limited (deps : BackendDeps) (accountId : Id)
    (pool : BackendPool) : Prop where
  deciding : Deciding deps pool
  calls : pool.Traced (LimitCalls accountId)
  requests : pool.Asks fun request =>
    request.command.ofDeviceLimit accountId = true
  ended : ∀ ipClientId, pool.Knows
    (fun _ history =>
      ∃ seen ∈ readsOf ⟨accountId, .ipClient, ipClientId⟩ history,
        (ipClientOf seen).status = .decommissioned)
    fun world => (ipClientOf (world.store.readStream
      ⟨accountId, .ipClient, ipClientId⟩)).status = .decommissioned
  limit : ∀ limit, pool.Knows
    (fun _ history =>
      ∃ seen ∈ readsOf ⟨accountId, .account, accountId⟩ history,
        limit ≤ (seen.foldl accountReducer initialAccountState).deviceLimit)
    fun world => limit ≤ ((world.store.readStream
      ⟨accountId, .account, accountId⟩).foldl accountReducer
        initialAccountState).deviceLimit
  within : WithinLimit pool.state.store accountId

namespace Limited

variable {move : Move BackendRequest Choice}

theorem noDeletion (limited : Limited deps accountId pool)
    (move : Move BackendRequest Choice) : NoDeletion pool move := by
  apply noDeletion_of_calls
  intro thread member call resume awaiting
  have calls := limited.calls thread member
  rw [awaiting] at calls
  exact (calls.1 (limited.requests thread member)).1

/-- A request of the limit, the event it inserts and what it has read. -/
structure Inserting (deps : BackendDeps) (accountId : Id)
    (pool next : BackendPool) (index : Nat) (request : BackendRequest)
    (history : BackendHistory) (input : AppendEventInput)
    (event : StoredEvent) : Prop where
  atEnd : InsertionAtEnd deps pool next index request history input event
  ofLimit : request.command.ofDeviceLimit accountId = true
  counts : ∀ label, request.command = .ipClient accountId (.register label) →
    SeenRoom accountId history

theorem inserting (limited : Limited deps accountId pool) {index : Nat}
    {request : BackendRequest} {history : BackendHistory}
    (insertion : Insertion pool next index request history input event) :
    Inserting deps accountId pool next index request history input event := by
  obtain ⟨resume, found⟩ := insertion.running
  have member := List.mem_of_getElem? found
  have ofLimit := limited.requests _ member
  refine ⟨limited.deciding.atEnd insertion, ofLimit, ?_⟩
  intro label isRegister
  exact ((limited.calls _ member).1 ofLimit).2 label isRegister input rfl

variable {index : Nat} {request : BackendRequest} {history : BackendHistory}

/-- A device that is decommissioned stays so. -/
theorem Inserting.staysEnded
    (inserting : Inserting deps accountId pool next index request history
      input event) {ipClientId : Id}
    (ended : (ipClientOf (pool.state.store.readStream
      ⟨accountId, .ipClient, ipClientId⟩)).status = .decommissioned) :
    (ipClientOf (next.state.store.readStream
      ⟨accountId, .ipClient, ipClientId⟩)).status = .decommissioned := by
  obtain ⟨atEnd, ofLimit, -⟩ := inserting
  by_cases own : input.params = ⟨accountId, .ipClient, ipClientId⟩
  · obtain ⟨written, grown⟩ := atEnd.grown
    rcases insertion_cases ofLimit atEnd.appends with
      other | ⟨label, registeredId, registered, -, rfl⟩ |
      ⟨endedId, version, rfl⟩
    · exact absurd (congrArg ReadStreamParams.aggregateType own) other
    · have nothing := atEnd.nothing rfl
      rw [own] at nothing
      rw [nothing] at ended
      cases ended
    · rw [own] at grown
      rw [grown]
      unfold ipClientOf
      rw [List.foldl_append]
      simp only [List.foldl_cons, List.foldl_nil, ipClientReducer, written,
        IpClients.appendInput]
  · rw [atEnd.other own]
    exact ended

/-- There are no more active devices than a current count has counted. -/
theorem counted_of_current (limited : Limited deps accountId pool)
    {thread : Thread backend Err BackendRequest (Option Nat)}
    (member : thread ∈ pool.threads) {reads : List (Id × List StoredEvent)}
    (complete : ∀ ipClientId, ∀ seen ∈
        readsOf ⟨accountId, .ipClient, ipClientId⟩ thread.history,
      (ipClientId, seen) ∈ reads)
    (current : ∀ ipClientId ∈
        pool.state.store.listAggregateIds accountId .ipClient [],
      readsOf ⟨accountId, .ipClient, ipClientId⟩ thread.history ≠ []) :
    (activeIpClients pool.state.store accountId).length ≤
      (counted reads).length := by
  have within : activeIpClients pool.state.store accountId ⊆
      (counted reads).map (·.1) := by
    intro ipClientId active
    obtain ⟨listed, alive⟩ := mem_activeIpClients.mp active
    obtain ⟨seen, isRead⟩ := List.exists_mem_of_ne_nil _ (current ipClientId
      (EventStore.mem_listAggregateIds.mpr listed))
    have stillAlive : (ipClientOf seen).status ≠ .decommissioned :=
      fun ended => alive
        (limited.ended ipClientId thread member ⟨seen, isRead, ended⟩)
    apply List.mem_map.mpr
    refine ⟨(ipClientId, seen), ?_, rfl⟩
    exact List.mem_filter.mpr
      ⟨complete ipClientId seen isRead, decide_eq_true stillAlive⟩
  have shorter := (List.subperm_of_subset (activeIpClients_nodup _ _)
    within).length_le
  rw [List.length_map] at shorter
  exact shorter

theorem Inserting.within (limited : Limited deps accountId pool)
    {choice : Choice}
    (inserting : Inserting deps accountId pool next index request history
      input event)
    (raised : (accountIn pool.state.store accountId).deviceLimit ≤
      (accountIn next.state.store accountId).deviceLimit)
    (current : countIsCurrent accountId pool (.advance index choice) = true) :
    WithinLimit next.state.store accountId := by
  have appended := inserting.atEnd.insertion.appended
  have within := limited.within
  unfold WithinLimit at within ⊢
  rcases insertion_cases inserting.ofLimit inserting.atEnd.appends with
    other | ⟨label, registeredId, registered, isRegister, rfl⟩ |
    ⟨endedId, version, rfl⟩
  · have fewer : (activeIpClients next.state.store accountId).length ≤ _ :=
      activeIpClients_other appended other
    omega
  · obtain ⟨account, ofAccount, reads, complete, room⟩ :=
      inserting.counts label isRegister
    obtain ⟨resume, found⟩ := inserting.atEnd.insertion.running
    have member := List.mem_of_getElem? found
    have isCurrent : ∀ ipClientId ∈
        pool.state.store.listAggregateIds accountId .ipClient [],
        readsOf ⟨accountId, .ipClient, ipClientId⟩ history ≠ [] := by
      obtain ⟨number, now, command⟩ := request
      subst isRegister
      simp only [countIsCurrent, found, List.all_eq_true,
        decide_eq_true_eq] at current
      exact current
    have counts := limited.counted_of_current member complete isCurrent
    have more : (activeIpClients next.state.store accountId).length ≤ _ :=
      activeIpClients_device appended rfl
    have limit : (account.foldl accountReducer
          initialAccountState).deviceLimit ≤
        (accountIn pool.state.store accountId).deviceLimit :=
      limited.limit _ _ member ⟨account, ofAccount, Nat.le_refl _⟩
    omega
  · have ended : (ipClientIn next.state.store accountId endedId).status =
        .decommissioned := by
      obtain ⟨written, grown⟩ := inserting.atEnd.grown
      have same : next.state.store.readStream
          ⟨accountId, .ipClient, endedId⟩ = _ := grown
      unfold ipClientIn
      rw [same]
      simp only [replayed, List.foldl_append, List.foldl_cons,
        List.foldl_nil, ipClientReducer, written, IpClients.appendInput]
    have fewer : (activeIpClients next.state.store accountId).length ≤ _ :=
      activeIpClients_decommissioned appended rfl ended
    omega

theorem step (limited : Limited deps accountId pool)
    (raises : limitIsRaised deps accountId pool move = true)
    (current : countIsCurrent accountId pool move = true)
    (moved : pool.step (backendService deps) move = some next) :
    Limited deps accountId next := by
  have noDeletion := limited.noDeletion move
  simp only [limitIsRaised, moved, Option.all_some, Bool.and_eq_true,
    decide_eq_true_eq] at raises
  obtain ⟨starts, raised⟩ := raises
  have inserts := noDeletion.inserts rfl moved
  constructor
  · exact limited.deciding.step noDeletion moved
  · exact limited.calls.step (limitCalls deps accountId) moved
  · apply limited.requests.step _ moved
    intro request same
    subst same
    exact starts
  · intro ipClientId
    apply knows_read rfl (limited.ended ipClientId) _ moved
    intro ended
    rcases inserts with same |
      ⟨index, choice, request, history, input, event, rfl, insertion⟩
    · rw [same]
      exact ended
    · exact (limited.inserting insertion).staysEnded ended
  · intro limit
    apply knows_read rfl (limited.limit limit) _ moved
    exact fun known => Nat.le_trans known raised
  · rcases inserts with same |
      ⟨index, choice, request, history, input, event, rfl, insertion⟩
    · rw [same]
      exact limited.within
    · exact (limited.inserting insertion).within limited raised current

end Limited

theorem Limited.initial {world : World} (start : world.store.Sequenced)
    (within : WithinLimit world.store accountId) :
    Limited deps accountId ⟨world, []⟩ where
  deciding := .initial start
  calls := fun _ member => by cases member
  requests := fun _ member => by cases member
  ended := fun _ => Pool.Knows.initial world
  limit := fun _ => Pool.Knows.initial world
  within := within

/-! ## An example -/

/-- An account that may have one device. -/
def smallAccount : World where
  store := EventStore.recorded 1 [(.account, 1, .account (.registered 1 1 0))]

def registers (number : Nat) : BackendRequest :=
  ⟨number, 0, .ipClient 1 (.register none)⟩

/-- One request after the other. -/
def oneByOne : List (Move BackendRequest Choice) :=
  .start (registers 0) :: CutOff.backendAdvances 0 7 ++
    .start (registers 1) :: CutOff.backendAdvances 1 3

/-- Both requests count before either appends. -/
def overlapping : List (Move BackendRequest Choice) :=
  .start (registers 0) :: .start (registers 1) ::
    CutOff.backendAdvances 0 2 ++ CutOff.backendAdvances 1 2 ++
    CutOff.backendAdvances 0 5 ++ CutOff.backendAdvances 1 5

end DeviceLimit

/-- The moves of a run in which every count is current. -/
def CountsAreCurrent (deps : BackendDeps) (accountId : Id)
    (pool : BackendPool) (move : Move BackendRequest Choice) : Prop :=
  (limitIsRaised deps accountId pool move &&
    countIsCurrent accountId pool move) = true

open DeviceLimit in
/-- However the requests that register and decommission devices and raise the
limit interleave, an account has no more devices than its limit in every state
of a run in which each registration has seen all devices that were registered
before it is appended. -/
theorem device_limit_holds {initial : World} {accountId : Id}
    (start : initial.store.Sequenced)
    (within : WithinLimit initial.store accountId)
    (run : Pool.Run (backendService deps) (CountsAreCurrent deps accountId)
      ⟨initial, []⟩ pool) :
    WithinLimit pool.state.store accountId := by
  suffices limited : Limited deps accountId pool from limited.within
  apply run.invariant
  · exact .initial start within
  · intro pool move next limited allowed moved
    obtain ⟨raises, current⟩ := Bool.and_eq_true_iff.mp allowed
    exact limited.step raises current moved

open DeviceLimit in
/-- The second device of an account that may have one is refused. -/
theorem device_limit_holds_one_by_one :
    ∃ pool : BackendPool,
      pool.returned 0 = some (registers 0, some 201) ∧
      pool.returned 1 = some (registers 1, some 409) ∧
      WithinLimit pool.state.store 1 := by
  have ends : ((⟨smallAccount, []⟩ : BackendPool).follow
      (backendService exampleBackendDeps)
      (fun pool move => limitIsRaised exampleBackendDeps 1 pool move &&
        countIsCurrent 1 pool move) oneByOne).map
      (fun pool => (pool.returned 0, pool.returned 1)) =
        some (some (registers 0, some 201), some (registers 1, some 409)) := by
    decide +kernel
  obtain ⟨pool, followed, returned⟩ := Option.map_eq_some_iff.mp ends
  have run : Pool.Run (backendService exampleBackendDeps)
      (CountsAreCurrent exampleBackendDeps 1) ⟨smallAccount, []⟩ pool :=
    Pool.run_of_follow (fun _ _ passed => passed) followed
  have within : WithinLimit smallAccount.store 1 := by
    unfold WithinLimit
    decide +kernel
  exact ⟨pool, congrArg Prod.fst returned, congrArg Prod.snd returned,
    device_limit_holds (EventStore.recorded_sequenced _ _) within run⟩

open DeviceLimit in
/-- Two requests that both count before either appends take an account past
its limit. -/
theorem overlapping_counts_pass_the_limit :
    ¬ ∀ (deps : BackendDeps) (initial : World) (accountId : Id)
        (pool : BackendPool),
      initial.store.Sequenced → WithinLimit initial.store accountId →
      Pool.Run (backendService deps)
        (fun pool move => limitIsRaised deps accountId pool move = true)
        ⟨initial, []⟩ pool →
      WithinLimit pool.state.store accountId := by
  intro claim
  have ends : ((⟨smallAccount, []⟩ : BackendPool).follow
      (backendService exampleBackendDeps) (limitIsRaised exampleBackendDeps 1)
      overlapping).map (fun pool =>
        (activeIpClients pool.state.store 1,
          (accountIn pool.state.store 1).deviceLimit)) =
        some ([0, 2], 1) := by
    decide +kernel
  obtain ⟨pool, followed, counted⟩ := Option.map_eq_some_iff.mp ends
  have run := Pool.run_of_follow (fun _ _ passed => passed) followed
  have start : WithinLimit smallAccount.store 1 := by
    unfold WithinLimit
    decide +kernel
  have within := claim exampleBackendDeps smallAccount 1 pool
    (EventStore.recorded_sequenced _ _) start run
  have devices : activeIpClients pool.state.store 1 = [0, 2] :=
    congrArg Prod.fst counted
  have limit : (accountIn pool.state.store 1).deviceLimit = 1 :=
    congrArg Prod.snd counted
  rw [WithinLimit, devices, limit] at within
  exact absurd within (by decide)

end FluxIP
