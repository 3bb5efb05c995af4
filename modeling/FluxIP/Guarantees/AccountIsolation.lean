import FluxIP.Adapters.AccountReads
import FluxIP.Adapters.Folds
import FluxIP.Adapters.Ownership
import FluxIP.Guarantees.DecidedRuns

/-!
# Account isolation

What the requests of one account do to the others.  A stream is found by its
type and id alone when an event is inserted, by the account as well when it is
read: whoever names another account's stream reads nothing, and then appends at
a position that is taken.
-/

namespace FluxIP

open Async

/-- Each stream belongs to one account. -/
def OneOwner (store : EventStore) : Prop :=
  ∀ first ∈ store.events, ∀ second ∈ store.events,
    first.aggregateType = second.aggregateType →
    first.aggregateId = second.aggregateId →
    first.accountId = second.accountId

/-- Each stream has an event at the first position. -/
def StreamsBegin (store : EventStore) : Prop :=
  ∀ event ∈ store.events, ∃ first ∈ store.events,
    first.aggregateType = event.aggregateType ∧
    first.aggregateId = event.aggregateId ∧ first.sequenceNumber = 1

/-- A request of the account: one that is given it, a trigger request that does
not present the credentials of another account's client, or the opening of an
agent's stream, which is not tied to an account yet. -/
def BackendCommand.isOf (credentials : Credentials) (store : EventStore)
    (accountId : Id) : BackendCommand → Prop
  | .nicUpdate request => ∀ auth, request.credentials = some auth →
      ∀ other, other ≠ accountId → Trigger.authorizes credentials
        (ipClientIn store other auth.username) auth.password = false
  | .provider (.stream _) => True
  | command => command.accountId = some accountId

/-- The moves of a run of requests of one account. -/
def RequestsOf (deps : BackendDeps) (accountId : Id) (store : EventStore)
    (_ : BackendPool) (move : Move BackendRequest Choice) : Prop :=
  ∀ request, move = .start request →
    request.command.isOf deps.ipClients.credentials store accountId

/-- What an account is told does not differ between two stores, whatever else
differs: the content of its snapshots, the history of its devices, the list of
its deliveries, and the jobs of a fan-out, which are the same call by call when
the same ids are drawn. -/
structure SameReports (accountId : Id) (before after : EventStore) : Prop where
  snapshot : ∀ choices left right, World.store left = before →
    World.store right = after → ∀ text providerId providerName,
    ((buildSnapshotContent text accountId providerId providerName).run
        semantics choices left).1 =
      ((buildSnapshotContent text accountId providerId providerName).run
        semantics choices right).1
  history : ∀ choices left right, World.store left = before →
    World.store right = after → ∀ ipClientId,
    ((IpClientHistory.get accountId ipClientId).run
        semantics choices left).1 =
      ((IpClientHistory.get accountId ipClientId).run
        semantics choices right).1
  deliveries : ∀ choices left right, World.store left = before →
    World.store right = after →
    ((listDeliveryActions accountId).run semantics choices left).1 =
      ((listDeliveryActions accountId).run semantics choices right).1
  fanOut : ∀ choices left right, World.store left = before →
    World.store right = after → left.nextUUID = right.nextUUID →
    ∀ params : FanOutParams, params.accountId = accountId →
    (fanOutActionExecutions params).made semantics choices left =
      (fanOutActionExecutions params).made semantics choices right

variable {deps : BackendDeps} {pool next : BackendPool}

namespace AccountIsolation

variable {accountId : Id} {initial store : EventStore}
variable {params : ReadStreamParams} {input : AppendEventInput}

theorem sameReports {before after : EventStore}
    (same : before.eventsOf accountId = after.eventsOf accountId) :
    SameReports accountId before after := by
  have relates {left right : World} (atFirst : left.store = before)
      (atLast : right.store = after) : SameEvents accountId left right := by
    unfold SameEvents
    rw [atFirst, atLast]
    exact same
  constructor
  · intro choices left right atFirst atLast text providerId providerName
    exact ((readsFor_lockstep accountId).run
      (buildSnapshotContent_calls (fun _ => id) _ _ _) choices
      (relates atFirst atLast)).1
  · intro choices left right atFirst atLast ipClientId
    exact ((readsFor_lockstep accountId).run
      (history_calls (fun _ => id) _) choices (relates atFirst atLast)).1
  · intro choices left right atFirst atLast
    exact ((readsFor_lockstep accountId).run
      (listDeliveryActions_calls fun _ => id) choices
      (relates atFirst atLast)).1
  · intro choices left right atFirst atLast sameDraw fanOut own
    subst own
    exact ((fansOutFor_lockstep fanOut.accountId).run
      (fanOutActionExecutions_calls fanOut) choices
      ⟨relates atFirst atLast, sameDraw⟩).2

/-! ## What other accounts have -/

/-- The events of the other accounts. -/
def othersOf (accountId : Id) (store : EventStore) : List StoredEvent :=
  store.events.filter (·.accountId ≠ accountId)

/-- Another account has the stream. -/
def Foreign (accountId : Id) (store : EventStore)
    (params : ReadStreamParams) : Prop :=
  ∃ event ∈ store.events, event.accountId ≠ accountId ∧
    event.aggregateType = params.aggregateType ∧
    event.aggregateId = params.aggregateId

theorem eventsOf_of_others {other : Id} (apart : other ≠ accountId)
    (same : othersOf accountId store = othersOf accountId initial) :
    store.eventsOf other = initial.eventsOf other := by
  have within (store : EventStore) : store.eventsOf other =
      (othersOf accountId store).filter (·.accountId = other) := by
    unfold EventStore.eventsOf othersOf
    rw [List.filter_filter]
    apply List.filter_congr
    intro event _
    by_cases own : event.accountId = other
    · simp [own, apart]
    · simp [own]
  rw [within, within, same]

theorem mem_of_others {event : StoredEvent}
    (same : othersOf accountId store = othersOf accountId initial)
    (foreign : event.accountId ≠ accountId) :
    event ∈ store.events ↔ event ∈ initial.events := by
  have member (store : EventStore) :
      event ∈ othersOf accountId store ↔ event ∈ store.events := by
    unfold othersOf
    rw [List.mem_filter]
    simp [foreign]
  rw [← member store, same, member initial]

/-- What a read may have answered: nothing of another account's stream under
the own account, the stream as it was at first under another one. -/
structure Answers (accountId : Id) (initial : EventStore)
    (params : ReadStreamParams) (seen : List StoredEvent) : Prop where
  own : params.accountId = accountId → Foreign accountId initial params →
    seen = []
  other : params.accountId ≠ accountId → seen = initial.readStream params

theorem answers_of_others (oneOwner : OneOwner store)
    (same : othersOf accountId store = othersOf accountId initial) :
    Answers accountId initial params (store.readStream params) := by
  constructor
  · intro own foreign
    obtain ⟨event, member, apart, ofType, ofId⟩ := foreign
    apply List.eq_nil_iff_forall_not_mem.mpr
    intro found isRead
    obtain ⟨stored, foundType, foundId, foundAccount⟩ :=
      EventStore.mem_readStream.mp isRead
    have owner := oneOwner event ((mem_of_others same apart).mpr member) found
      stored (ofType.trans foundType.symm) (ofId.trans foundId.symm)
    exact apart (owner.trans (foundAccount.trans own))
  · intro apart
    exact EventStore.readStream_of_eventsOf (eventsOf_of_others apart same) rfl

/-! ## The calls of the requests -/

/-- The call writes or deletes nothing but for the account. -/
def Call.writesOnly (accountId : Id) : Call → Prop
  | .store (.append input) => input.accountId = accountId
  | .store (.deleteAccount owner) => owner = accountId
  | _ => True

theorem writesOnly_of_addsNothing {call : Call}
    (adds : Call.addsNothing call = true) :
    Call.writesOnly accountId call := by
  cases call with
  | store call => cases call <;> first | trivial | cases adds
  | _ => trivial

theorem calls_writeOnly (accountId : Id) :
    WritesFor (fun _ program => program.Calls (Call.writesOnly accountId))
      accountId where
  done _ := trivial
  fail _ := trivial
  bind := Program.Calls.bind
  attempt := Program.Calls.attempt
  call awaited adds :=
    (Backend.calls_call awaited).mpr (writesOnly_of_addsNothing adds)
  append input own := (Backend.calls_call (.store (.append input))).mpr own

/-- What a request of the account may write: a trigger request appends for the
account of the client it presents, the others for their own. -/
def MayWrite (accountId : Id) (command : BackendCommand) (call : Call) :
    Prop :=
  (∀ request, command = .nicUpdate request → Call.keepsAccounts call) ∧
  ((∀ request, command ≠ .nicUpdate request) → Call.writesOnly accountId call)

theorem command_mayWrite {credentials : Credentials} (now : Timestamp)
    {command : BackendCommand}
    (isOf : command.isOf credentials initial accountId) :
    (command.program deps now).Calls (MayWrite accountId command) := by
  by_cases isReport : ∃ request, command = .nicUpdate request
  · obtain ⟨request, rfl⟩ := isReport
    have keeps : ((BackendCommand.nicUpdate request).program deps now).Calls
        Call.keepsAccounts :=
      command_keepsAccounts fun _ => nofun
    apply keeps.mono
    exact fun call keeps => ⟨fun _ _ => keeps,
      fun other => absurd rfl (other request)⟩
  · have other : ∀ request, command ≠ .nicUpdate request :=
      fun request same => isReport ⟨request, same⟩
    have writes : (command.program deps now).Calls
        (Call.writesOnly accountId) := by
      by_cases given : command.accountId = some accountId
      · apply (calls_writeOnly accountId).command command given
        · exact fun _ _ _ => (Backend.calls_call (.queue _)).mpr trivial
        · exact fun _ =>
            (Backend.calls_call (.store (.deleteAccount accountId))).mpr rfl
      · cases command with
        | nicUpdate request => exact absurd rfl (other request)
        | provider command =>
            cases command with
            | stream call =>
                apply Program.Calls.bind
                · exact (onSession_addsNothing _ call now).mono
                    fun _ => writesOnly_of_addsNothing
                · exact fun _ => trivial
            | _ => exact absurd isOf given
        | _ => exact absurd isOf given
    apply writes.mono
    exact fun call writes => ⟨fun request same => (other request same).elim,
      fun _ => writes⟩

/-- What the calls of a request are known to be. -/
def CallsOf (deps : BackendDeps) (accountId : Id) (initial : EventStore)
    (request : BackendRequest) (_ : BackendHistory) (call : Call) : Prop :=
  request.command.isOf deps.ipClients.credentials initial accountId →
    MayWrite accountId request.command call

theorem callsOf (deps : BackendDeps) (accountId : Id) (initial : EventStore)
    (request : BackendRequest) :
    (request.command.program deps request.now).Traces
      (CallsOf deps accountId initial request) anyEnd [] := by
  by_cases isOf :
      request.command.isOf deps.ipClients.credentials initial accountId
  · apply Program.AlwaysTraces.of_calls (command_mayWrite request.now isOf)
    exact fun _ _ writes _ => writes
  · exact (command_appends deps request.now request.command).allows
      fun _ _ _ isOfToo => (isOf isOfToo).elim

/-! ## Runs -/

/-- What holds in every state of a run of requests of one account. -/
structure Isolated (deps : BackendDeps) (accountId : Id)
    (initial : EventStore) (pool : BackendPool) : Prop where
  others : othersOf accountId pool.state.store = othersOf accountId initial
  oneOwner : OneOwner pool.state.store
  appends : pool.Traced (AppendsAllowed deps)
  calls : pool.Traced (CallsOf deps accountId initial)
  requests : pool.Asks fun request =>
    request.command.isOf deps.ipClients.credentials initial accountId
  answers : ∀ thread ∈ pool.threads, ∀ params,
    ∀ seen ∈ readsOf params thread.history,
      Answers accountId initial params seen

/-- The basis of an append is an answer, or nothing. -/
theorem basis_cases (command : BackendCommand)
    (reads : List (List StoredEvent)) :
    command.basis reads = [] ∨ command.basis reads ∈ reads := by
  unfold BackendCommand.basis
  split
  · cases first : reads.head? with
    | none => exact .inl rfl
    | some seen => exact .inr (List.mem_of_head? first)
  · cases last : reads.getLast? with
    | none => exact .inl rfl
    | some seen => exact .inr (List.mem_of_getLast? last)

theorem unauthorized_of_nothing (credentials : Credentials)
    (password : String) :
    Trigger.authorizes credentials (ipClientOf []) password = false := rfl

namespace Isolated

variable {move : Move BackendRequest Choice} {event : StoredEvent}
variable {thread : Thread backend Err BackendRequest (Option Nat)}
variable {resume : Except Err StoredEvent → Backend (Option Nat)}

/-- Whatever is appended is appended for the account. -/
theorem appends_own (isolated : Isolated deps accountId initial pool)
    (member : thread ∈ pool.threads)
    (appending : thread.program = .await (.store (.append input)) resume) :
    input.accountId = accountId := by
  have isOf : thread.request.command.isOf deps.ipClients.credentials initial
      accountId := isolated.requests thread member
  have calls := isolated.calls thread member
  have appends := isolated.appends thread member
  rw [appending] at calls appends
  obtain ⟨-, writes⟩ := calls.1 isOf
  obtain ⟨-, allowed⟩ := appends.1.1 input rfl
  by_contra apart
  by_cases isReport : ∃ request, thread.request.command = .nicUpdate request
  · obtain ⟨request, same⟩ := isReport
    have answers := isolated.answers thread member input.params
    have known := basis_cases thread.request.command
      (readsOf input.params thread.history)
    generalize thread.request.command.basis
      (readsOf input.params thread.history) = seen at allowed known
    rw [same] at allowed isOf
    cases allowed with
    | report presented authorized =>
        rcases known with nothing | isRead
        · rw [nothing, unauthorized_of_nothing] at authorized
          cases authorized
        · rw [(answers _ isRead).other apart] at authorized
          have refused := isOf _ presented _ apart
          exact Bool.false_ne_true (refused.symm.trans authorized)
  · exact apart (writes fun request same => isReport ⟨request, same⟩)

/-- Nothing is inserted into another account's stream: the first position,
the only one its writer can ask for, is taken. -/
theorem spares_foreign (isolated : Isolated deps accountId initial pool)
    (oneOwner : OneOwner initial) (begin : StreamsBegin initial)
    (member : thread ∈ pool.threads)
    (appending : thread.program = .await (.store (.append input)) resume)
    (appended : pool.state.store.append input = (.ok event, store)) :
    ¬ Foreign accountId initial input.params := by
  intro foreign
  have own := isolated.appends_own member appending
  have appends := isolated.appends thread member
  rw [appending] at appends
  obtain ⟨follows, -⟩ := appends.1.1 input rfl
  have nothing : thread.request.command.basis
      (readsOf input.params thread.history) = [] := by
    rcases basis_cases thread.request.command
      (readsOf input.params thread.history) with nothing | isRead
    · exact nothing
    · exact (isolated.answers thread member input.params _ isRead).own own
        foreign
  obtain ⟨positive, bound⟩ := follows
  rw [nothing, List.length_nil] at bound
  obtain ⟨theirs, stored, apart, ofType, ofId⟩ := foreign
  obtain ⟨first, isFirst, firstType, firstId, position⟩ :=
    begin theirs stored
  have owner := oneOwner first isFirst theirs stored firstType firstId
  have present : first ∈ pool.state.store.events :=
    (mem_of_others isolated.others (owner ▸ apart)).mpr isFirst
  rcases EventStore.append_cases appended with
    ⟨_, -, -, -, -, -, -, -, free, -⟩ | ⟨conflict, -⟩
  · apply free first
    · exact EventStore.mem_stream.mpr
        ⟨present, firstType.trans ofType, firstId.trans ofId⟩
    · omega
  · cases conflict

/-- What an insertion leaves as it is. -/
theorem inserted (isolated : Isolated deps accountId initial pool)
    (oneOwner : OneOwner initial) (begin : StreamsBegin initial)
    (member : thread ∈ pool.threads)
    (appending : thread.program = .await (.store (.append input)) resume)
    (appended : pool.state.store.append input = (.ok event, store)) :
    othersOf accountId store = othersOf accountId initial ∧
      OneOwner store := by
  have own := isolated.appends_own member appending
  have spared :=
    isolated.spares_foreign oneOwner begin member appending appended
  rcases EventStore.append_cases appended with
    ⟨_, ⟨⟩, ofType, ofId, -, ofAccount, -, -, -, rfl⟩ | ⟨conflict, -⟩
  · have isOwn : event.accountId = accountId := ofAccount.trans own
    have alone : ∀ other ∈ pool.state.store.events,
        other.aggregateType = event.aggregateType →
        other.aggregateId = event.aggregateId →
        other.accountId = event.accountId := by
      intro other stored sameType sameId
      by_contra apart
      rw [isOwn] at apart
      exact spared ⟨other, (mem_of_others isolated.others apart).mp stored,
        apart, sameType.trans ofType, sameId.trans ofId⟩
    constructor
    · rw [← isolated.others]
      unfold othersOf
      rw [List.filter_append]
      simp [isOwn]
    · intro first isFirst second isSecond sameType sameId
      rcases List.mem_append.mp isFirst with firstOld | firstNew
      · rcases List.mem_append.mp isSecond with secondOld | secondNew
        · exact isolated.oneOwner first firstOld second secondOld sameType
            sameId
        · rw [List.mem_singleton] at secondNew
          subst secondNew
          exact alone first firstOld sameType sameId
      · rw [List.mem_singleton] at firstNew
        subst firstNew
        rcases List.mem_append.mp isSecond with secondOld | secondNew
        · exact (alone second secondOld sameType.symm sameId.symm).symm
        · rw [List.mem_singleton] at secondNew
          subst secondNew
          rfl
  · cases conflict

/-- The closing of the account deletes its own events. -/
theorem deleted (isolated : Isolated deps accountId initial pool)
    (member : thread ∈ pool.threads) {owner : Id}
    {next : Except Err Unit → Backend (Option Nat)}
    (deleting :
      thread.program = .await (.store (.deleteAccount owner)) next)
    {choice : Choice} {answer : Except Err Unit} {world : World}
    (result : semantics (.store (.deleteAccount owner)) choice pool.state =
      some (answer, world)) :
    othersOf accountId world.store = othersOf accountId initial ∧
      OneOwner world.store := by
  have isOf : thread.request.command.isOf deps.ipClients.credentials initial
      accountId := isolated.requests thread member
  have calls := isolated.calls thread member
  rw [deleting] at calls
  obtain ⟨keeps, writes⟩ := calls.1 isOf
  have own : owner = accountId := by
    apply writes
    intro request same
    exact keeps request same owner rfl
  subst own
  rcases deleteAccount_step result with gone | kept
  · rw [gone, ← isolated.others]
    constructor
    · unfold othersOf EventStore.deleteAccount
      rw [List.filter_filter]
      simp
    · intro first isFirst second isSecond
      exact isolated.oneOwner first (List.mem_of_mem_filter isFirst) second
        (List.mem_of_mem_filter isSecond)
  · rw [kept]
    exact ⟨isolated.others, isolated.oneOwner⟩

theorem step (isolated : Isolated deps accountId initial pool)
    (oneOwner : OneOwner initial) (begin : StreamsBegin initial)
    (starts : RequestsOf deps accountId initial pool move)
    (moved : pool.step (backendService deps) move = some next) :
    Isolated deps accountId initial next := by
  have appends : next.Traced (AppendsAllowed deps) := by
    apply isolated.appends.step _ moved
    exact fun request => command_appends deps request.now request.command
  have calls : next.Traced (CallsOf deps accountId initial) :=
    isolated.calls.step (callsOf deps accountId initial) moved
  have requests := isolated.requests.step starts moved
  cases move with
  | start request =>
      obtain ⟨-, -, rfl⟩ := Pool.step_start moved
      refine ⟨isolated.others, isolated.oneOwner, appends, calls, requests, ?_⟩
      intro thread member
      rcases List.mem_append.mp member with old | new
      · exact isolated.answers thread old
      · rw [List.mem_singleton] at new
        subst new
        exact fun params seen member => by cases member
  | advance index choice =>
      obtain ⟨request, history, call, resume, answer, world, found, result,
        rfl⟩ := Pool.step_advance moved
      have member := List.mem_of_getElem? found
      have kept : othersOf accountId world.store =
          othersOf accountId initial ∧ OneOwner world.store := by
        by_cases noAppend : ∀ input, call ≠ .store (.append input)
        · by_cases noDeletion : ∀ owner, call ≠ .store (.deleteAccount owner)
          · rw [store_frame result (keepsStore_of_ne noAppend noDeletion)]
            exact ⟨isolated.others, isolated.oneOwner⟩
          · simp only [not_forall, not_not] at noDeletion
            obtain ⟨owner, rfl⟩ := noDeletion
            exact isolated.deleted member rfl result
        · simp only [not_forall, not_not] at noAppend
          obtain ⟨input, rfl⟩ := noAppend
          rcases append_step result with
            ⟨event, store, appended, rfl, -⟩ | ⟨rfl, -⟩
          · exact isolated.inserted oneOwner begin member rfl appended
          · exact ⟨isolated.others, isolated.oneOwner⟩
      refine ⟨kept.1, kept.2, appends, calls, requests, ?_⟩
      intro thread memberAfter
      rcases List.mem_or_eq_of_mem_set memberAfter with old | new
      · exact isolated.answers thread old
      · subst new
        intro params seen isRead
        rw [readsOf_append] at isRead
        rcases List.mem_append.mp isRead with before | now
        · exact isolated.answers _ member params seen before
        · rw [read_whole result (Option.mem_toList.mp now)]
          exact answers_of_others kept.2 kept.1

theorem start {world : World} (oneOwner : OneOwner world.store) :
    Isolated deps accountId world.store ⟨world, []⟩ where
  others := rfl
  oneOwner := oneOwner
  appends := fun _ member => by cases member
  calls := fun _ member => by cases member
  requests := fun _ member => by cases member
  answers := fun _ member => by cases member

end Isolated

/-- The streams of a store whose streams are numbered begin. -/
theorem streamsBegin_of_sequenced (sequenced : store.Sequenced) :
    StreamsBegin store := by
  intro event stored
  have member : event ∈ store.stream event.aggregateType event.aggregateId :=
    EventStore.mem_stream.mpr ⟨stored, rfl, rfl⟩
  obtain ⟨first, isFirst, position⟩ :=
    sequenced.occupied (Nat.le_refl 1) (List.length_pos_of_mem member)
  obtain ⟨isStored, ofType, ofId⟩ := EventStore.mem_stream.mp isFirst
  exact ⟨first, isStored, ofType, ofId, position⟩

/-! ## An example -/

/-- Account 1 has a client. -/
def twoAccounts : World where
  store := EventStore.recorded 1
    [(.ipClient, 20, .ipClient (.registered 20 1 "router" "hash" 0))]

/-- Account 2 names the client of account 1. -/
def strangers : BackendRequest := ⟨0, 0, .ipClient 2 (.decommission 20)⟩

/-- The request is given its account. -/
def startsGiven (accountId : Id) : Move BackendRequest Choice → Bool
  | .start request => request.command.accountId = some accountId
  | .advance _ _ => true

end AccountIsolation

open AccountIsolation in
/-- However the requests of one account interleave, and whatever ids they name:
the events of another account stay as they are, each stream still belongs to
one account, and the other account is told what it was told before. -/
theorem accounts_are_isolated {initial : World} {accountId other : Id}
    (apart : accountId ≠ other) (oneOwner : OneOwner initial.store)
    (begin : StreamsBegin initial.store)
    (run : Pool.Run (backendService deps)
      (RequestsOf deps other initial.store) ⟨initial, []⟩ pool) :
    pool.state.store.eventsOf accountId = initial.store.eventsOf accountId ∧
      OneOwner pool.state.store ∧
      SameReports accountId initial.store pool.state.store := by
  have isolated : Isolated deps other initial.store pool := by
    apply run.invariant
    · exact .start oneOwner
    · exact fun _ _ _ isolated starts moved =>
        isolated.step oneOwner begin starts moved
  have same := eventsOf_of_others apart isolated.others
  exact ⟨same, isolated.oneOwner, sameReports same.symm⟩

open AccountIsolation in
/-- Another account's client cannot be decommissioned. -/
theorem accounts_are_isolated_refused :
    ∃ pool : BackendPool, pool.returned 0 = some (strangers, some 404) ∧
      pool.state.store.eventsOf 1 = twoAccounts.store.eventsOf 1 ∧
      OneOwner pool.state.store ∧
      SameReports 1 twoAccounts.store pool.state.store := by
  have ends : ((⟨twoAccounts, []⟩ : BackendPool).follow
      (backendService exampleBackendDeps) (fun _ => startsGiven 2)
      (.start strangers :: CutOff.backendAdvances 0 1)).map
      (fun pool => pool.returned 0) = some (some (strangers, some 404)) := by
    decide +kernel
  obtain ⟨pool, followed, returned⟩ := Option.map_eq_some_iff.mp ends
  have run : Pool.Run (backendService exampleBackendDeps)
      (RequestsOf exampleBackendDeps 2 twoAccounts.store)
      ⟨twoAccounts, []⟩ pool := by
    apply Pool.run_of_follow _ followed
    intro pool move passed request same
    subst same
    have given := of_decide_eq_true passed
    cases command : request.command with
    | nicUpdate report =>
        rw [command] at given
        cases given
    | provider called =>
        rw [command] at given
        cases called <;> first | trivial | exact given
    | _ =>
        rw [command] at given
        exact given
  have sequenced := EventStore.recorded_sequenced 1
    [(.ipClient, 20, .ipClient (.registered 20 1 "router" "hash" 0))]
  exact ⟨pool, returned, accounts_are_isolated (by decide) sequenced.account
    (streamsBegin_of_sequenced sequenced) run⟩

end FluxIP
