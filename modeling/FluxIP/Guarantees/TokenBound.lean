import FluxIP.Adapters.Folds
import FluxIP.Adapters.ProviderPrograms
import FluxIP.Adapters.Steps

/-!
# The bound on active tokens

How many tokens of a provider are active while routes, agent sessions and the
snapshot coordinator interleave at every await point.
-/

namespace FluxIP

open Async

def TokensBounded (store : EventStore) : Prop :=
  ∀ accountId providerId,
    (activeTokens (providerState store accountId providerId)).length ≤
      MAX_ACTIVE_TOKENS

namespace TokenBound

/-! ## Tokens under the events of a provider -/

def issuesToken : EventData → Bool
  | .traefikProvider (.tokenIssued _) => true
  | _ => false

theorem activeTokens_revoke_le (tokens : List ProviderTokenState)
    (data : TraefikProviderTokenRevokedData) :
    ((tokens.map (·.revoke data)).filter (·.revokedAt.isNone)).length ≤
      (tokens.filter (·.revokedAt.isNone)).length := by
  induction tokens with
  | nil => simp
  | cons token tokens ih =>
      by_cases revoked : token.tokenId = data.tokenId ∧ token.revokedAt = none
      · have nowRevoked : (token.revoke data).revokedAt.isNone = false := by
          simp [ProviderTokenState.revoke, revoked]
        have wasActive : token.revokedAt.isNone = true := by
          simp [revoked.2]
        simp only [List.map_cons, List.filter_cons, nowRevoked, wasActive,
          Bool.false_eq_true, if_false, if_true, List.length_cons]
        omega
      · have same : token.revoke data = token := by
          simp [ProviderTokenState.revoke, revoked]
        simp only [List.map_cons, List.filter_cons, same]
        split
        · simp only [List.length_cons]
          omega
        · exact ih

theorem activeTokens_reducer_le (state : TraefikProviderState)
    {event : StoredEvent} (quiet : issuesToken event.data = false) :
    (activeTokens (traefikProviderReducer state event)).length ≤
      (activeTokens state).length := by
  unfold traefikProviderReducer
  split
  case h_4 data issued => simp [issuesToken, issued] at quiet
  case h_5 data revoked => exact activeTokens_revoke_le state.tokens data
  case h_9 data disconnected =>
    split <;> exact Nat.le_refl _
  all_goals exact Nat.le_refl _

theorem activeTokens_reducer_le_succ (state : TraefikProviderState)
    (event : StoredEvent) :
    (activeTokens (traefikProviderReducer state event)).length ≤
      (activeTokens state).length + 1 := by
  cases issues : issuesToken event.data with
  | false => exact (activeTokens_reducer_le state issues).trans (Nat.le_succ _)
  | true =>
      obtain ⟨data, same⟩ : ∃ data,
          event.data = .traefikProvider (.tokenIssued data) := by
        revert issues
        unfold issuesToken
        split
        · rename_i data same
          exact fun _ => ⟨data, same⟩
        · exact fun impossible => by cases impossible
      simp [traefikProviderReducer, same, activeTokens]

/-- Events that issue no token leave no more tokens active. -/
theorem activeTokens_foldl_le (events : List StoredEvent)
    (state : TraefikProviderState)
    (quiet : ∀ event ∈ events, issuesToken event.data = false) :
    (activeTokens (events.foldl traefikProviderReducer state)).length ≤
      (activeTokens state).length := by
  induction events generalizing state with
  | nil => exact Nat.le_refl _
  | cons event events ih =>
      obtain ⟨first, rest⟩ := List.forall_mem_cons.mp quiet
      exact (ih _ rest).trans (activeTokens_reducer_le state first)

/-- Another token can be issued. -/
def RoomFor (store : EventStore) (accountId providerId : Id) : Prop :=
  (activeTokens (providerState store accountId providerId)).length <
    MAX_ACTIVE_TOKENS

variable {store next : EventStore} {input : AppendEventInput}
variable {event : StoredEvent}

theorem tokensBounded_append (bounded : TokensBounded store)
    (sequenced : store.Sequenced) (sequencedNext : next.Sequenced)
    (appended : store.append input = (.ok event, next))
    (room : issuesToken input.data = true →
      RoomFor store input.accountId input.aggregateId) :
    TokensBounded next := by
  intro accountId providerId
  have read := EventStore.readStream_append sequenced sequencedNext appended
    ⟨accountId, .traefikProvider, providerId⟩
  have before := bounded accountId providerId
  unfold providerState at before ⊢
  rw [read]
  split
  · rename_i own
    have sameData : event.data = input.data := by
      rcases EventStore.append_cases appended with
        ⟨inserted, same, -, -, -, -, data, -⟩ | ⟨conflict, -⟩
      · cases same
        exact data
      · cases conflict
    have sameStream : input.accountId = accountId ∧
        input.aggregateId = providerId := by
      rcases EventStore.append_cases appended with
        ⟨inserted, same, -, sameId, -, account, -⟩ | ⟨conflict, -⟩
      · cases same
        have place := (EventStore.isOf_iff.mp own.1).2
        exact ⟨account.symm.trans own.2, sameId.symm.trans place⟩
      · cases conflict
    simp only [replayed, List.foldl_append, List.foldl_cons, List.foldl_nil]
    cases issues : issuesToken event.data with
    | false => exact (activeTokens_reducer_le _ issues).trans before
    | true =>
        have free := room (sameData ▸ issues)
        rw [RoomFor, sameStream.1, sameStream.2] at free
        exact (activeTokens_reducer_le_succ _ _).trans free
  · rw [List.append_nil]
    exact before

/-! ## The condition -/

/-- The events a request has read first: `POST /:id/tokens` decides on them. -/
def firstRead (history : BackendHistory) : List StoredEvent :=
  match history.head? with
  | some ⟨.store (.readStream _), .ok events⟩ => events
  | _ => []

/-- Every token issued on the provider so far was issued before the request
first read the provider. -/
def NoneIssuedSince (history : BackendHistory) (store : EventStore)
    (providerId : Id) : Prop :=
  ∀ event ∈ store.stream .traefikProvider providerId,
    issuesToken event.data = true → event ∈ firstRead history

instance (store : EventStore) (accountId providerId : Id) :
    Decidable (RoomFor store accountId providerId) :=
  inferInstanceAs (Decidable (_ < _))

instance (history : BackendHistory) (store : EventStore) (providerId : Id) :
    Decidable (NoneIssuedSince history store providerId) :=
  inferInstanceAs (Decidable (∀ event ∈ _, _ → event ∈ _))

/-- The command is a `POST /:id/tokens` of this provider. -/
def isPostToken (providerId : Id) : ProviderCommand → Bool
  | .postToken _ ofProvider => ofProvider = providerId
  | _ => false

/-- An insertion of a token that takes effect does so while there is room for
it, or for a request that has seen every token issued before. -/
def issuedUndisturbed (request : ProviderRequest) (history : BackendHistory)
    (world : World) (call : Call) (choice : Choice) : Bool :=
  match call with
  | .store (.append input) =>
      decide (issuesToken input.data = true →
        choice.fate.takesEffect = true →
        (world.store.append input).1.isOk = true →
        RoomFor world.store input.accountId input.aggregateId ∨
          isPostToken input.aggregateId request.command = true ∧
            NoneIssuedSince history world.store input.aggregateId)
  | _ => true

def contract (request : ProviderRequest) :
    Contract backend Err Choice World where
  invariant world := world.store.Sequenced ∧ TokensBounded world.store
  rely before after := before.store.Extends after.store
  guarantee before after := before.store.Extends after.store
  allowed history world call choice :=
    issuedUndisturbed request history world call choice = true
  reflexive world := EventStore.Extends.refl world.store
  transitive _ _ _ := EventStore.Extends.trans

/-! ## What the provider store keeps -/

variable {request : ProviderRequest} {accountId providerId : Id}
variable {assertion : BackendHistory → World → Prop}

/-- An assertion that survives calls and the growth of the store. -/
structure Framed (assertion : BackendHistory → World → Prop) : Prop where
  grows : ∀ history before after, assertion history before →
    before.store.Extends after.store → assertion history after
  answered : ∀ history entry world, assertion history world →
    assertion (history ++ [entry]) world

theorem Framed.stable (framed : Framed assertion) :
    (contract request).Stable assertion :=
  fun _ _ _ here step => framed.grows _ _ _ here step.2

theorem framed_true : Framed fun _ _ => True :=
  ⟨fun _ _ _ _ _ => trivial, fun _ _ _ _ => trivial⟩

/-- A program that appends nothing. -/
theorem quiet_preserves {α : Type} {program : Backend α}
    (framed : Framed assertion)
    (calls : program.Calls fun call => Call.keepsStore call = true) :
    program.Preserves semantics (contract request) assertion := by
  apply Program.Preserves.of_calls framed.stable calls
  intro history world call choice answer after quiet keeps here _ result
  have same := store_frame result quiet
  have grows : world.store.Extends after.store :=
    same ▸ EventStore.Extends.refl _
  refine ⟨⟨?_, grows⟩, framed.answered _ _ _ (framed.grows _ _ _ here grows)⟩
  exact ⟨same ▸ keeps.1, same ▸ keeps.2⟩

/-- A loaded provider, and the read it was made of. -/
structure LoadedAt (accountId providerId : Id) (loaded : LoadedProvider)
    (read store : EventStore) : Prop where
  sequenced : read.Sequenced
  since : read.Extends store
  replayed : loaded = replayed initialTraefikProviderState
    traefikProviderReducer
    (read.readStream ⟨accountId, .traefikProvider, providerId⟩)

theorem load_spec {history : BackendHistory} {world : World}
    (framed : Framed assertion)
    (keeps : (contract request).invariant world)
    (here : assertion history world) :
    (ProviderStore.load accountId providerId).Ensures semantics
      (contract request)
      (yielding
        (fun loaded later world => assertion later world ∧
          ∃ read, LoadedAt accountId providerId loaded read world.store ∧
            later = history ++ [⟨.store (.readStream
              ⟨accountId, .traefikProvider, providerId⟩),
              .ok loaded.events⟩])
        assertion assertion) history world := by
  apply Program.Ensures.seq
    (fun events later world => assertion later world ∧
      ∃ read : EventStore, read.Sequenced ∧ read.Extends world.store ∧
        events =
          read.readStream ⟨accountId, .traefikProvider, providerId⟩ ∧
        later = history ++ [⟨.store (.readStream
          ⟨accountId, .traefikProvider, providerId⟩), .ok events⟩]) keeps
  · apply Backend.call_ensures (.store (.readStream _))
    intro before step
    have now := framed.grows _ _ _ here step.2
    refine ⟨now, ?_⟩
    intro choice answer after _ result
    have same := store_frame result rfl
    have grows : before.store.Extends after.store :=
      same ▸ EventStore.Extends.refl _
    refine ⟨⟨⟨same ▸ step.1.1, same ▸ step.1.2⟩, grows⟩, ?_⟩
    intro final later
    have atEnd := framed.answered _
      ⟨.store (.readStream ⟨accountId, .traefikProvider, providerId⟩), answer⟩
      _ (framed.grows _ _ _ now (grows.trans later.2))
    obtain ⟨-, rfl | ⟨-, message, rfl⟩⟩ := readStream_step result
    · exact ⟨atEnd, before.store, step.1.1, grows.trans later.2, rfl, rfl⟩
    · exact atEnd
  · rintro events later world _ ⟨now, read, sequenced, since, rfl, rfl⟩
    apply Program.Ensures.done
    intro final step
    refine ⟨framed.grows _ _ _ now step.2, read, ?_, rfl⟩
    exact ⟨sequenced, since.trans step.2, rfl⟩

/-- The event is appended in a state that has room for what it issues. -/
def AppendsWithRoom (request : ProviderRequest)
    (assertion : BackendHistory → World → Prop) (accountId providerId : Id)
    (event : TraefikProviderEvent) : Prop :=
  ∀ history world (choice : Choice) version,
    (contract request).invariant world → assertion history world →
    (issuesToken (.traefikProvider event) = true →
      choice.fate.takesEffect = true →
      (world.store.append (ProviderStore.appendInput accountId providerId
        version event)).1.isOk = true →
      RoomFor world.store accountId providerId ∨
        isPostToken providerId request.command = true ∧
          NoneIssuedSince history world.store providerId) →
    issuesToken (.traefikProvider event) = true →
    choice.fate.takesEffect = true →
    (world.store.append (ProviderStore.appendInput accountId providerId
      version event)).1.isOk = true →
    RoomFor world.store accountId providerId

variable {appended : TraefikProviderEvent}

theorem appendOnce_preserves (framed : Framed assertion)
    (room : AppendsWithRoom request assertion accountId providerId appended) :
    (ProviderStore.appendOnce accountId providerId appended).Preserves
      semantics (contract request) assertion := by
  intro history world keeps here
  apply Program.Ensures.seq _ keeps (load_spec framed keeps here)
  rintro loaded later world keeps ⟨here, read, loadedAt, -⟩
  apply Backend.call_ensures (.store (.append _))
  intro before step
  have now := framed.grows _ _ _ here step.2
  refine ⟨now, ?_⟩
  intro choice answer after allowed result
  have finish : ∀ final, after.store.Extends final.store →
      before.store.Extends after.store →
      assertion (later ++ [⟨.store (.append (ProviderStore.appendInput
        accountId providerId loaded.version appended)), answer⟩]) final :=
    fun final rest grows => framed.answered _ _ _
      (framed.grows _ _ _ now (grows.trans rest))
  rcases append_step result with
    ⟨inserted, store, added, same, ends⟩ | ⟨same, -⟩
  · have grows := EventStore.append_extends added
    have takesEffect : choice.fate.takesEffect = true := by
      rcases ends with ⟨-, fate⟩ | ⟨message, fate, -⟩
      · rw [fate]
        rfl
      · rw [fate]
        rfl
    have isOk : (before.store.append (ProviderStore.appendInput accountId
        providerId loaded.version appended)).1.isOk = true := by
      rw [added]
      rfl
    have sequenced : store.Sequenced :=
      EventStore.Sequenced.append_loaded
        ⟨accountId, .traefikProvider, providerId⟩ step.1.1
        loadedAt.sequenced (loadedAt.since.trans step.2) rfl rfl rfl
        (by rw [loadedAt.replayed]; rfl) added
    have bounded := tokensBounded_append step.1.2 step.1.1 sequenced added
      fun issues => room _ _ _ _ step.1 now (of_decide_eq_true allowed)
        issues takesEffect isOk
    subst same
    exact ⟨⟨⟨sequenced, bounded⟩, grows⟩,
      fun final later => ending_ofExcept answer (finish final later.2 grows)⟩
  · have sameStore : after.store = before.store := by rw [same]; rfl
    have grows : before.store.Extends after.store :=
      sameStore ▸ EventStore.Extends.refl _
    exact ⟨⟨⟨sameStore ▸ step.1.1, sameStore ▸ step.1.2⟩, grows⟩,
      fun final later => ending_ofExcept answer (finish final later.2 grows)⟩

theorem memory_preserves (framed : Framed assertion) (awaited : MemoryCall) :
    (Backend.memory awaited).Preserves semantics (contract request)
      assertion :=
  quiet_preserves framed ((Backend.calls_call _).mpr rfl)

theorem mutex_preserves {α : Type} {key : MutexKey} {fn : Backend α}
    (framed : Framed assertion)
    (first : fn.Preserves semantics (contract request) assertion) :
    (KeyedMutex.run key fn).Preserves semantics (contract request)
      assertion := by
  apply Program.Preserves.bind (memory_preserves framed _)
  intro ticket
  apply Program.Preserves.bind (memory_preserves framed _)
  intro _
  exact first.tryFinally framed.stable (memory_preserves framed _)

theorem append_preserves (framed : Framed assertion)
    (room : AppendsWithRoom request assertion accountId providerId appended) :
    (ProviderStore.append accountId providerId appended).Preserves
      semantics (contract request) assertion := by
  have once := appendOnce_preserves framed room
  apply mutex_preserves framed
  apply once.tryCatch framed.stable
  intro error
  cases error with
  | concurrency aggregateType aggregateId expectedSequenceNumber => exact once
  | thrown message => exact Program.Preserves.fail framed.stable _

/-- Issuing keeps what its token has room for. -/
theorem issue_preserves {deps : TraefikProvidersRouteDeps} {now : Timestamp}
    (framed : Framed assertion)
    (room : ∀ data, AppendsWithRoom request assertion accountId providerId
      (.tokenIssued data)) :
    (TraefikProviders.issue deps accountId providerId now).Preserves
      semantics (contract request) assertion := by
  apply Program.Preserves.bind
    (quiet_preserves framed ((Backend.calls_call _).mpr rfl))
  intro drawn
  apply Program.Preserves.bind
    (quiet_preserves framed ((Backend.calls_call _).mpr rfl))
  intro tokenId
  apply Program.Preserves.bind (append_preserves framed (room _))
  exact fun _ => Program.Preserves.done framed.stable _

/-- The program keeps the bound, whatever it returns. -/
abbrev Keeps (request : ProviderRequest) (α : Type) (program : Backend α) :
    Prop :=
  program.Preserves semantics (contract request) fun _ _ => True

/-- Requests other than `POST /:id/tokens` only issue where there is room. -/
theorem keeps_composed
    (other : ∀ providerId, isPostToken providerId request.command = false) :
    Composed (Keeps request) where
  done := Program.Preserves.done framed_true.stable
  fail := Program.Preserves.fail framed_true.stable
  bind := Program.Preserves.bind
  attempt := Program.Preserves.attempt
  call := by
    intro awaited plain
    apply quiet_preserves framed_true
    refine (Backend.calls_call awaited).mpr ?_
    cases awaited with
    | store call => cases call <;> first | rfl | cases plain
    | _ => rfl
  append := by
    intro accountId providerId event
    apply append_preserves framed_true
    intro history world choice version _ _ allowed issues effect isOk
    rcases allowed issues effect isOk with room | ⟨isPostToken, -⟩
    · exact room
    · have never := (other _).symm.trans isPostToken
      cases never

/-! ## Issuing a token on a loaded provider -/

/-- The request has loaded the provider with its first read. -/
structure Decided (accountId providerId : Id) (loaded : LoadedProvider)
    (history : BackendHistory) (world : World) : Prop where
  first : firstRead history = loaded.events
  begun : history ≠ []
  loadedAt : ∃ read, LoadedAt accountId providerId loaded read world.store

theorem Decided.framed {loaded : LoadedProvider} :
    Framed (Decided accountId providerId loaded) where
  grows := by
    intro history before after decided grows
    obtain ⟨read, sequenced, since, same⟩ := decided.loadedAt
    exact ⟨decided.first, decided.begun, read, sequenced, since.trans grows,
      same⟩
  answered := by
    intro history entry world decided
    have sameFirst : firstRead (history ++ [entry]) = firstRead history := by
      unfold firstRead
      rw [List.head?_append_of_ne_nil _ decided.begun]
    exact ⟨sameFirst.trans decided.first, by simp, decided.loadedAt⟩

/-- Nothing issued since the load: the room that was there is still there. -/
theorem Decided.room {loaded : LoadedProvider} {history : BackendHistory}
    {world : World} (decided : Decided accountId providerId loaded history world)
    (sequenced : world.store.Sequenced)
    (free : (activeTokens loaded.state).length < MAX_ACTIVE_TOKENS)
    (none : NoneIssuedSince history world.store providerId) :
    RoomFor world.store accountId providerId := by
  obtain ⟨read, sequencedRead, since, same⟩ := decided.loadedAt
  have events : loaded.events =
      read.readStream ⟨accountId, .traefikProvider, providerId⟩ := by
    rw [same]
    rfl
  obtain ⟨more, whole⟩ := since.readStream_prefix sequencedRead sequenced
    ⟨accountId, .traefikProvider, providerId⟩
  have distinct : (world.store.readStream
      ⟨accountId, .traefikProvider, providerId⟩).Nodup := by
    rw [sequenced.readStream_filter]
    exact (sequenced.distinct.of_map.filter _).filter _
  have quiet : ∀ event ∈ more, issuesToken event.data = false := by
    intro event member
    by_contra issues
    have inStream := EventStore.mem_readStream.mp
      (whole ▸ List.mem_append_right _ member)
    have seen := none event
      (EventStore.mem_stream.mpr ⟨inStream.1, inStream.2.1, inStream.2.2.1⟩)
      (by simpa using issues)
    rw [decided.first, events] at seen
    rw [← whole, List.nodup_append] at distinct
    exact distinct.2.2 event seen event member rfl
  unfold RoomFor providerState
  rw [← whole]
  have state : loaded.state = (read.readStream
      ⟨accountId, .traefikProvider, providerId⟩).foldl
        traefikProviderReducer initialTraefikProviderState := by
    rw [same]
    rfl
  simp only [replayed, List.foldl_append, ← state]
  exact (activeTokens_foldl_le more loaded.state quiet).trans_lt free

theorem postToken_spec {deps : TraefikProvidersRouteDeps} {now : Timestamp}
    {world : World} (keeps : (contract request).invariant world) :
    (TraefikProviders.postToken deps accountId providerId now).Ensures
      semantics (contract request)
      (ending (fun _ _ => True) (fun _ _ => True) (fun _ _ => True))
      [] world := by
  apply Program.Ensures.seq
    (fun found history world => ∀ loaded, found = some loaded →
      Decided accountId providerId loaded history world) keeps
  · apply Program.Ensures.seq _ keeps
      ((load_spec framed_true keeps trivial).relax (fun _ _ _ => id)
        (fun _ _ _ => trivial) fun _ _ _ => trivial)
    rintro loaded history world _ ⟨-, read, loadedAt, rfl⟩
    apply Program.Ensures.done
    intro final step found same
    split at same
    · cases same
      refine ⟨rfl, by simp, read, ?_⟩
      exact ⟨loadedAt.sequenced, loadedAt.since.trans step.2,
        loadedAt.replayed⟩
    · cases same
  · intro found history world keeps decided
    cases found with
    | none => exact fun _ _ => trivial
    | some loaded =>
        dsimp only
        split
        · exact fun _ _ => trivial
        · rename_i full
          have here := decided loaded rfl
          apply Program.Ensures.seq (fun _ _ _ => True) keeps
          · apply (issue_preserves Decided.framed ?_ _ _ keeps here).weaken
              (fun _ _ _ => trivial) (fun _ _ _ => trivial)
              fun _ _ _ => trivial
            intro data history world choice version keeps decided allowed
              issues effect isOk
            rcases allowed issues effect isOk with room | ⟨-, none⟩
            · exact room
            · exact decided.room keeps.1 (Nat.lt_of_not_le full) none
          · intro _ _ _ _ _
            exact fun _ _ => trivial

/-- Every program of the service keeps the bound. -/
theorem command_spec {deps : ProviderServiceDeps} {world : World}
    (keeps : (contract request).invariant world) :
    ((providerService deps).program request).Ensures semantics
      (contract request)
      (ending (fun _ _ => True) (fun _ _ => True) (fun _ _ => True))
      [] world := by
  by_cases other : ∀ providerId,
      isPostToken providerId request.command = false
  · have closed := (keeps_composed other).closed
    apply closed.command ?_ [] world keeps trivial
    apply closed.delivers
    · exact fun _ _ => memory_preserves framed_true _
    · exact fun _ _ => memory_preserves framed_true _
  · obtain ⟨number, now, command⟩ := request
    cases command with
    | postToken accountId providerId =>
        apply Program.Ensures.seq (fun _ _ _ => True) keeps
          (postToken_spec keeps)
        intro _ _ _ _ _
        exact fun _ _ => trivial
    | _ => exact absurd (fun _ => rfl) other

theorem compatible :
    Pool.Compatible contract fun world : World =>
      world.store.Sequenced ∧ TokensBounded world.store where
  invariant_iff _ _ := Iff.rfl
  covered _ _ _ _ _ := id

end TokenBound

open TokenBound in
/-- In every run of the service, however its requests interleave, that issues
tokens undisturbed, no provider ever has more than two active tokens. -/
theorem tokens_bounded {deps : ProviderServiceDeps} {initial : World}
    {pool : ProviderPool} (sequenced : initial.store.Sequenced)
    (bounded : TokensBounded initial.store)
    (run : Pool.Run (providerService deps) (Pool.Allowed contract)
      ⟨initial, []⟩ pool) :
    TokensBounded pool.state.store := by
  have within : Pool.WithinContracts contract
      (fun _ => ending (fun _ _ => True) (fun _ _ => True) fun _ _ => True)
      (providerService deps)
      (fun world => world.store.Sequenced ∧ TokensBounded world.store) pool :=
    Pool.WithinContracts.run compatible
      (fun request state keeps _ => command_spec keeps)
      (Pool.WithinContracts.of_idle ⟨sequenced, bounded⟩) run
  exact within.keeps.2

/-! ## Two requests at once -/

namespace TokenBound

def tokenRequest (number : Nat) : ProviderRequest :=
  ⟨number, 0, .postToken 1 0⟩

/-- A provider is created, and a second token is issued. -/
def oneByOne : List (Move ProviderRequest Choice) :=
  [.start createRequest] ++ advances 0 14 ++
    [.start (tokenRequest 1)] ++ advances 1 8

/-- A provider is created, and two requests load it before either of them
issues its token. -/
def atOnce : List (Move ProviderRequest Choice) :=
  [.start createRequest] ++ advances 0 14 ++
    [.start (tokenRequest 1), .start (tokenRequest 2)] ++
    advances 1 1 ++ advances 2 1 ++ advances 1 7 ++ advances 2 7

theorem empty_bounded : TokensBounded {} := by
  intro accountId providerId
  exact Nat.zero_le _

/-- The tokens active on the provider of `createRequest`. -/
def activeCount (pool : ProviderPool) : Nat :=
  (activeTokens (providerState pool.state.store 1 0)).length

end TokenBound

open TokenBound in
theorem tokens_bounded_one_by_one :
    ∃ pool : ProviderPool,
      activeCount pool = 2 ∧ TokensBounded pool.state.store := by
  have ends : ((⟨{}, []⟩ : ProviderPool).follow (providerService exampleDeps)
      (Pool.checkedBy issuedUndisturbed) oneByOne).map activeCount =
        some 2 := by
    decide +kernel
  obtain ⟨pool, followed, count⟩ := Option.map_eq_some_iff.mp ends
  have run := Pool.run_of_follow
    (Pool.allowed_of_checked contract fun _ _ _ _ _ passed => passed) followed
  exact ⟨pool, count,
    tokens_bounded EventStore.empty_sequenced empty_bounded run⟩

open TokenBound in
/-- Two requests that load the provider before either issues its token leave
it with three active tokens. -/
theorem concurrent_issue_exceeds_bound :
    ¬ ∀ (deps : ProviderServiceDeps) (initial : World) (pool : ProviderPool),
      initial.store.Sequenced → TokensBounded initial.store →
      Pool.Run (providerService deps) (fun _ _ => True) ⟨initial, []⟩ pool →
      TokensBounded pool.state.store := by
  intro claim
  have ends : ((⟨{}, []⟩ : ProviderPool).follow (providerService exampleDeps)
      (fun _ _ => true) atOnce).map activeCount = some 3 := by
    decide +kernel
  obtain ⟨pool, followed, count⟩ := Option.map_eq_some_iff.mp ends
  have bounded := claim exampleDeps {} pool EventStore.empty_sequenced
    empty_bounded (Pool.run_of_follow (fun _ _ _ => trivial) followed) 1 0
  rw [activeCount] at count
  rw [count] at bounded
  exact absurd bounded (by decide)

end FluxIP
