import FluxIP.Adapters.Publishing
import FluxIP.Adapters.Recording

/-!
# The turns of a session

A session processes its messages one after the other.  What its programs may do
in the turn of a message, and what they leave behind: a hello that was taken is
answered, or the session terminated, before the next message is processed.
-/

namespace FluxIP

open Async

def AgentMessage.isHello : AgentMessage → Bool
  | .hello _ => true
  | _ => false

/-! ## What the programs of a session have been answered -/

/-- The server's hello went out. -/
def ToldHello (sessionId : Id) (history : BackendHistory) : Prop :=
  ∃ hello, Got (.sendAgent sessionId (.hello hello)) () history

/-- A request to sync was taken. -/
def AskedToSync (sessionId : Id) (history : BackendHistory) : Prop :=
  ∃ message now, Got (.process sessionId message now) .syncRequested history

/-- The agent's hello was taken. -/
def Welcomed (sessionId : Id) (history : BackendHistory) : Prop :=
  ∃ message now data,
    Got (.process sessionId message now) (.connected data) history

/-- The session was terminated by its handler after its hello was taken. -/
def GaveUp (sessionId : Id) (history : BackendHistory) : Prop :=
  ∃ earlier reason answer, Welcomed sessionId earlier ∧
    earlier ++ [@Answered.mk backend Err
      (.memory (.terminate sessionId reason)) answer] <+: history

/-- The recorded connect was noted in the handler. -/
def NotedConnect (sessionId : Id) (history : BackendHistory) : Prop :=
  ∃ answer, @Answered.mk backend Err
    (.memory (.recordConnected sessionId)) answer ∈ history

/-- The append of this event was acknowledged. -/
def Acked (event : TraefikProviderEvent) (history : BackendHistory) : Prop :=
  ∃ input stored, @Answered.mk backend Err (.store (.append input))
    (.ok stored) ∈ history ∧ input.data = .traefikProvider event

/-- Whatever events of this kind the program tried to append were refused for
their position. -/
def Refused (kind : TraefikProviderEvent → Bool) (history : BackendHistory) :
    Prop :=
  ∀ input answer event, @Answered.mk backend Err (.store (.append input))
      answer ∈ history →
    input.data = .traefikProvider event → kind event = true →
    ∃ aggregateType aggregateId expected,
      answer = .error (.concurrency aggregateType aggregateId expected)

def TraefikProviderEvent.connects : TraefikProviderEvent → Bool
  | .agentConnected _ => true
  | _ => false

def TraefikProviderEvent.disconnects : TraefikProviderEvent → Bool
  | .agentDisconnected _ => true
  | _ => false

/-- No message of the session was processed by the program so far. -/
def Unprocessed (sessionId : Id) (history : BackendHistory) : Prop :=
  ∀ message now answer, @Answered.mk backend Err
    (.memory (.process sessionId message now)) answer ∉ history

/-- Other messages than the hello may be sent. -/
def MayFollow (sessionId : Id) (history : BackendHistory) : Prop :=
  ToldHello sessionId history ∨ AskedToSync sessionId history

/-- A hello that was taken was answered, or the session given up. -/
def Settled (sessionId : Id) (history : BackendHistory) : Prop :=
  Welcomed sessionId history →
    ToldHello sessionId history ∨ GaveUp sessionId history

/-- It is the program's turn at the mutex. -/
def InsideAt (key : MutexKey) (ticket : Nat) (history : BackendHistory) :
    Prop :=
  ∃ since, seatAt key history = .inside ticket since

/-- What a program does on a session. -/
structure Chained (sessionId : Id) (history : BackendHistory) (call : Call) :
    Prop where
  turns : TakesTurns (.chain sessionId) history call
  processes : ∀ message now,
    call = .memory (.process sessionId message now) →
    (∃ ticket, InsideAt (.chain sessionId) ticket history) ∧
      Unprocessed sessionId history
  connects : ∀ input data, call = .store (.append input) →
    input.data = .traefikProvider (.agentConnected data) →
    Welcomed sessionId history →
    (∃ ticket, InsideAt (.chain sessionId) ticket history) ∧
      Refused TraefikProviderEvent.connects history ∧
      ¬ GaveUp sessionId history
  notes : call = .memory (.recordConnected sessionId) →
    ∃ message now data,
      Got (.process sessionId message now) (.connected data) history ∧
        Acked (.agentConnected data) history
  sends : ∀ message, call = .memory (.sendAgent sessionId message) →
    message.isHello = true ∧ Welcomed sessionId history ∧
      NotedConnect sessionId history ∨ MayFollow sessionId history
  starts : ∀ seconds, call = .memory (.startHeartbeat sessionId seconds) →
    MayFollow sessionId history
  leaves : ∀ ticket, call = .memory (.leave (.chain sessionId) ticket) →
    Settled sessionId history
  disconnects : ∀ input data, call = .store (.append input) →
    input.data = .traefikProvider (.agentDisconnected data) →
    Got (.claimDisconnect sessionId) true history →
    Refused TraefikProviderEvent.disconnects history

variable {sessionId : Id} {history : BackendHistory} {call : Call}
variable {ticket : Nat} {α β : Type}

/-! ## Assertions that last -/

theorem toldHello_lasting (sessionId : Id) : Lasting (ToldHello sessionId) := by
  intro history answered told
  obtain ⟨hello, got⟩ := told
  exact ⟨hello, got_lasting _ _ _ _ got⟩

theorem askedToSync_lasting (sessionId : Id) :
    Lasting (AskedToSync sessionId) := by
  intro history answered asked
  obtain ⟨message, now, got⟩ := asked
  exact ⟨message, now, got_lasting _ _ _ _ got⟩

theorem welcomed_lasting (sessionId : Id) : Lasting (Welcomed sessionId) := by
  intro history answered welcomed
  obtain ⟨message, now, data, got⟩ := welcomed
  exact ⟨message, now, data, got_lasting _ _ _ _ got⟩

theorem gaveUp_lasting (sessionId : Id) : Lasting (GaveUp sessionId) := by
  intro history answered gaveUp
  obtain ⟨earlier, reason, answer, welcomed, isPrefix⟩ := gaveUp
  exact ⟨earlier, reason, answer, welcomed,
    isPrefix.trans (List.prefix_append _ _)⟩

theorem notedConnect_lasting (sessionId : Id) :
    Lasting (NotedConnect sessionId) := by
  intro history answered noted
  obtain ⟨answer, member⟩ := noted
  exact ⟨answer, List.mem_append_left _ member⟩

theorem mayFollow_lasting (sessionId : Id) : Lasting (MayFollow sessionId) := by
  intro history answered may
  rcases may with told | asked
  · exact .inl (toldHello_lasting _ _ _ told)
  · exact .inr (askedToSync_lasting _ _ _ asked)

/-! ## Calls that are no steps of the session -/

theorem stepsOn_of_session (elsewhere : call.session? ≠ some sessionId) :
    call.stepsOn (.chain sessionId) = false := by
  cases call with
  | memory call =>
      cases call with
      | join key =>
          apply decide_eq_false
          rintro rfl
          exact elsewhere rfl
      | turn key ticket =>
          apply decide_eq_false
          rintro rfl
          exact elsewhere rfl
      | leave key ticket =>
          apply decide_eq_false
          rintro rfl
          exact elsewhere rfl
      | _ => rfl
  | _ => rfl

/-- A call that is no step of the session and records no presence. -/
structure Aside (sessionId : Id) (call : Call) : Prop where
  session : call.session? ≠ some sessionId
  presence : ∀ input event, call = .store (.append input) →
    input.data = .traefikProvider event → event.ofPresence = false

/-- An assertion that calls elsewhere do not change. -/
def Spared (sessionId : Id) (assertion : BackendHistory → Prop) : Prop :=
  ∀ history (call : Call) answer, Aside sessionId call →
    assertion history → assertion (history ++ [⟨call, answer⟩])

theorem Aside.chained (elsewhere : Aside sessionId call) :
    Chained sessionId history call := by
  obtain ⟨apart, silent⟩ := elsewhere
  constructor
  · exact takesTurns_of_aside (stepsOn_of_session apart)
  · rintro message now rfl
    exact absurd rfl apart
  · intro input data same isConnect
    have impossible := silent input _ same isConnect
    cases impossible
  · rintro rfl
    exact absurd rfl apart
  · rintro message rfl
    exact absurd rfl apart
  · rintro seconds rfl
    exact absurd rfl apart
  · rintro ticket rfl
    exact absurd rfl apart
  · intro input data same isDisconnect
    have impossible := silent input _ same isDisconnect
    cases impossible

theorem Aside.of_noAppend (apart : call.session? = none)
    (noAppend : ∀ input, call ≠ .store (.append input)) :
    Aside sessionId call := by
  constructor
  · rw [apart]
    intro same
    cases same
  · intro input event same
    exact absurd same (noAppend input)

theorem Aside.of_reads (isRead : Backend.reads call = true) :
    Aside sessionId call := by
  apply Aside.of_noAppend (plain_of_reads isRead).2.2
  rintro input rfl
  cases isRead

theorem Aside.of_stepsOn {key : MutexKey}
    (isStep : call.stepsOn key = true) (apart : key ≠ .chain sessionId) :
    Aside sessionId call := by
  constructor
  · cases call with
    | memory call =>
        cases call with
        | join other =>
            have same : other = key := of_decide_eq_true isStep
            subst same
            cases other <;> simp_all [Call.session?]
        | turn other ticket =>
            have same : other = key := of_decide_eq_true isStep
            subst same
            cases other <;> simp_all [Call.session?]
        | leave other ticket =>
            have same : other = key := of_decide_eq_true isStep
            subst same
            cases other <;> simp_all [Call.session?]
        | _ => cases isStep
    | _ => cases isStep
  · intro input event same
    exact absurd same (noAppend_of_stepsOn isStep input)

/-! ## Assertions that calls elsewhere do not change -/

theorem Spared.of_lasting {assertion : BackendHistory → Prop}
    (lasting : Lasting assertion) : Spared sessionId assertion :=
  fun history call answer _ holds => lasting history ⟨call, answer⟩ holds

theorem Spared.and {first second : BackendHistory → Prop}
    (left : Spared sessionId first) (right : Spared sessionId second) :
    Spared sessionId fun history => first history ∧ second history :=
  fun history call answer elsewhere holds =>
    ⟨left history call answer elsewhere holds.1,
      right history call answer elsewhere holds.2⟩

theorem insideAt_aside {key : MutexKey} {answer : Except Err call.Answer}
    (aside : call.stepsOn key = false) (inside : InsideAt key ticket history) :
    InsideAt key ticket (history ++ [⟨call, answer⟩]) := by
  obtain ⟨since, seat⟩ := inside
  refine ⟨since ++ [⟨call, answer⟩], ?_⟩
  rw [seatAt_append, Seat.next_of_aside aside, seat]
  rfl

theorem spared_insideAt (sessionId : Id) (ticket : Nat) :
    Spared sessionId (InsideAt (.chain sessionId) ticket) :=
  fun _ _ _ elsewhere inside =>
    insideAt_aside (stepsOn_of_session elsewhere.session) inside

theorem spared_away (sessionId : Id) : Spared sessionId fun history =>
    seatAt (.chain sessionId) history = .away := by
  intro history call answer elsewhere away
  rw [seatAt_append,
    Seat.next_of_aside (stepsOn_of_session elsewhere.session), away]
  rfl

theorem unprocessed_append {answer : Except Err call.Answer}
    (unprocessed : Unprocessed sessionId history)
    (other : ∀ message now, call ≠ .memory (.process sessionId message now)) :
    Unprocessed sessionId (history ++ [⟨call, answer⟩]) := by
  intro message now value member
  rcases List.mem_append.mp member with earlier | last
  · exact unprocessed message now value earlier
  · cases List.mem_singleton.mp last
    exact other message now rfl

theorem settled_append {answer : Except Err call.Answer}
    (settled : Settled sessionId history)
    (other : ∀ message now, call ≠ .memory (.process sessionId message now)) :
    Settled sessionId (history ++ [⟨call, answer⟩]) := by
  intro welcomed
  obtain ⟨message, now, data, got⟩ := welcomed
  rcases List.mem_append.mp got with earlier | last
  · rcases settled ⟨message, now, data, earlier⟩ with told | gaveUp
    · exact .inl (toldHello_lasting _ _ _ told)
    · exact .inr (gaveUp_lasting _ _ _ gaveUp)
  · cases List.mem_singleton.mp last
    exact absurd rfl (other message now)

theorem spared_settled (sessionId : Id) :
    Spared sessionId (Settled sessionId) := by
  intro history call answer elsewhere settled
  apply settled_append settled
  rintro message now rfl
  exact elsewhere.session rfl

theorem refused_append {kind : TraefikProviderEvent → Bool}
    {answer : Except Err call.Answer} (refused : Refused kind history)
    (other : ∀ input event, call = .store (.append input) →
      input.data = .traefikProvider event → kind event = false) :
    Refused kind (history ++ [⟨call, answer⟩]) := by
  intro input value event member data isKind
  rcases List.mem_append.mp member with earlier | last
  · exact refused input value event earlier data isKind
  · cases List.mem_singleton.mp last
    have impossible := other input event rfl data
    rw [isKind] at impossible
    cases impossible

theorem spared_refused {kind : TraefikProviderEvent → Bool}
    (ofPresence : ∀ event, kind event = true → event.ofPresence = true)
    (sessionId : Id) : Spared sessionId (Refused kind) := by
  intro history call answer elsewhere refused
  apply refused_append refused
  intro input event same data
  apply Bool.eq_false_iff.mpr
  intro isKind
  have impossible := elsewhere.presence input event same data
  rw [ofPresence event isKind] at impossible
  cases impossible

theorem notGivenUp_of_unprocessed
    (unprocessed : Unprocessed sessionId history) :
    ¬ GaveUp sessionId history := by
  intro gaveUp
  obtain ⟨earlier, reason, answer, welcomed, isPrefix⟩ := gaveUp
  obtain ⟨message, now, data, got⟩ := welcomed
  exact unprocessed message now _
    (isPrefix.subset (List.mem_append_left _ got))

theorem notGivenUp_append {answer : Except Err call.Answer}
    (notGivenUp : ¬ GaveUp sessionId history)
    (other : ∀ reason, call ≠ .memory (.terminate sessionId reason)) :
    ¬ GaveUp sessionId (history ++ [⟨call, answer⟩]) := by
  intro gaveUp
  obtain ⟨earlier, reason, value, welcomed, isPrefix⟩ := gaveUp
  rcases List.prefix_concat_iff.mp isPrefix with whole | before
  · obtain ⟨-, last⟩ := List.append_inj' whole rfl
    cases last
    exact other reason rfl
  · exact notGivenUp ⟨earlier, reason, value, welcomed, before⟩

theorem spared_notGivenUp (sessionId : Id) :
    Spared sessionId fun history => ¬ GaveUp sessionId history := by
  intro history call answer elsewhere notGivenUp
  apply notGivenUp_append notGivenUp
  rintro reason rfl
  exact elsewhere.session rfl

theorem ofPresence_of_connects (event : TraefikProviderEvent)
    (connects : event.connects = true) : event.ofPresence = true := by
  cases event <;> first | rfl | cases connects

theorem ofPresence_of_disconnects (event : TraefikProviderEvent)
    (disconnects : event.disconnects = true) : event.ofPresence = true := by
  cases event <;> first | rfl | cases disconnects

/-- A program that stays elsewhere. -/
theorem traces_elsewhere {program : Backend α}
    {assertion : BackendHistory → Prop}
    (calls : program.Calls (Aside sessionId))
    (spared : Spared sessionId assertion) (here : assertion history) :
    program.Traces (Chained sessionId) (fun history _ => assertion history)
      history := by
  apply Program.Traces.of_quiet assertion calls
  · exact fun history call answer elsewhere holds =>
      spared history call answer elsewhere holds
  · exact fun history call _ elsewhere => elsewhere.chained
  · exact here

/-! ## Programs that have nothing to do with the session -/

/-- The program has made no step of the session so far. -/
structure Outside (sessionId : Id) (history : BackendHistory) : Prop where
  away : seatAt (.chain sessionId) history = .away
  uninvolved : ∀ (call : Call) answer,
    @Answered.mk backend Err call answer ∈ history →
    call.session? ≠ some sessionId

/-- The program begins and ends so. -/
def KeepsOut (sessionId : Id) (α : Type) (program : Backend α) : Prop :=
  ∀ history, Outside sessionId history →
    program.Traces (Chained sessionId)
      (fun history _ => Outside sessionId history) history

theorem Outside.unprocessed (outside : Outside sessionId history) :
    Unprocessed sessionId history :=
  fun _ _ _ member => outside.uninvolved _ _ member rfl

theorem Outside.append {answer : Except Err call.Answer}
    (outside : Outside sessionId history)
    (apart : call.session? ≠ some sessionId) :
    Outside sessionId (history ++ [⟨call, answer⟩]) := by
  constructor
  · rw [seatAt_append, Seat.next_of_aside (stepsOn_of_session apart),
      outside.away]
    rfl
  · intro other value member
    rcases List.mem_append.mp member with earlier | last
    · exact outside.uninvolved other value earlier
    · cases List.mem_singleton.mp last
      exact apart

theorem Outside.chained (outside : Outside sessionId history)
    (apart : call.session? ≠ some sessionId) :
    Chained sessionId history call := by
  constructor
  · exact takesTurns_of_aside (stepsOn_of_session apart)
  · rintro message now rfl
    exact absurd rfl apart
  · intro input data _ _ welcomed
    obtain ⟨message, now, taken, got⟩ := welcomed
    exact absurd got (outside.unprocessed message now _)
  · rintro rfl
    exact absurd rfl apart
  · rintro message rfl
    exact absurd rfl apart
  · rintro seconds rfl
    exact absurd rfl apart
  · rintro ticket rfl
    exact absurd rfl apart
  · intro input data _ _ claimed
    exact absurd rfl (outside.uninvolved _ _ claimed)

namespace KeepsOut

theorem of_calls {program : Backend α}
    (calls : program.Calls fun call => Call.session? call ≠ some sessionId) :
    KeepsOut sessionId α program := by
  intro history outside
  apply Program.Traces.of_quiet (Outside sessionId) calls
  · exact fun history call answer apart outside => outside.append apart
  · exact fun history call outside apart => outside.chained apart
  · exact outside

theorem bind {program : Backend α} {next : α → Backend β}
    (first : KeepsOut sessionId α program)
    (second : ∀ value, KeepsOut sessionId β (next value)) :
    KeepsOut sessionId β (program.bind next) := by
  intro history outside
  apply (first history outside).bind
  · exact fun history value outside => second value history outside
  · exact fun history error outside => outside

theorem attempt {program : Backend α} (first : KeepsOut sessionId α program) :
    KeepsOut sessionId (Except Err α) program.attempt := by
  intro history outside
  apply (first history outside).attempted.mono
  intro history result ended
  obtain ⟨outcome, rfl, outside⟩ := ended
  exact outside

end KeepsOut

theorem apart_of_stepsOn {key : MutexKey} (isStep : call.stepsOn key = true)
    (apart : key ≠ .chain sessionId) : call.session? ≠ some sessionId :=
  (Aside.of_stepsOn isStep apart).session

theorem apart_of_reads (isRead : Backend.reads call = true) :
    call.session? ≠ some sessionId :=
  (Aside.of_reads isRead).session

theorem providerAppend_keepsOut (accountId providerId : Id)
    (event : TraefikProviderEvent) :
    KeepsOut sessionId StoredEvent
      (ProviderStore.append accountId providerId event) := by
  apply KeepsOut.of_calls
  apply providerAppend_calls
  · exact fun call isStep => apart_of_stepsOn isStep (by rintro ⟨⟩)
  · exact apart_of_reads rfl
  · intro version same
    cases same

/-- Everything that is no step of the session. -/
theorem keepsOut_within {other : Id} (apart : other ≠ sessionId) :
    Within other (KeepsOut sessionId) where
  done value := .of_calls trivial
  fail error := .of_calls trivial
  bind := .bind
  attempt := .attempt
  call awaited _ _ outside _ := by
    apply KeepsOut.of_calls
    apply (Backend.calls_call awaited).mpr
    rw [outside]
    intro same
    cases same
  append accountId providerId event _ _ := providerAppend_keepsOut _ _ _
  publish deps accountId providerId causationId absorbed now := by
    apply KeepsOut.of_calls
    apply publish_calls
    · exact fun call isStep => apart_of_stepsOn isStep (by rintro ⟨⟩)
    · exact fun call isStep => apart_of_stepsOn isStep (by rintro ⟨⟩)
    · exact fun call isRead => apart_of_reads isRead
    · intro same
      cases same
    · intro event version silent same
      cases same
  session awaited _ ofOther _ := by
    apply KeepsOut.of_calls
    apply (Backend.calls_call awaited).mpr
    rw [ofOther]
    intro same
    cases same
    exact apart rfl
  presence accountId providerId event _ := providerAppend_keepsOut _ _ _

/-! ## Recording presence -/

section

variable {kind : TraefikProviderEvent → Bool} {event : TraefikProviderEvent}
variable {assertion : BackendHistory → Prop} {accountId providerId : Id}

/-- How one pass of the append ends. -/
def RecordedOnce (kind : TraefikProviderEvent → Bool)
    (event : TraefikProviderEvent) (history : BackendHistory) :
    Except Err StoredEvent → Prop
  | .ok _ => Acked event history
  | .error (.concurrency _ _ _) => Refused kind history
  | .error (.thrown _) => True

/-- What the append of such an event is allowed by and does not change. -/
structure MayRecord (sessionId : Id) (kind : TraefikProviderEvent → Bool)
    (assertion : BackendHistory → Prop) (accountId providerId : Id)
    (event : TraefikProviderEvent) : Prop where
  isKind : kind event = true
  ofPresence : ∀ event, kind event = true → event.ofPresence = true
  spared : Spared sessionId assertion
  keeps : ∀ history version answer, assertion history →
    assertion (history ++ [@Answered.mk backend Err (.store (.append
      (ProviderStore.appendInput accountId providerId version event)))
        answer])
  allowed : ∀ history version, assertion history → Refused kind history →
    Chained sessionId history (.store (.append
      (ProviderStore.appendInput accountId providerId version event)))

theorem MayRecord.once
    (may : MayRecord sessionId kind assertion accountId providerId event)
    (here : assertion history) (refused : Refused kind history) :
    (ProviderStore.appendOnce accountId providerId event).Traces
      (Chained sessionId)
      (fun history result => assertion history ∧
        RecordedOnce kind event history result) history := by
  have spared : Spared sessionId fun history =>
      assertion history ∧ Refused kind history :=
    may.spared.and (spared_refused may.ofPresence sessionId)
  have loads : (ProviderStore.load accountId providerId).Calls
      (Aside sessionId) :=
    (ProviderStore.load_reads _ _).mono fun call isRead => .of_reads isRead
  apply (traces_elsewhere loads spared ⟨here, refused⟩).bind
  · intro history loaded holds
    apply call_traces_to (.store (.append _))
    · exact may.allowed history _ holds.1 holds.2
    · intro answer
      refine ⟨may.keeps history _ answer holds.1, ?_⟩
      cases answer with
      | ok stored =>
          exact ⟨_, stored, List.mem_append_right _
            (List.mem_singleton.mpr rfl), rfl⟩
      | error error =>
          cases error with
          | thrown message => trivial
          | concurrency aggregateType aggregateId expected =>
              intro input value other member data isKind
              rcases List.mem_append.mp member with earlier | last
              · exact holds.2 input value other earlier data isKind
              · cases List.mem_singleton.mp last
                exact ⟨_, _, _, rfl⟩
  · intro history error holds
    refine ⟨holds.1, ?_⟩
    cases error with
    | thrown message => trivial
    | concurrency aggregateType aggregateId expected => exact holds.2

/-- A turn at a mutex that is not the session's chain. -/
theorem traces_atStore {fn : Backend α}
    {post : BackendHistory → Except Err α → Prop}
    (spared : Spared sessionId assertion)
    (sparedPost : ∀ result, Spared sessionId fun history =>
      post history result)
    (fails : ∀ history error, assertion history → post history (.error error))
    (weakens : ∀ history result error, post history result →
      post history (.error error))
    (here : assertion history)
    (body : ∀ history, assertion history →
      fn.Traces (Chained sessionId) post history) :
    (KeyedMutex.run (.providerStore providerId) fn).Traces
      (Chained sessionId) post history := by
  have step (awaited : MemoryCall)
      (isStep : Call.stepsOn (.providerStore providerId) (.memory awaited) =
        true) : (Backend.memory awaited).Calls (Aside sessionId) :=
    (Backend.calls_call (.memory awaited)).mpr
      (.of_stepsOn isStep (by rintro ⟨⟩))
  apply (traces_elsewhere (step (.join _) (decide_eq_true rfl)) spared
    here).bind
  · intro history ticket holds
    apply (traces_elsewhere (step (.turn _ ticket) (decide_eq_true rfl))
      spared holds).bind
    · intro history _ holds
      apply (body history holds).attempted.bind
      · intro history outcome ended
        obtain ⟨_, same, ended⟩ := ended
        cases same
        apply (traces_elsewhere (step (.leave _ ticket) (decide_eq_true rfl))
          (sparedPost outcome) ended).bind
        · intro history _ ended
          cases outcome with
          | ok value => exact ended
          | error error => exact ended
        · exact fun history error ended => weakens _ _ _ ended
      · intro history error ended
        obtain ⟨_, same, _⟩ := ended
        cases same
    · exact fun history error holds => fails history error holds
  · exact fun history error holds => fails history error holds

theorem MayRecord.append
    (may : MayRecord sessionId kind assertion accountId providerId event)
    (here : assertion history) (refused : Refused kind history) :
    (ProviderStore.append accountId providerId event).Traces
      (Chained sessionId)
      (fun history result => assertion history ∧
        ∀ stored, result = .ok stored → Acked event history) history := by
  have spared : Spared sessionId fun history =>
      assertion history ∧ Refused kind history :=
    may.spared.and (spared_refused may.ofPresence sessionId)
  have ackedLasts : Lasting (Acked event) := by
    intro history answered acked
    obtain ⟨input, stored, member, data⟩ := acked
    exact ⟨input, stored, List.mem_append_left _ member, data⟩
  apply traces_atStore spared
  · intro result history call answer elsewhere ended
    refine ⟨may.spared history call answer elsewhere ended.1, ?_⟩
    exact fun stored same => ackedLasts _ _ (ended.2 stored same)
  · intro history error holds
    exact ⟨holds.1, by rintro stored ⟨⟩⟩
  · intro history result error ended
    exact ⟨ended.1, by rintro stored ⟨⟩⟩
  · exact ⟨here, refused⟩
  · intro history holds
    apply (may.once holds.1 holds.2).attempted.bind
    · intro history outcome ended
      obtain ⟨_, same, holds, recorded⟩ := ended
      cases same
      cases outcome with
      | ok stored => exact ⟨holds, fun _ _ => recorded⟩
      | error error =>
          cases error with
          | thrown message => exact ⟨holds, by rintro stored ⟨⟩⟩
          | concurrency aggregateType aggregateId expected =>
              apply (may.once holds recorded).mono
              intro history result ended
              refine ⟨ended.1, ?_⟩
              rintro stored rfl
              exact ended.2
    · intro history error ended
      obtain ⟨_, same, _⟩ := ended
      cases same

end

/-! ## The turn of a message -/

section

variable {deps : GrpcAgentServerDeps} {auth : AgentAuth} {now : Timestamp}

/-- What a step on the memory of the process asks for, if it is one of the
session. -/
def MemoryAsks (sessionId : Id) (history : BackendHistory) :
    MemoryCall → Prop
  | .process other _ _ => other = sessionId →
      (∃ ticket, InsideAt (.chain sessionId) ticket history) ∧
        Unprocessed sessionId history
  | .recordConnected other => other = sessionId → ∃ message now data,
      Got (.process sessionId message now) (.connected data) history ∧
        Acked (.agentConnected data) history
  | .sendAgent other message => other = sessionId →
      message.isHello = true ∧ Welcomed sessionId history ∧
        NotedConnect sessionId history ∨ MayFollow sessionId history
  | .startHeartbeat other _ => other = sessionId → MayFollow sessionId history
  | .leave key _ => key = .chain sessionId → Settled sessionId history
  | _ => True

theorem chained_of_memory {awaited : MemoryCall}
    (turns : TakesTurns (.chain sessionId) history (.memory awaited))
    (asks : MemoryAsks sessionId history awaited) :
    Chained sessionId history (.memory awaited) where
  turns := turns
  processes message now same := by
    cases same
    exact asks rfl
  connects _ _ same := by cases same
  notes same := by
    cases same
    exact asks rfl
  sends message same := by
    cases same
    exact asks rfl
  starts seconds same := by
    cases same
    exact asks rfl
  leaves ticket same := by
    cases same
    exact asks rfl
  disconnects _ _ same := by cases same

/-- A step of the session in the turn of its message. -/
theorem step_traces (awaited : MemoryCall)
    {post : BackendHistory → Except Err awaited.Answer → Prop}
    (aside : Call.stepsOn (.chain sessionId) (.memory awaited) = false)
    (inside : InsideAt (.chain sessionId) ticket history)
    (allowed : Chained sessionId history (.memory awaited))
    (ends : ∀ answer,
      InsideAt (.chain sessionId) ticket
        (history ++ [@Answered.mk backend Err (.memory awaited) answer]) →
      post (history ++ [@Answered.mk backend Err (.memory awaited) answer])
        answer) :
    (Backend.memory awaited).Traces (Chained sessionId) post history := by
  apply call_traces_to (.memory awaited) allowed
  exact fun answer => ends answer (insideAt_aside aside inside)

/-- The turn goes on; if the program has returned, the hello is settled. -/
def Handled (sessionId : Id) (ticket : Nat) (history : BackendHistory)
    (result : Except Err α) : Prop :=
  InsideAt (.chain sessionId) ticket history ∧
    ∀ value, result = .ok value → Settled sessionId history

theorem handled_error {error : Err}
    (inside : InsideAt (.chain sessionId) ticket history) :
    Handled sessionId ticket history (.error error : Except Err α) :=
  ⟨inside, by rintro value ⟨⟩⟩

/-- Messages may go out, and the hello is settled. -/
def Conversing (sessionId : Id) (ticket : Nat) (history : BackendHistory) :
    Prop :=
  InsideAt (.chain sessionId) ticket history ∧ MayFollow sessionId history ∧
    Settled sessionId history

theorem spared_conversing (sessionId : Id) (ticket : Nat) :
    Spared sessionId (Conversing sessionId ticket) :=
  (spared_insideAt sessionId ticket).and
    ((Spared.of_lasting (mayFollow_lasting sessionId)).and
      (spared_settled sessionId))

theorem Conversing.handled (conversing : Conversing sessionId ticket history)
    (result : Except Err α) : Handled sessionId ticket history result :=
  ⟨conversing.1, fun _ _ => conversing.2.2⟩

/-- A step of a session that converses. -/
theorem Conversing.step (conversing : Conversing sessionId ticket history)
    (awaited : MemoryCall)
    (aside : Call.stepsOn (.chain sessionId) (.memory awaited) = false)
    (asks : MemoryAsks sessionId history awaited)
    (noMessage : ∀ message now, awaited ≠ .process sessionId message now) :
    (Backend.memory awaited).Traces (Chained sessionId)
      (fun history _ => Conversing sessionId ticket history) history := by
  obtain ⟨inside, may, settled⟩ := conversing
  apply step_traces awaited aside inside
  · exact chained_of_memory (takesTurns_of_aside aside) asks
  · intro answer inside
    refine ⟨inside, mayFollow_lasting _ _ _ may, settled_append settled ?_⟩
    intro message now same
    cases same
    exact noMessage message now rfl

theorem publish_elsewhere {publisher : SnapshotPublisherDeps}
    {accountId providerId : Id} {causationId : Option Id}
    {absorbedCausationIds : List Id} :
    (SnapshotPublisher.publish publisher accountId providerId causationId
      absorbedCausationIds now).Calls (Aside sessionId) := by
  apply publish_calls
  · exact fun call isStep => .of_stepsOn isStep (by rintro ⟨⟩)
  · exact fun call isStep => .of_stepsOn isStep (by rintro ⟨⟩)
  · exact fun call isRead => .of_reads isRead
  · exact .of_noAppend rfl (by rintro input ⟨⟩)
  · intro event version silent
    refine ⟨by rintro ⟨⟩, ?_⟩
    rintro input other ⟨⟩ ⟨⟩
    exact silent

theorem sendCurrentSnapshot_chained
    (conversing : Conversing sessionId ticket history) :
    (AgentSessionHandler.sendCurrentSnapshot deps auth sessionId now).Traces
      (Chained sessionId) (fun history _ => Conversing sessionId ticket history)
      history := by
  have publishes : (SnapshotPublisher.publishNow deps.publisher auth.accountId
      auth.providerId now).Calls (Aside sessionId) := by
    apply publish_elsewhere.bind
    exact fun _ => trivial
  apply (traces_elsewhere publishes (spared_conversing _ _) conversing).bind
  · intro history snapshot conversing
    cases snapshot with
    | none => exact conversing
    | some payload =>
        apply conversing.step (.sendAgent sessionId (.snapshot payload)) rfl
        · exact fun _ => .inr conversing.2.1
        · exact nofun
  · exact fun history error conversing => conversing

theorem load_elsewhere {program : Backend α}
    (reads : program.Calls fun call => Backend.reads call = true) :
    program.Calls (Aside sessionId) :=
  reads.mono fun _ isRead => .of_reads isRead

theorem onReport_elsewhere {report : ReportMessage} :
    (AgentSessionHandler.onReport auth report now).Calls
      (Aside sessionId) := by
  have append (event : TraefikProviderEvent)
      (silent : event.ofPresence = false) :
      (ProviderStore.append auth.accountId auth.providerId event).Calls
        (Aside sessionId) := by
    apply providerAppend_calls
    · exact fun call isStep => .of_stepsOn isStep (by rintro ⟨⟩)
    · exact .of_reads rfl
    · intro version
      refine ⟨by rintro ⟨⟩, ?_⟩
      rintro input other ⟨⟩ ⟨⟩
      exact silent
  unfold AgentSessionHandler.onReport AgentSessionHandler.reportEvent
  cases report.result with
  | ignoredStale => trivial
  | ok => exact (append _ rfl).bind fun _ => trivial
  | error => exact (append _ rfl).bind fun _ => trivial

/-- The hello has been taken in this turn, and nobody has given up. -/
def Greeting (sessionId : Id) (ticket : Nat) (message : AgentMessage)
    (received : Timestamp) (data : TraefikProviderAgentConnectedData)
    (history : BackendHistory) : Prop :=
  InsideAt (.chain sessionId) ticket history ∧
    Got (.process sessionId message received) (.connected data) history ∧
    ¬ GaveUp sessionId history

/-- The connect of a session is recorded in the turn of its hello. -/
theorem mayRecord_connect {message : AgentMessage}
    {received : Timestamp} {data : TraefikProviderAgentConnectedData}
    (accountId providerId : Id) :
    MayRecord sessionId TraefikProviderEvent.connects
      (Greeting sessionId ticket message received data)
      accountId providerId (.agentConnected data) where
  isKind := rfl
  ofPresence := ofPresence_of_connects
  spared := (spared_insideAt sessionId ticket).and
    ((Spared.of_lasting (got_lasting _ _)).and (spared_notGivenUp sessionId))
  keeps history version answer holds := by
    refine ⟨insideAt_aside rfl holds.1, got_lasting _ _ _ _ holds.2.1, ?_⟩
    apply notGivenUp_append holds.2.2
    exact fun reason => by rintro ⟨⟩
  allowed history version holds refused := by
    constructor
    · exact takesTurns_of_aside rfl
    · intro message now same
      cases same
    · exact fun input other _ _ _ => ⟨⟨ticket, holds.1⟩, refused, holds.2.2⟩
    · intro same
      cases same
    · intro message same
      cases same
    · intro seconds same
      cases same
    · intro ticket same
      cases same
    · rintro input other ⟨⟩ ⟨⟩

theorem noteConnect_chained {message : AgentMessage} {received : Timestamp}
    {data : TraefikProviderAgentConnectedData}
    (inside : InsideAt (.chain sessionId) ticket history)
    (got : Got (.process sessionId message received) (.connected data) history)
    (acked : Acked (.agentConnected data) history) :
    (Backend.memory (.recordConnected sessionId)).Traces (Chained sessionId)
      (fun history _ => InsideAt (.chain sessionId) ticket history ∧
        Welcomed sessionId history ∧ NotedConnect sessionId history)
      history := by
  apply step_traces (.recordConnected sessionId) rfl inside
  · apply chained_of_memory (takesTurns_of_aside rfl)
    exact fun _ => ⟨message, received, data, got, acked⟩
  · intro answer inside
    refine ⟨inside, ⟨message, received, data, got_lasting _ _ _ _ got⟩,
      answer, ?_⟩
    exact List.mem_append_right _ (List.mem_singleton.mpr rfl)

theorem sendHello_chained {hello : HelloMessage}
    (inside : InsideAt (.chain sessionId) ticket history)
    (welcomed : Welcomed sessionId history)
    (noted : NotedConnect sessionId history) :
    (Backend.memory (.sendAgent sessionId (.hello hello))).Traces
      (Chained sessionId)
      (fun history result => Handled sessionId ticket history result ∧
        (result = .ok () → Conversing sessionId ticket history)) history := by
  apply step_traces (.sendAgent sessionId (.hello hello)) rfl inside
  · apply chained_of_memory (takesTurns_of_aside rfl)
    exact fun _ => .inl ⟨rfl, welcomed, noted⟩
  · intro answer inside
    cases answer with
    | error error => exact ⟨handled_error inside, by rintro ⟨⟩⟩
    | ok _ =>
        have told : ToldHello sessionId (history ++
            [@Answered.mk backend Err
              (.memory (.sendAgent sessionId (.hello hello))) (.ok ())]) :=
          ⟨hello, got_last _ _ _⟩
        have conversing : Conversing sessionId ticket (history ++
            [@Answered.mk backend Err
              (.memory (.sendAgent sessionId (.hello hello))) (.ok ())]) :=
          ⟨inside, .inl told, fun _ => .inl told⟩
        exact ⟨conversing.handled _, fun _ => conversing⟩

theorem afterHello_chained {message : AgentMessage} {received : Timestamp}
    {data : TraefikProviderAgentConnectedData}
    (greeting : Greeting sessionId ticket message received data history)
    (refused : Refused TraefikProviderEvent.connects history) :
    (AgentSessionHandler.afterHello deps auth sessionId data now).Traces
      (Chained sessionId) (Handled sessionId ticket) history := by
  have may : MayRecord sessionId TraefikProviderEvent.connects
      (Greeting sessionId ticket message received data)
      auth.accountId auth.providerId (.agentConnected data) :=
    mayRecord_connect auth.accountId auth.providerId
  apply (may.append greeting refused).bind
  · intro history stored recorded
    obtain ⟨⟨inside, got, -⟩, acked⟩ := recorded
    apply (noteConnect_chained inside got (acked stored rfl)).bind
    · intro history _ noted
      have loads : (ProviderStore.loadActive auth.accountId
          auth.providerId).Calls (Aside sessionId) :=
        load_elsewhere (ProviderStore.loadActive_reads _ _)
      have spared : Spared sessionId fun history =>
          InsideAt (.chain sessionId) ticket history ∧
            Welcomed sessionId history ∧ NotedConnect sessionId history :=
        (spared_insideAt sessionId ticket).and
          ((Spared.of_lasting (welcomed_lasting sessionId)).and
            (Spared.of_lasting (notedConnect_lasting sessionId)))
      apply (traces_elsewhere loads spared noted).bind
      · intro history loaded noted
        apply (sendHello_chained noted.1 noted.2.1 noted.2.2).bind
        · intro history _ said
          apply (sendCurrentSnapshot_chained (said.2 rfl)).bind
          · intro history _ conversing
            have starts : (Backend.memory (.startHeartbeat sessionId
                deps.agentHeartbeatSeconds)).Traces (Chained sessionId)
                (fun history _ => Conversing sessionId ticket history)
                history := by
              apply conversing.step _ rfl
              · exact fun _ => conversing.2.1
              · exact nofun
            apply starts.mono
            exact fun history result conversing => conversing.handled result
          · exact fun history error conversing => conversing.handled _
        · exact fun history error ended => handled_error ended.1.1
      · exact fun history error noted => handled_error noted.1
    · exact fun history error noted => handled_error noted.1
  · exact fun history error ended => handled_error ended.1.1

/-- A message that is no hello leaves nothing to settle. -/
theorem settled_processed {message : AgentMessage} {received : Timestamp}
    {answer : Except Err Agents.Processing}
    (unprocessed : Unprocessed sessionId history)
    (other : ∀ data, answer ≠ .ok (.connected data)) :
    Settled sessionId (history ++ [@Answered.mk backend Err
      (.memory (.process sessionId message received)) answer]) := by
  intro welcomed
  obtain ⟨taken, at', data, got⟩ := welcomed
  rcases List.mem_append.mp got with earlier | last
  · exact absurd earlier (unprocessed taken at' _)
  · cases List.mem_singleton.mp last
    exact absurd rfl (other data)

theorem afterProcess_chained {message : AgentMessage} {received : Timestamp}
    {processing : Agents.Processing}
    (inside : InsideAt (.chain sessionId) ticket (history ++
      [@Answered.mk backend Err (.memory (.process sessionId message received))
        (.ok processing)]))
    (unprocessed : Unprocessed sessionId history)
    (refused : Refused TraefikProviderEvent.connects history) :
    (AgentSessionHandler.afterProcess deps auth sessionId now
      processing).Traces (Chained sessionId) (Handled sessionId ticket)
      (history ++ [@Answered.mk backend Err
        (.memory (.process sessionId message received)) (.ok processing)]) := by
  cases processing with
  | finished =>
      exact ⟨inside, fun _ _ =>
        settled_processed unprocessed (by rintro data ⟨⟩)⟩
  | connected data =>
      apply afterHello_chained ⟨inside, got_last _ _ _, ?_⟩
      · apply refused_append refused
        intro input event same
        cases same
      · apply notGivenUp_append (notGivenUp_of_unprocessed unprocessed)
        exact fun reason => by rintro ⟨⟩
  | reported report =>
      have spared := (spared_insideAt sessionId ticket).and
        (spared_settled sessionId)
      have settled : Settled sessionId (history ++ [@Answered.mk backend Err
          (.memory (.process sessionId message received))
          (.ok (.reported report))]) :=
        settled_processed unprocessed (by rintro data ⟨⟩)
      apply (traces_elsewhere onReport_elsewhere spared
        ⟨inside, settled⟩).mono
      exact fun history result ended => ⟨ended.1, fun _ _ => ended.2⟩
  | syncRequested =>
      have settled : Settled sessionId (history ++ [@Answered.mk backend Err
          (.memory (.process sessionId message received))
          (.ok .syncRequested)]) :=
        settled_processed unprocessed (by rintro data ⟨⟩)
      have asked : AskedToSync sessionId (history ++ [@Answered.mk backend Err
          (.memory (.process sessionId message received))
          (.ok .syncRequested)]) :=
        ⟨message, received, got_last _ _ _⟩
      apply (sendCurrentSnapshot_chained ⟨inside, .inr asked, settled⟩).mono
      exact fun history result conversing => conversing.handled result

theorem process_chained {message : AgentMessage}
    (inside : InsideAt (.chain sessionId) ticket history)
    (unprocessed : Unprocessed sessionId history)
    (refused : Refused TraefikProviderEvent.connects history) :
    (AgentSessionHandler.process deps auth sessionId message now).Traces
      (Chained sessionId) (Handled sessionId ticket) history := by
  have allowed : Chained sessionId history
      (.memory (.process sessionId message now)) := by
    apply chained_of_memory (takesTurns_of_aside rfl)
    exact fun _ => ⟨⟨ticket, inside⟩, unprocessed⟩
  refine ⟨allowed, ?_⟩
  intro answer
  have still : InsideAt (.chain sessionId) ticket (history ++
      [@Answered.mk backend Err (.memory (.process sessionId message now))
        answer]) := insideAt_aside rfl inside
  cases answer with
  | error error => exact handled_error still
  | ok processing => exact afterProcess_chained still unprocessed refused

/-- The steps on the chain of the session do not change the assertion. -/
def KeptByTurns (sessionId : Id) (assertion : BackendHistory → Prop) : Prop :=
  ∀ history (awaited : MemoryCall) answer,
    Call.stepsOn (.chain sessionId) (.memory awaited) = true →
    assertion history →
    assertion (history ++ [@Answered.mk backend Err (.memory awaited) answer])

/-- A turn on the message chain, at whose end the hello is settled. -/
theorem chain_chained {fn : Backend α} {assertion kept : BackendHistory → Prop}
    (away : seatAt (.chain sessionId) history = .away)
    (here : assertion history) (turns : KeptByTurns sessionId assertion)
    (turnsKept : KeptByTurns sessionId kept)
    (implies : ∀ history, assertion history → kept history)
    (body : ∀ ticket history, InsideAt (.chain sessionId) ticket history →
      assertion history →
      fn.Traces (Chained sessionId)
        (fun history _ => InsideAt (.chain sessionId) ticket history ∧
          Settled sessionId history ∧ kept history) history) :
    (KeyedMutex.run (.chain sessionId) fn).Traces (Chained sessionId)
      (fun history _ => kept history) history := by
  have joins : Chained sessionId history
      (.memory (.join (.chain sessionId))) := by
    apply chained_of_memory
    · exact ⟨fun _ => away, nofun, nofun⟩
    · trivial
  refine ⟨joins, ?_⟩
  intro joined
  have atJoin := turns history (.join (.chain sessionId)) joined
    (decide_eq_true rfl) here
  cases joined with
  | error error => exact implies _ atJoin
  | ok ticket =>
      have waits : Chained sessionId
          (history ++ [@Answered.mk backend Err
            (.memory (.join (.chain sessionId))) (.ok ticket)])
          (.memory (.turn (.chain sessionId) ticket)) := by
        apply chained_of_memory
        · refine ⟨nofun, ?_, nofun⟩
          intro other same
          cases same
          exact seatAt_join (.chain sessionId) history ticket
        · trivial
      refine ⟨waits, ?_⟩
      intro turned
      have atTurn := turns _ (.turn (.chain sessionId) ticket) turned
        (decide_eq_true rfl) atJoin
      cases turned with
      | error error => exact implies _ atTurn
      | ok value =>
          apply (body ticket _
            ⟨[], seatAt_turn (.chain sessionId) _ ticket value⟩
            atTurn).attempted.bind
          · intro history outcome ended
            obtain ⟨_, same, inside, settled, held⟩ := ended
            cases same
            have leaves : Chained sessionId history
                (.memory (.leave (.chain sessionId) ticket)) := by
              apply chained_of_memory
              · refine ⟨nofun, nofun, ?_⟩
                intro other same
                cases same
                exact inside
              · exact fun _ => settled
            refine ⟨leaves, ?_⟩
            intro left
            have atEnd := turnsKept history (.leave (.chain sessionId) ticket)
              left (decide_eq_true rfl) held
            cases left with
            | error error => exact atEnd
            | ok _ => cases outcome <;> exact atEnd
          · intro history error ended
            obtain ⟨_, same, _⟩ := ended
            cases same

/-- The handler of a message, from before its turn. -/
theorem handle_chained {message : AgentMessage}
    (outside : Outside sessionId history)
    (refused : Refused TraefikProviderEvent.connects history) :
    (AgentSessionHandler.handle deps auth sessionId message now).Traces
      (Chained sessionId) anyEnd history := by
  have turns : KeptByTurns sessionId fun history =>
      Unprocessed sessionId history ∧
        Refused TraefikProviderEvent.connects history := by
    intro history awaited answer isStep holds
    constructor
    · apply unprocessed_append holds.1
      intro message now same
      cases same
      cases isStep
    · apply refused_append holds.2
      intro input event same
      cases same
  have turnsKept : KeptByTurns sessionId fun _ => True :=
    fun _ _ _ _ _ => trivial
  have turn : (AgentSessionHandler.handle deps auth sessionId message
      now).Traces (Chained sessionId) (fun _ _ => True) history := by
    apply chain_chained outside.away ⟨outside.unprocessed, refused⟩ turns
      turnsKept
    · exact fun _ _ => trivial
    · intro ticket history inside holds
      apply (process_chained inside holds.1 holds.2).attempted.bind
      · intro history outcome ended
        obtain ⟨_, same, inside, settled⟩ := ended
        cases same
        cases outcome with
        | ok value => exact ⟨inside, settled value rfl, trivial⟩
        | error error =>
            apply step_traces (.terminate sessionId _) rfl inside
            · exact chained_of_memory (takesTurns_of_aside rfl) trivial
            · intro answer inside
              refine ⟨inside, ?_, trivial⟩
              intro welcomed
              obtain ⟨message, received, data, got⟩ := welcomed
              right
              refine ⟨history, _, answer, ⟨message, received, data, ?_⟩,
                List.prefix_refl _⟩
              rcases List.mem_append.mp got with earlier | last
              · exact earlier
              · cases List.mem_singleton.mp last
      · intro history error ended
        obtain ⟨_, same, _⟩ := ended
        cases same
  exact turn.mono fun _ _ _ => trivial

theorem mayRecord_disconnect {data : TraefikProviderAgentDisconnectedData}
    (accountId providerId : Id) :
    MayRecord sessionId TraefikProviderEvent.disconnects (fun _ => True)
      accountId providerId (.agentDisconnected data) where
  isKind := rfl
  ofPresence := ofPresence_of_disconnects
  spared _ _ _ _ _ := trivial
  keeps _ _ _ _ := trivial
  allowed history version _ refused := by
    constructor
    · exact takesTurns_of_aside rfl
    · intro message now same
      cases same
    · rintro input other ⟨⟩ ⟨⟩
    · intro same
      cases same
    · intro message same
      cases same
    · intro seconds same
      cases same
    · intro ticket same
      cases same
    · exact fun _ _ _ _ _ => refused

theorem recordDisconnect_chained {effective : CloseReason}
    (refused : Refused TraefikProviderEvent.disconnects history) :
    (AgentSessionHandler.recordDisconnect auth sessionId effective now).Traces
      (Chained sessionId) anyEnd history := by
  have loads : (ProviderStore.load auth.accountId auth.providerId).Calls
      (Aside sessionId) := load_elsewhere (ProviderStore.load_reads _ _)
  have spared : Spared sessionId
      (Refused TraefikProviderEvent.disconnects) :=
    spared_refused ofPresence_of_disconnects sessionId
  apply (traces_elsewhere loads spared refused).bind
  · intro history stillThere refused
    split
    · trivial
    · have may : MayRecord sessionId TraefikProviderEvent.disconnects
          (fun _ => True) auth.accountId auth.providerId
          (.agentDisconnected ⟨sessionId, effective.disconnect, now⟩) :=
        mayRecord_disconnect auth.accountId auth.providerId
      have records : (Program.bind _ fun _ => (.done () : Backend Unit)).Traces
          (Chained sessionId) anyEnd history :=
        (may.append trivial refused).bind (fun _ _ _ => trivial)
          fun _ _ _ => trivial
      apply records.attempted.bind
      · intro history outcome _
        cases outcome <;> trivial
      · exact fun _ _ _ => trivial
  · exact fun _ _ _ => trivial

/-- The end of a session waits for the messages before it. -/
theorem waitForChain_chained
    (away : seatAt (.chain sessionId) history = .away)
    (unprocessed : Unprocessed sessionId history)
    (refused : Refused TraefikProviderEvent.disconnects history) :
    (KeyedMutex.run (.chain sessionId) (pure ())).Traces (Chained sessionId)
      (fun history _ => Refused TraefikProviderEvent.disconnects history)
      history := by
  have turns : KeptByTurns sessionId
      (Refused TraefikProviderEvent.disconnects) := by
    intro history awaited answer _ refused
    apply refused_append refused
    intro input event same
    cases same
  have turnsToo : KeptByTurns sessionId fun history =>
      Unprocessed sessionId history ∧
        Refused TraefikProviderEvent.disconnects history := by
    intro history awaited answer isStep holds
    refine ⟨?_, turns history awaited answer isStep holds.2⟩
    apply unprocessed_append holds.1
    intro message now same
    cases same
    cases isStep
  apply chain_chained away ⟨unprocessed, refused⟩ turnsToo turns
  · exact fun history holds => holds.2
  · intro ticket history inside holds
    refine ⟨inside, ?_, holds.2⟩
    intro welcomed
    obtain ⟨message, now, data, got⟩ := welcomed
    exact absurd got (holds.1 message now _)

theorem claimThenRecord_chained {effective : CloseReason}
    (refused : Refused TraefikProviderEvent.disconnects history) :
    ((Backend.memory (.claimDisconnect sessionId)).bind fun claimed =>
      Program.onlyIf claimed (AgentSessionHandler.recordDisconnect auth
        sessionId effective now)).Traces (Chained sessionId) anyEnd
      history := by
  have claims : Chained sessionId history
      (.memory (.claimDisconnect sessionId)) :=
    chained_of_memory (takesTurns_of_aside rfl) trivial
  refine ⟨claims, ?_⟩
  intro answer
  cases answer with
  | error error => trivial
  | ok claimed =>
      cases claimed with
      | false => trivial
      | true =>
          apply recordDisconnect_chained
          apply refused_append refused
          intro input event same
          cases same

/-- What follows the end of a session. -/
theorem afterClosed_chained (outside : Outside sessionId history)
    (refused : Refused TraefikProviderEvent.disconnects history) :
    (AgentSessionHandler.afterClosed auth sessionId now).Traces
      (Chained sessionId) anyEnd history := by
  have waits : Chained sessionId history (.memory (.closed sessionId)) :=
    chained_of_memory (takesTurns_of_aside rfl) trivial
  refine ⟨waits, ?_⟩
  intro closed
  cases closed with
  | error error => trivial
  | ok effective =>
      have away : seatAt (.chain sessionId) (history ++
          [@Answered.mk backend Err (.memory (.closed sessionId))
            (.ok effective)]) = .away := by
        rw [seatAt_append, outside.away]
        rfl
      have unprocessed : Unprocessed sessionId (history ++
          [@Answered.mk backend Err (.memory (.closed sessionId))
            (.ok effective)]) := by
        apply unprocessed_append outside.unprocessed
        intro message now same
        cases same
      have stillRefused : Refused TraefikProviderEvent.disconnects (history ++
          [@Answered.mk backend Err (.memory (.closed sessionId))
            (.ok effective)]) := by
        apply refused_append refused
        intro input event same
        cases same
      apply (waitForChain_chained away unprocessed stillRefused).bind
      · intro history _ refused
        apply claimThenRecord_chained refused
      · exact fun _ _ _ => trivial

end

/-! ## Every command -/

/-- A call that is no step of the session. -/
theorem keepsOut_call (awaited : Call)
    (apart : awaited.session? ≠ some sessionId) :
    KeepsOut sessionId awaited.Answer (Backend.call awaited) :=
  .of_calls ((Backend.calls_call awaited).mpr apart)

/-- A command that is no message and no end of the session. -/
theorem command_keepsOut (deps : ProviderServiceDeps) (now : Timestamp)
    (command : ProviderCommand)
    (noMessage : ∀ auth received, command ≠ .message auth sessionId received)
    (noEnd : ∀ auth, command ≠ .closed auth sessionId) :
    KeepsOut sessionId (Option Nat) (command.program deps now) := by
  have outer : Outer (KeepsOut sessionId) :=
    (keepsOut_within (Nat.succ_ne_self sessionId)).toOuter
  apply outer.command
  constructor
  · rintro auth other received rfl
    have apart : other ≠ sessionId := by
      rintro rfl
      exact noMessage auth received rfl
    have within := keepsOut_within apart
    apply within.handle
    apply within.process
    apply outer.sendCurrentSnapshot
    intro payload
    apply keepsOut_call (.memory (.sendAgent other _))
    intro same
    cases same
    exact apart rfl
  · rintro auth other rfl
    have apart : other ≠ sessionId := by
      rintro rfl
      exact noEnd auth rfl
    exact (keepsOut_within apart).afterClosed
  · rintro accountId providerId causationIds -
    exact outer.coordinatorRun fun payload =>
      keepsOut_call (.memory (.push _ _)) (by rintro ⟨⟩)
  · rintro accountId providerId -
    exact outer.resync fun payload =>
      keepsOut_call (.memory (.push _ _)) (by rintro ⟨⟩)

theorem outside_nil (sessionId : Id) : Outside sessionId [] :=
  ⟨rfl, fun _ _ member => by cases member⟩

theorem refused_nil (kind : TraefikProviderEvent → Bool) : Refused kind [] :=
  fun _ _ _ member => by cases member

theorem command_chained (deps : ProviderServiceDeps) (now : Timestamp)
    (command : ProviderCommand) (sessionId : Id) :
    (command.program deps now).Traces (Chained sessionId) anyEnd [] := by
  by_cases isMessage : ∃ auth received,
      command = .message auth sessionId received
  · obtain ⟨auth, received, rfl⟩ := isMessage
    apply (handle_chained (outside_nil sessionId) (refused_nil _)).bind
    · exact fun _ _ _ => trivial
    · exact fun _ _ _ => trivial
  · by_cases isEnd : ∃ auth, command = .closed auth sessionId
    · obtain ⟨auth, rfl⟩ := isEnd
      apply (afterClosed_chained (outside_nil sessionId) (refused_nil _)).bind
      · exact fun _ _ _ => trivial
      · exact fun _ _ _ => trivial
    · have keepsOut : KeepsOut sessionId (Option Nat)
          (command.program deps now) := by
        apply command_keepsOut
        · exact fun auth received same => isMessage ⟨auth, received, same⟩
        · exact fun auth same => isEnd ⟨auth, same⟩
      exact (keepsOut [] (outside_nil sessionId)).mono fun _ _ _ => trivial

end FluxIP
