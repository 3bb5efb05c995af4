import Mathlib.Data.List.Dedup
import Mathlib.Data.List.Sort
import FluxIP.Ports.Err

/-!
# The event store

One table of events with the two uniqueness constraints of the schema.  The
insertion order of the table is the order in which events came into being; a
stream is the part of the table that belongs to one aggregate.
-/

namespace FluxIP

structure EventStore where
  events : List StoredEvent := []
  nextId : Id := 0
  deriving DecidableEq, Repr

/-- The event belongs to the stream of this aggregate. -/
def StoredEvent.isOf (event : StoredEvent) (aggregateType : AggregateType)
    (aggregateId : Id) : Bool :=
  event.aggregateType = aggregateType ∧ event.aggregateId = aggregateId

namespace EventStore

/-- The events of one aggregate in the order of their insertion. -/
def stream (store : EventStore) (aggregateType : AggregateType)
    (aggregateId : Id) : List StoredEvent :=
  store.events.filter (·.isOf aggregateType aggregateId)

/-- `INSERT INTO events`, under
`UNIQUE (aggregate_type, aggregate_id, sequence_number)`. -/
def append (store : EventStore) (input : AppendEventInput) :
    Except Err StoredEvent × EventStore :=
  if (store.stream input.aggregateType input.aggregateId).any
      (·.sequenceNumber = input.expectedSequenceNumber) then
    (.error (.concurrency input.aggregateType input.aggregateId
      input.expectedSequenceNumber), store)
  else
    let event : StoredEvent :=
      { id := store.nextId
        aggregateType := input.aggregateType
        aggregateId := input.aggregateId
        sequenceNumber := input.expectedSequenceNumber
        accountId := input.accountId
        data := input.data }
    (.ok event,
      { events := store.events ++ [event], nextId := store.nextId + 1 })

def readStream (store : EventStore) (params : ReadStreamParams) :
    List StoredEvent :=
  ((store.stream params.aggregateType params.aggregateId).filter
    (·.accountId = params.accountId)).insertionSort
      fun first second => first.sequenceNumber ≤ second.sequenceNumber

/-- `SELECT DISTINCT aggregate_id`: the database may return the rows in any
order, so `rows` is taken for the answer when it has the right ones. -/
def listAggregateIds (store : EventStore) (accountId : Id)
    (aggregateType : AggregateType) (rows : List Id) : List Id :=
  let ids := ((store.events.filter fun event =>
    event.accountId = accountId ∧ event.aggregateType = aggregateType).map
      (·.aggregateId)).dedup
  if rows.isPerm ids then rows else ids

def resolveAccountId (store : EventStore) (aggregateType : AggregateType)
    (aggregateId : Id) : Option Id :=
  ((store.stream aggregateType aggregateId).head?).map (·.accountId)

def deleteAccount (store : EventStore) (accountId : Id) : EventStore :=
  { store with events := store.events.filter (·.accountId ≠ accountId) }

/-- Every stream is numbered 1, 2, 3, … in the order of insertion, belongs to
one account, and no id is used twice. -/
structure Sequenced (store : EventStore) : Prop where
  sequence : ∀ aggregateType aggregateId,
    (store.stream aggregateType aggregateId).map (·.sequenceNumber) =
      List.range' 1 (store.stream aggregateType aggregateId).length
  account : ∀ first ∈ store.events, ∀ second ∈ store.events,
    first.aggregateType = second.aggregateType →
    first.aggregateId = second.aggregateId →
    first.accountId = second.accountId
  ids : ∀ event ∈ store.events, event.id < store.nextId
  distinct : (store.events.map (·.id)).Nodup

/-- Events are only added: the earlier table is the beginning of the later. -/
def Extends (before after : EventStore) : Prop :=
  before.events <+: after.events ∧ before.nextId ≤ after.nextId

variable {store next before after : EventStore}
variable {aggregateType : AggregateType} {aggregateId accountId : Id}

@[simp] theorem isOf_iff {event : StoredEvent} :
    event.isOf aggregateType aggregateId = true ↔
      event.aggregateType = aggregateType ∧
        event.aggregateId = aggregateId := by
  simp [StoredEvent.isOf]

theorem mem_stream {event : StoredEvent} :
    event ∈ store.stream aggregateType aggregateId ↔
      event ∈ store.events ∧ event.aggregateType = aggregateType ∧
        event.aggregateId = aggregateId := by
  simp [stream]

/-! ## Growth -/

theorem Extends.refl (store : EventStore) : store.Extends store :=
  ⟨List.prefix_refl _, Nat.le_refl _⟩

theorem Extends.trans {middle : EventStore} (first : before.Extends middle)
    (second : middle.Extends after) : before.Extends after :=
  ⟨first.1.trans second.1, first.2.trans second.2⟩

theorem Extends.stream_prefix (grows : before.Extends after)
    (aggregateType : AggregateType) (aggregateId : Id) :
    before.stream aggregateType aggregateId <+:
      after.stream aggregateType aggregateId :=
  grows.1.filter _

/-! ## Appending -/

/-- All an insertion can do: add one event at a free position, or report a
conflict and leave the table alone. -/
theorem append_cases {input : AppendEventInput}
    {answer : Except Err StoredEvent}
    (appended : store.append input = (answer, next)) :
    (∃ event, answer = .ok event ∧
      event.aggregateType = input.aggregateType ∧
      event.aggregateId = input.aggregateId ∧
      event.sequenceNumber = input.expectedSequenceNumber ∧
      event.accountId = input.accountId ∧
      event.data = input.data ∧
      event.id = store.nextId ∧
      (∀ other ∈ store.stream input.aggregateType input.aggregateId,
        other.sequenceNumber ≠ input.expectedSequenceNumber) ∧
      next = { events := store.events ++ [event]
               nextId := store.nextId + 1 }) ∨
    (answer = .error (.concurrency input.aggregateType input.aggregateId
        input.expectedSequenceNumber) ∧ next = store) := by
  unfold append at appended
  split at appended
  · right
    cases appended
    exact ⟨rfl, rfl⟩
  · rename_i free
    left
    cases appended
    refine ⟨_, rfl, rfl, rfl, rfl, rfl, rfl, rfl, ?_, rfl⟩
    intro other member same
    exact free (List.any_eq_true.mpr ⟨other, member, by simpa using same⟩)

/-- An insertion at a free position is not refused. -/
theorem append_free {input : AppendEventInput}
    (free : ∀ other ∈ store.stream input.aggregateType input.aggregateId,
      other.sequenceNumber ≠ input.expectedSequenceNumber) :
    ∃ event, (store.append input).1 = .ok event := by
  have notTaken : ¬ (store.stream input.aggregateType input.aggregateId).any
      (·.sequenceNumber = input.expectedSequenceNumber) = true := by
    simpa using free
  unfold append
  rw [if_neg notTaken]
  exact ⟨_, rfl⟩

theorem stream_append_event (event : StoredEvent) (nextId : Id) :
    (EventStore.mk (store.events ++ [event]) nextId).stream aggregateType
        aggregateId =
      store.stream aggregateType aggregateId ++
        if event.isOf aggregateType aggregateId then [event] else [] := by
  unfold stream
  rw [List.filter_append]
  cases member : event.isOf aggregateType aggregateId <;> simp [member]

theorem append_extends {input : AppendEventInput}
    {answer : Except Err StoredEvent}
    (appended : store.append input = (answer, next)) :
    store.Extends next := by
  rcases append_cases appended with
    ⟨event, -, -, -, -, -, -, -, -, rfl⟩ | ⟨-, rfl⟩
  · exact ⟨List.prefix_append _ _, Nat.le_succ _⟩
  · exact Extends.refl _

/-- An insertion leaves every other stream alone. -/
theorem append_stream_other {input : AppendEventInput}
    {answer : Except Err StoredEvent}
    (appended : store.append input = (answer, next))
    (other : ¬ (input.aggregateType = aggregateType ∧
      input.aggregateId = aggregateId)) :
    next.stream aggregateType aggregateId =
      store.stream aggregateType aggregateId := by
  rcases append_cases appended with
    ⟨event, -, sameType, sameId, -, -, -, -, -, rfl⟩ | ⟨-, rfl⟩
  · rw [stream_append_event, if_neg, List.append_nil]
    rw [isOf_iff, sameType, sameId]
    exact other
  · rfl

/-! ## Reading -/

theorem Sequenced.sequenceNumber_le (sequenced : store.Sequenced)
    {event : StoredEvent}
    (member : event ∈ store.stream aggregateType aggregateId) :
    1 ≤ event.sequenceNumber ∧
      event.sequenceNumber ≤
        (store.stream aggregateType aggregateId).length := by
  have position : event.sequenceNumber ∈
      (store.stream aggregateType aggregateId).map (·.sequenceNumber) :=
    List.mem_map_of_mem member
  rw [sequenced.sequence, List.mem_range'_1] at position
  omega

/-- Every position up to the length of a stream is taken. -/
theorem Sequenced.occupied (sequenced : store.Sequenced) {position : Nat}
    (positive : 1 ≤ position)
    (bound : position ≤ (store.stream aggregateType aggregateId).length) :
    ∃ event ∈ store.stream aggregateType aggregateId,
      event.sequenceNumber = position := by
  have taken : position ∈
      (store.stream aggregateType aggregateId).map (·.sequenceNumber) := by
    rw [sequenced.sequence, List.mem_range'_1]
    omega
  exact List.mem_map.mp taken

theorem Sequenced.stream_sorted (sequenced : store.Sequenced) :
    (store.stream aggregateType aggregateId).Pairwise
      fun first second => first.sequenceNumber ≤ second.sequenceNumber := by
  have sorted : ((store.stream aggregateType aggregateId).map
      (·.sequenceNumber)).Pairwise (· ≤ ·) := by
    rw [sequenced.sequence]
    exact List.pairwise_le_range' 1
  exact List.pairwise_map.mp sorted

/-- A read under the account of the stream returns the whole stream, a read
under another account returns nothing. -/
theorem Sequenced.readStream_eq (sequenced : store.Sequenced)
    (params : ReadStreamParams) :
    store.readStream params =
        store.stream params.aggregateType params.aggregateId ∧
      (∀ event ∈ store.stream params.aggregateType params.aggregateId,
        event.accountId = params.accountId) ∨
    store.readStream params = [] ∧
      ∃ event ∈ store.stream params.aggregateType params.aggregateId,
        event.accountId ≠ params.accountId := by
  by_cases own : ∀ event ∈
      store.stream params.aggregateType params.aggregateId,
      event.accountId = params.accountId
  · left
    refine ⟨?_, own⟩
    have whole : (store.stream params.aggregateType
        params.aggregateId).filter (·.accountId = params.accountId) =
        store.stream params.aggregateType params.aggregateId :=
      List.filter_eq_self.mpr fun event member => by
        simpa using own event member
    rw [readStream, whole]
    exact sequenced.stream_sorted.insertionSort_eq
  · right
    push Not at own
    obtain ⟨event, member, foreign⟩ := own
    refine ⟨?_, event, member, foreign⟩
    have none : (store.stream params.aggregateType
        params.aggregateId).filter (·.accountId = params.accountId) = [] := by
      refine List.filter_eq_nil_iff.mpr fun other otherMember same => ?_
      have first := mem_stream.mp member
      have second := mem_stream.mp otherMember
      have equal := sequenced.account _ first.1 _ second.1
        (first.2.1.trans second.2.1.symm) (first.2.2.trans second.2.2.symm)
      exact foreign (equal.trans (by simpa using same))
    simp [readStream, none]

/-- Read by its own account, a stream comes back whole. -/
theorem Sequenced.readStream_own (sequenced : store.Sequenced)
    {params : ReadStreamParams}
    (own : ∀ event ∈ store.stream params.aggregateType params.aggregateId,
      event.accountId = params.accountId) :
    store.readStream params =
      store.stream params.aggregateType params.aggregateId := by
  rcases sequenced.readStream_eq params with
    ⟨whole, -⟩ | ⟨-, event, member, foreign⟩
  · exact whole
  · exact absurd (own event member) foreign

theorem Sequenced.readStream_length_le (sequenced : store.Sequenced)
    (params : ReadStreamParams) :
    (store.readStream params).length ≤
      (store.stream params.aggregateType params.aggregateId).length := by
  rcases sequenced.readStream_eq params with ⟨whole, -⟩ | ⟨nothing, -⟩
  · rw [whole]
  · simp [nothing]

/-- A read keeps the order of the stream. -/
theorem Sequenced.readStream_filter (sequenced : store.Sequenced)
    (params : ReadStreamParams) :
    store.readStream params =
      (store.stream params.aggregateType params.aggregateId).filter
        (·.accountId = params.accountId) :=
  (sequenced.stream_sorted.filter _).insertionSort_eq

theorem Extends.readStream_prefix (grows : before.Extends after)
    (sequenced : before.Sequenced) (sequencedAfter : after.Sequenced)
    (params : ReadStreamParams) :
    before.readStream params <+: after.readStream params := by
  rw [sequenced.readStream_filter, sequencedAfter.readStream_filter]
  exact (grows.stream_prefix _ _).filter _

/-- A read after an insertion: the event is at the end of its own stream. -/
theorem readStream_append (sequenced : store.Sequenced)
    (sequencedNext : next.Sequenced) {input : AppendEventInput}
    {event : StoredEvent} (appended : store.append input = (.ok event, next))
    (params : ReadStreamParams) :
    next.readStream params = store.readStream params ++
      if event.isOf params.aggregateType params.aggregateId ∧
          event.accountId = params.accountId then [event] else [] := by
  rcases append_cases appended with
    ⟨inserted, same, -, -, -, -, -, -, -, rfl⟩ | ⟨conflict, -⟩
  · cases same
    rw [sequenced.readStream_filter, sequencedNext.readStream_filter,
      stream_append_event, List.filter_append]
    congr 1
    by_cases here : event.isOf params.aggregateType params.aggregateId = true
    · simp [here, List.filter_cons]
    · simp [here]
  · cases conflict

theorem mem_listAggregateIds {rows : List Id} :
    aggregateId ∈ store.listAggregateIds accountId aggregateType rows ↔
      ∃ event ∈ store.events, event.accountId = accountId ∧
        event.aggregateType = aggregateType ∧
        event.aggregateId = aggregateId := by
  have inOrder : aggregateId ∈ ((store.events.filter fun event =>
      event.accountId = accountId ∧ event.aggregateType = aggregateType).map
        (·.aggregateId)).dedup ↔
      ∃ event ∈ store.events, event.accountId = accountId ∧
        event.aggregateType = aggregateType ∧
        event.aggregateId = aggregateId := by
    simp [and_assoc]
  unfold listAggregateIds
  dsimp only
  split
  · rename_i permuted
    rw [(List.isPerm_iff.mp permuted).mem_iff]
    exact inOrder
  · exact inOrder

theorem mem_readStream {params : ReadStreamParams} {event : StoredEvent} :
    event ∈ store.readStream params ↔
      event ∈ store.events ∧ event.aggregateType = params.aggregateType ∧
        event.aggregateId = params.aggregateId ∧
        event.accountId = params.accountId := by
  unfold readStream
  rw [List.mem_insertionSort, List.mem_filter, mem_stream]
  simp [and_assoc]

/-! ## Optimistic appends -/

/-- The optimistic check: an append at the position after a loaded stream
succeeds only while the stream is still the one that was loaded. -/
theorem stream_of_append_ok (params : ReadStreamParams)
    (sequenced : after.Sequenced) (sequencedBefore : before.Sequenced)
    (grows : before.Extends after) {input : AppendEventInput}
    (sameType : input.aggregateType = params.aggregateType)
    (sameId : input.aggregateId = params.aggregateId)
    (expected : input.expectedSequenceNumber =
      (before.readStream params).length + 1)
    {event : StoredEvent}
    (appended : after.append input = (.ok event, next)) :
    after.stream params.aggregateType params.aggregateId =
      before.readStream params := by
  rcases append_cases appended with
    ⟨_, -, -, -, -, -, -, -, free, -⟩ | ⟨conflict, -⟩
  · rw [sameType, sameId, expected] at free
    have notLonger : ¬ (before.readStream params).length + 1 ≤
        (after.stream params.aggregateType params.aggregateId).length := by
      intro longer
      obtain ⟨taken, member, position⟩ :=
        sequenced.occupied (Nat.succ_pos _) longer
      exact free taken member position
    have isPrefix :=
      grows.stream_prefix params.aggregateType params.aggregateId
    rcases sequencedBefore.readStream_eq params with
      ⟨whole, -⟩ | ⟨nothing, stranger, member, -⟩
    · rw [whole] at notLonger ⊢
      exact (isPrefix.eq_of_length_le (by omega)).symm
    · rw [nothing] at notLonger
      have present := isPrefix.subset member
      have := List.length_pos_of_mem present
      simp only [List.length_nil] at notLonger
      omega
  · cases conflict

/-- The same for what was seen of the stream: an append no further than one
past it succeeds only if nothing else is in the stream. -/
theorem Sequenced.seen_of_append_ok (sequenced : store.Sequenced)
    (params : ReadStreamParams) {input : AppendEventInput}
    (sameType : input.aggregateType = params.aggregateType)
    (sameId : input.aggregateId = params.aggregateId)
    {seen : List StoredEvent} (isPrefix : seen <+: store.readStream params)
    (positive : 1 ≤ input.expectedSequenceNumber)
    (bound : input.expectedSequenceNumber ≤ seen.length + 1)
    {event : StoredEvent}
    (appended : store.append input = (.ok event, next)) :
    store.stream params.aggregateType params.aggregateId = seen ∧
      store.readStream params = seen ∧
      input.expectedSequenceNumber = seen.length + 1 := by
  rcases append_cases appended with
    ⟨_, -, -, -, -, -, -, -, free, -⟩ | ⟨conflict, -⟩
  · rw [sameType, sameId] at free
    have beyond : ¬ input.expectedSequenceNumber ≤
        (store.stream params.aggregateType params.aggregateId).length := by
      intro within
      obtain ⟨taken, member, position⟩ := sequenced.occupied positive within
      exact free taken member position
    have seenShorter := isPrefix.length_le
    have readShorter := sequenced.readStream_length_le params
    have whole : seen = store.readStream params :=
      isPrefix.eq_of_length_le (by omega)
    rcases sequenced.readStream_eq params with
      ⟨same, -⟩ | ⟨nothing, stranger, member, -⟩
    · exact ⟨same.symm.trans whole.symm, whole.symm, by omega⟩
    · have := List.length_pos_of_mem member
      have none : seen.length = 0 := by rw [whole, nothing]; rfl
      omega
  · cases conflict

/-- An append at the end of a stream, under the stream's account, keeps the
numbering. -/
theorem Sequenced.append (sequenced : store.Sequenced)
    {input : AppendEventInput} {answer : Except Err StoredEvent}
    (appended : store.append input = (answer, next))
    (bound : input.expectedSequenceNumber ≤
      (store.stream input.aggregateType input.aggregateId).length + 1)
    (positive : 1 ≤ input.expectedSequenceNumber)
    (own : ∀ event ∈ store.stream input.aggregateType input.aggregateId,
      event.accountId = input.accountId) :
    next.Sequenced := by
  rcases append_cases appended with
    ⟨event, -, sameType, sameId, position, account, -, fresh, free, rfl⟩ |
    ⟨-, rfl⟩
  · have atEnd : event.sequenceNumber =
        (store.stream input.aggregateType input.aggregateId).length + 1 := by
      by_contra notEnd
      obtain ⟨taken, member, same⟩ : ∃ taken ∈
          store.stream input.aggregateType input.aggregateId,
          taken.sequenceNumber = input.expectedSequenceNumber :=
        sequenced.occupied positive (by omega)
      exact free taken member same
    refine ⟨?_, ?_, ?_, ?_⟩
    · intro aggregateType aggregateId
      rw [stream_append_event]
      by_cases here : event.isOf aggregateType aggregateId = true
      · rw [if_pos here]
        obtain ⟨rfl, rfl⟩ := isOf_iff.mp here
        rw [sameType, sameId] at *
        rw [List.map_append, sequenced.sequence, List.length_append,
          List.length_singleton, List.range'_concat]
        simp [atEnd, Nat.add_comm]
      · rw [if_neg here, List.append_nil]
        exact sequenced.sequence aggregateType aggregateId
    · intro first firstMember second secondMember sameTypes sameIds
      rcases List.mem_append.mp firstMember with old | new <;>
        rcases List.mem_append.mp secondMember with old' | new'
      · exact sequenced.account _ old _ old' sameTypes sameIds
      · rw [List.mem_singleton] at new'
        subst new'
        rw [account]
        exact own first (mem_stream.mpr
          ⟨old, sameTypes.trans sameType, sameIds.trans sameId⟩)
      · rw [List.mem_singleton] at new
        subst new
        rw [account]
        exact (own second (mem_stream.mpr
          ⟨old', sameTypes.symm.trans sameType,
            sameIds.symm.trans sameId⟩)).symm
      · rw [List.mem_singleton] at new new'
        rw [new, new']
    · intro old member
      rcases List.mem_append.mp member with present | new
      · exact Nat.lt_succ_of_lt (sequenced.ids old present)
      · rw [List.mem_singleton] at new
        rw [new, fresh]
        exact Nat.lt_succ_self _
    · rw [List.map_append]
      refine List.nodup_append.mpr ⟨sequenced.distinct, by simp, ?_⟩
      intro id member newId newMember same
      obtain ⟨old, present, rfl⟩ := List.mem_map.mp member
      simp only [List.map_cons, List.map_nil, List.mem_singleton] at newMember
      exact Nat.ne_of_lt (sequenced.ids old present)
        (same.trans (newMember.trans fresh))
  · exact sequenced

/-- An append no further than one past what its writer has seen of the stream
goes to the end of just that. -/
theorem Sequenced.inserts (sequenced : store.Sequenced)
    {input : AppendEventInput} {seen : List StoredEvent}
    (isPrefix : seen <+: store.readStream
      ⟨input.accountId, input.aggregateType, input.aggregateId⟩)
    (positive : 1 ≤ input.expectedSequenceNumber)
    (bound : input.expectedSequenceNumber ≤ seen.length + 1)
    {event : StoredEvent}
    (appended : store.append input = (.ok event, next)) :
    next.Sequenced ∧
      seen = store.stream input.aggregateType input.aggregateId ∧
      store.readStream
        ⟨input.accountId, input.aggregateType, input.aggregateId⟩ = seen ∧
      input.expectedSequenceNumber =
        (store.stream input.aggregateType input.aggregateId).length + 1 := by
  obtain ⟨whole, same, expected⟩ := sequenced.seen_of_append_ok
    ⟨input.accountId, input.aggregateType, input.aggregateId⟩ rfl rfl isPrefix
    positive bound appended
  dsimp only at whole
  have position : input.expectedSequenceNumber =
      (store.stream input.aggregateType input.aggregateId).length + 1 :=
    expected.trans (congrArg (·.length + 1) whole.symm)
  refine ⟨?_, whole.symm, same, position⟩
  apply sequenced.append appended position.le positive
  intro other present
  rw [whole, ← same] at present
  exact (mem_readStream.mp present).2.2.2

/-- A deletion takes whole streams. -/
theorem Sequenced.deleteAccount (sequenced : store.Sequenced)
    (accountId : Id) : (store.deleteAccount accountId).Sequenced := by
  have kept (aggregateType : AggregateType) (aggregateId : Id) :
      (store.deleteAccount accountId).stream aggregateType aggregateId =
        (store.stream aggregateType aggregateId).filter
          (·.accountId ≠ accountId) := by
    unfold stream EventStore.deleteAccount
    exact List.filter_comm _ _ _
  constructor
  · intro aggregateType aggregateId
    rw [kept]
    cases whole : store.stream aggregateType aggregateId with
    | nil => rfl
    | cons first rest =>
        have member : first ∈ store.stream aggregateType aggregateId := by
          rw [whole]
          exact List.mem_cons_self
        obtain ⟨stored, ofType, ofId⟩ := mem_stream.mp member
        have same : ∀ event ∈ first :: rest,
            event.accountId = first.accountId := by
          intro event present
          rw [← whole] at present
          obtain ⟨storedToo, typeToo, idToo⟩ := mem_stream.mp present
          exact sequenced.account event storedToo first stored
            (typeToo.trans ofType.symm) (idToo.trans ofId.symm)
        by_cases owned : first.accountId = accountId
        · have gone : (first :: rest).filter (·.accountId ≠ accountId) = [] := by
            apply List.filter_eq_nil_iff.mpr
            intro event present
            simp [same event present, owned]
          rw [gone]
          rfl
        · have stays : (first :: rest).filter (·.accountId ≠ accountId) =
              first :: rest := by
            apply List.filter_eq_self.mpr
            intro event present
            simp [same event present, owned]
          rw [stays, ← whole]
          exact sequenced.sequence aggregateType aggregateId
  · intro first firstMember second secondMember
    exact sequenced.account first (List.mem_of_mem_filter firstMember) second
      (List.mem_of_mem_filter secondMember)
  · intro event member
    exact sequenced.ids event (List.mem_of_mem_filter member)
  · exact sequenced.distinct.sublist (List.filter_sublist.map _)

/-- The pattern of every command: load, then append at the next position. -/
theorem Sequenced.append_loaded (params : ReadStreamParams)
    (sequenced : after.Sequenced) (sequencedBefore : before.Sequenced)
    (grows : before.Extends after) {input : AppendEventInput}
    {answer : Except Err StoredEvent}
    (sameType : input.aggregateType = params.aggregateType)
    (sameId : input.aggregateId = params.aggregateId)
    (sameAccount : input.accountId = params.accountId)
    (expected : input.expectedSequenceNumber =
      (before.readStream params).length + 1)
    (appended : after.append input = (answer, next)) :
    next.Sequenced := by
  cases answer with
  | ok event =>
      have unchanged := stream_of_append_ok params sequenced sequencedBefore
        grows sameType sameId expected appended
      refine sequenced.append appended ?_ (by omega) ?_
      · rw [sameType, sameId, unchanged]
        omega
      · rw [sameType, sameId, unchanged, sameAccount]
        exact fun event member => (mem_readStream.mp member).2.2.2
  | error error =>
      rcases append_cases appended with ⟨event, impossible, -⟩ | ⟨-, rfl⟩
      · cases impossible
      · exact sequenced

/-! ## Stores written by one account -/

/-- The store after an account has appended these events in order, each at the
end of its stream. -/
def recorded (accountId : Id)
    (entries : List (AggregateType × Id × EventData)) : EventStore :=
  entries.foldl (fun store entry =>
    (store.append
      { aggregateType := entry.1
        aggregateId := entry.2.1
        accountId
        expectedSequenceNumber := (store.stream entry.1 entry.2.1).length + 1
        data := entry.2.2 }).2) {}

theorem empty_sequenced : ({} : EventStore).Sequenced where
  sequence := fun _ _ => rfl
  account := by simp
  ids := by simp
  distinct := by simp

theorem recorded_sequenced (accountId : Id)
    (entries : List (AggregateType × Id × EventData)) :
    (recorded accountId entries).Sequenced := by
  suffices general : ∀ (entries : List (AggregateType × Id × EventData))
      (store : EventStore), store.Sequenced →
      (∀ event ∈ store.events, event.accountId = accountId) →
      (entries.foldl (fun store entry =>
        (store.append
          { aggregateType := entry.1
            aggregateId := entry.2.1
            accountId
            expectedSequenceNumber :=
              (store.stream entry.1 entry.2.1).length + 1
            data := entry.2.2 }).2) store).Sequenced from
    general entries {} empty_sequenced (by simp)
  intro entries
  induction entries with
  | nil => exact fun store sequenced _ => sequenced
  | cons entry entries ih =>
      intro store sequenced own
      rw [List.foldl_cons]
      refine ih _ ?_ ?_
      · refine sequenced.append rfl (Nat.le_refl _) (Nat.succ_pos _) ?_
        exact fun event member => own event (mem_stream.mp member).1
      · intro event member
        rcases append_cases (Prod.mk.eta (p := store.append _)).symm with
          ⟨inserted, -, -, -, -, account, -, -, -, same⟩ | ⟨-, same⟩
        · rw [same] at member
          rcases List.mem_append.mp member with old | new
          · exact own event old
          · rw [List.mem_singleton.mp new, account]
        · rw [same] at member
          exact own event member

end EventStore

end FluxIP
