import FluxIP.Adapters.DeliveryStatus
import FluxIP.Adapters.Publishing
import FluxIP.Guarantees.DeliveryRows

/-!
# Status and history

The status of a delivery follows the last report of the agent, its row in the
history follows all of them.  They agree on the latest version exactly if no
report takes back what an earlier one has settled.
-/

namespace FluxIP

namespace DeliveryHistory

/-! ## The reports of an agent -/

/-- A version is published. -/
def isPublished (event : StoredEvent) : Bool :=
  (versionOf event).isSome

/-- A report that some version was applied. -/
def isSuccess (event : StoredEvent) : Bool :=
  (applied event).isSome

/-- A report, of either outcome. -/
def isReport (event : StoredEvent) : Bool :=
  (applied event).isSome || (applyFailed event).isSome

/-- A report that applying this version or a later one has failed. -/
def isFailedSince (version : Nat) (event : StoredEvent) : Bool :=
  (applyFailed event).any (version ≤ ·.version)

variable {events : List StoredEvent} {event report : StoredEvent}
variable {version : Nat}

/-- The version last reported as applied is this one or a later one. -/
def EndsApplied (events : List StoredEvent) (version : Nat) : Prop :=
  ∃ report, IsLast events isSuccess report ∧ isApplied version report = true

/-- The last report says that this version or a later one has failed. -/
def EndsFailed (events : List StoredEvent) (version : Nat) : Prop :=
  ∃ report, IsLast events isReport report ∧
    isFailedSince version report = true

/-- No report takes back what an earlier one has settled about the version:
what was applied once is applied in the last success, which no failure follows;
what never was is failed in the last report if it ever failed. -/
structure Undisputed (events : List StoredEvent) (version : Nat) : Prop where
  applied : (∃ other ∈ events, isApplied version other = true) →
    EndsApplied events version ∧ ¬ EndsFailed events version
  unapplied : (∀ other ∈ events, isApplied version other = false) →
    ((∃ other ∈ events, isApplyFailed version other = true) ↔
      EndsFailed events version)

/-! ## What the state keeps of them -/

/-- The part of a success that the state keeps. -/
def keptSuccess (data : TraefikProviderSnapshotAppliedData) : LastApplied where
  version := data.version
  correlationId := data.correlationId
  stale := data.stale
  files := data.files
  templates := data.templates
  traefikCheck := data.traefikCheck
  appliedAt := data.appliedAt

/-- The part of a failure that the state keeps. -/
def keptFailure (data : TraefikProviderSnapshotApplyFailedData) :
    LastApplyError :=
  ⟨data.version, data.correlationId, data.reason, data.appliedAt⟩

/-- What a step sets or leaves is as the last step that sets it has set it. -/
theorem foldl_last {State Event Value : Type} {step : State → Event → State}
    (field : State → Value) (sets : Event → Bool) (value : Event → Value)
    (isSet : ∀ state event, field (step state event) =
      if sets event = true then value event else field state)
    (state : State) (events : List Event) :
    field (events.foldl step state) =
      (((events.filter sets).getLast?).map value).getD (field state) := by
  induction events using List.reverseRecOn with
  | nil => rfl
  | append_singleton events event induction =>
      rw [List.foldl_append, List.foldl_cons, List.foldl_nil, isSet,
        List.filter_append, induction]
      by_cases here : sets event = true
      · simp [here]
      · simp [here]

variable {state : TraefikProviderState}

theorem reducer_published :
    (traefikProviderReducer state event).lastPublished.map (·.version) =
      if isPublished event = true then some event.sequenceNumber
      else state.lastPublished.map (·.version) := by
  cases shape : event.data with
  | traefikProvider data =>
      cases data with
      | agentDisconnected data =>
          simp only [traefikProviderReducer, isPublished, versionOf, shape]
          split
          · rfl
          · rfl
      | _ => simp [traefikProviderReducer, isPublished, versionOf, shape]
  | _ => simp [traefikProviderReducer, isPublished, versionOf, shape]

theorem reducer_success :
    (traefikProviderReducer state event).lastApplied =
      if isSuccess event = true then (applied event).map keptSuccess
      else state.lastApplied := by
  cases shape : event.data with
  | traefikProvider data =>
      cases data with
      | agentDisconnected data =>
          simp only [traefikProviderReducer, isSuccess, applied, shape]
          split
          · rfl
          · rfl
      | _ =>
          simp [traefikProviderReducer, isSuccess, applied, keptSuccess, shape]
  | _ => simp [traefikProviderReducer, isSuccess, applied, shape]

/-- A success clears the failure before it. -/
theorem reducer_failure :
    (traefikProviderReducer state event).lastApplyError =
      if isReport event = true then (applyFailed event).map keptFailure
      else state.lastApplyError := by
  cases shape : event.data with
  | traefikProvider data =>
      cases data with
      | agentDisconnected data =>
          simp only [traefikProviderReducer, isReport, applied, applyFailed,
            shape]
          split
          · rfl
          · rfl
      | _ =>
          simp [traefikProviderReducer, isReport, applied, applyFailed,
            keptFailure, shape]
  | _ => simp [traefikProviderReducer, isReport, applied, applyFailed, shape]

/-- The state keeps the version of the last publication. -/
theorem providerOf_published :
    (providerOf events).lastPublished.map (·.version) =
      ((events.filter isPublished).getLast?).map (·.sequenceNumber) := by
  refine (foldl_last (fun state => state.lastPublished.map (·.version))
    isPublished (fun event => some event.sequenceNumber)
    (fun _ _ => reducer_published) initialTraefikProviderState events).trans ?_
  cases (events.filter isPublished).getLast? with
  | none => rfl
  | some event => rfl

/-- The state keeps the last success. -/
theorem providerOf_success :
    (providerOf events).lastApplied =
      ((events.filter isSuccess).getLast?).bind
        fun report => (applied report).map keptSuccess := by
  refine (foldl_last (·.lastApplied) isSuccess
    (fun report => (applied report).map keptSuccess)
    (fun _ _ => reducer_success) initialTraefikProviderState events).trans ?_
  cases (events.filter isSuccess).getLast? with
  | none => rfl
  | some report => rfl

/-- The state keeps a failure as long as it is the last report. -/
theorem providerOf_failure :
    (providerOf events).lastApplyError =
      ((events.filter isReport).getLast?).bind
        fun report => (applyFailed report).map keptFailure := by
  refine (foldl_last (·.lastApplyError) isReport
    (fun report => (applyFailed report).map keptFailure)
    (fun _ _ => reducer_failure) initialTraefikProviderState events).trans ?_
  cases (events.filter isReport).getLast? with
  | none => rfl
  | some report => rfl

/-! ## The status of the latest version -/

/-- The events are those of a stream. -/
structure InStream (events : List StoredEvent) : Prop where
  ordered : Ordered events
  distinct : (events.map (·.sequenceNumber)).Nodup

variable {kind : StoredEvent → Bool} {other latest : StoredEvent}

theorem IsLast.unique (stream : InStream events)
    (first : IsLast events kind event) (second : IsLast events kind other) :
    event = other :=
  List.inj_on_of_nodup_map stream.distinct first.member second.member
    (Nat.le_antisymm (second.last event first.member first.ofKind)
      (first.last other second.member second.ofKind))

theorem getLast?_of_isLast (stream : InStream events)
    (isLast : IsLast events kind event) :
    (events.filter kind).getLast? = some event := by
  cases found : (events.filter kind).getLast? with
  | none =>
      have impossible := isLast.ofKind
      rw [none_of_getLast? found event isLast.member] at impossible
      cases impossible
  | some other =>
      have isOther := isLast_of_getLast? stream.ordered found
      rw [isOther.unique stream isLast]

/-- What holds of the last event of a kind. -/
theorem any_getLast? (stream : InStream events) {holds : StoredEvent → Bool} :
    ((events.filter kind).getLast?).any holds = true ↔
      ∃ event, IsLast events kind event ∧ holds event = true := by
  constructor
  · intro found
    obtain ⟨event, last, isHeld⟩ := (Option.any_eq_true _ _).mp found
    exact ⟨event, isLast_of_getLast? stream.ordered last, isHeld⟩
  · intro found
    obtain ⟨event, isLast, isHeld⟩ := found
    rw [getLast?_of_isLast stream isLast]
    exact isHeld

theorem providerOf_endsApplied (stream : InStream events) :
    (providerOf events).lastApplied.any (version ≤ ·.version) = true ↔
      EndsApplied events version := by
  refine Iff.trans ?_ (any_getLast? stream)
  rw [providerOf_success]
  cases (events.filter isSuccess).getLast? with
  | none => rfl
  | some report =>
      rw [Option.bind_some, Option.any_map]
      rfl

theorem providerOf_endsFailed (stream : InStream events) :
    (providerOf events).lastApplyError.any (version ≤ ·.version) = true ↔
      EndsFailed events version := by
  refine Iff.trans ?_ (any_getLast? stream)
  rw [providerOf_failure]
  cases (events.filter isReport).getLast? with
  | none => rfl
  | some report =>
      rw [Option.bind_some, Option.any_map]
      rfl

/-- The status while the agent is connected and the action enabled. -/
inductive StatusIs (events : List StoredEvent) (version : Nat) :
    DeliveryStatus → Prop where
  | error : EndsFailed events version → StatusIs events version .error
  | applied : ¬ EndsFailed events version → EndsApplied events version →
      StatusIs events version .applied
  | pending : ¬ EndsFailed events version → ¬ EndsApplied events version →
      StatusIs events version .pending

theorem status_is (processStartedAt now : Timestamp)
    (stream : InStream events) (isLatest : IsLast events isPublished latest) :
    StatusIs events latest.sequenceNumber
      (deriveDeliveryStatus processStartedAt (providerOf events) true true
        now) := by
  have last := getLast?_of_isLast stream isLatest
  have kept : (providerOf events).lastPublished.map (·.version) =
      some latest.sequenceNumber := by
    rw [providerOf_published, last, Option.map_some]
  obtain ⟨published, isKept, version⟩ := Option.map_eq_some_iff.mp kept
  simp only [deriveDeliveryStatus, deriveConnectionState, isKept, version,
    Bool.not_true, Bool.false_eq_true, if_true, if_false, ne_eq,
    not_true_eq_false]
  by_cases fails : EndsFailed events latest.sequenceNumber
  · rw [if_pos ((providerOf_endsFailed stream).mpr fails)]
    exact .error fails
  · rw [if_neg (mt (providerOf_endsFailed stream).mp fails)]
    by_cases applies : EndsApplied events latest.sequenceNumber
    · rw [if_pos ((providerOf_endsApplied stream).mpr applies)]
      exact .applied fails applies
    · rw [if_neg (mt (providerOf_endsApplied stream).mp applies)]
      exact .pending fails applies

/-! ## Its row -/

/-- The stage the history gives the delivered row of a version. -/
def StageIs (rows : List TraefikDelivery) (version : Nat)
    (stage : DeliveryStage) : Prop :=
  ∃ row ∈ rows, row.kind = .delivered ∧ row.version = some version ∧
    row.stage = some stage

/-- Status and history say the same about a version. -/
structure Agree (status : DeliveryStatus) (rows : List TraefikDelivery)
    (version : Nat) : Prop where
  applied : status = .applied ↔ StageIs rows version .applied
  error : status = .error ↔ StageIs rows version .failed
  pending : status = .pending ↔ StageIs rows version .published

/-- The status that goes with a stage. -/
def statusOf : DeliveryStage → DeliveryStatus
  | .applied => .applied
  | .failed => .error
  | .published => .pending

variable {status : DeliveryStatus} {stage : DeliveryStage}
variable {atTime : Timestamp} {error : Option String}
variable {action : DeliveryActionRef} {provider : DeliveryProvider}
variable {data : TraefikProviderSnapshotPublishedData}

theorem stageIs_deliveredRow {reached : DeliveryStage} :
    StageIs [deliveredRow action provider (some version) reached atTime error]
        version stage ↔ reached = stage := by
  simp [StageIs, deliveredRow]

theorem agree_deliveredRow :
    Agree status
        [deliveredRow action provider (some version) stage atTime error]
        version ↔ status = statusOf stage := by
  constructor
  · intro agree
    cases stage with
    | published => exact agree.pending.mpr (stageIs_deliveredRow.mpr rfl)
    | applied => exact agree.applied.mpr (stageIs_deliveredRow.mpr rfl)
    | failed => exact agree.error.mpr (stageIs_deliveredRow.mpr rfl)
  · intro same
    subst same
    constructor
    · rw [stageIs_deliveredRow]
      cases stage <;> decide
    · rw [stageIs_deliveredRow]
      cases stage <;> decide
    · rw [stageIs_deliveredRow]
      cases stage <;> decide

/-! ## When they agree -/

theorem undisputed_of_applied
    (someApplied : ∃ other ∈ events, isApplied version other = true) :
    Undisputed events version ↔
      EndsApplied events version ∧ ¬ EndsFailed events version := by
  constructor
  · intro undisputed
    exact undisputed.applied someApplied
  · intro ends
    refine ⟨fun _ => ends, ?_⟩
    intro unapplied
    obtain ⟨other, member, applied⟩ := someApplied
    rw [unapplied other member] at applied
    cases applied

theorem undisputed_of_unapplied
    (unapplied : ∀ other ∈ events, isApplied version other = false) :
    Undisputed events version ↔
      ((∃ other ∈ events, isApplyFailed version other = true) ↔
        EndsFailed events version) := by
  constructor
  · intro undisputed
    exact undisputed.unapplied unapplied
  · intro ends
    refine ⟨?_, fun _ => ends⟩
    intro someApplied
    obtain ⟨other, member, applied⟩ := someApplied
    rw [unapplied other member] at applied
    cases applied

theorem StatusIs.error_iff (is : StatusIs events version status) :
    status = .error ↔ EndsFailed events version := by
  cases is with
  | error fails => exact iff_of_true rfl fails
  | applied unfailed => exact iff_of_false nofun unfailed
  | pending unfailed => exact iff_of_false nofun unfailed

theorem StatusIs.applied_iff (is : StatusIs events version status) :
    status = .applied ↔
      EndsApplied events version ∧ ¬ EndsFailed events version := by
  cases is with
  | error fails => exact iff_of_false nofun fun both => both.2 fails
  | applied unfailed applies => exact iff_of_true rfl ⟨applies, unfailed⟩
  | pending _ unapplies => exact iff_of_false nofun fun both => unapplies both.1

/-- As long as nothing applied the version it is pending unless it failed. -/
theorem StatusIs.pending_iff (is : StatusIs events version status)
    (unapplied : ∀ other ∈ events, isApplied version other = false) :
    status = .pending ↔ ¬ EndsFailed events version := by
  cases is with
  | error fails => exact iff_of_false nofun fun unfailed => unfailed fails
  | applied _ applies =>
      obtain ⟨report, isLast, applied⟩ := applies
      rw [unapplied report isLast.member] at applied
      cases applied
  | pending unfailed => exact iff_of_true rfl unfailed

theorem StatusIs.mirrors (is : StatusIs events event.sequenceNumber status)
    (reaches : Reaches events event data stage atTime error) :
    status = statusOf stage ↔ Undisputed events event.sequenceNumber := by
  cases reaches with
  | applied isFirst isDone =>
      rw [undisputed_of_applied ⟨_, isFirst.member, isFirst.ofKind⟩]
      exact is.applied_iff
  | failed unapplied isLast isFailure =>
      have failed : ∃ other ∈ events,
          isApplyFailed event.sequenceNumber other = true :=
        ⟨_, isLast.member, isLast.ofKind⟩
      rw [undisputed_of_unapplied unapplied, iff_true_left failed]
      exact is.error_iff
  | published unapplied unfailed =>
      have notFailed : ¬ ∃ other ∈ events,
          isApplyFailed event.sequenceNumber other = true := by
        intro failed
        obtain ⟨other, member, failed⟩ := failed
        rw [unfailed other member] at failed
        cases failed
      rw [undisputed_of_unapplied unapplied, iff_false_left notFailed]
      exact is.pending_iff unapplied

/-- A row that another publication decides says nothing of the version. -/
theorem Proves.elsewhere (stream : InStream provider.events)
    {row : TraefikDelivery} {change : Id} (member : latest ∈ provider.events)
    (later : ¬ IsLast provider.events (isCausedBy change) latest)
    (proves : Proves action provider change row)
    (delivered : row.kind = .delivered) :
    row.version ≠ some latest.sequenceNumber := by
  cases proves with
  | published isLast =>
      intro same
      have sameEvent := List.inj_on_of_nodup_map stream.distinct isLast.member
        member (Option.some.inj same)
      rw [sameEvent] at isLast
      exact later isLast
  | publishFailed => nofun
  | combined => cases delivered

/-- Without a publication no row has a version. -/
theorem Proves.unpublished {row : TraefikDelivery} {change : Id}
    (unpublished : ∀ other ∈ provider.events, isPublished other = false)
    (proves : Proves action provider change row) : row.version = none := by
  cases proves with
  | published isLast shape =>
      have impossible := unpublished _ isLast.member
      simp [isPublished, versionOf, shape] at impossible
  | publishFailed => rfl
  | combined _ isLast =>
      have notPublished := unpublished _ isLast.member
      exact Option.isNone_iff_eq_none.mp
        (Option.isSome_eq_false_iff.mp notPublished)

/-- The status is one of those the history has a stage for. -/
theorem Agree.row {rows : List TraefikDelivery}
    (is : StatusIs events version status) (agree : Agree status rows version) :
    ∃ row ∈ rows, row.kind = .delivered ∧ row.version = some version := by
  have found : ∃ stage, StageIs rows version stage := by
    cases is with
    | error => exact ⟨_, agree.error.mp rfl⟩
    | applied => exact ⟨_, agree.applied.mp rfl⟩
    | pending => exact ⟨_, agree.pending.mp rfl⟩
  obtain ⟨stage, row, member, delivered, isVersion, -⟩ := found
  exact ⟨row, member, delivered, isVersion⟩

/-- The latest version's own change has a row for it. -/
theorem rowFor_of_latest (stream : InStream provider.events)
    (shape : latest.data = .traefikProvider (.snapshotPublished data))
    (isLast : IsLast provider.events (isCausedBy data.correlationId) latest) :
    ∃ stage atTime error,
      rowFor action provider data.correlationId =
        some (deliveredRow action provider (some latest.sequenceNumber) stage
          atTime error) ∧
      Reaches provider.events latest data stage atTime error := by
  have named : IsNamed provider.events data.correlationId :=
    ⟨latest, isLast.member, .inl isLast.ofKind⟩
  have isSome : (rowFor action provider data.correlationId).isSome = true :=
    rowFor_isSome.mpr named
  obtain ⟨row, found⟩ := Option.isSome_iff_exists.mp isSome
  cases rowFor_proves found with
  | @published event data' stage atTime error isLast' shape' reaches =>
      cases isLast.unique stream isLast'
      rw [shape] at shape'
      cases shape'
      exact ⟨stage, atTime, error, found, reaches⟩
  | publishFailed isLast' shape' =>
      cases isLast.unique stream isLast'
      rw [shape] at shape'
      cases shape'
  | combined uncaused =>
      have impossible := isLast.ofKind
      rw [uncaused latest isLast.member] at impossible
      cases impossible

/-- Nothing of the kind follows. -/
theorem isLast_iff (member : event ∈ events) (ofKind : kind event = true) :
    IsLast events kind event ↔
      ∀ other ∈ events, event.sequenceNumber < other.sequenceNumber →
        kind other = false := by
  constructor
  · intro isLast other isOther later
    by_contra otherKind
    have notLater := isLast.last other isOther (Bool.not_eq_false _ ▸ otherKind)
    omega
  · intro noneLater
    refine ⟨member, ofKind, ?_⟩
    intro other isOther otherKind
    by_contra later
    rw [noneLater other isOther (Nat.lt_of_not_le later)] at otherKind
    cases otherKind

/-- The latest version of a provider. -/
theorem agree_iff (processStartedAt now : Timestamp)
    (stream : InStream provider.events)
    (isLatest : IsLast provider.events isPublished latest)
    (shape : latest.data = .traefikProvider (.snapshotPublished data)) :
    Agree
        (deriveDeliveryStatus processStartedAt (providerOf provider.events)
          true true now)
        (rowFor action provider data.correlationId).toList
        latest.sequenceNumber ↔
      (∀ other ∈ provider.events,
        latest.sequenceNumber < other.sequenceNumber →
        isCausedBy data.correlationId other = false) ∧
      Undisputed provider.events latest.sequenceNumber := by
  have is := status_is processStartedAt now stream isLatest
  have causes : isCausedBy data.correlationId latest = true := by
    simp [isCausedBy, publication, shape]
  rw [← isLast_iff isLatest.member causes]
  by_cases isLast : IsLast provider.events (isCausedBy data.correlationId)
      latest
  · obtain ⟨stage, atTime, error, found, reaches⟩ :=
      @rowFor_of_latest latest action provider data stream shape isLast
    rw [and_iff_right isLast, found, ← is.mirrors reaches]
    exact agree_deliveredRow
  · refine iff_of_false ?_ fun both => isLast both.1
    intro agree
    obtain ⟨row, isRow, delivered, version⟩ := agree.row is
    exact (rowFor_proves (Option.mem_toList.mp isRow)).elsewhere stream
      isLatest.member isLast delivered version

/-- Without a publication the status is pending. -/
theorem status_unpublished (processStartedAt now : Timestamp)
    (unpublished : ∀ other ∈ events, isPublished other = false) :
    deriveDeliveryStatus processStartedAt (providerOf events) true true now =
      .pending := by
  have empty : events.filter isPublished = [] :=
    List.filter_eq_nil_iff.mpr fun other member => by
      simp [unpublished other member]
  have kept : (providerOf events).lastPublished.map (·.version) = none := by
    rw [providerOf_published, empty]
    rfl
  have nothing := Option.map_eq_none_iff.mp kept
  simp [deriveDeliveryStatus, deriveConnectionState, nothing]

end DeliveryHistory

open DeliveryHistory

/-- While the agent is connected and the action enabled, the status of the
latest version is the stage of its row exactly if no later publication failed
for the same change and no report takes back what an earlier one has settled. -/
theorem status_agrees_with_history (processStartedAt now : Timestamp)
    (changeIds : List Id) (actions : List DeliveryActionRef)
    (providers : List (Id × DeliveryProvider))
    (distinctActions : (actions.map (·.actionId)).Nodup)
    (action : DeliveryActionRef) (member : action ∈ actions)
    (provider : DeliveryProvider)
    (known : getEntry action.traefikProviderId providers = some provider)
    (stream : InStream provider.events) :
    (∀ latest data, IsLast provider.events isPublished latest →
      latest.data = .traefikProvider (.snapshotPublished data) →
      data.correlationId ∈ changeIds →
      (Agree
          (deriveDeliveryStatus processStartedAt (providerOf provider.events)
            true true now)
          (rowsAbout (deriveDeliveries changeIds actions providers)
            data.correlationId action.actionId)
          latest.sequenceNumber ↔
        (∀ other ∈ provider.events,
          latest.sequenceNumber < other.sequenceNumber →
          isCausedBy data.correlationId other = false) ∧
        Undisputed provider.events latest.sequenceNumber)) ∧
    ((∀ other ∈ provider.events, isPublished other = false) →
      deriveDeliveryStatus processStartedAt (providerOf provider.events) true
        true now = .pending ∧
      ∀ change ∈ changeIds,
        ∀ row ∈ rowsAbout (deriveDeliveries changeIds actions providers) change
          action.actionId, row.version = none) := by
  have rows : ∀ change ∈ changeIds,
      rowsAbout (deriveDeliveries changeIds actions providers) change
        action.actionId = (rowFor action provider change).toList := by
    intro change listed
    rw [rowsAbout_eq listed distinctActions member]
    unfold rowIn
    rw [known, Option.bind_some]
  constructor
  · intro latest data isLatest shape listed
    rw [rows _ listed]
    exact agree_iff processStartedAt now stream isLatest shape
  · intro unpublished
    refine ⟨status_unpublished processStartedAt now unpublished, ?_⟩
    intro change listed row isRow
    rw [rows change listed] at isRow
    exact (rowFor_proves (Option.mem_toList.mp isRow)).unpublished unpublished

/-- Version 1 is published. -/
def awaited : DeliveryProvider :=
  ⟨some "home", [publishedFor 1 7 []]⟩

/-- Nothing is reported yet. -/
theorem status_agrees_with_history_awaited :
    Agree (deriveDeliveryStatus 0 (providerOf awaited.events) true true 2)
      (rowsAbout (deriveDeliveries [7] [exampleRef] [(10, awaited)]) 7 30)
      1 := by
  have stream : InStream awaited.events :=
    ⟨List.pairwise_singleton _ _, List.nodup_singleton _⟩
  have isLatest : IsLast awaited.events isPublished (publishedFor 1 7 []) := by
    refine ⟨List.mem_cons_self, rfl, ?_⟩
    intro other member _
    rw [List.mem_singleton.mp member]
  refine ((status_agrees_with_history 0 2 [7] [exampleRef] [(10, awaited)]
    (by decide) exampleRef (by decide) awaited rfl stream).1 _ _ isLatest rfl
    (by decide)).mpr ⟨by decide, ?_⟩
  refine (undisputed_of_unapplied (by decide)).mpr (iff_of_false (by decide) ?_)
  intro fails
  obtain ⟨report, isLast, -⟩ := fails
  have impossible := isLast.ofKind
  rw [List.mem_singleton.mp isLast.member] at impossible
  cases impossible

/-! ## A failure after a success -/

/-- Version 1 is published and applied, then applying it again fails. -/
def failedAgain : DeliveryProvider :=
  ⟨some "home", [publishedFor 1 7 [], appliedBy 2 1, applyFailedBy 3 1]⟩

/-- The history keeps the success, the status does not. -/
theorem failure_after_success_disagrees :
    InStream failedAgain.events ∧
    IsLast failedAgain.events isPublished (publishedFor 1 7 []) ∧
    deriveDeliveryStatus 0 (providerOf failedAgain.events) true true 4 =
      .error ∧
    StageIs (rowsAbout (deriveDeliveries [7] [exampleRef] [(10, failedAgain)])
      7 30) 1 .applied ∧
    ¬ Agree (deriveDeliveryStatus 0 (providerOf failedAgain.events) true true 4)
      (rowsAbout (deriveDeliveries [7] [exampleRef] [(10, failedAgain)]) 7 30)
      1 := by
  have stage : StageIs (rowsAbout (deriveDeliveries [7] [exampleRef]
      [(10, failedAgain)]) 7 30) 1 .applied :=
    ⟨_, List.mem_cons_self, rfl, rfl, rfl⟩
  refine ⟨?_, ?_, by decide, stage, ?_⟩
  · constructor
    · unfold Ordered
      decide
    · decide
  · refine ⟨List.mem_cons_self, rfl, ?_⟩
    decide
  · intro agree
    have applied := agree.applied.mpr stage
    revert applied
    decide

end FluxIP
