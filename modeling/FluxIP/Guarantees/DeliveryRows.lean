import FluxIP.Domain.DeliveryHistory
import FluxIP.Domain.SnapshotContent

/-!
# What the delivery rows say

A change has a row for an action exactly if a publication of the action's
provider names it.  Which event decides the row, and how far its snapshot has
come, are said by the order of the stream alone.
-/

namespace FluxIP

namespace DeliveryHistory

/-! ## First and last events -/

/-- The first of the events of this kind. -/
structure IsFirst (events : List StoredEvent) (kind : StoredEvent → Bool)
    (event : StoredEvent) : Prop where
  member : event ∈ events
  ofKind : kind event = true
  first : ∀ other ∈ events, kind other = true →
    event.sequenceNumber ≤ other.sequenceNumber

/-- The last of the events of this kind. -/
structure IsLast (events : List StoredEvent) (kind : StoredEvent → Bool)
    (event : StoredEvent) : Prop where
  member : event ∈ events
  ofKind : kind event = true
  last : ∀ other ∈ events, kind other = true →
    other.sequenceNumber ≤ event.sequenceNumber

/-! ## What an event says -/

/-- The change a publication was made for, and those that went into it. -/
structure Publication where
  correlationId : Id
  absorbedCausationIds : List Id

/-- Successful or not. -/
def publication (event : StoredEvent) : Option Publication :=
  match event.data with
  | .traefikProvider (.snapshotPublished data) =>
      some ⟨data.correlationId, data.absorbedCausationIds⟩
  | .traefikProvider (.snapshotPublishFailed data) =>
      some ⟨data.correlationId, data.absorbedCausationIds⟩
  | _ => none

/-- The event names the change as its correlation id. -/
def isCausedBy (change : Id) (event : StoredEvent) : Bool :=
  (publication event).any (·.correlationId = change)

/-- The event names the change among those it absorbed. -/
def isAbsorbing (change : Id) (event : StoredEvent) : Bool :=
  (publication event).any (change ∈ ·.absorbedCausationIds)

/-- A report that this version or a later one was applied. -/
def isApplied (version : Nat) (event : StoredEvent) : Bool :=
  (applied event).any (version ≤ ·.version)

/-- A report that applying this version has failed. -/
def isApplyFailed (version : Nat) (event : StoredEvent) : Bool :=
  (applyFailed event).any (·.version = version)

/-- The version of a publication, if it has one. -/
def versionOf (event : StoredEvent) : Option Nat :=
  match event.data with
  | .traefikProvider (.snapshotPublished _) => some event.sequenceNumber
  | _ => none

/-! ## What the events prove -/

/-- The row of a change that an event was published for. -/
def deliveredRow (action : DeliveryActionRef) (provider : DeliveryProvider)
    (version : Option Nat) (stage : DeliveryStage) (atTime : Timestamp)
    (error : Option String) : TraefikDelivery where
  actionId := action.actionId
  traefikProviderId := action.traefikProviderId
  providerName := provider.name
  group := action.group
  kind := .delivered
  stage := some stage
  atTime := some atTime
  error
  version

/-- How far the published snapshot has come that decides the row. -/
inductive Reaches (events : List StoredEvent) (event : StoredEvent)
    (data : TraefikProviderSnapshotPublishedData) :
    DeliveryStage → Timestamp → Option String → Prop where
  | applied {report done} :
      IsFirst events (isApplied event.sequenceNumber) report →
      DeliveryHistory.applied report = some done →
      Reaches events event data .applied done.appliedAt none
  | failed {report failure} :
      (∀ other ∈ events, isApplied event.sequenceNumber other = false) →
      IsLast events (isApplyFailed event.sequenceNumber) report →
      applyFailed report = some failure →
      Reaches events event data .failed failure.appliedAt (some failure.reason)
  | published :
      (∀ other ∈ events, isApplied event.sequenceNumber other = false) →
      (∀ other ∈ events, isApplyFailed event.sequenceNumber other = false) →
      Reaches events event data .published data.publishedAt none

/-- The row that the events of the provider prove for the change. -/
inductive Proves (action : DeliveryActionRef) (provider : DeliveryProvider)
    (change : Id) : TraefikDelivery → Prop where
  | published {event data stage atTime error} :
      IsLast provider.events (isCausedBy change) event →
      event.data = .traefikProvider (.snapshotPublished data) →
      Reaches provider.events event data stage atTime error →
      Proves action provider change (deliveredRow action provider
        (some event.sequenceNumber) stage atTime error)
  | publishFailed {event data} :
      IsLast provider.events (isCausedBy change) event →
      event.data = .traefikProvider (.snapshotPublishFailed data) →
      Proves action provider change (deliveredRow action provider none .failed
        data.failedAt (some data.reason.code))
  | combined {event} :
      (∀ other ∈ provider.events, isCausedBy change other = false) →
      IsLast provider.events (isAbsorbing change) event →
      Proves action provider change
        (combinedRow action provider (versionOf event))

/-! ## The loop over the events -/

variable {changeIds : List Id} {change : Id} {action : DeliveryActionRef}
variable {provider : DeliveryProvider} {events seen : List StoredEvent}
variable {event : StoredEvent} {rows : List (Id × TraefikDelivery)}
variable {own combined row : TraefikDelivery}

/-- A row that combines does not replace one that was delivered. -/
theorem getEntry_put {target : Id} (listed : change ∈ changeIds) :
    getEntry change (put changeIds rows target row) =
      if target = change ∧ ¬ ((getEntry change rows).any
          (·.kind = .delivered) = true ∧ row.kind = .combined) then some row
      else getEntry change rows := by
  unfold put
  by_cases here : target = change
  · subst here
    rw [if_pos listed]
    by_cases keeps : (getEntry target rows).any (·.kind = .delivered) = true ∧
        row.kind = .combined
    · rw [if_pos keeps, if_neg (fun both => both.2 keeps)]
    · rw [if_neg keeps, if_pos ⟨rfl, keeps⟩, getEntry_setEntry, if_pos rfl]
  · have elsewhere : getEntry change (setEntry target row rows) =
        getEntry change rows := by
      rw [getEntry_setEntry, if_neg here]
    simp only [here, false_and, if_false]
    split
    · split
      · rfl
      · exact elsewhere
    · rfl

theorem getEntry_absorb {absorbed : List Id} (listed : change ∈ changeIds)
    (isCombined : combined.kind = .combined) :
    getEntry change (absorbed.foldl
        (fun rows id => put changeIds rows id combined) rows) =
      if change ∈ absorbed ∧
        (getEntry change rows).any (·.kind = .delivered) = false
      then some combined else getEntry change rows := by
  induction absorbed generalizing rows with
  | nil => simp
  | cons target absorbed induction =>
      rw [List.foldl_cons, induction, getEntry_put listed]
      by_cases here : target = change
      · subst here
        cases held : (getEntry target rows).any (·.kind = .delivered) with
        | true => simp [isCombined, held]
        | false => simp [isCombined]
      · have later : change ∈ target :: absorbed ↔ change ∈ absorbed := by
          simp [Ne.symm here]
        simp only [here, false_and, if_false, later]

/-- One publication puts one row for each change it names. -/
theorem getEntry_putAll {correlationId : Id} {absorbed : List Id}
    (listed : change ∈ changeIds) (isDelivered : own.kind = .delivered)
    (isCombined : combined.kind = .combined) :
    getEntry change (putAll changeIds rows correlationId own absorbed
        combined) =
      if correlationId = change then some own
      else if change ∈ absorbed ∧
        (getEntry change rows).any (·.kind = .delivered) = false
      then some combined else getEntry change rows := by
  unfold putAll
  rw [getEntry_absorb listed isCombined, getEntry_put listed]
  by_cases here : correlationId = change
  · simp [here, isDelivered]
  · simp [here]

/-- The row of the change a publication was made for. -/
def ownRow (action : DeliveryActionRef) (provider : DeliveryProvider)
    (events : List StoredEvent) (event : StoredEvent) : TraefikDelivery :=
  match event.data with
  | .traefikProvider (.snapshotPublished data) =>
      stageOf events event.sequenceNumber data.publishedAt
        (combinedRow action provider (some event.sequenceNumber))
  | .traefikProvider (.snapshotPublishFailed data) =>
      deliveredRow action provider none .failed data.failedAt
        (some data.reason.code)
  | _ => combinedRow action provider none

theorem record_of_publication {named : Publication}
    (isPublication : publication event = some named) :
    record changeIds action provider events rows event =
      putAll changeIds rows named.correlationId
        (ownRow action provider events event) named.absorbedCausationIds
        (combinedRow action provider (versionOf event)) := by
  unfold publication at isPublication
  split at isPublication
  · rename_i data isPublished
    cases isPublication
    simp only [record, ownRow, versionOf, isPublished]
  · rename_i data isFailed
    cases isPublication
    simp only [record, ownRow, versionOf, isFailed]
    rfl
  · cases isPublication

theorem stageOf_kind {version : Nat} {publishedAt : Timestamp} :
    (stageOf events version publishedAt row).kind = .delivered := by
  unfold stageOf
  split
  · rfl
  · split
    · rfl
    · rfl

theorem ownRow_kind {named : Publication}
    (isPublication : publication event = some named) :
    (ownRow action provider events event).kind = .delivered := by
  unfold publication at isPublication
  split at isPublication
  · rename_i data isPublished
    simp only [ownRow, isPublished]
    exact stageOf_kind
  · rename_i data isFailed
    simp only [ownRow, isFailed]
    rfl
  · cases isPublication

theorem record_of_other (other : publication event = none) :
    record changeIds action provider events rows event = rows := by
  unfold record
  split
  · rename_i data isPublished
    simp [publication, isPublished] at other
  · rename_i data isFailed
    simp [publication, isFailed] at other
  · rfl

/-- The row of a change after these events: that of the last one it caused,
else of the last one that absorbed it. -/
def rowAfter (action : DeliveryActionRef) (provider : DeliveryProvider)
    (events : List StoredEvent) (change : Id) (seen : List StoredEvent) :
    Option TraefikDelivery :=
  match (seen.filter (isCausedBy change)).getLast? with
  | some event => some (ownRow action provider events event)
  | none => ((seen.filter (isAbsorbing change)).getLast?).map fun event =>
      combinedRow action provider (versionOf event)

/-- The rows that are replaced by no other are those of causes. -/
theorem rowAfter_delivered :
    (rowAfter action provider events change seen).any (·.kind = .delivered) =
      ((seen.filter (isCausedBy change)).getLast?).isSome := by
  unfold rowAfter
  cases last : (seen.filter (isCausedBy change)).getLast? with
  | none =>
      cases absorbing : (seen.filter (isAbsorbing change)).getLast? with
      | none => rfl
      | some event => rfl
  | some event =>
      have member := List.mem_of_getLast? last
      obtain ⟨-, causes⟩ := List.mem_filter.mp member
      obtain ⟨named, isPublication, -⟩ := (Option.any_eq_true _ _).mp causes
      simp [ownRow_kind isPublication]

theorem rowAfter_concat {named : Publication}
    (isPublication : publication event = some named) :
    rowAfter action provider events change (seen ++ [event]) =
      if named.correlationId = change then
        some (ownRow action provider events event)
      else if change ∈ named.absorbedCausationIds ∧
        (rowAfter action provider events change seen).any
          (·.kind = .delivered) = false
      then some (combinedRow action provider (versionOf event))
      else rowAfter action provider events change seen := by
  rw [rowAfter_delivered]
  unfold rowAfter
  by_cases causes : named.correlationId = change
  · simp [List.filter_append, isCausedBy, isPublication, causes]
  · by_cases absorbs : change ∈ named.absorbedCausationIds
    · cases last : (seen.filter (isCausedBy change)).getLast? with
      | none =>
          simp [List.filter_append, isCausedBy, isAbsorbing, isPublication,
            causes, absorbs, last]
      | some cause =>
          simp [List.filter_append, isCausedBy, isAbsorbing, isPublication,
            causes, absorbs, last]
    · simp [List.filter_append, isCausedBy, isAbsorbing, isPublication,
        causes, absorbs]

theorem rowAfter_other (other : publication event = none) :
    rowAfter action provider events change (seen ++ [event]) =
      rowAfter action provider events change seen := by
  simp [rowAfter, List.filter_append, isCausedBy, isAbsorbing, other]

/-- What the loop has recorded of a change. -/
theorem getEntry_recorded (listed : change ∈ changeIds) :
    getEntry change (seen.foldl (record changeIds action provider events) []) =
      rowAfter action provider events change seen := by
  induction seen using List.reverseRecOn with
  | nil => rfl
  | append_singleton seen event induction =>
      rw [List.foldl_append, List.foldl_cons, List.foldl_nil]
      cases isPublication : publication event with
      | none =>
          rw [record_of_other isPublication, rowAfter_other isPublication]
          exact induction
      | some named =>
          rw [record_of_publication isPublication, getEntry_putAll listed
            (ownRow_kind isPublication) rfl, induction,
            rowAfter_concat isPublication]

/-! ## In the order of the stream -/

/-- The events in the order of their stream. -/
def Ordered (events : List StoredEvent) : Prop :=
  events.Pairwise fun first second =>
    first.sequenceNumber ≤ second.sequenceNumber

variable {kind : StoredEvent → Bool} {version : Nat}

theorem isLast_of_getLast? (ordered : Ordered events)
    (found : (events.filter kind).getLast? = some event) :
    IsLast events kind event := by
  obtain ⟨before, split⟩ := List.getLast?_eq_some_iff.mp found
  have member : event ∈ events.filter kind := by
    rw [split]
    exact List.mem_append_right _ List.mem_cons_self
  obtain ⟨isMember, ofKind⟩ := List.mem_filter.mp member
  refine ⟨isMember, ofKind, ?_⟩
  intro other isOther otherKind
  have among : other ∈ before ++ [event] := by
    rw [← split]
    exact List.mem_filter.mpr ⟨isOther, otherKind⟩
  have sorted : Ordered (before ++ [event]) := by
    rw [← split]
    exact ordered.filter kind
  rcases List.mem_append.mp among with earlier | here
  · exact (List.pairwise_append.mp sorted).2.2 other earlier event
      List.mem_cons_self
  · rw [List.mem_singleton.mp here]

theorem none_of_getLast? (found : (events.filter kind).getLast? = none) :
    ∀ other ∈ events, kind other = false := by
  intro other isOther
  have empty := List.getLast?_eq_none_iff.mp found
  simpa using List.filter_eq_nil_iff.mp empty other isOther

theorem isFirst_of_find? (ordered : Ordered events)
    (found : events.find? kind = some event) : IsFirst events kind event := by
  obtain ⟨ofKind, before, after, split, others⟩ :=
    List.find?_eq_some_iff_append.mp found
  subst split
  refine ⟨List.mem_append_right _ List.mem_cons_self, ofKind, ?_⟩
  intro other isOther otherKind
  rcases List.mem_append.mp isOther with earlier | later
  · exact absurd otherKind (by simpa using others other earlier)
  · rcases List.mem_cons.mp later with here | later
    · rw [here]
    · exact (List.pairwise_cons.mp
        (List.pairwise_append.mp ordered).2.1).1 other later

theorem getLast?_filterMap_filter {α β : Type} (f : α → Option β)
    (holds : β → Bool) (items : List α) :
    ((items.filterMap f).filter holds).getLast? =
      ((items.filter fun item => (f item).any holds).getLast?).bind f := by
  rw [List.getLast?_filter, ← List.filterMap_reverse, List.find?_filterMap,
    List.getLast?_filter]

/-! ## The stage of a row -/

variable {data : TraefikProviderSnapshotPublishedData}

/-- The reports that decide the stage of a version. -/
theorem stageOf_eq {publishedAt : Timestamp} :
    stageOf events version publishedAt row =
      match (events.find? (isApplied version)).bind applied with
      | some done =>
          { row with
            kind := .delivered
            stage := some .applied
            atTime := some done.appliedAt }
      | none =>
          match ((events.filter (isApplyFailed version)).getLast?).bind
              applyFailed with
          | some failed =>
              { row with
                kind := .delivered
                stage := some .failed
                atTime := some failed.appliedAt
                error := some failed.reason }
          | none =>
              { row with
                kind := .delivered
                stage := some .published
                atTime := some publishedAt } := by
  unfold stageOf
  rw [List.find?_filterMap, getLast?_filterMap_filter]
  rfl

theorem stageOf_reaches (ordered : Ordered events) :
    ∃ stage atTime error,
      stageOf events event.sequenceNumber data.publishedAt
          (combinedRow action provider (some event.sequenceNumber)) =
        deliveredRow action provider (some event.sequenceNumber) stage atTime
          error ∧
      Reaches events event data stage atTime error := by
  rw [stageOf_eq]
  cases first : events.find? (isApplied event.sequenceNumber) with
  | some report =>
      have isFirst := isFirst_of_find? ordered first
      obtain ⟨done, isDone, -⟩ := (Option.any_eq_true _ _).mp isFirst.ofKind
      refine ⟨.applied, done.appliedAt, none, ?_, .applied isFirst isDone⟩
      rw [Option.bind_some, isDone]
      rfl
  | none =>
      have unapplied : ∀ other ∈ events,
          isApplied event.sequenceNumber other = false := by
        intro other isOther
        simpa using List.find?_eq_none.mp first other isOther
      cases last : (events.filter
          (isApplyFailed event.sequenceNumber)).getLast? with
      | some report =>
          have isLast := isLast_of_getLast? ordered last
          obtain ⟨failure, isFailure, -⟩ :=
            (Option.any_eq_true _ _).mp isLast.ofKind
          refine ⟨.failed, failure.appliedAt, some failure.reason, ?_,
            .failed unapplied isLast isFailure⟩
          rw [Option.bind_none, Option.bind_some, isFailure]
          rfl
      | none =>
          exact ⟨.published, data.publishedAt, none, rfl,
            .published unapplied (none_of_getLast? last)⟩

/-! ## The rows of an action -/

/-- The same events in any order. -/
theorem IsFirst.of_perm {others : List StoredEvent}
    (isFirst : IsFirst events kind event) (same : events.Perm others) :
    IsFirst others kind event where
  member := same.mem_iff.mp isFirst.member
  ofKind := isFirst.ofKind
  first := fun other isOther =>
    isFirst.first other (same.mem_iff.mpr isOther)

theorem IsLast.of_perm {others : List StoredEvent}
    (isLast : IsLast events kind event) (same : events.Perm others) :
    IsLast others kind event where
  member := same.mem_iff.mp isLast.member
  ofKind := isLast.ofKind
  last := fun other isOther => isLast.last other (same.mem_iff.mpr isOther)

theorem Reaches.of_perm {others : List StoredEvent} {stage : DeliveryStage}
    {atTime : Timestamp} {error : Option String}
    (reaches : Reaches events event data stage atTime error)
    (same : events.Perm others) :
    Reaches others event data stage atTime error := by
  cases reaches with
  | applied isFirst isDone => exact .applied (isFirst.of_perm same) isDone
  | failed unapplied isLast isFailure =>
      exact .failed (fun other isOther =>
        unapplied other (same.mem_iff.mpr isOther)) (isLast.of_perm same)
        isFailure
  | published unapplied unfailed =>
      exact .published
        (fun other isOther => unapplied other (same.mem_iff.mpr isOther))
        (fun other isOther => unfailed other (same.mem_iff.mpr isOther))

/-- Some publication names the change. -/
def IsNamed (events : List StoredEvent) (change : Id) : Prop :=
  ∃ event ∈ events, isCausedBy change event = true ∨
    isAbsorbing change event = true

/-- The events of a provider, sorted. -/
def sortedEvents (events : List StoredEvent) : List StoredEvent :=
  events.insertionSort
    fun first second => first.sequenceNumber ≤ second.sequenceNumber

theorem sortedEvents_perm (events : List StoredEvent) :
    (sortedEvents events).Perm events :=
  List.perm_insertionSort _ _

theorem sortedEvents_ordered (events : List StoredEvent) :
    Ordered (sortedEvents events) := by
  have total : Std.Total fun first second : StoredEvent =>
      first.sequenceNumber ≤ second.sequenceNumber :=
    ⟨fun first second => Nat.le_total _ _⟩
  have transitive : IsTrans StoredEvent fun first second =>
      first.sequenceNumber ≤ second.sequenceNumber :=
    ⟨fun _ _ _ => Nat.le_trans⟩
  exact List.pairwise_insertionSort _ _

/-- Without equal sequence numbers the order is that of the stream. -/
theorem sortedEvents_congr {others : List StoredEvent}
    (distinct : (events.map (·.sequenceNumber)).Nodup)
    (same : events.Perm others) : sortedEvents events = sortedEvents others := by
  refine List.Perm.eq_of_pairwise ?_ (sortedEvents_ordered events)
    (sortedEvents_ordered others)
    ((sortedEvents_perm events).trans
      (same.trans (sortedEvents_perm others).symm))
  intro first second isFirst isSecond before after
  have left := (sortedEvents_perm events).mem_iff.mp isFirst
  have right := same.mem_iff.mpr ((sortedEvents_perm others).mem_iff.mp isSecond)
  exact List.inj_on_of_nodup_map distinct left right
    (Nat.le_antisymm before after)

/-- The row of a change among those of an action. -/
def rowFor (action : DeliveryActionRef) (provider : DeliveryProvider)
    (change : Id) : Option TraefikDelivery :=
  rowAfter action provider (sortedEvents provider.events) change
    (sortedEvents provider.events)

theorem getEntry_rowsOf (listed : change ∈ changeIds) :
    getEntry change (rowsOf changeIds action provider) =
      rowFor action provider change :=
  getEntry_recorded listed

theorem rowFor_isSome :
    (rowFor action provider change).isSome = true ↔
      IsNamed provider.events change := by
  have same := sortedEvents_perm provider.events
  have ordered := sortedEvents_ordered provider.events
  unfold rowFor rowAfter
  cases last : ((sortedEvents provider.events).filter
      (isCausedBy change)).getLast? with
  | some event =>
      have isLast := isLast_of_getLast? ordered last
      simp only [Option.isSome_some, true_iff]
      exact ⟨event, same.mem_iff.mp isLast.member, .inl isLast.ofKind⟩
  | none =>
      have uncaused := none_of_getLast? last
      simp only [Option.isSome_map]
      constructor
      · intro found
        obtain ⟨event, absorbing⟩ := Option.isSome_iff_exists.mp found
        have isLast := isLast_of_getLast? ordered absorbing
        exact ⟨event, same.mem_iff.mp isLast.member, .inr isLast.ofKind⟩
      · intro named
        obtain ⟨event, member, causes | absorbs⟩ := named
        · rw [uncaused event (same.mem_iff.mpr member)] at causes
          cases causes
        · cases absorbing : ((sortedEvents provider.events).filter
              (isAbsorbing change)).getLast? with
          | some last => rfl
          | none =>
              rw [none_of_getLast? absorbing event
                (same.mem_iff.mpr member)] at absorbs
              cases absorbs

theorem rowFor_proves (found : rowFor action provider change = some row) :
    Proves action provider change row := by
  have same := sortedEvents_perm provider.events
  have ordered := sortedEvents_ordered provider.events
  unfold rowFor rowAfter at found
  cases last : ((sortedEvents provider.events).filter
      (isCausedBy change)).getLast? with
  | some event =>
      simp only [last, Option.some.injEq] at found
      subst found
      have isLast := (isLast_of_getLast? ordered last).of_perm same
      obtain ⟨named, isPublication, -⟩ :=
        (Option.any_eq_true _ _).mp isLast.ofKind
      unfold publication at isPublication
      split at isPublication
      · rename_i data isPublished
        obtain ⟨stage, atTime, error, isRow, reaches⟩ :=
          @stageOf_reaches action provider (sortedEvents provider.events) event
            data ordered
        simp only [ownRow, isPublished]
        rw [isRow]
        exact .published isLast isPublished (reaches.of_perm same)
      · rename_i data isFailed
        simp only [ownRow, isFailed]
        exact .publishFailed isLast isFailed
      · cases isPublication
  | none =>
      simp only [last] at found
      obtain ⟨event, absorbing, rfl⟩ := Option.map_eq_some_iff.mp found
      refine .combined ?_ ((isLast_of_getLast? ordered absorbing).of_perm same)
      intro other isOther
      exact none_of_getLast? last other (same.mem_iff.mpr isOther)

/-! ## All actions -/

variable {providers : List (Id × DeliveryProvider)}
variable {actions : List DeliveryActionRef}

/-- The row of a change for an action, if the action's provider is known. -/
def rowIn (providers : List (Id × DeliveryProvider)) (change : Id)
    (action : DeliveryActionRef) : Option TraefikDelivery :=
  (getEntry action.traefikProviderId providers).bind fun provider =>
    rowFor action provider change

theorem put_nodup {target : Id} (distinct : (rows.map (·.1)).Nodup) :
    ((put changeIds rows target row).map (·.1)).Nodup := by
  unfold put
  split
  · split
    · exact distinct
    · exact setEntry_nodup distinct
  · exact distinct

theorem putAll_nodup {correlationId : Id} {absorbed : List Id}
    (distinct : (rows.map (·.1)).Nodup) :
    ((putAll changeIds rows correlationId own absorbed combined).map
      (·.1)).Nodup := by
  have first := @put_nodup changeIds rows own correlationId distinct
  unfold putAll
  generalize put changeIds rows correlationId own = rows at first
  induction absorbed generalizing rows with
  | nil => exact first
  | cons target absorbed induction => exact induction _ (put_nodup first)

theorem recorded_nodup :
    ((seen.foldl (record changeIds action provider events) []).map
      (·.1)).Nodup := by
  induction seen using List.reverseRecOn with
  | nil => exact List.nodup_nil
  | append_singleton seen event induction =>
      rw [List.foldl_append, List.foldl_cons, List.foldl_nil]
      cases isPublication : publication event with
      | none =>
          rw [record_of_other isPublication]
          exact induction
      | some named =>
          rw [record_of_publication isPublication]
          exact putAll_nodup induction

/-- No change has two rows for one action. -/
theorem rowsOf_nodup :
    ((rowsOf changeIds action provider).map (·.1)).Nodup :=
  recorded_nodup

theorem getEntry_push {result : List (Id × List TraefikDelivery)}
    {entry : Id × TraefikDelivery} :
    getEntry change (push result entry) =
      (getEntry change result).map fun held =>
        if entry.1 = change then held ++ [entry.2] else held := by
  induction result with
  | nil => rfl
  | cons first result induction =>
      have mapped : push (first :: result) entry =
          (if first.1 = entry.1 then (first.1, first.2 ++ [entry.2])
            else first) :: push result entry := rfl
      rw [mapped, getEntry_cons, getEntry_cons, induction]
      by_cases own : first.1 = entry.1
      · rw [if_pos own]
        by_cases here : first.1 = change
        · have pushed : entry.1 = change := own.symm.trans here
          simp [here, pushed]
        · simp [here]
      · rw [if_neg own]
        by_cases here : first.1 = change
        · have elsewhere : ¬ entry.1 = change := by
            intro same
            exact own (here.trans same.symm)
          simp [here, elsewhere]
        · simp [here]

theorem getEntry_absent {α β : Type} [DecidableEq α] {key : α}
    {entries : List (α × β)} (absent : key ∉ entries.map (·.1)) :
    getEntry key entries = none := by
  induction entries with
  | nil => rfl
  | cons entry entries induction =>
      obtain ⟨different, later⟩ := not_or.mp
        (fun member => absent (List.mem_cons.mpr member))
      rw [getEntry_cons, if_neg (Ne.symm different)]
      exact induction later

theorem getEntry_pushAll {result : List (Id × List TraefikDelivery)}
    (distinct : (rows.map (·.1)).Nodup) :
    getEntry change (rows.foldl push result) =
      (getEntry change result).map fun held =>
        held ++ (getEntry change rows).toList := by
  induction rows generalizing result with
  | nil =>
      have nothing : getEntry change ([] : List (Id × TraefikDelivery)) =
          none := rfl
      simp only [List.foldl_nil, nothing, Option.toList_none, List.append_nil]
      exact Option.map_id'.symm
  | cons entry rows induction =>
      obtain ⟨fresh, later⟩ := List.nodup_cons.mp distinct
      rw [List.foldl_cons, induction later, getEntry_push, getEntry_cons,
        Option.map_map]
      by_cases here : entry.1 = change
      · subst here
        rw [getEntry_absent fresh]
        simp [Function.comp_def]
      · simp [here, Function.comp_def]

theorem getEntry_deriving {result : List (Id × List TraefikDelivery)}
    (listed : change ∈ changeIds) :
    getEntry change (actions.foldl
        (fun result action =>
          match getEntry action.traefikProviderId providers with
          | none => result
          | some provider =>
              (rowsOf changeIds action provider).foldl push result) result) =
      (getEntry change result).map fun held =>
        held ++ actions.filterMap (rowIn providers change) := by
  induction actions generalizing result with
  | nil => simp
  | cons action actions induction =>
      rw [List.foldl_cons, induction]
      cases known : getEntry action.traefikProviderId providers with
      | none => simp [rowIn, known]
      | some provider =>
          simp only [getEntry_pushAll rowsOf_nodup, getEntry_rowsOf listed,
            Option.map_map]
          apply congrArg (Option.map · (getEntry change result))
          funext held
          cases found : rowFor action provider change with
          | none => simp [rowIn, known, found]
          | some row => simp [rowIn, known, found]

theorem getEntry_all {α β : Type} [DecidableEq α] {key : α} {value : β}
    {keys : List α} (member : key ∈ keys) :
    getEntry key (keys.map fun key => (key, value)) = some value := by
  induction keys with
  | nil => cases member
  | cons first keys induction =>
      rw [List.map_cons, getEntry_cons]
      by_cases here : first = key
      · exact if_pos here
      · rw [if_neg here]
        apply induction
        rcases List.mem_cons.mp member with same | later
        · exact absurd same.symm here
        · exact later

/-- The rows of a change are those of the actions, in their order. -/
theorem getEntry_deriveDeliveries (listed : change ∈ changeIds) :
    getEntry change (deriveDeliveries changeIds actions providers) =
      some (actions.filterMap (rowIn providers change)) := by
  have initially : getEntry change (changeIds.eraseDups.map fun id =>
      (id, ([] : List TraefikDelivery))) = some [] :=
    getEntry_all (List.mem_eraseDups.mpr listed)
  refine (getEntry_deriving listed).trans ?_
  rw [initially]
  rfl

/-- A row is that of its action. -/
theorem Proves.actionId (proves : Proves action provider change row) :
    row.actionId = action.actionId := by
  cases proves with
  | published => rfl
  | publishFailed => rfl
  | combined => rfl

theorem rowIn_actionId (found : rowIn providers change action = some row) :
    row.actionId = action.actionId := by
  obtain ⟨provider, -, found⟩ := Option.bind_eq_some_iff.mp found
  exact (rowFor_proves found).actionId

/-- The rows of a change for one action. -/
def rowsAbout (derived : List (Id × List TraefikDelivery))
    (change actionId : Id) : List TraefikDelivery :=
  ((getEntry change derived).getD []).filter (·.actionId = actionId)

theorem rowsAbout_eq (listed : change ∈ changeIds)
    (distinct : (actions.map (·.actionId)).Nodup) (member : action ∈ actions) :
    rowsAbout (deriveDeliveries changeIds actions providers) change
        action.actionId =
      (rowIn providers change action).toList := by
  unfold rowsAbout
  rw [getEntry_deriveDeliveries listed, Option.getD_some]
  induction actions with
  | nil => cases member
  | cons first actions induction =>
      obtain ⟨fresh, later⟩ := List.nodup_cons.mp distinct
      rcases List.mem_cons.mp member with here | member
      · subst here
        have others : (actions.filterMap (rowIn providers change)).filter
            (·.actionId = action.actionId) = [] := by
          apply List.filter_eq_nil_iff.mpr
          intro row isRow
          obtain ⟨other, isOther, found⟩ := List.mem_filterMap.mp isRow
          simp only [decide_eq_true_eq, rowIn_actionId found]
          intro same
          exact fresh (List.mem_map.mpr ⟨other, isOther, same⟩)
        cases found : rowIn providers change action with
        | none => simp [found, others]
        | some row => simp [found, others, rowIn_actionId found]
      · have different : first.actionId ≠ action.actionId := by
          intro same
          exact fresh (List.mem_map.mpr ⟨action, member, same.symm⟩)
        cases found : rowIn providers change first with
        | none => simpa [found] using induction later member
        | some row =>
            simpa [found, rowIn_actionId found, different] using
              induction later member

/-- The provider of the action is known, and its events name the change. -/
def IsNamedFor (providers : List (Id × DeliveryProvider))
    (action : DeliveryActionRef) (change : Id) : Prop :=
  ∃ provider, getEntry action.traefikProviderId providers = some provider ∧
    IsNamed provider.events change

theorem rowIn_isSome :
    (rowIn providers change action).isSome = true ↔
      IsNamedFor providers action change := by
  unfold rowIn IsNamedFor
  cases known : getEntry action.traefikProviderId providers with
  | none => simp
  | some provider => simp [rowFor_isSome]

/-! ## The order in which the events are given -/

/-- The same providers, with their events in any order. -/
def Rearranged : List (Id × DeliveryProvider) → List (Id × DeliveryProvider) →
    Prop :=
  List.Forall₂ fun entry other => other.1 = entry.1 ∧
    other.2.name = entry.2.name ∧ entry.2.events.Perm other.2.events

/-- No two events of a provider have the same place in its stream. -/
def AllDistinct (providers : List (Id × DeliveryProvider)) : Prop :=
  ∀ entry ∈ providers, (entry.2.events.map (·.sequenceNumber)).Nodup

theorem record_congr {other : DeliveryProvider}
    (same : other.name = provider.name) :
    record changeIds action other events =
      record changeIds action provider events := by
  have rows : combinedRow action other = combinedRow action provider := by
    funext version
    simp only [combinedRow, same]
  funext held event
  simp only [record, rows]

theorem rowsOf_congr {other : DeliveryProvider}
    (sameName : other.name = provider.name)
    (sameEvents : sortedEvents other.events = sortedEvents provider.events) :
    rowsOf changeIds action other = rowsOf changeIds action provider := by
  have unfolded : ∀ provider, rowsOf changeIds action provider =
      (sortedEvents provider.events).foldl (record changeIds action provider
        (sortedEvents provider.events)) [] := fun _ => rfl
  rw [unfolded, unfolded, sameEvents, record_congr sameName]

/-- Rearranged providers are found alike. -/
theorem Rearranged.rowsOf_eq {others : List (Id × DeliveryProvider)}
    (rearranged : Rearranged providers others)
    (distinct : AllDistinct providers) (providerId : Id) :
    (getEntry providerId others).map (rowsOf changeIds action) =
      (getEntry providerId providers).map (rowsOf changeIds action) := by
  induction rearranged with
  | nil => rfl
  | @cons entry other providers others same _ induction =>
      obtain ⟨sameId, sameName, sameEvents⟩ := same
      obtain ⟨here, later⟩ := List.forall_mem_cons.mp distinct
      rw [getEntry_cons, getEntry_cons, sameId]
      split
      · simp only [Option.map_some]
        rw [rowsOf_congr sameName (sortedEvents_congr here sameEvents).symm]
      · exact induction later

theorem deriveDeliveries_congr {others : List (Id × DeliveryProvider)}
    (rearranged : Rearranged providers others)
    (distinct : AllDistinct providers) :
    deriveDeliveries changeIds actions others =
      deriveDeliveries changeIds actions providers := by
  unfold deriveDeliveries
  apply congrArg (List.foldl · _ actions)
  funext result action
  have same : (getEntry action.traefikProviderId others).map
        (rowsOf changeIds action) =
      (getEntry action.traefikProviderId providers).map
        (rowsOf changeIds action) := rearranged.rowsOf_eq distinct _
  cases known : getEntry action.traefikProviderId providers with
  | none =>
      cases found : getEntry action.traefikProviderId others with
      | none => rfl
      | some other => simp [known, found] at same
  | some provider =>
      cases found : getEntry action.traefikProviderId others with
      | none => simp [known, found] at same
      | some other =>
          simp only [known, found, Option.map_some, Option.some.injEq] at same
          simp only [same]

end DeliveryHistory

open DeliveryHistory

/-- For a change and an action there is one row if an event of the action's
provider names the change, and none otherwise.  What the row says is proved by
the events, in whatever order they are given. -/
theorem delivery_rows_are_exact (changeIds : List Id)
    (actions : List DeliveryActionRef)
    (providers : List (Id × DeliveryProvider))
    (distinctActions : (actions.map (·.actionId)).Nodup)
    (distinctEvents : AllDistinct providers) :
    (∀ change ∈ changeIds, ∀ action ∈ actions,
      (IsNamedFor providers action change →
        ∃ provider row,
          getEntry action.traefikProviderId providers = some provider ∧
          rowsAbout (deriveDeliveries changeIds actions providers) change
            action.actionId = [row] ∧
          Proves action provider change row) ∧
      (¬ IsNamedFor providers action change →
        rowsAbout (deriveDeliveries changeIds actions providers) change
          action.actionId = [])) ∧
    ∀ others, Rearranged providers others →
      deriveDeliveries changeIds actions others =
        deriveDeliveries changeIds actions providers := by
  refine ⟨?_, fun others rearranged =>
    deriveDeliveries_congr rearranged distinctEvents⟩
  intro change listed action member
  rw [rowsAbout_eq listed distinctActions member]
  constructor
  · intro named
    obtain ⟨row, found⟩ :=
      Option.isSome_iff_exists.mp (rowIn_isSome.mpr named)
    obtain ⟨provider, known, isRow⟩ := Option.bind_eq_some_iff.mp found
    refine ⟨provider, row, known, ?_, rowFor_proves isRow⟩
    rw [found]
    rfl
  · intro unnamed
    cases found : rowIn providers change action with
    | none => rfl
    | some row =>
        refine absurd (rowIn_isSome.mp ?_) unnamed
        rw [found]
        rfl

/-! ## Two changes in one snapshot -/

/-- An event of provider 10. -/
def providerEvent (sequenceNumber : Nat) (event : TraefikProviderEvent) :
    StoredEvent where
  id := sequenceNumber
  aggregateType := .traefikProvider
  aggregateId := 10
  sequenceNumber
  accountId := 1
  data := .traefikProvider event

/-- A snapshot published for a change. -/
def publishedFor (sequenceNumber : Nat) (correlationId : Id)
    (absorbedCausationIds : List Id) : StoredEvent :=
  providerEvent sequenceNumber (.snapshotPublished
    { contentHash := "hash"
      groupCount := 1
      entryCount := 1
      correlationId
      absorbedCausationIds
      publishedAt := sequenceNumber })

/-- The report that a version is applied. -/
def appliedBy (sequenceNumber version : Nat) : StoredEvent :=
  providerEvent sequenceNumber (.snapshotApplied
    { version
      correlationId := 7
      agentVersion := "1"
      stale := false
      files := []
      templates := []
      traefikCheck := none
      appliedAt := sequenceNumber })

/-- The report that applying a version has failed. -/
def applyFailedBy (sequenceNumber version : Nat) : StoredEvent :=
  providerEvent sequenceNumber (.snapshotApplyFailed
    { version
      correlationId := 7
      reason := "invalid YAML"
      appliedAt := sequenceNumber })

def exampleRef : DeliveryActionRef := ⟨30, 10, "lan"⟩

theorem delivery_rows_are_exact_once :
    ∃ row, rowsAbout (deriveDeliveries [6, 7] [exampleRef]
        [(10, ⟨some "home", [appliedBy 3 2, publishedFor 2 7 [6]]⟩)]) 6 30 =
      [row] ∧ Proves exampleRef
        ⟨some "home", [appliedBy 3 2, publishedFor 2 7 [6]]⟩ 6 row := by
  have named : IsNamedFor
      [(10, ⟨some "home", [appliedBy 3 2, publishedFor 2 7 [6]]⟩)] exampleRef
      6 := ⟨_, rfl, publishedFor 2 7 [6], by decide, .inr (by decide)⟩
  obtain ⟨provider, row, known, rows, proves⟩ := ((delivery_rows_are_exact
    [6, 7] [exampleRef]
    [(10, ⟨some "home", [appliedBy 3 2, publishedFor 2 7 [6]]⟩)]
    (by decide) (by
      intro entry member
      cases List.mem_singleton.mp member
      decide)).1 6 (by decide) exampleRef (by decide)).1 named
  cases known
  exact ⟨row, rows, proves⟩

end FluxIP
