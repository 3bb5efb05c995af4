import FluxIP.Guarantees.DeliveryRows

/-!
# Delivery stages over time

The stream of a provider only grows at its end.  The row of a change keeps its
publication for as long as no further publication is made for the change, and
its stage moves from published over failed to applied.
-/

namespace FluxIP

namespace DeliveryHistory

/-- The order in which a row passes the stages. -/
def rank : DeliveryStage → Nat
  | .published => 0
  | .failed => 1
  | .applied => 2

/-- What may become of a delivered row: a stage may be skipped, a failed
publication stays failed, and what is applied stays as it is. -/
structure Advances (before after : TraefikDelivery) : Prop where
  kind : after.kind = before.kind
  version : after.version = before.version
  stage : ∃ first second, before.stage = some first ∧
    after.stage = some second ∧ rank first ≤ rank second
  unpublished : before.version = none → after.stage = before.stage
  applied : before.stage = some .applied → after.atTime = before.atTime

/-- The events follow those of the stream. -/
def Follows (events later : List StoredEvent) : Prop :=
  ∀ event ∈ events, ∀ other ∈ later,
    event.sequenceNumber < other.sequenceNumber

/-- The provider's stream has grown. -/
structure Grows (provider other : DeliveryProvider)
    (later : List StoredEvent) : Prop where
  events : other.events = provider.events ++ later
  follows : Follows provider.events later
  distinct : (other.events.map (·.sequenceNumber)).Nodup

variable {provider other : DeliveryProvider} {later : List StoredEvent}
variable {action : DeliveryActionRef} {change : Id}
variable {row next : TraefikDelivery} {event final : StoredEvent}
variable {kind : StoredEvent → Bool}

/-! ## The same event decides -/

theorem Grows.mem (grows : Grows provider other later) :
    final ∈ other.events ↔ final ∈ provider.events ∨ final ∈ later := by
  rw [grows.events, List.mem_append]

/-- No two events share a place in the stream. -/
theorem Grows.unique (grows : Grows provider other later)
    (first : event ∈ other.events) (second : final ∈ other.events)
    (same : event.sequenceNumber = final.sequenceNumber) : event = final :=
  List.inj_on_of_nodup_map grows.distinct first second same

/-- What was first stays first. -/
theorem Grows.first (grows : Grows provider other later)
    (before : IsFirst provider.events kind event)
    (after : IsFirst other.events kind final) : final = event := by
  have member : event ∈ other.events := grows.mem.mpr (.inl before.member)
  have notLater := after.first event member before.ofKind
  rcases grows.mem.mp after.member with earlier | later
  · have notEarlier := before.first final earlier after.ofKind
    exact grows.unique after.member member
      (Nat.le_antisymm notLater notEarlier)
  · have follows := grows.follows event before.member final later
    omega

/-- What was last stays last unless another one follows. -/
theorem Grows.last (grows : Grows provider other later)
    (noMore : ∀ event ∈ later, kind event = false)
    (before : IsLast provider.events kind event)
    (after : IsLast other.events kind final) : final = event := by
  have member : event ∈ other.events := grows.mem.mpr (.inl before.member)
  rcases grows.mem.mp after.member with earlier | later
  · exact grows.unique after.member member
      (Nat.le_antisymm (before.last final earlier after.ofKind)
        (after.last event member before.ofKind))
  · have impossible := after.ofKind
    rw [noMore final later] at impossible
    cases impossible

/-! ## Stages -/

variable {data : TraefikProviderSnapshotPublishedData}
variable {stage stage' : DeliveryStage} {atTime atTime' : Timestamp}
variable {error error' : Option String}

theorem Reaches.advances (grows : Grows provider other later)
    (before : Reaches provider.events event data stage atTime error)
    (after : Reaches other.events event data stage' atTime' error') :
    rank stage ≤ rank stage' ∧ (stage = .applied → atTime' = atTime) := by
  cases before with
  | applied isFirst isDone =>
      cases after with
      | applied isFirst' isDone' =>
          cases grows.first isFirst isFirst'
          rw [isDone] at isDone'
          cases isDone'
          exact ⟨Nat.le_refl _, fun _ => rfl⟩
      | failed unapplied =>
          have impossible := isFirst.ofKind
          rw [unapplied _ (grows.mem.mpr (.inl isFirst.member))] at impossible
          cases impossible
      | published unapplied =>
          have impossible := isFirst.ofKind
          rw [unapplied _ (grows.mem.mpr (.inl isFirst.member))] at impossible
          cases impossible
  | failed _ isLast _ =>
      cases after with
      | applied => exact ⟨by decide, nofun⟩
      | failed => exact ⟨Nat.le_refl _, nofun⟩
      | published _ unfailed =>
          have impossible := isLast.ofKind
          rw [unfailed _ (grows.mem.mpr (.inl isLast.member))] at impossible
          cases impossible
  | published => exact ⟨Nat.zero_le _, nofun⟩

/-- A delivered row advances while no other publication is made for its
change. -/
theorem Proves.advances (grows : Grows provider other later)
    (noMore : ∀ event ∈ later, isCausedBy change event = false)
    (delivered : row.kind = .delivered)
    (before : Proves action provider change row)
    (after : Proves action other change next) : Advances row next := by
  cases before with
  | combined => cases delivered
  | published isLast isPublished reaches =>
      cases after with
      | published isLast' isPublished' reaches' =>
          cases grows.last noMore isLast isLast'
          rw [isPublished] at isPublished'
          cases isPublished'
          obtain ⟨ranks, applied⟩ := reaches.advances grows reaches'
          refine ⟨rfl, rfl, ⟨_, _, rfl, rfl, ranks⟩, nofun, ?_⟩
          intro isApplied
          exact congrArg some (applied (Option.some.inj isApplied))
      | publishFailed isLast' isFailed =>
          cases grows.last noMore isLast isLast'
          rw [isPublished] at isFailed
          cases isFailed
      | combined uncaused =>
          have impossible := isLast.ofKind
          rw [uncaused _ (grows.mem.mpr (.inl isLast.member))] at impossible
          cases impossible
  | publishFailed isLast isFailed =>
      cases after with
      | published isLast' isPublished =>
          cases grows.last noMore isLast isLast'
          rw [isFailed] at isPublished
          cases isPublished
      | publishFailed isLast' isFailed' =>
          cases grows.last noMore isLast isLast'
          rw [isFailed] at isFailed'
          cases isFailed'
          exact ⟨rfl, rfl, ⟨_, _, rfl, rfl, Nat.le_refl _⟩, fun _ => rfl,
            nofun⟩
      | combined uncaused =>
          have impossible := isLast.ofKind
          rw [uncaused _ (grows.mem.mpr (.inl isLast.member))] at impossible
          cases impossible

/-- A change that is named stays named. -/
theorem Grows.named (grows : Grows provider other later)
    (named : IsNamed provider.events change) : IsNamed other.events change := by
  obtain ⟨event, member, names⟩ := named
  exact ⟨event, grows.mem.mpr (.inl member), names⟩

/-! ## All providers -/

variable {providers others : List (Id × DeliveryProvider)}

/-- The streams of the providers have grown. -/
def Extended : List (Id × DeliveryProvider) → List (Id × DeliveryProvider) →
    Prop :=
  List.Forall₂ fun entry other =>
    other.1 = entry.1 ∧ ∃ later, Grows entry.2 other.2 later

/-- No further publication is made for the change by the action's provider. -/
def NoMoreFor (providers others : List (Id × DeliveryProvider))
    (action : DeliveryActionRef) (change : Id) : Prop :=
  ∀ provider other,
    getEntry action.traefikProviderId providers = some provider →
    getEntry action.traefikProviderId others = some other →
    ∀ event ∈ other.events, event ∉ provider.events →
      isCausedBy change event = false

theorem Extended.known (extended : Extended providers others)
    {providerId : Id} (known : getEntry providerId providers = some provider) :
    ∃ other later, getEntry providerId others = some other ∧
      Grows provider other later := by
  induction extended with
  | nil => cases known
  | @cons entry other providers others grows _ induction =>
      obtain ⟨sameId, later, grows⟩ := grows
      rw [getEntry_cons] at known ⊢
      rw [sameId]
      by_cases here : entry.1 = providerId
      · rw [if_pos here] at known ⊢
        cases known
        exact ⟨other.2, later, rfl, grows⟩
      · rw [if_neg here] at known ⊢
        exact induction known

/-- What follows a stream is not in it. -/
theorem Grows.fresh (grows : Grows provider other later)
    (member : event ∈ later) : event ∉ provider.events := by
  intro earlier
  exact Nat.lt_irrefl _ (grows.follows event earlier event member)

/-- Every change is named by one publication at most. -/
def NamedOnce (events : List StoredEvent) : Prop :=
  ∀ change, ∀ first ∈ events, ∀ second ∈ events,
    (isCausedBy change first || isAbsorbing change first) = true →
    (isCausedBy change second || isAbsorbing change second) = true →
    first = second

end DeliveryHistory

open DeliveryHistory

/-- As long as no further publication is made for its change, a delivered row
keeps its kind and version and never goes back to an earlier stage; what is
applied stays applied. -/
theorem delivery_stages_never_regress (changeIds : List Id)
    (actions : List DeliveryActionRef)
    (providers others : List (Id × DeliveryProvider))
    (distinctActions : (actions.map (·.actionId)).Nodup)
    (extended : Extended providers others) (change : Id)
    (listed : change ∈ changeIds) (action : DeliveryActionRef)
    (member : action ∈ actions) (noMore : NoMoreFor providers others action change)
    (row : TraefikDelivery)
    (isRow : row ∈ rowsAbout (deriveDeliveries changeIds actions providers)
      change action.actionId) (delivered : row.kind = .delivered) :
    ∃ next, rowsAbout (deriveDeliveries changeIds actions others) change
        action.actionId = [next] ∧ Advances row next := by
  rw [rowsAbout_eq listed distinctActions member] at isRow ⊢
  have found := Option.mem_toList.mp isRow
  obtain ⟨provider, known, isFound⟩ := Option.bind_eq_some_iff.mp found
  obtain ⟨other, later, knownLater, grows⟩ := extended.known known
  have named : IsNamed provider.events change :=
    rowFor_isSome.mp (Option.isSome_of_mem isFound)
  have namedLater : IsNamedFor others action change :=
    ⟨other, knownLater, grows.named named⟩
  obtain ⟨next, isNext⟩ :=
    Option.isSome_iff_exists.mp (rowIn_isSome.mpr namedLater)
  refine ⟨next, by rw [isNext]; rfl, ?_⟩
  obtain ⟨same, isKnown, isNext⟩ := Option.bind_eq_some_iff.mp isNext
  rw [knownLater] at isKnown
  cases isKnown
  refine (rowFor_proves isFound).advances grows ?_ delivered
    (rowFor_proves isNext)
  intro event isLater
  exact noMore provider other known knownLater event
    (grows.mem.mpr (.inr isLater)) (grows.fresh isLater)

/-! ## A second publication for a change -/

/-- Version 1 is published for change 7 and applied. -/
def appliedOnce : DeliveryProvider :=
  ⟨some "home", [publishedFor 1 7 [], appliedBy 2 1]⟩

/-- Another version is published for the same change. -/
def publishedAgain : DeliveryProvider :=
  ⟨some "home", appliedOnce.events ++ [publishedFor 3 7 []]⟩

/-- A second publication for a change takes its row back from applied to
published. -/
theorem second_publication_regresses :
    NamedOnce appliedOnce.events ∧
    Grows appliedOnce publishedAgain [publishedFor 3 7 []] ∧
    ∃ row next,
      rowsAbout (deriveDeliveries [7] [exampleRef] [(10, appliedOnce)]) 7 30 =
        [row] ∧ row.kind = .delivered ∧
      rowsAbout (deriveDeliveries [7] [exampleRef] [(10, publishedAgain)]) 7
        30 = [next] ∧
      ¬ Advances row next := by
  refine ⟨?_, ⟨rfl, ?_, by decide⟩, _, _, rfl, rfl, rfl, ?_⟩
  · intro change first isFirst second isSecond namesFirst namesSecond
    rcases List.mem_pair.mp isFirst with here | there
    · rcases List.mem_pair.mp isSecond with same | other
      · rw [here, same]
      · subst other
        cases namesSecond
    · subst there
      cases namesFirst
  · unfold Follows
    decide
  · intro advances
    have version := advances.version
    cases version

/-- The applied version stays applied when a later one is published for another
change. -/
theorem delivery_stages_never_regress_once :
    ∃ row next,
      rowsAbout (deriveDeliveries [7] [exampleRef] [(10, appliedOnce)]) 7 30 =
        [row] ∧
      rowsAbout (deriveDeliveries [7] [exampleRef]
        [(10, ⟨some "home", appliedOnce.events ++ [publishedFor 3 8 []]⟩)]) 7
          30 = [next] ∧ Advances row next := by
  have extended : Extended [(10, appliedOnce)]
      [(10, ⟨some "home", appliedOnce.events ++ [publishedFor 3 8 []]⟩)] := by
    refine .cons ⟨rfl, [publishedFor 3 8 []], rfl, ?_, by decide⟩ .nil
    unfold Follows
    decide
  have noMore : NoMoreFor [(10, appliedOnce)]
      [(10, ⟨some "home", appliedOnce.events ++ [publishedFor 3 8 []]⟩)]
      exampleRef 7 := by
    intro provider other known knownLater
    cases known
    cases knownLater
    decide
  obtain ⟨next, rows, advances⟩ := delivery_stages_never_regress [7]
    [exampleRef] [(10, appliedOnce)] _ (by decide) extended 7 (by decide)
    exampleRef (by decide) noMore _ (List.mem_singleton.mpr rfl) rfl
  exact ⟨_, next, rfl, rows, advances⟩

end FluxIP
