import FluxIP.Adapters.BackendService
import FluxIP.Guarantees.ChangesScheduled
import Mathlib.Data.List.Nodup

/-!
# One delivery per device and provider

The requests on the actions of the accounts run one at a time, each with an
exception or the end of the process possible at every call.  What the routes
check before they append keeps two actions from delivering one device to one
provider.
-/

namespace FluxIP

open Async

/-- No two actions of the account deliver one device to one provider. -/
def OneDelivery (store : EventStore) (accountId : Id) : Prop :=
  ∀ first second left right,
    (actionIn store accountId first).deliveryAction first = some left →
    (actionIn store accountId second).deliveryAction second = some right →
    left.ipClientId = right.ipClientId →
    left.traefikProviderId = right.traefikProviderId → first = second

/-- The devices of the groups, each as often as it has an entry. -/
def SnapshotGroups.devices (groups : SnapshotGroups) : List Id :=
  groups.flatMap fun group => group.2.map (·.1)

/-- The requests that change actions. -/
def ActionCommand.changesAction : ActionCommand → Bool
  | .run _ => false
  | _ => true

/-- A request on the actions runs alone, to its end or up to a point at which
the process stops; or something else happens that leaves alone what the
actions deliver. -/
inductive ActionRequests (deps : BackendDeps) : World → World → Prop
  | request (accountId : Id) (command : ActionCommand) (now : Timestamp)
      (choices : List Choice) (before : World)
      (changes : command.changesAction = true) :
      ActionRequests deps before
        ((command.program deps accountId now).run semantics choices before).2
  | elsewhere (before after : World) (sequenced : after.store.Sequenced)
      (same : ∀ accountId actionId,
        (actionIn after.store accountId actionId).deliveryAction actionId =
          (actionIn before.store accountId actionId).deliveryAction
            actionId) :
      ActionRequests deps before after

namespace OneDelivery

open SnapshotBuild ChangesScheduled

variable {store next : EventStore} {accountId actionId : Id}
variable {state : ActionState} {delivery : DeliveryAction}

/-! ## What an action delivers -/

/-- The parts of the state that tell what an action delivers. -/
theorem deliveryAction_eq_some :
    state.deliveryAction actionId = some delivery ↔
      state.type = some .traefikConfigDelivery ∧ state.status ≠ .detached ∧
        ∃ ipClientId config, state.ipClientId = some ipClientId ∧
          state.config.bind ActionConfig.asDelivery = some config ∧
          delivery = ⟨actionId, ipClientId, config.traefikProviderId,
            config.group, state.status⟩ := by
  unfold ActionState.deliveryAction
  split
  · simp_all
  · rename_i type client config attached
    constructor
    · intro same
      cases same
      refine ⟨type, attached, _, _, client, config, rfl⟩
    · intro parts
      obtain ⟨-, -, ipClientId, config', client', config'', rfl⟩ := parts
      rw [client] at client'
      rw [config] at config''
      cases client'
      cases config''
      rfl
  · rename_i other detached attached
    constructor
    · intro impossible
      cases impossible
    · intro parts
      obtain ⟨type, -, ipClientId, config, client, configured, -⟩ := parts
      exact (attached _ _ type client configured).elim

/-- Two states of an action that deliver the same device to the same provider
wherever the first one delivers. -/
def DeliversLike (actionId : Id) (after before : ActionState) : Prop :=
  ∀ delivery, after.deliveryAction actionId = some delivery →
    ∃ earlier, before.deliveryAction actionId = some earlier ∧
      earlier.ipClientId = delivery.ipClientId ∧
      earlier.traefikProviderId = delivery.traefikProviderId

theorem deliversLike_of_same {after before : ActionState}
    (type : after.type = before.type)
    (attached : after.status ≠ .detached → before.status ≠ .detached)
    (client : after.ipClientId = before.ipClientId)
    (config : after.config = before.config) :
    DeliversLike actionId after before := by
  intro delivery delivers
  rw [deliveryAction_eq_some] at delivers
  obtain ⟨isDelivery, notDetached, ipClientId, target, hasClient, hasConfig,
    rfl⟩ := delivers
  refine ⟨⟨actionId, ipClientId, target.traefikProviderId, target.group,
    before.status⟩, ?_, rfl, rfl⟩
  rw [deliveryAction_eq_some]
  exact ⟨type ▸ isDelivery, attached notDetached, ipClientId, target,
    client ▸ hasClient, config ▸ hasConfig, rfl⟩

/-! ## What keeps deliveries apart -/

/-- No other action delivers the device to the provider. -/
def Free (store : EventStore) (accountId actionId ipClientId
    traefikProviderId : Id) : Prop :=
  ∀ other existing, other ≠ actionId →
    (actionIn store accountId other).deliveryAction other = some existing →
    existing.ipClientId = ipClientId →
    existing.traefikProviderId ≠ traefikProviderId

/-- An action that delivers keeps the others from it. -/
theorem free_of_delivers (one : OneDelivery store accountId)
    (delivers : (actionIn store accountId actionId).deliveryAction actionId =
      some delivery) :
    Free store accountId actionId delivery.ipClientId
      delivery.traefikProviderId := by
  intro other existing different others sameClient sameProvider
  exact different
    (one other actionId existing delivery others delivers sameClient
      sameProvider)

/-- A list of all delivery actions in which nothing clashes. -/
theorem free_of_clashes {existing : List DeliveryAction} {ipClientId : Id}
    {traefikProviderId : Id} {ignoreActionId : Option Id}
    (complete : ∀ actionId action,
      (actionIn store accountId actionId).deliveryAction actionId =
        some action → action ∈ existing)
    (ignored : ∀ other, some other = ignoreActionId → other = actionId)
    (apart : Actions.clashes existing (some ipClientId) traefikProviderId
      ignoreActionId = false) :
    Free store accountId actionId ipClientId traefikProviderId := by
  intro other action different delivers sameClient sameProvider
  have listed := List.any_eq_false.mp apart action (complete other action delivers)
  have own : action.actionId = other := by
    obtain ⟨-, -, _, _, -, -, rfl⟩ := deliveryAction_eq_some.mp delivers
    rfl
  apply listed
  rw [decide_eq_true_eq]
  refine ⟨congrArg some sameClient, sameProvider, ?_⟩
  intro isIgnored
  rw [own] at isIgnored
  exact different (ignored other isIgnored)

/-- One action changes; what it delivers then was free. -/
theorem changed (one : ∀ accountId, OneDelivery store accountId)
    (changes : ChangesOnly ⟨accountId, .action, actionId⟩ store next)
    (free : ∀ delivery,
      (actionIn next accountId actionId).deliveryAction actionId =
        some delivery →
      Free store accountId actionId delivery.ipClientId
        delivery.traefikProviderId)
    (owner : Id) : OneDelivery next owner := by
  have unchanged : ∀ other, ¬ (owner = accountId ∧ other = actionId) →
      actionIn next owner other = actionIn store owner other := by
    intro other elsewhere
    have same := changes ⟨owner, .action, other⟩ (by simpa using elsewhere)
    unfold actionIn
    rw [same]
  have apart : ∀ first second left right, first = actionId →
      owner = accountId → second ≠ actionId →
      (actionIn next owner first).deliveryAction first = some left →
      (actionIn next owner second).deliveryAction second = some right →
      left.ipClientId = right.ipClientId →
      left.traefikProviderId = right.traefikProviderId → False := by
    intro first second left right isFirst own isOther delivers others
      sameClient sameProvider
    subst isFirst own
    rw [unchanged second (fun same => isOther same.2)] at others
    exact free left delivers second right isOther others sameClient.symm
      sameProvider.symm
  intro first second left right delivers others sameClient sameProvider
  by_cases isFirst : owner = accountId ∧ first = actionId
  · by_cases isSecond : second = actionId
    · rw [isFirst.2, isSecond]
    · exact (apart first second left right isFirst.2 isFirst.1 isSecond
        delivers others sameClient sameProvider).elim
  · by_cases isSecond : owner = accountId ∧ second = actionId
    · exact (apart second first right left isSecond.2 isSecond.1
        (fun same => isFirst ⟨isSecond.1, same⟩) others delivers
        sameClient.symm sameProvider.symm).elim
    · rw [unchanged first isFirst] at delivers
      rw [unchanged second isSecond] at others
      exact one owner first second left right delivers others sameClient
        sameProvider

/-! ## What a request keeps -/

/-- No two actions of an account deliver one device to one provider. -/
structure Good (store : EventStore) : Prop where
  sequenced : store.Sequenced
  one : ∀ accountId, OneDelivery store accountId

/-- Wherever the program is stopped the store is good. -/
abbrev KeepsGood {α : Type} (program : Backend α) (world : World) : Prop :=
  program.Survives semantics
    (orElse (fun _ after => Good after.store) fun after => Good after.store)
    (fun after => Good after.store) world

variable {α β : Type} {program : Backend α} {rest : α → Backend β}
variable {world : World}

theorem done_keeps (value : α) (good : Good world.store) :
    KeepsGood (Program.done value : Backend α) world := good

theorem kept (calls : program.Calls fun call => Call.keepsStore call = true)
    (good : Good world.store) : KeepsGood program world := by
  have keeps : ∀ call choice answer (before after : World),
      Call.keepsStore call = true → Good before.store →
      semantics call choice before = some (answer, after) →
      Good after.store := by
    intro call choice answer before after quiet good result
    rw [store_frame result quiet]
    exact good
  apply (Program.Survives.frame calls keeps good).mono
  · intro result after good
    cases result with
    | ok value => exact good
    | error error => exact good
  · exact fun _ => id

/-- What follows a program that reads can count on what was read. -/
theorem after_reading {holds : α → Prop}
    (finds : Finds .fallible world.store program holds)
    (calls : program.Calls fun call => Call.keepsStore call = true)
    (good : Good world.store)
    (follows : ∀ value after, holds value → after.store = world.store →
      KeepsGood (rest value) after) :
    KeepsGood (program.bind rest) world := by
  have reads := finds.survives calls rfl
  have known : program.Survives semantics
      (orElse (fun value after => holds value ∧ after.store = world.store)
        fun after => Good after.store)
      (fun after => Good after.store) world := by
    apply reads.mono
    · intro result after atEnd
      cases result with
      | ok value => exact atEnd
      | error error =>
          have same : after.store = world.store := atEnd
          exact same ▸ good
    · exact fun after same => same ▸ good
  apply known.seq
  exact fun value after found => follows value after found.1 found.2

/-- A program that is no append, and what follows it. -/
theorem after_kept
    (calls : program.Calls fun call => Call.keepsStore call = true)
    (good : Good world.store)
    (follows : ∀ value after, Good after.store →
      KeepsGood (rest value) after) :
    KeepsGood (program.bind rest) world :=
  (kept calls good).seq follows

/-- An append to an action by which it delivers nothing that was not free. -/
theorem after_append {event : ActionEvent} {version : Nat}
    {rest : StoredEvent → Backend β} (good : Good world.store)
    (loaded : ∀ stored next, world.store.append
        (Actions.appendInput accountId actionId version event) =
          (.ok stored, next) →
      (world.store.readStream ⟨accountId, .action, actionId⟩).length =
        version)
    (free : ∀ stored delivery, stored.data = .action event →
      (actionReducer (actionIn world.store accountId actionId)
        stored).deliveryAction actionId = some delivery →
      Free world.store accountId actionId delivery.ipClientId
        delivery.traefikProviderId)
    (follows : ∀ stored after, Good after.store →
      KeepsGood (rest stored) after) :
    KeepsGood ((Backend.append
      (Actions.appendInput accountId actionId version event)).bind rest)
      world := by
  have inserts : ∀ stored next,
      world.store.append (Actions.appendInput accountId actionId version
        event) = (.ok stored, next) → Good next := by
    intro stored next appended
    have expected :
        (Actions.appendInput accountId actionId version
          event).expectedSequenceNumber =
        (world.store.readStream ⟨accountId, .action, actionId⟩).length + 1 :=
      congrArg (· + 1) (loaded stored next appended).symm
    obtain ⟨written, grown⟩ := append_reads good.sequenced expected appended
    have grows : actionIn next accountId actionId =
        actionReducer (actionIn world.store accountId actionId) stored := by
      have reads : next.readStream ⟨accountId, .action, actionId⟩ =
          world.store.readStream ⟨accountId, .action, actionId⟩ ++
            [stored] := grown
      unfold actionIn
      rw [reads]
      simp only [replayed, List.foldl_append, List.foldl_cons,
        List.foldl_nil]
    constructor
    · exact good.sequenced.append_loaded ⟨accountId, .action, actionId⟩
        good.sequenced (.refl _) rfl rfl rfl expected appended
    · apply changed good.one (append_changesOnly appended)
      intro delivery delivers
      have after : (actionIn next accountId actionId).deliveryAction
        actionId = some delivery := delivers
      rw [grows] at after
      exact free stored delivery written after
  apply Program.Survives.seq _ follows
  apply Backend.call_survives (.store (.append _)) good
  intro choice answer after result
  rcases append_step result with
    ⟨stored, next, appended, rfl, ⟨rfl, -⟩ | ⟨message, -, rfl⟩⟩ |
    ⟨rfl, error, rfl, -⟩
  · exact inserts stored next appended
  · exact inserts stored next appended
  · exact good

/-! ## The routes -/

section Routes

open Actions

variable {deps : ActionsRouteDeps} {ipClientId : Id} {now : Timestamp}

/-- What an action delivers that delivered it before is free. -/
theorem free_of_like (good : Good store)
    {after : ActionState}
    (like : DeliversLike actionId after (actionIn store accountId actionId))
    (delivers : after.deliveryAction actionId = some delivery) :
    Free store accountId actionId delivery.ipClientId
      delivery.traefikProviderId := by
  obtain ⟨earlier, delivered, sameClient, sameProvider⟩ :=
    like delivery delivers
  have free := free_of_delivers (good.one accountId) delivered
  rw [sameClient, sameProvider] at free
  exact free

theorem changeStatus_keeps {event : ActionEvent} {atEnd : Nat}
    {afterwards : ActionState → Backend Unit} (good : Good world.store)
    (like : ∀ (state : ActionState) (stored : StoredEvent),
      stored.data = .action event → state.status ≠ .detached →
      DeliversLike actionId (actionReducer state stored) state)
    (keeps : ∀ state, (afterwards state).Calls
      fun call => Call.keepsStore call = true) :
    KeepsGood (changeStatus deps accountId actionId event atEnd afterwards)
      world := by
  unfold changeStatus
  apply after_reading (loadOwnedAction_finds actionId)
    (keepsStore_of_reads (loadOwnedAction_reads _ _)) good
  intro owned after found same
  rw [← same] at good found
  split
  · exact done_keeps _ good
  rename_i owned
  cases found owned rfl
  split
  · exact done_keeps _ good
  rename_i attached
  apply after_append good
  · exact fun _ _ _ => rfl
  · intro stored delivery written delivers
    exact free_of_like good (like _ stored written attached) delivers
  intro stored after good
  apply after_kept (keepsStore_of_quiet (refreshProjection_quiet _ _)) good
  intro _ after good
  apply after_kept (keepsStore_of_quiet (scheduleDelivery_quiet _ _ _)) good
  intro _ after good
  apply after_kept (keeps _) good
  intro _ after good
  exact done_keeps _ good

theorem like_enabled (state : ActionState) (stored : StoredEvent)
    (written : stored.data = .action (.enabled actionId))
    (attached : state.status ≠ .detached) :
    DeliversLike actionId (actionReducer state stored) state := by
  simp only [actionReducer, written]
  exact deliversLike_of_same rfl (fun _ => attached) rfl rfl

theorem like_disabled (state : ActionState) (stored : StoredEvent)
    (written : stored.data = .action (.disabled actionId))
    (attached : state.status ≠ .detached) :
    DeliversLike actionId (actionReducer state stored) state := by
  simp only [actionReducer, written]
  exact deliversLike_of_same rfl (fun _ => attached) rfl rfl

theorem like_detached (state : ActionState) (stored : StoredEvent)
    (written : stored.data = .action (.detached now)) :
    DeliversLike actionId (actionReducer state stored) state := by
  simp only [actionReducer, written]
  exact deliversLike_of_same rfl (fun attached => (attached rfl).elim) rfl rfl

/-- What a `PUT` may store as the config of an action. -/
def Fits (store : EventStore) (accountId actionId : Id) (state : ActionState)
    (config : ActionConfig) : Prop :=
  state.type = some .traefikConfigDelivery →
  ∀ target, config.asDelivery = some target →
    ∀ ipClientId, state.ipClientId = some ipClientId →
      Free store accountId actionId ipClientId target.traefikProviderId

/-- The device and the provider of an accepted config are free for every
action the check did not ignore. -/
def Accepted (store : EventStore) (accountId : Id) (client : Option Id)
    (ignoreActionId : Option Id)
    (validation : Except Nat TraefikConfigDeliveryConfig) : Prop :=
  ∀ config, validation = .ok config →
    ∀ ipClientId, client = some ipClientId →
      ∀ actionId, (∀ other, some other = ignoreActionId → other = actionId) →
        Free store accountId actionId ipClientId config.traefikProviderId

theorem validateDeliveryConfig_finds {client : Option Id}
    {raw : Option ActionConfigBody} {ignoreActionId : Option Id} :
    Finds .fallible store
      (validateDeliveryConfig deps accountId client raw ignoreActionId)
      (Accepted store accountId client ignoreActionId) := by
  have refused : ∀ status, Finds .fallible store
      (pure (.error status) :
        Backend (Except Nat TraefikConfigDeliveryConfig))
      (Accepted store accountId client ignoreActionId) := by
    intro status
    apply Finds.done
    intro config impossible
    cases impossible
  unfold validateDeliveryConfig
  split
  · dsimp only
    split
    · exact refused 422
    split
    · apply Finds.bind (Finds.kept
        (keepsStore_of_reads (ProviderStore.loadActive_reads _ _)))
      intro provider _
      split
      · exact refused 404
      apply Finds.bind (listDeliveryActions_finds accountId)
      intro existing complete
      split
      · exact refused 409
      rename_i apart
      apply Finds.done
      intro config accepted ipClientId known actionId ignored
      cases accepted
      subst known
      exact free_of_clashes complete ignored (eq_false_of_ne_true apart)
    · exact refused 422
  · exact refused 500

theorem validateReconfigure_finds {state : ActionState}
    {body : Option ActionConfigBody} :
    Finds .fallible store
      (validateReconfigure deps accountId actionId state body)
      fun validation => ∀ config, validation = .ok (some config) →
        Fits store accountId actionId state config := by
  unfold validateReconfigure
  split
  · apply Finds.done
    intro config impossible
    cases impossible
  split
  · apply Finds.bind validateDeliveryConfig_finds
    intro validation accepts
    apply Finds.done
    intro config accepted isDelivery target isTarget ipClientId known
    cases validation with
    | error status => cases accepted
    | ok found =>
        cases accepted
        cases isTarget
        exact accepts target rfl ipClientId known actionId
          fun _ => Option.some.inj
  · rename_i other
    apply Finds.bind
      (Finds.kept (keepsStore_of_quiet (validateCredentialConfig_quiet _ _ _)))
    intro validation _
    apply Finds.done
    intro config _ isDelivery
    exact (other isDelivery).elim

theorem reconfigureValid_keeps {body : ReconfigureBody}
    {config : Option ActionConfig} (good : Good world.store)
    (fits : ∀ found, config = some found →
      Fits world.store accountId actionId
        (actionIn world.store accountId actionId) found) :
    KeepsGood (reconfigureValid deps accountId actionId
      (replayed initialActionState actionReducer
        (world.store.readStream ⟨accountId, .action, actionId⟩)) body config
      now) world := by
  unfold reconfigureValid
  apply after_append good
  · exact fun _ _ _ => rfl
  · intro stored delivery written delivers
    cases config with
    | none =>
        apply free_of_like good _ delivers
        simp only [actionReducer, written]
        exact deliversLike_of_same rfl id rfl rfl
    | some config =>
        simp only [actionReducer, written] at delivers
        obtain ⟨isDelivery, -, ipClientId, target, client, configured, rfl⟩ :=
          deliveryAction_eq_some.mp delivers
        exact fits config rfl isDelivery target configured ipClientId client
  intro stored after good
  apply after_kept (keepsStore_of_quiet (refreshProjection_quiet _ _)) good
  intro _ after good
  apply after_kept (keepsStore_of_reads (currentState_reads _ _)) good
  intro _ after good
  apply after_kept (keepsStore_of_quiet (scheduleDelivery_quiet _ _ _)) good
  intro _ after good
  apply after_kept (keepsStore_of_quiet (cleanupDropped_quiet _ _ _)) good
  intro _ after good
  exact done_keeps _ good

theorem reconfigure_keeps {body : ReconfigureBody} (good : Good world.store) :
    KeepsGood (reconfigure deps accountId actionId body now) world := by
  unfold reconfigure
  apply after_reading (loadOwnedAction_finds actionId)
    (keepsStore_of_reads (loadOwnedAction_reads _ _)) good
  intro owned after found same
  rw [← same] at good found
  split
  · exact done_keeps _ good
  rename_i owned
  cases found owned rfl
  split
  · exact done_keeps _ good
  apply after_reading validateReconfigure_finds
    (keepsStore_of_quiet (validateReconfigure_quiet _ _ _ _ _)) good
  intro validation later fits unchanged
  rw [← unchanged] at good fits ⊢
  cases validation with
  | error status => exact done_keeps _ good
  | ok config =>
      apply reconfigureValid_keeps good
      intro found isConfig
      exact fits found (congrArg Except.ok isConfig)

theorem validateAttach_finds {type : ActionType}
    {body : Option ActionConfigBody} :
    Finds .fallible store (validateAttach deps accountId ipClientId body type)
      fun validation => ∀ config, validation = .ok config →
        type = .traefikConfigDelivery →
        ∀ target, config.asDelivery = some target →
          ∀ actionId, Free store accountId actionId ipClientId
            target.traefikProviderId := by
  cases type with
  | traefikConfigDelivery =>
      apply Finds.bind Finds.load
      intro device _
      split
      · apply Finds.bind validateDeliveryConfig_finds
        intro validation accepts
        apply Finds.done
        intro config accepted _ target isTarget actionId
        cases validation with
        | error status => cases accepted
        | ok found =>
            cases accepted
            cases isTarget
            apply accepts target rfl ipClientId rfl actionId
            intro other impossible
            cases impossible
      · apply Finds.done
        intro config impossible
        cases impossible
  | hetznerCloudDnsUpdate =>
      apply (Finds.kept
        (keepsStore_of_quiet (validateAttach_quiet _ _ _ _ _))).mono
      intro validation _ config _ impossible
      cases impossible
  | hetznerCloudFirewallRuleUpdate =>
      apply (Finds.kept
        (keepsStore_of_quiet (validateAttach_quiet _ _ _ _ _))).mono
      intro validation _ config _ impossible
      cases impossible

theorem attachValid_keeps {type : ActionType}
    {addressFamilies : List AddressFamily} {config : ActionConfig}
    (good : Good world.store)
    (fits : type = .traefikConfigDelivery →
      ∀ target, config.asDelivery = some target →
        ∀ actionId, Free world.store accountId actionId ipClientId
          target.traefikProviderId) :
    KeepsGood (attachValid deps accountId ipClientId type addressFamilies
      config now) world := by
  unfold attachValid
  have draws : Finds .fallible world.store Backend.ulid fun _ => True :=
    Finds.kept ((Backend.calls_call _).mpr rfl)
  apply after_reading draws ((Backend.calls_call _).mpr rfl) good
  intro actionId after _ same
  rw [← same] at good fits
  apply after_append good
  · intro stored next appended
    have nothing := nothing_of_first good.sequenced rfl appended
    exact congrArg List.length nothing
  · intro stored delivery written delivers
    simp only [actionReducer, written] at delivers
    obtain ⟨isDelivery, -, client, target, attached, configured, rfl⟩ :=
      deliveryAction_eq_some.mp delivers
    cases attached
    exact fits (Option.some.inj isDelivery) target configured actionId
  intro stored after good
  apply after_kept (keepsStore_of_quiet (refreshProjection_quiet _ _)) good
  intro _ after good
  apply after_kept (keepsStore_of_reads (currentState_reads _ _)) good
  intro _ after good
  apply after_kept (keepsStore_of_quiet (scheduleDelivery_quiet _ _ _)) good
  intro _ after good
  exact done_keeps _ good

theorem attach_keeps {body : AttachBody} (good : Good world.store) :
    KeepsGood (attach deps accountId ipClientId body now) world := by
  unfold attach
  split
  · exact done_keeps _ good
  split
  · exact done_keeps _ good
  apply after_reading validateAttach_finds
    (keepsStore_of_quiet (validateAttach_quiet _ _ _ _ _)) good
  intro validation after fits same
  rw [← same] at good fits
  cases validation with
  | error status => exact done_keeps _ good
  | ok config => exact attachValid_keeps good (fits config rfl)

end Routes

/-! ## Runs -/

theorem answered_keeps {program : Backend Nat}
    (keeps : KeepsGood program world) : KeepsGood (answered program) world := by
  apply keeps.seq
  exact fun _ _ good => good

variable {deps : BackendDeps}

/-- Every request on the actions keeps the store good. -/
theorem program_keeps (command : ActionCommand) {now : Timestamp}
    (changes : command.changesAction = true) (good : Good world.store) :
    KeepsGood (command.program deps accountId now) world := by
  cases command with
  | attach ipClientId body => exact answered_keeps (attach_keeps good)
  | reconfigure actionId body => exact answered_keeps (reconfigure_keeps good)
  | enable actionId =>
      apply answered_keeps
      exact changeStatus_keeps good like_enabled fun _ => trivial
  | disable actionId =>
      apply answered_keeps
      exact changeStatus_keeps good like_disabled fun _ => trivial
  | detach actionId =>
      apply answered_keeps
      apply changeStatus_keeps good
      · exact fun state stored written _ => like_detached state stored written
      · exact fun state => keepsStore_of_quiet
          (Program.Calls.onlyIf (Actions.cleanup_quiet _ state _))
  | run actionId => cases changes

theorem step_keeps {before after : World}
    (step : ActionRequests deps before after) (good : Good before.store) :
    Good after.store := by
  cases step with
  | request accountId command now choices before changes =>
      apply ((program_keeps command changes good).sound choices).everywhere
      intro result atEnd
      cases result with
      | ok value => exact atEnd
      | error error => exact atEnd
  | elsewhere before after sequenced same =>
      refine ⟨sequenced, ?_⟩
      intro accountId first second left right delivers others
      rw [same] at delivers others
      exact good.one accountId first second left right delivers others

theorem run_keeps {initial final : World}
    (run : Relation.ReflTransGen (ActionRequests deps) initial final)
    (good : Good initial.store) : Good final.store := by
  induction run with
  | refl => exact good
  | tail _ step induction => exact step_keeps step induction

/-! ## Contents -/

theorem members_apart {providerId : Id} {member other : SnapshotMember}
    (one : OneDelivery store accountId)
    (isMember : HasMember store accountId providerId member)
    (isOther : HasMember store accountId providerId other)
    (sameDevice : member.ipClientId = other.ipClientId) : member = other := by
  obtain ⟨actionId, contributes⟩ := isMember
  obtain ⟨otherId, contributes'⟩ := isOther
  obtain ⟨left, delivers, ofDevice, ofProvider⟩ :=
    delivers_of_member actionId contributes
  obtain ⟨right, others, toDevice, toProvider⟩ :=
    delivers_of_member otherId contributes'
  have same : actionId = otherId :=
    one actionId otherId left right delivers others
      (ofDevice.trans (sameDevice.trans toDevice.symm))
      (ofProvider.trans toProvider.symm)
  subst same
  exact Option.some.inj (contributes.symm.trans contributes')

/-- A device that is in two groups is a member twice. -/
theorem collected_apart {device : Id → Option SnapshotDevice}
    {members : List SnapshotMember}
    (apart : ∀ member ∈ members, ∀ other ∈ members,
      member.ipClientId = other.ipClientId → member = other) :
    (collectedGroups device members).devices.Nodup := by
  have keyed := @collectedGroups_keyed device members
  have ofGroup : ∀ group ∈ collectedGroups device members,
      (collectedGroups device members).entriesOf group.1 = group.2 := by
    intro group member
    have found := (getEntry_eq_some_iff keyed.distinct).mpr member
    unfold SnapshotGroups.entriesOf
    rw [found]
    rfl
  have memberOf : ∀ group ∈ collectedGroups device members,
      ∀ ipClientId ∈ group.2.map (·.1), ⟨group.1, ipClientId⟩ ∈ members := by
    intro group inGroups ipClientId inGroup
    obtain ⟨⟨_, entry⟩, isEntry, rfl⟩ := List.mem_map.mp inGroup
    have distinct := keyed.devices group.1
    rw [ofGroup group inGroups] at distinct
    have found := (getEntry_eq_some_iff distinct).mpr isEntry
    rw [← ofGroup group inGroups] at found
    exact ((getEntry_collectedGroups members group.1 _ entry).mp found).1
  unfold SnapshotGroups.devices
  rw [List.nodup_flatMap]
  constructor
  · intro group inGroups
    rw [← ofGroup group inGroups]
    exact keyed.devices group.1
  · apply (List.pairwise_map.mp keyed.distinct).imp_of_mem
    intro group other inGroups isOther different ipClientId inGroup inOther
    have same := apart _ (memberOf group inGroups ipClientId inGroup)
      _ (memberOf other isOther ipClientId inOther) rfl
    exact different (congrArg SnapshotMember.group same)

/-! ## An example -/

/-- A device with an address and a provider. -/
def unattachedWorld : World where
  store := EventStore.recorded 1
    [(.traefikProvider, 10, .traefikProvider
        (.created ⟨10, 1, "home", .agentInitiated, 0⟩)),
     (.ipClient, 20, .ipClient (.registered 20 1 "router" "hash" 0)),
     (.ipClient, 20, .ipClient (.ipChanged
        { previousIPv4 := none
          newIPv4 := some "192.0.2.7"
          previousIPv6 := none
          newIPv6 := none
          settledAt := 0 }))]

def attachRequest : ActionCommand := .attach 20
  { type := some .traefikConfigDelivery
    config := some { traefikProviderId := some 10, group := some "lan" } }

/-- A request to attach that runs alone, with every call answered. -/
def attaches (world : World) : Outcome Err (Option Nat) × World :=
  (attachRequest.program exampleBackendDeps 1 0).run semantics
    (List.replicate 12 .ok) world

end OneDelivery

open OneDelivery in
/-- However the requests on the actions follow each other and wherever they are
stopped, at most one action of an account delivers a device to a provider, and
the content of a provider has at most one entry for each device. -/
theorem one_delivery_per_device {deps : BackendDeps} {initial final : World}
    (sequenced : initial.store.Sequenced)
    (unattached : ∀ accountId actionId,
      initial.store.readStream ⟨accountId, .action, actionId⟩ = [])
    (run : Relation.ReflTransGen (ActionRequests deps) initial final)
    (accountId : Id) :
    OneDelivery final.store accountId ∧
    ∀ text providerId content, Builds text final accountId providerId content →
      ∃ members : List SnapshotMember,
        (∀ member, member ∈ members ↔
          HasMember final.store accountId providerId member) ∧
        content.groups =
          (collectedGroups (deviceIn text final.store accountId)
            members).sorted text ∧
        (collectedGroups (deviceIn text final.store accountId)
          members).devices.Nodup := by
  have good : Good initial.store := by
    refine ⟨sequenced, ?_⟩
    intro owner first second left right delivers
    rw [actionIn, unattached] at delivers
    cases delivers
  have one := (run_keeps run good).one accountId
  refine ⟨one, ?_⟩
  intro text providerId content builds
  obtain ⟨members, isMember, rfl⟩ := SnapshotBuild.builds_found builds
  refine ⟨members, isMember, rfl, ?_⟩
  apply collected_apart
  intro member here other there sameDevice
  exact members_apart one ((isMember member).mp here)
    ((isMember other).mp there) sameDevice

open OneDelivery in
/-- Attaching a delivery twice: the second request is refused. -/
theorem one_delivery_per_device_attached_twice :
    (attaches unattachedWorld).1 = .returned (some 201) ∧
    (attaches (attaches unattachedWorld).2).1 = .returned (some 409) ∧
    OneDelivery (attaches (attaches unattachedWorld).2).2.store 1 := by
  refine ⟨by decide +kernel, by decide +kernel, ?_⟩
  have step : ∀ world, ActionRequests exampleBackendDeps world
      (attaches world).2 :=
    fun world => .request 1 attachRequest 0 _ world rfl
  have unattached : ∀ accountId actionId,
      unattachedWorld.store.readStream ⟨accountId, .action, actionId⟩ = [] :=
    fun _ _ => rfl
  exact (one_delivery_per_device (EventStore.recorded_sequenced _ _)
    unattached ((Relation.ReflTransGen.single (step _)).tail (step _)) 1).1

end FluxIP
