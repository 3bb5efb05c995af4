import FluxIP.Adapters.Checks
import FluxIP.Guarantees.FinalOutcomes

/-!
# The notification of an execution

A notification stands at the end of an attempt, after the outcome was recorded,
and stops at its first exception.  What comes before it in the job, with all
its attempts, neither sends nor looks at the preference of the client.
-/

namespace FluxIP

open Async

namespace Notifications

variable {deps : ActionExecutionWorkerDeps} {data : ActionExecutionJobData}
variable {outcome : ExecutionOutcome} {history : BackendHistory}

/-! ## What a notification calls -/

def clientParams (data : ActionExecutionJobData) : ReadStreamParams :=
  ⟨data.accountId, .ipClient, data.ipClientId⟩

def channelParams (data : ActionExecutionJobData) : ReadStreamParams :=
  ⟨data.accountId, .notificationChannel, data.accountId⟩

def executionParams (data : ActionExecutionJobData) : ReadStreamParams :=
  ⟨data.accountId, .actionExecution, data.executionId⟩

/-- The first call of a notification. -/
def readsPreference (data : ActionExecutionJobData) : Call :=
  .store (.readStream (clientParams data))

def isSend : Call → Bool
  | .send _ _ => true
  | _ => false

/-- The channel has taken the message. -/
def sent (type : String) (message : NotificationMessage) :
    Answered backend Err :=
  @Answered.mk backend Err (.send type message) (.ok ())

/-- What has been called since the notification began. -/
def sinceBegun (data : ActionExecutionJobData) (history : BackendHistory) :
    BackendHistory :=
  history.dropWhile (fun answered => answered.call ≠ readsPreference data)

/-- What is called after these answers, none of which is an exception. -/
inductive Follows (data : ActionExecutionJobData) :
    BackendHistory → Call → Prop where
  | channel {client} :
      Follows data [readAs (clientParams data) client]
        (.store (.readStream (channelParams data)))
  | send {client channel type message} :
      Follows data [readAs (clientParams data) client,
        readAs (channelParams data) channel] (.send type message)
  | load {client channel type message} :
      Follows data [readAs (clientParams data) client,
        readAs (channelParams data) channel, sent type message]
        (.store (.readStream (executionParams data)))
  | record {client channel type message execution input channelId outcome
        sentAt} :
      input.data =
        .actionExecution (.notificationSent channelId outcome sentAt) →
      Follows data [readAs (clientParams data) client,
        readAs (channelParams data) channel, sent type message,
        readAs (executionParams data) execution] (.store (.append input))

/-! ## What a message needs -/

/-- The outcome that an event leaves no retry to change. -/
def settles : ActionExecutionEvent → Option ExecutionOutcome
  | .succeeded _ => some .succeeded
  | .failed data => if data.retriesExhausted then some .failed else none
  | _ => none

/-- The call appends how an execution goes. -/
def appendsOutcome : Call → Bool
  | .store (.append input) =>
      match input.data with
      | .actionExecution event => event.isOutcome
      | _ => false
  | _ => false

/-- The last outcome the job has tried to record was recorded, and it is
final. -/
structure Concluded (data : ActionExecutionJobData) (outcome : ExecutionOutcome)
    (history : BackendHistory) : Prop where
  recorded : ∃ before input stored event later,
    history = before ++
      @Answered.mk backend Err (.store (.append input)) (.ok stored) ::
        later ∧
    input.params = executionParams data ∧
    input.data = .actionExecution event ∧ settles event = some outcome ∧
    ∀ answered ∈ later, appendsOutcome answered.call = false

/-- The preference of the client, as read, wants to hear of the outcome, and
the channel, as read, is active and one the worker can send to. -/
structure Wanted (deps : ActionExecutionWorkerDeps)
    (data : ActionExecutionJobData) (outcome : ExecutionOutcome)
    (history : BackendHistory) (type : String)
    (message : NotificationMessage) : Prop where
  preference : ∃ client, readAs (clientParams data) client ∈ history ∧
    (client.foldl ipClientReducer
      initialIpClientState).notificationPreference.wants outcome = true
  channel : ∃ events channel, readAs (channelParams data) events ∈ history ∧
    channel = events.foldl notificationChannelReducer
      initialNotificationChannelState ∧
    channel.destination.isSome = true ∧ channel.type = type ∧
    channel.addresses = message.addresses ∧
    deps.notificationChannels type = true

/-- What an execution job may call after what it was answered. -/
structure Considerate (deps : ActionExecutionWorkerDeps)
    (data : ActionExecutionJobData) (history : BackendHistory) (call : Call) :
    Prop where
  sends : ∀ type message, call = .send type message →
    (∀ answered ∈ history, isSend answered.call = false) ∧
    ∃ outcome, Concluded data outcome history ∧
      Wanted deps data outcome history type message
  follows : sinceBegun data history ≠ [] →
    Follows data (sinceBegun data history) call

/-! ## Before the notification -/

/-- The call is none of a notification's. -/
structure Beside (data : ActionExecutionJobData) (call : Call) : Prop where
  sends : isSend call = false
  asks : call ≠ readsPreference data

/-- No notification has begun. -/
def Unbegun (data : ActionExecutionJobData) (history : BackendHistory) :
    Prop :=
  ∀ answered ∈ history, Beside data answered.call

theorem Unbegun.concat (unbegun : Unbegun data history)
    {answered : Answered backend Err} (beside : Beside data answered.call) :
    Unbegun data (history ++ [answered]) :=
  List.forall_mem_append.mpr ⟨unbegun, List.forall_mem_singleton.mpr beside⟩

/-- Only what is called from the notification on counts as its part. -/
theorem Unbegun.sinceBegun_append (unbegun : Unbegun data history)
    (tail : BackendHistory) :
    sinceBegun data (history ++ tail) = sinceBegun data tail := by
  apply List.dropWhile_append_of_pos
  intro answered member
  exact decide_eq_true (unbegun answered member).asks

theorem Unbegun.sinceBegun_eq_nil (unbegun : Unbegun data history) :
    sinceBegun data history = [] := by
  have whole := unbegun.sinceBegun_append []
  rwa [List.append_nil] at whole

theorem sinceBegun_cons (client : List StoredEvent) (tail : BackendHistory) :
    sinceBegun data (readAs (clientParams data) client :: tail) =
      readAs (clientParams data) client :: tail :=
  List.dropWhile_cons_of_neg (by simp [readAs, readsPreference])

/-- The calls of a notification that has begun. -/
theorem Unbegun.follows (unbegun : Unbegun data history)
    {client : List StoredEvent} {tail : BackendHistory} {call : Call}
    (next : Follows data (readAs (clientParams data) client :: tail) call) :
    Follows data (sinceBegun data
      (history ++ readAs (clientParams data) client :: tail)) call := by
  rw [unbegun.sinceBegun_append, sinceBegun_cons]
  exact next

theorem Considerate.of_unbegun (unbegun : Unbegun data history) {call : Call}
    (quiet : isSend call = false) : Considerate deps data history call where
  sends := by
    intro type message same
    subst same
    cases quiet
  follows := by
    intro begun
    exact absurd unbegun.sinceBegun_eq_nil begun

theorem Concluded.append (concluded : Concluded data outcome history)
    {tail : BackendHistory}
    (others : ∀ answered ∈ tail, appendsOutcome answered.call = false) :
    Concluded data outcome (history ++ tail) := by
  obtain ⟨before, input, stored, event, later, rfl, own, isEvent, final,
    quiet⟩ := concluded.recorded
  refine ⟨before, input, stored, event, later ++ tail, ?_, own, isEvent,
    final, ?_⟩
  · rw [List.append_assoc, List.cons_append]
  · exact List.forall_mem_append.mpr ⟨quiet, others⟩

/-! ## The notification -/

variable {delivery : Delivery}

theorem sends_of_unbegun (unbegun : Unbegun data history)
    {answered : Answered backend Err} (member : answered ∈ history) :
    isSend answered.call = false :=
  (unbegun answered member).sends

/-- A call of the notification that is no send. -/
theorem Considerate.of_follows (unbegun : Unbegun data history)
    {client : List StoredEvent} {tail : BackendHistory} {call : Call}
    (next : Follows data (readAs (clientParams data) client :: tail) call)
    (quiet : isSend call = false) :
    Considerate deps data
      (history ++ readAs (clientParams data) client :: tail) call where
  sends := by
    intro type message same
    subst same
    cases quiet
  follows := fun _ => unbegun.follows next

/-- An event of the execution is appended at the version just read. -/
theorem appendExecutionEvent_traces
    {allowed : BackendHistory → Call → Prop}
    {post : BackendHistory → Except Err Unit → Prop}
    {event : ActionExecutionEvent}
    (loads : allowed history (.store (.readStream (executionParams data))))
    (appends : ∀ execution input, input.params = executionParams data →
      input.data = .actionExecution event →
      allowed (history ++ [readAs (executionParams data) execution])
        (.store (.append input)))
    (unread : ∀ error, post (history ++ [@Answered.mk backend Err
      (.store (.readStream (executionParams data))) (.error error)])
      (.error error))
    (ends : ∀ execution input answer, input.params = executionParams data →
      input.data = .actionExecution event →
      post (history ++ [readAs (executionParams data) execution] ++
        [@Answered.mk backend Err (.store (.append input)) answer])
        (answer.map fun _ => ())) :
    (appendExecutionEvent data.accountId data.executionId event).Traces
      allowed post history := by
  refine ⟨loads, ?_⟩
  intro answer
  cases answer with
  | error error => exact unread error
  | ok execution =>
      apply Program.Traces.performing (appends execution _ rfl rfl)
      · exact fun stored => ends execution _ (.ok stored) rfl rfl
      · exact fun error => ends execution _ (.error error) rfl rfl

/-- Both reads of a notification have asked for the message. -/
theorem Considerate.of_wanted (unbegun : Unbegun data history)
    (concluded : Concluded data outcome history)
    {client events : List StoredEvent} {type : String}
    {message : NotificationMessage}
    (wanted : Wanted deps data outcome
      (history ++ [readAs (clientParams data) client,
        readAs (channelParams data) events]) type message) :
    Considerate deps data (history ++ [readAs (clientParams data) client,
      readAs (channelParams data) events]) (.send type message) where
  sends := by
    intro type message same
    cases same
    have quiet : ∀ answered ∈ [readAs (clientParams data) client,
        readAs (channelParams data) events],
        isSend answered.call = false ∧ appendsOutcome answered.call = false :=
      List.forall_mem_cons.mpr
        ⟨⟨rfl, rfl⟩, List.forall_mem_singleton.mpr ⟨rfl, rfl⟩⟩
    constructor
    · exact List.forall_mem_append.mpr
        ⟨fun _ member => sends_of_unbegun unbegun member,
          fun answered member => (quiet answered member).1⟩
    · exact ⟨outcome, concluded.append
        fun answered member => (quiet answered member).2, wanted⟩
  follows := fun _ => unbegun.follows .send

theorem sendNotification_traces (unbegun : Unbegun delivery.data history)
    (concluded : Concluded delivery.data outcome history) :
    (sendNotification deps delivery outcome).Traces
      (Considerate deps delivery.data) anyEnd history := by
  apply load_performing (clientParams delivery.data)
    (.of_unbegun unbegun rfl)
  · intro client
    by_cases wants : (client.foldl ipClientReducer
        initialIpClientState).notificationPreference.wants outcome = true
    · simp only [replayed, wants, if_true]
      apply load_performing (channelParams delivery.data)
        (.of_follows unbegun .channel rfl)
      · intro events
        generalize isChannel : (replayed initialNotificationChannelState
          notificationChannelReducer events).state = channel
        cases active : channel.destination with
        | none => trivial
        | some channelId =>
            by_cases known : deps.notificationChannels channel.type = true
            · simp only [known, if_true, List.append_assoc, List.cons_append,
                List.nil_append]
              apply Program.Traces.performing
              · apply Considerate.of_wanted unbegun concluded
                constructor
                · refine ⟨client, ?_, wants⟩
                  exact List.mem_append_right _ List.mem_cons_self
                · refine ⟨events, channel, ?_, isChannel.symm, ?_, rfl, rfl,
                    known⟩
                  · exact List.mem_append_right _
                      (List.mem_cons_of_mem _ List.mem_cons_self)
                  · rw [active]
                    rfl
              · intro _
                rw [List.append_assoc]
                apply appendExecutionEvent_traces
                · exact .of_follows unbegun .load rfl
                · intro execution input _ isEvent
                  rw [List.append_assoc]
                  exact .of_follows unbegun (.record isEvent) rfl
                · exact fun _ => trivial
                · exact fun _ _ _ _ _ => trivial
              · exact fun _ => trivial
            · simp only [known]
              trivial
      · exact fun _ _ => trivial
    · simp only [replayed, wants]
      trivial
  · exact fun _ _ => trivial

/-- Whatever becomes of the notification, the attempt goes on. -/
theorem maybeSendNotification_traces
    (unbegun : Unbegun delivery.data history)
    (concluded : Concluded delivery.data outcome history) :
    (maybeSendNotification deps delivery outcome).Traces
      (Considerate deps delivery.data) (fun _ result => result = .ok ())
      history := by
  apply (sendNotification_traces unbegun concluded).attempted.bind
  · intro later returned _
    cases returned with
    | ok value => rfl
    | error error => rfl
  · intro later error ends
    obtain ⟨result, same, -⟩ := ends
    cases same

/-! ## The attempt -/

/-- The call is none of a notification's and appends no outcome. -/
structure Plain (data : ActionExecutionJobData) (call : Call) : Prop extends
    Beside data call where
  appends : appendsOutcome call = false

theorem plain_readStream {params : ReadStreamParams}
    (other : decide (params.aggregateType = .ipClient) = false) :
    Plain data (.store (.readStream params)) where
  sends := rfl
  asks := by
    intro same
    cases same
    cases other
  appends := rfl

theorem plain_of_ofExecutor {call : Call}
    (ofExecutor : Call.ofExecutor call = true) : Plain data call := by
  cases call with
  | store call => cases ofExecutor
  | send type message => cases ofExecutor
  | _ => exact ⟨⟨rfl, nofun⟩, rfl⟩

theorem loadAggregate_plain {State : Type} {params : ReadStreamParams}
    {initialState : State} {reducer : State → StoredEvent → State}
    (other : decide (params.aggregateType = .ipClient) = false) :
    (loadAggregate params initialState reducer).Calls (Plain data) := by
  apply Program.Calls.bind
  · exact (Backend.calls_call _).mpr (plain_readStream other)
  · exact fun _ => trivial

theorem resolveApiToken_plain (accountId providerCredentialId : Id) :
    (resolveApiToken accountId providerCredentialId).Calls (Plain data) := by
  apply Program.Calls.bind (loadAggregate_plain rfl)
  intro credential
  split <;> trivial

theorem resolveExecutorConfig_plain (accountId : Id) (config : ActionConfig)
    (firewallOwnedEntries : FamilyValues) (type : ActionType) :
    (resolveExecutorConfig deps accountId config firewallOwnedEntries
      type).Calls (Plain data) := by
  cases type with
  | hetznerCloudDnsUpdate =>
      simp only [resolveExecutorConfig]
      split
      · apply Program.Calls.bind (resolveApiToken_plain _ _)
        exact fun _ => trivial
      · trivial
  | hetznerCloudFirewallRuleUpdate =>
      simp only [resolveExecutorConfig]
      split
      · apply Program.Calls.bind (resolveApiToken_plain _ _)
        exact fun _ => trivial
      · trivial
  | traefikConfigDelivery => trivial

theorem appendFirewallRuleApplied_plain (ipValues : IpValuesUsed) :
    (appendFirewallRuleApplied delivery ipValues).Calls (Plain data) := by
  apply Program.Calls.bind (loadAggregate_plain rfl)
  intro loaded
  apply Program.Calls.bind
  · exact (Backend.calls_call _).mpr ⟨⟨rfl, nofun⟩, rfl⟩
  · exact fun _ => trivial

theorem bookkeeping_plain (ipValues : IpValuesUsed) :
    (appendFirewallRuleAppliedEventBestEffort delivery ipValues).Calls
      (Plain data) := by
  have one : (appendFirewallRuleApplied delivery ipValues).attempt.Calls
      (Plain data) := (appendFirewallRuleApplied_plain ipValues).attempt
  apply Program.Calls.bind one
  intro first
  split
  · apply Program.Calls.bind one
    exact fun _ => trivial
  · trivial

theorem refreshExecution_plain (accountId executionId : Id) :
    (refreshExecutionProjection accountId executionId).Calls
      (Plain data) := by
  apply Program.Calls.bind (loadAggregate_plain rfl)
  intro loaded
  unfold upsertExecutionProjection
  split
  · trivial
  · exact (Backend.calls_call _).mpr ⟨⟨rfl, nofun⟩, rfl⟩

/-- Plain calls keep what is known before the notification. -/
theorem plain_traces {α : Type} {program : Backend α}
    {assertion : BackendHistory → Prop}
    (calls : program.Calls (Plain data)) (here : assertion history)
    (unbegun : ∀ history, assertion history → Unbegun data history)
    (keeps : ∀ history answered, Plain data answered.call →
      assertion history → assertion (history ++ [answered])) :
    program.Traces (Considerate deps data) (fun history _ => assertion history)
      history :=
  .of_quiet assertion calls
    (fun history _ _ plain holds => keeps history _ plain holds)
    (fun history _ holds plain => .of_unbegun (unbegun history holds)
      plain.sends) here

theorem unbegun_traces {α : Type} {program : Backend α}
    (calls : program.Calls (Plain data)) (unbegun : Unbegun data history) :
    program.Traces (Considerate deps data)
      (fun history _ => Unbegun data history) history :=
  plain_traces calls unbegun (fun _ holds => holds)
    fun _ _ plain holds => holds.concat plain.toBeside

/-- The outcome is recorded, and no notification has begun. -/
structure Due (data : ActionExecutionJobData) (outcome : ExecutionOutcome)
    (history : BackendHistory) : Prop where
  unbegun : Unbegun data history
  concluded : Concluded data outcome history

theorem due_traces {α : Type} {program : Backend α}
    (calls : program.Calls (Plain data)) (due : Due data outcome history) :
    program.Traces (Considerate deps data)
      (fun history _ => Due data outcome history) history := by
  apply plain_traces calls due (fun _ holds => holds.unbegun)
  intro history answered plain holds
  exact ⟨holds.unbegun.concat plain.toBeside, holds.concluded.append
    (List.forall_mem_singleton.mpr plain.appends)⟩

/-- What an append of an event leaves known. -/
theorem recordEvent_traces {event : ActionExecutionEvent}
    (unbegun : Unbegun data history) :
    (appendExecutionEvent data.accountId data.executionId event).Traces
      (Considerate deps data)
      (fun history result => Unbegun data history ∧
        (result = .ok () → ∀ outcome, settles event = some outcome →
          Due data outcome history)) history := by
  have read (execution : List StoredEvent) :
      Unbegun data (history ++ [readAs (executionParams data) execution]) :=
    unbegun.concat (plain_readStream rfl).toBeside
  apply appendExecutionEvent_traces
  · exact .of_unbegun unbegun rfl
  · intro execution input _ _
    exact .of_unbegun (read execution) rfl
  · intro error
    exact ⟨unbegun.concat (plain_readStream rfl).toBeside, nofun⟩
  · intro execution input answer own isEvent
    have appended : Unbegun data
        (history ++ [readAs (executionParams data) execution] ++
          [@Answered.mk backend Err (.store (.append input)) answer]) :=
      (read execution).concat ⟨rfl, nofun⟩
    refine ⟨appended, ?_⟩
    intro isOk outcome final
    cases answer with
    | error error => cases isOk
    | ok stored =>
        refine ⟨appended, ⟨_, input, stored, event, [], rfl, own, isEvent,
          final, ?_⟩⟩
        exact List.forall_mem_nil _

/-- What throws has not begun to notify. -/
def ThrowsUnbegun (data : ActionExecutionJobData) {α : Type}
    (history : BackendHistory) (result : Except Err α) : Prop :=
  ∀ error, result = .error error → Unbegun data history

theorem executeAndRecord_traces {type : ActionType} {config : ActionConfig}
    {action : ActionState} {executor : ActionExecutor type}
    (unbegun : Unbegun delivery.data history) :
    (executeAndRecord deps delivery type config action executor).Traces
      (Considerate deps delivery.data) (ThrowsUnbegun delivery.data)
      history := by
  apply (unbegun_traces (resolveExecutorConfig_plain _ _ _ _) unbegun).bind
  · intro history resolvedConfig unbegun
    have invokes : (Backend.invoke delivery.data.executionId).Calls
        (Plain delivery.data) := (Backend.calls_call _).mpr ⟨⟨rfl, nofun⟩, rfl⟩
    apply (unbegun_traces invokes unbegun).bind
    · intro history _ unbegun
      have executes : (executor.execute resolvedConfig
          (relevantIpValues action.addressFamilies
            delivery.data.ipValues)).Calls (Plain delivery.data) :=
        (executor.external _ _).mono fun _ => plain_of_ofExecutor
      apply (unbegun_traces executes unbegun).bind
      · intro history result unbegun
        apply (recordEvent_traces unbegun).bind
        · intro history _ recorded
          have due := recorded.2 rfl .succeeded rfl
          apply (due_traces (bookkeeping_plain _).onlyIf due).bind
          · intro history _ due
            apply (due_traces (refreshExecution_plain _ _) due).bind
            · intro history _ due
              apply (maybeSendNotification_traces due.unbegun
                due.concluded).mono
              intro history result returns error throws
              rw [returns] at throws
              cases throws
            · exact fun _ _ due _ _ => due.unbegun
          · exact fun _ _ due _ _ => due.unbegun
        · exact fun _ _ recorded _ _ => recorded.1
      · exact fun _ _ unbegun _ _ => unbegun
    · exact fun _ _ unbegun _ _ => unbegun
  · exact fun _ _ unbegun _ _ => unbegun

/-- What throws has not begun to notify, as long as another attempt follows. -/
def Retried (delivery : Delivery) (history : BackendHistory)
    (result : Except Err Unit) : Prop :=
  delivery.attempt < delivery.maxAttempts →
    ThrowsUnbegun delivery.data history result

theorem recordFailure_traces {error : Err}
    (unbegun : Unbegun delivery.data history) :
    (recordFailure deps delivery error).Traces
      (Considerate deps delivery.data) (Retried delivery) history := by
  apply (recordEvent_traces unbegun).bind
  · intro history _ recorded
    by_cases isFinal : delivery.maxAttempts ≤ delivery.attempt
    · have due : Due delivery.data .failed history := by
        apply recorded.2 rfl
        simp [settles, isFinal]
      apply (due_traces (refreshExecution_plain _ _) due).bind
      · intro history _ due
        simp only [isFinal, decide_true, Program.onlyIf, if_true]
        apply (maybeSendNotification_traces due.unbegun due.concluded).bind
        · exact fun _ _ _ again => absurd again (Nat.not_lt.mpr isFinal)
        · exact fun _ _ _ again => absurd again (Nat.not_lt.mpr isFinal)
      · exact fun _ _ due _ _ _ => due.unbegun
    · apply (unbegun_traces (refreshExecution_plain _ _) recorded.1).bind
      · intro history _ unbegun
        simp only [isFinal, decide_false, Program.onlyIf]
        exact fun _ _ _ => unbegun
      · exact fun _ _ unbegun _ _ _ => unbegun
  · exact fun _ _ recorded _ _ _ => recorded.1

theorem failMissingFamily_traces (unbegun : Unbegun delivery.data history) :
    (failMissingFamily deps delivery).Traces
      (Considerate deps delivery.data) (ThrowsUnbegun delivery.data)
      history := by
  apply (recordEvent_traces unbegun).bind
  · intro history _ recorded
    have due := recorded.2 rfl .failed rfl
    apply (due_traces (refreshExecution_plain _ _) due).bind
    · intro history _ due
      apply (maybeSendNotification_traces due.unbegun due.concluded).mono
      intro history result returns error throws
      rw [returns] at throws
      cases throws
    · exact fun _ _ due _ _ => due.unbegun
  · exact fun _ _ recorded _ _ => recorded.1

theorem executeAction_traces {action : ActionState}
    (unbegun : Unbegun delivery.data history) :
    (executeAction deps delivery action).Traces
      (Considerate deps delivery.data) (Retried delivery) history := by
  unfold executeAction
  split
  · split
    · exact (failMissingFamily_traces unbegun).mono fun _ _ ends _ => ends
    split
    · exact fun _ _ _ => unbegun
    · apply (executeAndRecord_traces unbegun).attempted.bind
      · intro later returned ends
        obtain ⟨result, same, throws⟩ := ends
        cases same
        cases returned with
        | ok value => exact fun _ _ => nofun
        | error error => exact recordFailure_traces (throws error rfl)
      · intro later error ends
        obtain ⟨result, same, -⟩ := ends
        cases same
  · exact fun _ => nofun

theorem processExecution_traces (unbegun : Unbegun delivery.data history) :
    (processExecution deps delivery).Traces
      (Considerate deps delivery.data) (Retried delivery) history := by
  apply (recordEvent_traces unbegun).bind
  · intro history _ recorded
    apply (unbegun_traces (loadAggregate_plain rfl) recorded.1).bind
    · exact fun _ _ unbegun => executeAction_traces unbegun
    · exact fun _ _ unbegun _ _ _ => unbegun
  · exact fun _ _ recorded _ _ _ => recorded.1

/-- The attempts of a job, one after another: as long as there is another one
no notification has begun. -/
theorem attempts_trace {attempts : Nat} {clock : Nat → AttemptClock}
    {first remaining : Nat} (within : first + remaining ≤ attempts + 1)
    (unbegun : Unbegun data history) :
    (Program.retrying (fun attempt => processExecution deps
      { data, attempt, maxAttempts := attempts, clock := clock attempt })
      first remaining).Traces (Considerate deps data) anyEnd history := by
  induction remaining generalizing first history with
  | zero => trivial
  | succ remaining induction =>
      have attempt : (processExecution deps (Delivery.mk data first attempts
          (clock first))).Traces (Considerate deps data)
          (Retried (Delivery.mk data first attempts (clock first))) history :=
        @processExecution_traces deps history
          (Delivery.mk data first attempts (clock first)) unbegun
      apply attempt.attempted.bind
      · intro later returned ends
        obtain ⟨result, same, retried⟩ := ends
        cases same
        cases returned with
        | ok value => trivial
        | error error =>
            cases remaining with
            | zero => trivial
            | succ remaining =>
                have again : first < attempts := by omega
                apply induction
                · omega
                · exact retried again error rfl
      · exact fun _ _ _ => trivial

/-- What the last step of a notification appends leaves the status alone. -/
theorem status_of_notified {state : ActionExecutionState}
    {event : StoredEvent} {channelId : Id} {sentAt : Timestamp}
    (isEvent : event.data =
      .actionExecution (.notificationSent channelId outcome sentAt)) :
    (actionExecutionReducer state event).status = state.status := by
  simp only [actionExecutionReducer, isEvent]

end Notifications

open Notifications

/-- However the calls of an execution job are answered, over all its attempts:
it sends at most one message, after an outcome that no further attempt can
change, and for a preference and an active channel it has read.  From the
notification on it calls nothing but what belongs to it, and nothing after an
exception, so that no attempt follows and the status stays. -/
theorem notification_is_harmless (deps : ActionExecutionWorkerDeps)
    (data : ActionExecutionJobData) (attempts : Nat)
    (clock : Nat → AttemptClock) :
    (executionJob deps data attempts clock).Traces (Considerate deps data)
      anyEnd [] ∧
    ∀ (state : ActionExecutionState) (event : StoredEvent) channelId outcome
      sentAt, event.data =
        .actionExecution (.notificationSent channelId outcome sentAt) →
      (actionExecutionReducer state event).status = state.status := by
  constructor
  · apply attempts_trace
    · omega
    · exact List.forall_mem_nil _
  · intro state event channelId outcome sentAt isEvent
    exact status_of_notified isEvent

end FluxIP
