import FluxIP.Adapters.Publishing

/-!
# Which snapshots are sent

A snapshot is pushed to a provider's session, or sent on a session's own
channel, only by a program whose publish call has returned it.
-/

namespace FluxIP

open Async

/-- A publish call of the program has returned this snapshot of the
provider. -/
def Vouched (deps : SnapshotPublisherDeps) (providerId : Id)
    (payload : SnapshotPayload) (history : BackendHistory) : Prop :=
  ∃ accountId result since, result.snapshot = payload ∧
    (∀ answered ∈ since, answered ∈ history) ∧
    Certified deps accountId providerId result since

/-- What a command sends to sessions of the provider was vouched for; a session
is sent its own provider's snapshots. -/
structure Sending (deps : SnapshotPublisherDeps) (command : BackendCommand)
    (providerId : Id) (history : BackendHistory) (call : Call) : Prop where
  pushed : ∀ payload, call = .memory (.push providerId (.snapshot payload)) →
    Vouched deps providerId payload history
  own : ∀ sessionId payload,
    call = .memory (.sendAgent sessionId (.snapshot payload)) →
    ∃ auth received,
      command = .provider (.message auth sessionId received) ∧
      (auth.providerId = providerId → Vouched deps providerId payload history)

def Call.carriesSnapshot : Call → Bool
  | .memory (.sendAgent _ (.snapshot _)) => true
  | .memory (.push _ (.snapshot _)) => true
  | _ => false

variable {deps : SnapshotPublisherDeps} {command : BackendCommand}
variable {providerId : Id} {history : BackendHistory} {call : Call}

theorem Sending.of_silent (silent : call.carriesSnapshot = false) :
    Sending deps command providerId history call := by
  constructor
  · rintro payload rfl
    cases silent
  · rintro sessionId payload rfl
    cases silent

/-- A program that sends no snapshot, and stays away from the publishers as
those do that publish. -/
theorem PublishesInTurn.silent {α : Type} {program : Backend α}
    (publishes : PublishesInTurn α program)
    (calls : program.Calls fun call => Call.carriesSnapshot call = false) :
    StaysAway (Sending deps command) α program := by
  intro providerId history away
  apply ((publishes providerId history away).calling calls).allows
  exact fun history call both => .of_silent both.2

/-! ## Publish calls -/

theorem silent_of_stepsOn {key : MutexKey} (isStep : call.stepsOn key = true) :
    call.carriesSnapshot = false := by
  cases call with
  | memory call => cases call <;> first | rfl | cases isStep
  | _ => rfl

theorem silent_of_reads (isRead : Backend.reads call = true) :
    call.carriesSnapshot = false := by
  cases call with
  | memory call => cases isRead
  | _ => rfl

section

variable {accountId owner : Id} {causationId : Option Id}
variable {absorbedCausationIds : List Id} {now : Timestamp}

theorem providerAppend_silent (event : TraefikProviderEvent) :
    (ProviderStore.append accountId owner event).Calls
      fun call => Call.carriesSnapshot call = false :=
  providerAppend_calls (fun _ => silent_of_stepsOn) rfl fun _ => rfl

theorem publish_silent :
    (SnapshotPublisher.publish deps accountId owner causationId
      absorbedCausationIds now).Calls
      fun call => Call.carriesSnapshot call = false :=
  publish_calls (fun _ => silent_of_stepsOn) (fun _ => silent_of_stepsOn)
    (fun _ => silent_of_reads) rfl fun _ _ _ => rfl

/-- What a publish call returns is vouched for. -/
def VouchedResult (deps : SnapshotPublisherDeps) (owner providerId : Id)
    (history : BackendHistory)
    (result : Except Err (Option PublishResult)) : Prop :=
  seatAt (.publisher providerId) history = .away ∧
    ∀ published, result = .ok (some published) → owner = providerId →
      Vouched deps providerId published.snapshot history

theorem publish_vouched
    (away : seatAt (.publisher providerId) history = .away) :
    (SnapshotPublisher.publish deps accountId owner causationId
      absorbedCausationIds now).Traces (Sending deps command providerId)
      (VouchedResult deps owner providerId) history := by
  by_cases own : owner = providerId
  · subst own
    have traces : (SnapshotPublisher.publish deps accountId owner causationId
        absorbedCausationIds now).Traces (Publishing owner)
        (LeftTurn owner (CertifiedIfAny deps accountId owner)) history :=
      publish_own away
    have silent : (SnapshotPublisher.publish deps accountId owner causationId
        absorbedCausationIds now).Traces (Sending deps command owner)
        (LeftTurn owner (CertifiedIfAny deps accountId owner)) history :=
      (traces.calling publish_silent).allows
        fun history call both => .of_silent both.2
    apply silent.mono
    rintro history result ⟨away, held⟩
    refine ⟨away, ?_⟩
    rintro published rfl -
    obtain ⟨since, within, certified⟩ := held _ rfl
    exact ⟨accountId, published, since, rfl, within, certified published rfl⟩
  · have silent : StaysAway (Sending deps command) (Option PublishResult)
        (SnapshotPublisher.publish deps accountId owner causationId
          absorbedCausationIds now) :=
      (publish_publishesInTurn _ _ _ _ _ _).silent publish_silent
    apply (silent providerId history away).mono
    intro history result away
    exact ⟨away, fun published _ same => absurd same own⟩

end

/-! ## The programs that send -/

theorem sending_closed :
    Closed (StaysAway (Sending deps command)) where
  done := StaysAway.done
  fail := StaysAway.fail
  bind := StaysAway.bind
  attempt := StaysAway.attempt
  call awaited plain aside := by
    apply (publishesInTurn_closed.call awaited plain aside).silent
    apply (Backend.calls_call awaited).mpr
    cases awaited with
    | memory call =>
        cases call with
        | sendAgent sessionId message =>
            cases message <;> first | rfl | cases plain
        | push providerId message =>
            cases message <;> first | rfl | cases plain
        | _ => rfl
    | _ => rfl
  append accountId owner event silent :=
    (publishesInTurn_closed.append accountId owner event silent).silent
      (providerAppend_silent event)
  publish _ _ _ _ _ _ :=
    (publish_publishesInTurn _ _ _ _ _ _).silent publish_silent

section

variable {server : GrpcAgentServerDeps} {accountId owner : Id}
variable {now : Timestamp}

/-- A message of a session that carries a snapshot vouched for. -/
theorem send_sending {auth : AgentAuth} {sessionId : Id}
    {received : AgentMessage} {payload : SnapshotPayload}
    (isMessage : command = .provider (.message auth sessionId received))
    (vouched : auth.providerId = providerId →
      Vouched deps providerId payload history) :
    Sending deps command providerId history
      (.memory (.sendAgent sessionId (.snapshot payload))) := by
  constructor
  · intro other same
    cases same
  · intro other payload same
    cases same
    exact ⟨auth, received, isMessage, vouched⟩

theorem sendCurrentSnapshot_sending {auth : AgentAuth} {sessionId : Id}
    {received : AgentMessage}
    (isMessage : command = .provider (.message auth sessionId received)) :
    StaysAway (Sending server.publisher command) Unit
      (AgentSessionHandler.sendCurrentSnapshot server auth sessionId now) := by
  intro providerId history away
  unfold AgentSessionHandler.sendCurrentSnapshot SnapshotPublisher.publishNow
  simp only [Program.monadBind_eq_bind, Program.bind_assoc,
    Program.pure_eq_done, Program.done_bind]
  apply (publish_vouched away).bind
  · rintro history result ⟨away, vouched⟩
    cases result with
    | none => exact away
    | some published =>
        apply call_traces_to (.memory (.sendAgent _ _))
        · exact send_sending isMessage (vouched published rfl)
        · exact fun answer => away_of_aside (.of_noAppend rfl
            (by rintro input ⟨⟩)) away
  · exact fun history error ended => ended.1

/-- What a run pushes has been vouched for. -/
theorem push_sending {payload : SnapshotPayload}
    (vouched : owner = providerId → Vouched deps providerId payload history) :
    Sending deps command providerId history
      (.memory (.push owner (.snapshot payload))) := by
  constructor
  · intro payload same
    cases same
    exact vouched rfl
  · intro sessionId payload same
    cases same

theorem push_traces {payload : SnapshotPayload}
    (away : seatAt (.publisher providerId) history = .away)
    (vouched : owner = providerId → Vouched deps providerId payload history) :
    (SnapshotCoordinator.push owner payload).Traces
      (Sending deps command providerId)
      (fun history _ => seatAt (.publisher providerId) history = .away)
      history := by
  apply call_traces_to (.memory (.push _ _))
  · exact push_sending vouched
  · exact fun answer => away_of_aside (.of_noAppend rfl (by rintro input ⟨⟩))
      away

theorem coordinatorRun_sending {causationIds : List Id} :
    StaysAway (Sending server.publisher command) Unit
      (SnapshotCoordinator.run server accountId owner causationIds now) := by
  apply sending_closed.tryCatch
  · intro providerId history away
    apply (publish_vouched away).bind
    · rintro history result ⟨away, vouched⟩
      cases result with
      | none => exact away
      | some published =>
          cases changed : published.changed with
          | false =>
              simp only [changed]
              exact away
          | true =>
              simp only [changed]
              exact push_traces away (vouched published rfl)
    · exact fun history error ended => ended.1
  · exact fun _ => StaysAway.done _

theorem resync_sending :
    StaysAway (Sending server.publisher command) Unit
      (SnapshotCoordinator.resync server accountId owner now) := by
  apply sending_closed.tryCatch
  · intro providerId history away
    apply (publish_vouched away).bind
    · rintro history result ⟨away, vouched⟩
      cases result with
      | none => exact away
      | some published => exact push_traces away (vouched published rfl)
    · exact fun history error ended => ended.1
  · exact fun _ => StaysAway.done _

end

/-! ## Every command -/

theorem providerCommand_sends (deps : ProviderServiceDeps) (now : Timestamp)
    (command : ProviderCommand) :
    StaysAway (Sending deps.server.publisher (.provider command)) (Option Nat)
      (command.program deps now) := by
  apply sending_closed.command
  constructor
  · rintro auth sessionId received rfl
    exact (sending_closed.within sessionId).process
      (sendCurrentSnapshot_sending rfl)
  · exact fun _ _ _ _ => coordinatorRun_sending
  · exact fun _ _ _ => resync_sending

/-- A command that is none of the provider's sends no snapshot. -/
theorem sending_of_decided {credentials : Credentials}
    (foreign : command.isProvider = false)
    (decided : Decided credentials command history call) :
    Sending deps command providerId history call := by
  apply Sending.of_silent
  cases carries : call.carriesSnapshot with
  | false => rfl
  | true =>
      have own : call.onProviders = true := by
        cases call with
        | memory call => cases call <;> first | rfl | cases carries
        | _ => cases carries
      rw [decided.2 own] at foreign
      cases foreign

theorem command_sends (deps : BackendDeps) (now : Timestamp)
    (command : BackendCommand) (providerId : Id) :
    (command.program deps now).Traces
      (Sending deps.providers.server.publisher command providerId) anyEnd
      [] := by
  cases isProvider : command.isProvider with
  | false =>
      apply (command_decides deps now command).allows
      exact fun history call decided => sending_of_decided isProvider decided
  | true =>
      cases command with
      | provider command =>
          apply (providerCommand_sends deps.providers now command providerId
            [] rfl).mono
          exact fun _ _ _ => trivial
      | _ => cases isProvider

end FluxIP
