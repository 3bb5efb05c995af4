import FluxIP.Adapters.ProviderPrograms
import FluxIP.Adapters.Publishing
import FluxIP.Adapters.SessionMemory

/-!
# The reasons given by the programs

No program of the provider service terminates a session as a superseded one, so
no session ever ends as one.
-/

namespace FluxIP

open Async

variable {world next : World} {choice : Choice} {call : Call}

/-- The reason a termination is given. -/
def MemoryCall.reason : MemoryCall → Option CloseReason
  | .terminate _ reason => some reason
  | .terminateByToken _ _ reason => some reason
  | .terminateByProvider _ reason => some reason
  | .terminateByAccount _ reason => some reason
  | _ => none

section Every

variable {given : CloseReason → Prop} {holds : AgentSession → Prop}

/-- What the changes of a session keep is kept by a call, if the start of the
heartbeat keeps it. -/
theorem memory_every {call : MemoryCall} {answer : call.Answer}
    (law : AgentSession.Law given holds)
    (isGiven : ∀ reason, call.reason = some reason → given reason)
    (starts : ∀ sessionId seconds, call = .startHeartbeat sessionId seconds →
      ∀ session, world.agents.sessions sessionId = some session →
        holds session → holds { session with heartbeatSeconds := some seconds })
    (held : world.agents.Every holds)
    (result : call.effect world = some (answer, next)) :
    next.agents.Every holds := by
  cases call with
  | join key => cases result; exact held
  | turn key ticket =>
      simp only [MemoryCall.effect] at result
      split at result
      · cases result; exact held
      · cases result
  | leave key ticket => cases result; exact held
  | openSession providerId accountId tokenId now =>
      cases result
      exact held.setSession (law.opened _ _ _ _ _)
  | process sessionId message now =>
      cases result
      exact held.process law
  | recordConnected sessionId =>
      cases result
      exact held.modify fun session _ => law.connected session
  | sendAgent sessionId message =>
      cases result
      exact held.send
  | startHeartbeat sessionId seconds =>
      cases result
      exact held.modify (starts sessionId seconds rfl)
  | heartbeat sessionId now =>
      cases result
      exact held.heartbeat law
  | terminate sessionId reason =>
      cases result
      exact held.terminate law (isGiven reason rfl)
  | finish sessionId =>
      cases result
      exact held.finish law
  | closed sessionId =>
      simp only [MemoryCall.effect] at result
      split at result
      · cases result
      · cases result; exact held
  | claimDisconnect sessionId =>
      cases result
      exact held.claimDisconnect law
  | push providerId message =>
      cases result
      exact held.push
  | terminateByToken providerId tokenId reason =>
      cases result
      exact held.terminateByToken law (isGiven reason rfl)
  | terminateByProvider providerId reason =>
      cases result
      exact held.terminateByProvider law (isGiven reason rfl)
  | terminateByAccount accountId reason =>
      cases result
      exact held.terminateByAccount law (isGiven reason rfl)

theorem call_every {answer : Except Err call.Answer}
    (law : AgentSession.Law given holds)
    (isGiven : ∀ awaited reason, call = .memory awaited →
      awaited.reason = some reason → given reason)
    (starts : ∀ sessionId seconds,
      call = .memory (.startHeartbeat sessionId seconds) →
      ∀ session, world.agents.sessions sessionId = some session →
        holds session → holds { session with heartbeatSeconds := some seconds })
    (held : world.agents.Every holds)
    (result : semantics call choice world = some (answer, next)) :
    next.agents.Every holds := by
  by_cases outer : ∀ awaited, call ≠ .memory awaited
  · rw [agents_frame result outer]
    exact held
  · simp only [not_forall, not_not] at outer
    obtain ⟨awaited, rfl⟩ := outer
    obtain ⟨⟨value, after⟩, effect, same⟩ :=
      Option.map_eq_some_iff.mp result
    cases same
    have elapsed : (world.elapse choice.elapsed).agents.Every holds := held
    refine memory_every law (fun reason => isGiven awaited reason rfl) ?_
      elapsed effect
    intro sessionId seconds same
    exact starts sessionId seconds (congrArg Call.memory same)

end Every

theorem call_unsuperseded {answer : Except Err call.Answer}
    (other : call.supersedes = false) (held : world.agents.Unsuperseded)
    (result : semantics call choice world = some (answer, next)) :
    next.agents.Unsuperseded := by
  refine call_every AgentSession.Unsuperseded.law ?_ ?_ held result
  · intro awaited reason same isGiven
    subst same
    cases awaited with
    | terminate => cases isGiven; exact other
    | terminateByToken => cases isGiven; exact other
    | terminateByProvider => cases isGiven; exact other
    | terminateByAccount => cases isGiven; exact other
    | _ => cases isGiven
  · exact fun _ _ _ _ _ unsuperseded => unsuperseded

/-- The end a program has waited for has its session's reason. -/
theorem closed_effective {sessionId : Id} {effective : CloseReason}
    (held : world.agents.Unsuperseded)
    (result : semantics (.memory (.closed sessionId)) choice world =
      some (.ok effective, next)) : effective.supersedes = false := by
  obtain ⟨⟨value, after⟩, effect, same⟩ := Option.map_eq_some_iff.mp result
  cases same
  simp only [MemoryCall.effect] at effect
  split at effect
  · cases effect
  · rename_i given
    cases effect
    obtain ⟨session, found, ended⟩ := Option.bind_eq_some_iff.mp given
    exact (held sessionId session found).2 _ ended

/-! ## The programs -/

/-- The program terminates no session as a superseded one. -/
def GivesReasons (α : Type) (program : Backend α) : Prop :=
  program.Calls fun call => Call.supersedes call = false

theorem supersedes_of_stepsOn {key : MutexKey}
    (isStep : call.stepsOn key = true) : call.supersedes = false := by
  cases call with
  | memory call => cases call <;> first | rfl | cases isStep
  | _ => rfl

theorem givesReasons_append (accountId providerId : Id)
    (event : TraefikProviderEvent) :
    GivesReasons StoredEvent
      (ProviderStore.append accountId providerId event) := by
  apply providerAppend_calls
  · exact fun call isStep => supersedes_of_stepsOn isStep
  · rfl
  · exact fun version => rfl

theorem givesReasons_outer : Outer GivesReasons where
  done value := trivial
  fail error := trivial
  bind first second := Program.Calls.bind first second
  attempt first := first.attempt
  call awaited _ _ _ other := (Backend.calls_call awaited).mpr other
  append accountId providerId event _ _ := givesReasons_append _ _ _
  publish deps accountId providerId causationId absorbed now := by
    apply publish_calls
    · exact fun call isStep => supersedes_of_stepsOn isStep
    · exact fun call isStep => supersedes_of_stepsOn isStep
    · exact fun call isRead => supersedes_of_reads isRead
    · rfl
    · exact fun event version _ => rfl

theorem givesReasons_within (sessionId : Id) :
    Within sessionId GivesReasons where
  toOuter := givesReasons_outer
  session awaited _ _ other := (Backend.calls_call awaited).mpr other
  presence accountId providerId event _ := givesReasons_append _ _ _

theorem command_givesReasons (deps : ProviderServiceDeps) (now : Timestamp)
    (command : ProviderCommand) :
    (command.program deps now).Calls fun call =>
      Call.supersedes call = false := by
  have push (providerId : Id) (payload : SnapshotPayload) :
      GivesReasons Unit
        (Backend.memory (.push providerId (.snapshot payload))) :=
    (Backend.calls_call (.memory (.push _ _))).mpr rfl
  apply givesReasons_outer.command
  constructor
  · intro auth sessionId received _
    apply (givesReasons_within sessionId).handle
    apply (givesReasons_within sessionId).process
    apply givesReasons_outer.sendCurrentSnapshot
    exact fun payload =>
      (Backend.calls_call (.memory (.sendAgent sessionId _))).mpr rfl
  · exact fun auth sessionId _ => (givesReasons_within sessionId).afterClosed
  · exact fun accountId providerId _ _ =>
      givesReasons_outer.coordinatorRun (push providerId)
  · exact fun accountId providerId _ =>
      givesReasons_outer.resync (push providerId)

end FluxIP
