import FluxIP.Adapters.ProviderPrograms
import FluxIP.Adapters.SessionMemory

/-!
# Revocation

What remains of the sessions of a revoked token or a deleted provider, while
streams are opened and say hello at every await point of the request that
revokes.
-/

namespace FluxIP

open Async

/-- The termination a request asks for. -/
def ProviderCommand.terminates : ProviderCommand → Option Termination
  | .delete _ providerId => some (.provider providerId)
  | .deleteToken _ providerId tokenId => some (.token providerId tokenId)
  | _ => none

namespace Revocation

/-! ## What every step keeps -/

structure Revocable (world : World) : Prop where
  disciplined : world.agents.Disciplined none
  drawn : ∀ id session, world.agents.sessions id = some session →
    id < world.nextUUID
  revoked : ∀ termination ∈ world.agents.terminated,
    world.agents.Revoked termination

/-- Terminations are remembered, sessions stay what they are, and those a
termination was meant for are sent no more snapshots. -/
structure Onward (before after : World) : Prop where
  remembers : ∀ termination ∈ before.agents.terminated,
    termination ∈ after.agents.terminated
  persists : ∀ id session, before.agents.sessions id = some session →
    ∃ later, after.agents.sessions id = some later ∧
      later.providerId = session.providerId ∧
      later.tokenId = session.tokenId ∧
      (session.helloSeen = true → later.helloSeen = true)
  silent : ∀ termination ∈ before.agents.terminated, ∀ id,
    (∀ session, after.agents.sessions id = some session →
      termination.covers session.providerId session.tokenId = true) →
    after.agents.snapshotsTo id = before.agents.snapshotsTo id

variable {world before middle after next : World} {sessionId : Id}
variable {choice : Choice}

theorem Onward.refl (world : World) : Onward world world where
  remembers _ := id
  persists _ session found := ⟨session, found, rfl, rfl, id⟩
  silent _ _ _ _ := rfl

theorem Onward.trans (first : Onward before middle)
    (second : Onward middle after) : Onward before after where
  remembers termination noted :=
    second.remembers termination (first.remembers termination noted)
  persists := by
    intro id session found
    obtain ⟨between, found, sameProvider, sameToken, seen⟩ :=
      first.persists id session found
    obtain ⟨later, found, laterProvider, laterToken, laterSeen⟩ :=
      second.persists id between found
    exact ⟨later, found, laterProvider.trans sameProvider,
      laterToken.trans sameToken, laterSeen ∘ seen⟩
  silent := by
    intro termination noted id covered
    have between : ∀ session, middle.agents.sessions id = some session →
        termination.covers session.providerId session.tokenId = true := by
      intro session found
      obtain ⟨later, present, sameProvider, sameToken, -⟩ :=
        second.persists id session found
      rw [← sameProvider, ← sameToken]
      exact covered later present
    rw [second.silent termination (first.remembers _ noted) id covered]
    exact first.silent termination noted id between

theorem Onward.of_carries
    (carries : before.agents.Carries after.agents) : Onward before after where
  remembers _ noted := carries.terminated ▸ noted
  persists := carries.persists
  silent _ _ id _ := carries.snapshots id

/-- The step keeps what is kept. -/
def Kept (before after : World) : Prop :=
  Revocable after ∧ Onward before after

theorem settles_kept {step : Agents → Agents} (revocable : Revocable world)
    (settles : world.agents.Settles (step world.agents)) :
    Kept world (world.onAgents step) := by
  obtain ⟨disciplined, eases⟩ := settles revocable.disciplined
  refine ⟨⟨disciplined, ?_, ?_⟩, Onward.of_carries eases.toCarries⟩
  · intro id session found
    obtain ⟨earlier, present⟩ := eases.known id session found
    exact revocable.drawn id earlier present
  · intro termination noted
    have notedBefore : termination ∈ world.agents.terminated :=
      eases.terminated ▸ noted
    exact eases.revoked (revocable.revoked termination notedBefore)

/-! ## The condition -/

/-- A first hello is taken before any termination of its session has run. -/
def helloInTime (world : World) : Call → Bool
  | .memory (.process sessionId (.hello hello) _) =>
      decide (min hello.protocolVersion PROTOCOL_MAX_VERSION <
          PROTOCOL_MIN_VERSION) ||
        (world.agents.sessions sessionId).all fun session =>
          session.closed || session.helloSeen ||
            world.agents.terminated.all fun termination =>
              !termination.covers session.providerId session.tokenId
  | _ => true

/-- A session that is sent a snapshot outside the registry has said hello, and
no account is being closed. -/
def Addressed (world : World) : Call → Prop
  | .memory (.sendAgent sessionId (.snapshot _)) =>
      world.agents.Greeted sessionId
  | .memory (.terminateByAccount _ _) => False
  | _ => True

/-! ## What the steps on the sessions keep -/

theorem process_kept {message : AgentMessage} {now : Timestamp}
    (revocable : Revocable world)
    (inTime : helloInTime world (.memory (.process sessionId message now)) =
      true) :
    Kept world { world with
      agents := (world.agents.process sessionId message now).2 } := by
  have processed : world.agents.Processed sessionId message
      (world.agents.process sessionId message now) :=
    Agents.process_spec message now revocable.disciplined
  have carries := processed.carries
  refine ⟨⟨processed.disciplined, ?_, ?_⟩, Onward.of_carries carries⟩
  · intro id session found
    obtain ⟨earlier, present⟩ := carries.known id session found
    exact revocable.drawn id earlier present
  · intro termination noted
    have notedBefore : termination ∈ world.agents.terminated :=
      carries.terminated ▸ noted
    have revoked := revocable.revoked termination notedBefore
    rcases processed.registers with eases | ⟨session, first, registers⟩
    · exact eases.revoked revoked
    · intro providerId active registered
      rcases registers providerId active registered with old | ⟨rfl, same⟩
      · exact revoked providerId active old
      · obtain ⟨⟨hello, rfl, spoken⟩, found, isOpen, unseen⟩ := first
        have notSpoken : ¬ min hello.protocolVersion PROTOCOL_MAX_VERSION <
            PROTOCOL_MIN_VERSION := Nat.not_lt.mpr spoken
        simp only [helloInTime, notSpoken, decide_false, Bool.false_or, found,
          Option.all_some, isOpen, unseen, List.all_eq_true,
          Bool.not_eq_true'] at inTime
        rw [same]
        exact inTime termination notedBefore

/-- Messages to a registered session reach nobody a termination was meant
for. -/
theorem send_kept {message : AgentMessage} (revocable : Revocable world)
    (registered : ∀ session, world.agents.sessions sessionId = some session →
      session.ended = false →
      ∃ active, world.agents.byProvider session.providerId = some active ∧
        active.sessionId = sessionId) :
    Kept world (world.onAgents (·.send sessionId message)) := by
  obtain ⟨sessions, byProvider, terminated⟩ :=
    Agents.send_sessions world.agents sessionId message
  refine ⟨⟨Agents.send_disciplined message revocable.disciplined, ?_, ?_⟩,
    ?_, ?_, ?_⟩
  · intro id session found
    exact revocable.drawn id session (sessions ▸ found)
  · intro termination noted providerId active kept
    exact revocable.revoked termination (terminated ▸ noted) providerId active
      (byProvider ▸ kept)
  · intro termination noted
    exact terminated ▸ noted
  · intro id session found
    exact ⟨session, sessions ▸ found, rfl, rfl, fun seen => seen⟩
  · intro termination noted id covered
    apply Agents.snapshotsTo_send
    rintro session found rfl
    by_contra isOpen
    obtain ⟨active, present, same⟩ :=
      registered session found (by simpa using isOpen)
    obtain ⟨owner, stored, -, -, ofToken⟩ :=
      revocable.disciplined.registered session.providerId active present
    rw [same, found] at stored
    cases stored
    have never := revocable.revoked termination noted session.providerId
      active present
    rw [← ofToken, covered session (sessions ▸ found)] at never
    cases never

theorem sendAgent_kept {message : AgentMessage} (revocable : Revocable world)
    (addressed : Addressed world (.memory (.sendAgent sessionId message))) :
    Kept world (world.onAgents (·.send sessionId message)) := by
  cases message with
  | snapshot payload =>
      apply send_kept revocable
      intro session found isOpen
      obtain ⟨greeted, stored, seen⟩ := addressed
      rw [found] at stored
      cases stored
      exact revocable.disciplined.live sessionId session found seen isOpen
        (by simp)
  | _ => exact settles_kept revocable (Agents.send_settles rfl)

theorem push_kept {providerId : Id} {message : AgentMessage}
    (revocable : Revocable world) :
    Kept world (world.onAgents (·.push providerId message)) := by
  cases registered : world.agents.byProvider providerId with
  | none =>
      have same : world.onAgents (·.push providerId message) = world := by
        simp [World.onAgents, Agents.push, registered]
      rw [same]
      exact ⟨revocable, Onward.refl world⟩
  | some active =>
      have same : world.onAgents (·.push providerId message) =
          world.onAgents (·.send active.sessionId message) := by
        simp [World.onAgents, Agents.push, registered]
      rw [same]
      apply send_kept revocable
      intro session found _
      obtain ⟨owner, stored, -, ofProvider, -⟩ :=
        revocable.disciplined.registered providerId active registered
      rw [found] at stored
      cases stored
      rw [ofProvider]
      exact ⟨active, registered, rfl⟩

theorem terminates_kept {agents : Agents} {termination : Termination}
    (revocable : Revocable world)
    (terminates : world.agents.Terminates agents termination) :
    Kept world { world with agents } ∧ termination ∈ agents.terminated := by
  have noted : agents.terminated =
      world.agents.terminated ++ [termination] :=
    terminates.eases.terminated
  refine ⟨⟨⟨terminates.disciplined, ?_, ?_⟩, ?_, ?_, ?_⟩, by simp [noted]⟩
  · intro id session found
    obtain ⟨earlier, present⟩ := terminates.eases.known id session found
    exact revocable.drawn id earlier present
  · intro other member
    rw [noted, List.mem_append, List.mem_singleton] at member
    rcases member with old | rfl
    · intro providerId active registered
      exact revocable.revoked other old providerId active
        (terminates.eases.shrinks providerId active registered)
    · exact terminates.revoked
  · intro other member
    rw [noted]
    exact List.mem_append_left _ member
  · exact terminates.eases.persists
  · exact fun _ _ id _ => terminates.eases.snapshots id

theorem openSession_kept {session : AgentSession} (revocable : Revocable world)
    (drawn : session.sessionId = world.nextUUID)
    (isOpen : session.closed = session.ended)
    (unseen : session.helloSeen = false) :
    Kept world { world with
      nextUUID := world.nextUUID + 1
      agents := world.agents.setSession session } := by
  have fresh : world.agents.sessions session.sessionId = none := by
    cases found : world.agents.sessions session.sessionId with
    | none => rfl
    | some other =>
        have below := revocable.drawn _ other found
        rw [drawn] at below
        exact absurd below (Nat.lt_irrefl _)
  refine ⟨⟨Agents.setSession_disciplined revocable.disciplined fresh isOpen
    unseen, ?_, revocable.revoked⟩, fun _ => id, ?_, fun _ _ _ _ => rfl⟩
  · intro id other found
    by_cases same : id = session.sessionId
    · rw [same, drawn]
      exact Nat.lt_succ_self _
    · simp only [Agents.setSession, Function.update_of_ne same] at found
      exact (revocable.drawn id other found).trans (Nat.lt_succ_self _)
  · intro id other found
    have different : id ≠ session.sessionId := by
      rintro rfl
      rw [fresh] at found
      cases found
    refine ⟨other, ?_, rfl, rfl, fun seen => seen⟩
    simp only [Agents.setSession, Function.update_of_ne different]
    exact found

theorem Revocable.elapse (revocable : Revocable world) (elapsed : Nat) :
    Revocable (world.elapse elapsed) :=
  ⟨revocable.disciplined, revocable.drawn, revocable.revoked⟩

theorem memory_kept {call : MemoryCall} {answer : call.Answer}
    (revocable : Revocable world)
    (inTime : helloInTime world (.memory call) = true)
    (addressed : Addressed world (.memory call))
    (result : call.effect world = some (answer, next)) :
    Kept world next := by
  have same (nextMutexes : Mutexes) :
      Kept world { world with mutexes := nextMutexes } :=
    ⟨⟨revocable.disciplined, revocable.drawn, revocable.revoked⟩,
      Onward.of_carries (Agents.Carries.refl _)⟩
  cases call with
  | join key => cases result; exact same _
  | turn key ticket =>
      simp only [MemoryCall.effect] at result
      split at result
      · cases result; exact same _
      · cases result
  | leave key ticket => cases result; exact same _
  | openSession providerId accountId tokenId now =>
      cases result
      exact openSession_kept revocable rfl rfl rfl
  | process sessionId message now =>
      cases result
      exact process_kept revocable inTime
  | recordConnected sessionId =>
      cases result
      apply settles_kept revocable
      apply Agents.modify_settles
      constructor <;> exact fun _ => rfl
  | sendAgent sessionId message =>
      cases result
      exact sendAgent_kept revocable addressed
  | startHeartbeat sessionId seconds =>
      cases result
      apply settles_kept revocable
      apply Agents.modify_settles
      constructor <;> exact fun _ => rfl
  | heartbeat sessionId now =>
      cases result
      exact settles_kept revocable Agents.heartbeat_settles
  | terminate sessionId reason =>
      cases result
      exact settles_kept revocable Agents.terminate_settles
  | finish sessionId =>
      cases result
      exact settles_kept revocable Agents.finish_settles
  | closed sessionId =>
      simp only [MemoryCall.effect] at result
      split at result
      · cases result
      · cases result; exact same _
  | claimDisconnect sessionId =>
      cases result
      exact @settles_kept world
        (fun agents => (agents.claimDisconnect sessionId).2) revocable
        Agents.claimDisconnect_settles
  | push providerId message =>
      cases result
      exact push_kept revocable
  | terminateByToken providerId tokenId reason =>
      cases result
      exact (terminates_kept revocable (Agents.terminateByToken_spec
        providerId tokenId reason revocable.disciplined)).1
  | terminateByProvider providerId reason =>
      cases result
      exact (terminates_kept revocable (Agents.terminateByProvider_spec
        providerId reason revocable.disciplined)).1
  | terminateByAccount accountId reason => exact addressed.elim

theorem call_kept {call : Call} {answer : Except Err call.Answer}
    (revocable : Revocable world) (inTime : helloInTime world call = true)
    (addressed : Addressed world call)
    (result : semantics call choice world = some (answer, next)) :
    Kept world next := by
  by_cases outer : ∀ awaited, call ≠ .memory awaited
  · have same := agents_frame result outer
    have drawn := draws_onward result outer
    refine ⟨⟨same ▸ revocable.disciplined, ?_, same ▸ revocable.revoked⟩,
      Onward.of_carries (same ▸ Agents.Carries.refl _)⟩
    intro id session found
    exact (revocable.drawn id session (same ▸ found)).trans_le drawn
  · simp only [not_forall, not_not] at outer
    obtain ⟨awaited, rfl⟩ := outer
    obtain ⟨⟨value, after⟩, effect, same⟩ :=
      Option.map_eq_some_iff.mp result
    cases same
    have kept : Kept (world.elapse choice.elapsed) after :=
      memory_kept (revocable.elapse _) inTime addressed effect
    exact ⟨kept.1, kept.2.remembers, kept.2.persists, kept.2.silent⟩

/-! ## The programs -/

def contract (_ : ProviderRequest) : Contract backend Err Choice World where
  invariant := Revocable
  rely := Onward
  guarantee := Onward
  allowed _ world call _ := helloInTime world call = true
  reflexive := Onward.refl
  transitive _ _ _ := Onward.trans

variable {request : ProviderRequest} {assertion : BackendHistory → World → Prop}

/-- An assertion that survives every step. -/
structure Framed (assertion : BackendHistory → World → Prop) : Prop where
  onward : ∀ history before after, assertion history before →
    Onward before after → assertion history after
  answered : ∀ history entry world, assertion history world →
    assertion (history ++ [entry]) world

theorem Framed.stable (framed : Framed assertion) :
    (contract request).Stable assertion :=
  fun _ _ _ here step => framed.onward _ _ _ here step.2

theorem framed_true : Framed fun _ _ => True :=
  ⟨fun _ _ _ _ _ => trivial, fun _ _ _ _ => trivial⟩

theorem framed_greeted : Framed fun _ world => world.agents.Greeted sessionId where
  onward := by
    rintro history before after ⟨session, found, seen⟩ onward
    obtain ⟨later, present, -, -, still⟩ :=
      onward.persists sessionId session found
    exact ⟨later, present, still seen⟩
  answered _ _ _ greeted := greeted

theorem call_preserves (framed : Framed assertion) (awaited : Call)
    (addressed : ∀ history world, assertion history world →
      Addressed world awaited) :
    (Backend.call awaited).Preserves semantics (contract request)
      assertion := by
  intro history world keeps here
  apply Backend.call_ensures awaited
  intro before step
  have now := framed.onward _ _ _ here step.2
  refine ⟨now, ?_⟩
  intro choice answer after inTime result
  have kept := call_kept step.1 inTime (addressed history before now) result
  refine ⟨kept, ?_⟩
  intro final later
  apply ending_ofExcept answer
  exact framed.answered _ _ _
    (framed.onward _ _ _ now (kept.2.trans later.2))

theorem reads_preserve {α : Type} {program : Backend α}
    (framed : Framed assertion)
    (reads : program.Calls fun call => Backend.reads call = true) :
    program.Preserves semantics (contract request) assertion := by
  apply Program.Preserves.of_calls framed.stable reads
  intro history world call choice answer after isRead keeps here inTime result
  have addressed : Addressed world call := by
    cases call with
    | memory call => cases isRead
    | _ => trivial
  have kept := call_kept keeps inTime addressed result
  exact ⟨kept, framed.answered _ _ _ (framed.onward _ _ _ here kept.2)⟩

theorem plain_addressed {call : Call} (plain : Call.plain call = true)
    (world : World) : Addressed world call := by
  cases call with
  | memory call =>
      cases call with
      | sendAgent sessionId message =>
          cases message <;> trivial
      | terminateByAccount accountId reason => cases plain
      | _ => trivial
  | _ => trivial

theorem append_preserves (framed : Framed assertion)
    {accountId providerId : Id} {event : TraefikProviderEvent} :
    (ProviderStore.append accountId providerId event).Preserves semantics
      (contract request) assertion := by
  have memory (awaited : MemoryCall)
      (plain : Call.plain (.memory awaited) = true) :
      (Backend.memory awaited).Preserves semantics (contract request)
        assertion :=
    call_preserves framed (.memory awaited)
      fun _ world _ => plain_addressed plain world
  have once : (ProviderStore.appendOnce accountId providerId event).Preserves
      semantics (contract request) assertion := by
    apply Program.Preserves.bind (reads_preserve framed
      (ProviderStore.load_reads accountId providerId))
    intro loaded
    exact call_preserves framed (.store (.append _)) fun _ _ _ => trivial
  apply Program.Preserves.bind (memory _ rfl)
  intro ticket
  apply Program.Preserves.bind (memory _ rfl)
  intro _
  refine Program.Preserves.tryFinally framed.stable ?_ (memory _ rfl)
  apply once.tryCatch framed.stable
  intro error
  cases error with
  | concurrency aggregateType aggregateId expectedSequenceNumber => exact once
  | thrown message => exact Program.Preserves.fail framed.stable _

/-- The program keeps the assertion, whatever it returns. -/
abbrev Keeps (request : ProviderRequest)
    (assertion : BackendHistory → World → Prop) (α : Type)
    (program : Backend α) : Prop :=
  program.Preserves semantics (contract request) assertion

theorem keeps_composed (framed : Framed assertion) :
    Composed (Keeps request assertion) where
  done := Program.Preserves.done framed.stable
  fail := Program.Preserves.fail framed.stable
  bind := Program.Preserves.bind
  attempt := Program.Preserves.attempt
  call awaited plain := call_preserves framed awaited
    fun _ world _ => plain_addressed plain world
  append _ _ _ := append_preserves framed

theorem process_preserves {deps : GrpcAgentServerDeps} {auth : AgentAuth}
    {message : AgentMessage} {now : Timestamp} :
    (AgentSessionHandler.process deps auth sessionId message now).Preserves
      semantics (contract request) fun _ _ => True := by
  intro history world keeps _
  apply Program.Ensures.seq
    (fun processing _ world =>
      processing ≠ .finished → world.agents.Greeted sessionId) keeps
  · apply Backend.call_ensures (.memory (.process _ _ _))
    intro before step
    refine ⟨trivial, ?_⟩
    intro choice answer after inTime result
    have kept := call_kept step.1 inTime trivial result
    refine ⟨kept, ?_⟩
    intro final later
    cases result
    intro notFinished
    have processed : before.agents.Processed sessionId message
        (before.agents.process sessionId message now) :=
      Agents.process_spec message now step.1.disciplined
    have greeted := processed.greeted notFinished
    exact framed_greeted.onward [] _ _ greeted later.2
  · intro processing history world keeps greeted
    by_cases finished : processing = .finished
    · subst finished
      exact fun _ _ => trivial
    · have preserves : Keeps request
          (fun _ world => world.agents.Greeted sessionId) Unit
          (AgentSessionHandler.afterProcess deps auth sessionId now
            processing) := by
        have closed : Closed (Keeps request
            fun _ world => world.agents.Greeted sessionId) :=
          (keeps_composed framed_greeted).closed
        apply (closed.within sessionId).afterProcess
        apply closed.outer.sendCurrentSnapshot
        intro payload
        exact call_preserves framed_greeted (.memory (.sendAgent _ _))
          fun _ _ greeted => greeted
      exact (preserves history world keeps (greeted finished)).weaken
        (fun _ _ _ => trivial) (fun _ _ _ => trivial) fun _ _ _ => trivial

/-- A termination's request has ended it when it answers `204`. -/
def Answered (request : ProviderRequest) :
    BackendHistory → Outcome Err (Option Nat) → World → Prop :=
  yielding
    (fun status _ world => status = some 204 →
      ∀ termination, request.command.terminates = some termination →
        termination ∈ world.agents.terminated)
    (fun _ _ => True) fun _ _ => True

theorem terminated_spec {call : MemoryCall} {termination : Termination}
    {history : BackendHistory} (keeps : Revocable world)
    (step : ∀ before answer after, Revocable before →
      call.effect before = some (answer, after) →
      termination ∈ after.agents.terminated)
    (plain : Call.plain (.memory call) = true) :
    ((Backend.memory call).bind fun _ => pure 204).Ensures semantics
      (contract request)
      (yielding
        (fun status _ world => status = 204 →
          termination ∈ world.agents.terminated)
        (fun _ _ => True) fun _ _ => True) history world := by
  apply Program.Ensures.seq
    (fun _ _ world => termination ∈ world.agents.terminated) keeps
  · apply Backend.call_ensures (.memory call)
    intro before environment
    refine ⟨trivial, ?_⟩
    intro choice answer after allowed result
    have kept := call_kept environment.1 allowed
      (plain_addressed plain before) result
    refine ⟨kept, ?_⟩
    intro final later
    obtain ⟨⟨value, next⟩, effect, same⟩ := Option.map_eq_some_iff.mp result
    cases same
    exact later.2.remembers termination
      (step _ _ _ (environment.1.elapse _) effect)
  · intro _ history world _ noted
    apply Program.Ensures.done
    intro final later _
    exact later.2.remembers termination noted

theorem delete_spec {accountId providerId : Id} {now : Timestamp}
    {history : BackendHistory} (keeps : Revocable world) :
    (TraefikProviders.delete accountId providerId now).Ensures semantics
      (contract request)
      (yielding
        (fun status _ world => status = 204 →
          .provider providerId ∈ world.agents.terminated)
        (fun _ _ => True) fun _ _ => True) history world := by
  apply Program.Ensures.seq (fun _ _ _ => True) keeps
    (reads_preserve framed_true (ProviderStore.loadActive_reads _ _) _ _ keeps
      trivial)
  intro loaded history world keeps _
  cases loaded with
  | none => exact fun _ _ impossible => by cases impossible
  | some loaded =>
      apply Program.Ensures.seq (fun _ _ _ => True) keeps
        (reads_preserve framed_true (listDeliveryActions_reads _) _ _ keeps
          trivial)
      intro actions history world keeps _
      split
      · exact fun _ _ impossible => by cases impossible
      apply Program.Ensures.seq (fun _ _ _ => True) keeps
        (append_preserves framed_true _ _ keeps trivial)
      intro _ history world keeps _
      apply terminated_spec keeps ?_ rfl
      intro before answer after revocable effect
      cases effect
      exact (terminates_kept revocable (Agents.terminateByProvider_spec
        _ _ revocable.disciplined)).2

theorem deleteToken_spec {accountId providerId tokenId : Id} {now : Timestamp}
    {history : BackendHistory} (keeps : Revocable world) :
    (TraefikProviders.deleteToken accountId providerId tokenId now).Ensures
      semantics (contract request)
      (yielding
        (fun status _ world => status = 204 →
          .token providerId tokenId ∈ world.agents.terminated)
        (fun _ _ => True) fun _ _ => True) history world := by
  apply Program.Ensures.seq (fun _ _ _ => True) keeps
    (reads_preserve framed_true (ProviderStore.loadActive_reads _ _) _ _ keeps
      trivial)
  intro loaded history world keeps _
  split
  · exact fun _ _ impossible => by cases impossible
  · rename_i token _
    have revoke : (Program.onlyIf token.revokedAt.isNone
        (TraefikProviders.revoke accountId providerId tokenId now)).Preserves
          semantics (contract request) fun _ _ => True := by
      apply Program.Preserves.onlyIf framed_true.stable
      apply Program.Preserves.bind (append_preserves framed_true)
      exact fun _ => Program.Preserves.done framed_true.stable _
    apply Program.Ensures.seq (fun _ _ _ => True) keeps
      (revoke _ _ keeps trivial)
    intro _ history world keeps _
    apply terminated_spec keeps ?_ rfl
    intro before answer after revocable effect
    cases effect
    exact (terminates_kept revocable (Agents.terminateByToken_spec
      _ _ _ revocable.disciplined)).2

theorem command_spec {deps : ProviderServiceDeps} {world : World}
    (keeps : Revocable world) :
    ((providerService deps).program request).Ensures semantics
      (contract request) (Answered request) [] world := by
  have answer {program : Backend Nat} {termination : Termination}
      (asks : request.command.terminates = some termination)
      (spec : program.Ensures semantics (contract request)
        (yielding
          (fun status _ world => status = 204 →
            termination ∈ world.agents.terminated)
          (fun _ _ => True) fun _ _ => True) [] world) :
      (answered program).Ensures semantics (contract request)
        (Answered request) [] world := by
    apply Program.Ensures.seq _ keeps spec
    intro status history world _ noted
    apply Program.Ensures.done
    intro final later same other alsoAsks
    cases asks.symm.trans alsoAsks
    exact later.2.remembers _ (noted (Option.some.inj same))
  obtain ⟨number, now, command⟩ := request
  by_cases asks : command.terminates = none
  · have closed : Closed (Keeps ⟨number, now, command⟩ fun _ _ => True) :=
      (keeps_composed framed_true).closed
    have push (providerId : Id) (payload : SnapshotPayload) :
        Keeps ⟨number, now, command⟩ (fun _ _ => True) Unit
          (Backend.memory (.push providerId (.snapshot payload))) :=
      call_preserves framed_true (.memory (.push _ _)) fun _ _ _ => trivial
    have preserves : Keeps ⟨number, now, command⟩ (fun _ _ => True)
        (Option Nat) (command.program deps now) :=
      closed.command
        { process := fun _ _ _ _ => process_preserves
          run := fun _ _ _ _ => closed.outer.coordinatorRun (push _)
          resync := fun _ _ _ => closed.outer.resync (push _) }
    apply (preserves [] world keeps trivial).relax
    · intro status history world _ _ termination alsoAsks
      cases asks.symm.trans alsoAsks
    · exact fun _ _ => id
    · exact fun _ _ => id
  · cases command with
    | delete accountId providerId => exact answer rfl (delete_spec keeps)
    | deleteToken accountId providerId tokenId =>
        exact answer rfl (deleteToken_spec keeps)
    | _ => exact absurd rfl asks

theorem boot_revocable {initial : World} (booted : initial.agents = {}) :
    Revocable initial := by
  constructor
  · rw [booted]
    constructor <;> exact fun _ _ impossible => by cases impossible
  · rw [booted]
    exact fun _ _ impossible => by cases impossible
  · rw [booted]
    exact fun _ impossible => by cases impossible

theorem compatible : Pool.Compatible contract Revocable where
  invariant_iff _ _ := Iff.rfl
  covered _ _ _ _ _ := id

/-- At `now`, nothing the termination is meant for is registered, and no session
it is meant for was sent a snapshot since. -/
structure Complete (termination : Termination) (since now : Agents) :
    Prop where
  revoked : now.Revoked termination
  silent : ∀ id session, now.sessions id = some session →
    termination.covers session.providerId session.tokenId = true →
    now.snapshotsTo id = since.snapshotsTo id

end Revocation

open Revocation in
/-- In every run of the service in which hellos come in time, a token or a
provider whose `DELETE` has been answered has no registered session from then
on, and no session of it is sent a snapshot. -/
theorem revocation_complete {deps : ProviderServiceDeps} {initial : World}
    {pool later : ProviderPool} (booted : initial.agents = {})
    (run : Pool.Run (providerService deps) (Pool.Allowed contract)
      ⟨initial, []⟩ pool)
    (onward : Pool.Run (providerService deps) (Pool.Allowed contract)
      pool later)
    {request : ProviderRequest} {history : BackendHistory}
    {termination : Termination}
    (answered : ⟨request, history, .done (some 204)⟩ ∈ pool.threads)
    (asks : request.command.terminates = some termination) :
    Complete termination pool.state.agents later.state.agents := by
  have within : Pool.WithinContracts contract Answered (providerService deps)
      Revocable pool :=
    Pool.WithinContracts.run compatible
      (fun request state keeps _ => command_spec keeps)
      (Pool.WithinContracts.of_idle (boot_revocable booted)) run
  have withinLater : Pool.WithinContracts contract Answered
      (providerService deps) Revocable later :=
    within.run compatible (fun request state keeps _ => command_spec keeps)
      onward
  have since : Onward pool.state later.state :=
    within.related Onward.refl (fun _ _ _ => Onward.trans) compatible
      (fun _ _ _ => id) (fun request state keeps _ => command_spec keeps)
      onward
  have noted := within.finished compatible answered rfl termination asks
  refine ⟨withinLater.keeps.revoked termination
    (since.remembers termination noted), ?_⟩
  intro id session found covered
  apply since.silent termination noted id
  intro other present
  rw [found] at present
  cases present
  exact covered

/-! ## A stream older than the revocation -/

namespace Revocation

/-- A stream with the token of the provider of `createRequest`. -/
def streamRequest : ProviderRequest :=
  ⟨1, 0, .stream ⟨some 0, "bearer hash", "source"⟩⟩

def revokeRequest : ProviderRequest := ⟨2, 0, .deleteToken 1 0 2⟩

def helloRequest : ProviderRequest :=
  ⟨3, 0, .message ⟨1, 0, 2⟩ 3
    (.hello { protocolVersion := 1, agentVersion := "agent" })⟩

/-- A provider is created, and a stream opened with its token. -/
def opened : List (Move ProviderRequest Choice) :=
  [.start createRequest] ++ advances 0 14 ++
    [.start streamRequest] ++ advances 1 4

/-- The stream says hello and is sent its snapshot; then the token is
revoked. -/
def helloFirst : List (Move ProviderRequest Choice) :=
  opened ++ [.start helloRequest] ++ advances 2 25 ++
    [.start revokeRequest] ++ advances 3 7

/-- The token is revoked before the stream says hello. -/
def revokedFirst : List (Move ProviderRequest Choice) :=
  opened ++ [.start revokeRequest] ++ advances 2 7

/-- The stream's hello up to its registration. -/
def lateHello : List (Move ProviderRequest Choice) :=
  [.start helloRequest] ++ advances 3 3

def asksInTime (_ : ProviderRequest) (_ : BackendHistory) (world : World)
    (call : Call) (_ : Choice) : Bool :=
  helloInTime world call

end Revocation

open Revocation in
theorem revocation_complete_hello_first :
    ∃ pool : ProviderPool,
      pool.returned 3 = some (revokeRequest, some 204) ∧
        pool.state.agents.sent.length = 2 ∧
        Complete (.token 0 2) pool.state.agents pool.state.agents := by
  have ends : ((⟨{}, []⟩ : ProviderPool).follow (providerService exampleDeps)
      (Pool.checkedBy asksInTime) helloFirst).map
        (fun pool => (pool.returned 3, pool.state.agents.sent.length)) =
      some (some (revokeRequest, some 204), 2) := by
    decide +kernel
  obtain ⟨pool, followed, both⟩ := Option.map_eq_some_iff.mp ends
  obtain ⟨finished, sent⟩ := Prod.mk.inj both
  obtain ⟨history, member⟩ := Pool.mem_of_returned finished
  have run := Pool.run_of_follow
    (Pool.allowed_of_checked contract fun _ _ _ _ _ passed => passed) followed
  exact ⟨pool, finished, sent,
    revocation_complete rfl run .refl member rfl⟩

open Revocation in
/-- A stream that authenticated before its token was revoked registers
afterwards. -/
theorem late_hello_registers :
    ¬ ∀ (deps : ProviderServiceDeps) (initial : World)
      (pool later : ProviderPool) (request : ProviderRequest)
      (history : BackendHistory) (termination : Termination),
      initial.agents = {} →
      Pool.Run (providerService deps) (fun _ _ => True) ⟨initial, []⟩ pool →
      Pool.Run (providerService deps) (fun _ _ => True) pool later →
      ⟨request, history, .done (some 204)⟩ ∈ pool.threads →
      request.command.terminates = some termination →
      Complete termination pool.state.agents later.state.agents := by
  intro claim
  have ends : ((⟨{}, []⟩ : ProviderPool).follow (providerService exampleDeps)
      (fun _ _ => true) revokedFirst).bind (fun pool =>
        (pool.follow (providerService exampleDeps) (fun _ _ => true)
          lateHello).map fun later =>
            (pool.returned 2,
              (later.state.agents.byProvider 0).map (·.tokenId))) =
      some (some (revokeRequest, some 204), some 2) := by
    decide +kernel
  obtain ⟨pool, followed, ends⟩ := Option.bind_eq_some_iff.mp ends
  obtain ⟨later, further, both⟩ := Option.map_eq_some_iff.mp ends
  obtain ⟨finished, token⟩ := Prod.mk.inj both
  obtain ⟨history, member⟩ := Pool.mem_of_returned finished
  have complete := claim exampleDeps {} pool later revokeRequest history
    (.token 0 2) rfl (Pool.run_of_follow (fun _ _ _ => trivial) followed)
    (Pool.run_of_follow (fun _ _ _ => trivial) further) member rfl
  obtain ⟨active, registered, same⟩ := Option.map_eq_some_iff.mp token
  have never := complete.revoked 0 active registered
  rw [same] at never
  exact absurd never (by decide)

end FluxIP
