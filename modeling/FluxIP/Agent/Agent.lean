import FluxIP.Agent.Render

/-!
# The agent

What the agent process keeps in memory, and what it does with a snapshot, at a
tick of its offline timer and when its templates are reloaded.  How rendering,
validating and writing the files ends is the environment's choice: `applied` is
the outcome of `applyLocked`, `now` what a step reads from the clock.
-/

namespace FluxIP

/-- A loaded template: its file and sum, and the objects it expects Traefik to
load. -/
structure AgentTemplate where
  sum : FileChecksum
  expect : List String
  deriving DecidableEq, Repr

/-- The files that were written, with their sums, or an error. -/
abbrev ApplyResult := Except String (List FileChecksum)

/-- The in-memory state.  `maxOffline` is the configured duration; zero means
never. -/
structure Agent where
  version : String
  maxOffline : Nat
  templates : List AgentTemplate := []
  last : Option SnapshotPayload := none
  appliedVersion : Nat := 0
  haveApplied : Bool := false
  connected : Bool := false
  offlineSince : Timestamp := 0
  stale : Bool := false
  deriving DecidableEq, Repr

namespace Agent

/-- `New` -/
def create (version : String) (maxOffline : Nat) (now : Timestamp) : Agent where
  version
  maxOffline
  offlineSince := now

def emptyData (now : Timestamp) (stale : Bool) : Render.Data where
  provider := ""
  version := 0
  time := now
  stale
  groups := fun _ => []

/-- A snapshot is always generated at an instant that can be read back. -/
def dataFrom (s : SnapshotPayload) (stale : Bool) : Render.Data where
  provider := s.providerName
  version := s.version
  time := s.generatedAt
  stale
  groups := Render.entriesOf s.groups

/-- What the files are rendered from again: the last snapshot, if any. -/
def lastData (agent : Agent) (now : Timestamp) (stale : Bool) : Render.Data :=
  match agent.last with
  | none => emptyData now stale
  | some s => dataFrom s stale

def templateSums (agent : Agent) : List FileChecksum :=
  agent.templates.map (·.sum)

def onConnected (agent : Agent) : Agent :=
  { agent with connected := true }

/-- The offline timer restarts here. -/
def onDisconnected (agent : Agent) (now : Timestamp) : Agent :=
  { agent with
    connected := false
    offlineSince := now }

/-- The report on a snapshot before its outcome is known. -/
def reportOn (agent : Agent) (s : SnapshotPayload) (result : ReportResult) :
    ReportMessage where
  version := s.version
  correlationId := s.correlationId
  result
  error := ""
  agentVersion := agent.version
  stale := false
  files := []
  templates := []
  traefikCheck := none

/-- `check` is the checker, if one is configured: it is asked only if some
template expects an object. -/
def traefikCheck (agent : Agent)
    (check : Option (List String → TraefikCheckResult)) :
    Option TraefikCheckResult :=
  let expected := agent.templates.flatMap (·.expect)
  if expected = [] then none else check.map (· expected)

/-- A snapshot was applied. -/
def accept (agent : Agent) (s : SnapshotPayload) (now : Timestamp) : Agent :=
  { agent with
    last := some s
    appliedVersion := s.version
    haveApplied := true
    stale := false
    offlineSince := now }

/-- Older versions are ignored; everything else is rendered, validated and
written, and the outcome is reported. -/
def onSnapshot (agent : Agent) (s : SnapshotPayload) (now : Timestamp)
    (applied : ApplyResult)
    (check : Option (List String → TraefikCheckResult)) :
    ReportMessage × Agent :=
  if agent.haveApplied ∧ s.version < agent.appliedVersion then
    ({ agent.reportOn s .ignoredStale with stale := agent.stale }, agent)
  else
    match applied with
    | .error error =>
        ({ agent.reportOn s .error with
            error
            templates := agent.templateSums }, agent)
    | .ok files =>
        ({ agent.reportOn s .ok with
            templates := agent.templateSums
            files
            traefikCheck := agent.traefikCheck check }, agent.accept s now)

/-- The maximum offline duration has passed, and nothing says so yet. -/
def isOverdue (agent : Agent) (now : Timestamp) : Bool :=
  decide (0 < agent.maxOffline) && !agent.connected && !agent.stale &&
    decide (agent.maxOffline < now - agent.offlineSince)

/-- The files are rendered again with the stale marker, so that templates can
stop trusting old addresses.  The data is what `applyLocked` is given. -/
def tick (agent : Agent) (now : Timestamp) (applied : ApplyResult) :
    Option Render.Data × Agent :=
  if agent.isOverdue now then
    match applied with
    | .error _ => (some (agent.lastData now true), agent)
    | .ok _ => (some (agent.lastData now true), { agent with stale := true })
  else (none, agent)

/-- Changed templates are taken only if they load and render validly with the
last snapshot and with an empty one: `loaded` is the outcome of that. -/
def reload (agent : Agent) (now : Timestamp)
    (loaded : Except String (List AgentTemplate)) :
    Option Render.Data × Agent :=
  match loaded with
  | .error _ => (none, agent)
  | .ok templates =>
      (some (agent.lastData now agent.stale), { agent with templates })

variable {agent : Agent} {s : SnapshotPayload} {now : Timestamp}
variable {applied : ApplyResult}
variable {check : Option (List String → TraefikCheckResult)}

/-- A snapshot that is not applied leaves the agent as it is. -/
theorem onSnapshot_error {error : String} :
    (agent.onSnapshot s now (.error error) check).2 = agent := by
  unfold onSnapshot
  split
  · rfl
  · rfl

theorem onSnapshot_ok {files : List FileChecksum}
    (current : ¬ (agent.haveApplied = true ∧
      s.version < agent.appliedVersion)) :
    (agent.onSnapshot s now (.ok files) check).2 = agent.accept s now := by
  simp only [onSnapshot, current, if_false]

theorem tick_error {error : String} :
    (agent.tick now (.error error)).2 = agent := by
  unfold tick
  split
  · rfl
  · rfl

theorem tick_ok {files : List FileChecksum}
    (overdue : agent.isOverdue now = true) :
    (agent.tick now (.ok files)).2 = { agent with stale := true } := by
  simp only [tick, overdue, if_true]

/-- What a snapshot can do to the agent. -/
theorem onSnapshot_cases :
    (agent.onSnapshot s now applied check).2 = agent ∨
      (agent.haveApplied = true → agent.appliedVersion ≤ s.version) ∧
        (agent.onSnapshot s now applied check).2 = agent.accept s now := by
  unfold onSnapshot
  split
  · exact .inl rfl
  · rename_i current
    cases applied with
    | error error => exact .inl rfl
    | ok files =>
        refine .inr ⟨?_, rfl⟩
        intro isApplied
        exact Nat.le_of_not_lt fun older => current ⟨isApplied, older⟩

/-- The steps that keep what the agent has applied. -/
structure KeepsApplied (before after : Agent) : Prop where
  last : after.last = before.last
  appliedVersion : after.appliedVersion = before.appliedVersion
  haveApplied : after.haveApplied = before.haveApplied

theorem tick_keepsApplied : KeepsApplied agent (agent.tick now applied).2 := by
  unfold tick
  split
  · cases applied with
    | error error => exact ⟨rfl, rfl, rfl⟩
    | ok files => exact ⟨rfl, rfl, rfl⟩
  · exact ⟨rfl, rfl, rfl⟩

theorem reload_keepsApplied {loaded : Except String (List AgentTemplate)} :
    KeepsApplied agent (agent.reload now loaded).2 := by
  cases loaded with
  | error error => exact ⟨rfl, rfl, rfl⟩
  | ok templates => exact ⟨rfl, rfl, rfl⟩

end Agent

end FluxIP
