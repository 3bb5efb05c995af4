import FluxIP.Guarantees.AgentFiles

/-!
# The offline limit

Once the configured duration has passed without a valid snapshot, the agent is
to say so in its files.  The timer is restarted by three handlers; a run is
observed together with the instants that count.
-/

namespace FluxIP

open Async Files

/-! ## A run and its clock -/

/-- When what happened: `clock` is the last reading, `droppedAt` the end of the
last connection, and `endedAt` that of the last one on which a snapshot was
applied.  `delivered` tells whether the current one is such a connection. -/
structure Outage where
  clock : Timestamp
  startedAt : Timestamp
  appliedAt : Option Timestamp
  droppedAt : Option Timestamp
  endedAt : Option Timestamp
  delivered : Bool

def Outage.begin (createdAt : Timestamp) : Outage :=
  ⟨createdAt, createdAt, none, none, none, false⟩

/-- The clock never runs backwards. -/
def FileEvent.follows (clock : Timestamp) : FileEvent → Prop
  | .snapshot _ now _ _ | .tick now _ | .disconnected now => clock ≤ now
  | .reload _ checkedAt now _ => clock ≤ checkedAt ∧ checkedAt ≤ now
  | .connected => True

namespace AgentFiles

variable (config : FilesConfig)

def returns (templates : Templates) (data : Render.Data)
    (choices : List Choice) (directory : Directory) : Bool :=
  match ((applyLocked config templates data).run operate choices
      directory).1 with
  | .returned _ => true
  | _ => false

/-- A snapshot that is successfully applied. -/
def appliesSnapshot (files : AgentFiles) : FileEvent → Bool
  | .snapshot s _ choices _ => !files.isOlder s &&
      returns config files.templates (Agent.dataFrom s false) choices
        files.directory
  | _ => false

/-- A snapshot breaks off between two files while the others are stale. -/
def Tears (files : AgentFiles) (event : FileEvent) : Prop :=
  (∃ s now choices check, event = .snapshot s now choices check) ∧
    files.agent.stale = true ∧ files.FailsOnDisk config event

end AgentFiles

def Outage.note (outage : Outage) (connected applied : Bool) :
    FileEvent → Outage
  | .snapshot _ now _ _ => { outage with
      clock := now
      appliedAt := if applied then some now else outage.appliedAt
      delivered := outage.delivered || (connected && applied) }
  | .tick now _ | .reload _ _ now _ => { outage with clock := now }
  | .connected => { outage with delivered := false }
  | .disconnected now => { outage with
      clock := now
      droppedAt := some now
      endedAt := if outage.delivered then some now else outage.endedAt
      delivered := false }

/-- The agent and what its clock has seen. -/
structure ObservedAgent where
  files : AgentFiles
  outage : Outage

def ObservedAgent.StepsBy (config : FilesConfig) (event : FileEvent)
    (before after : ObservedAgent) : Prop :=
  before.files.step config event = some after.files ∧
    event.follows before.outage.clock ∧
    after.outage = before.outage.note before.files.agent.connected
      (before.files.appliesSnapshot config event) event

/-- More than the limit since the start, since the last applied snapshot and
since the end of the last connection that brought one. -/
structure Outage.Exceeds (outage : Outage) (limit : Nat) (now : Timestamp) :
    Prop where
  started : limit < now - outage.startedAt
  applied : ∀ instant, outage.appliedAt = some instant → limit < now - instant
  ended : ∀ instant, outage.endedAt = some instant → limit < now - instant

/-- Every managed file is what some template renders from stale data. -/
def StaleOnDisk (config : FilesConfig) (directory : Directory) : Prop :=
  ∀ name content, config.isManaged name = true →
    directory.lookup name = some (.regular content) →
    ∃ (template : Template) (data : Render.Data), data.stale = true ∧
      config.filePrefix.name template.outputName = name ∧
      template.render config.libraries data = .ok content

/-- The agent and its files say that the data is stale.  A tick that is the
first to say so has written every file of the active templates. -/
structure ShowsStale (config : FilesConfig) (files : AgentFiles)
    (now : Timestamp) (next : AgentFiles) : Prop where
  stale : next.agent.stale = true
  onDisk : StaleOnDisk config next.directory
  written : files.agent.stale = false → ∃ outputs,
    renderAll config.libraries config.filePrefix next.templates.list
      (files.agent.lastData now true) = .ok outputs ∧
    ∀ out ∈ outputs, Apply.Carries next.directory out

variable {config : FilesConfig} {files next : AgentFiles}
variable {before after : ObservedAgent} {event : FileEvent}
variable {now : Timestamp} {choices : List Choice}

/-! ## What the handlers do to the timer -/

theorem AgentFiles.returns_iff {templates : Templates} {data : Render.Data}
    {directory : Directory} :
    AgentFiles.returns config templates data choices directory = true ↔
      ∃ done, ((AgentFiles.applyLocked config templates data).run operate
        choices directory).1 = .returned done := by
  unfold AgentFiles.returns
  split
  · rename_i done returned
    simp [returned]
  · rename_i other
    constructor
    · intro impossible
      cases impossible
    · intro isDone
      obtain ⟨done, returned⟩ := isDone
      exact absurd returned (other done)

theorem AgentFiles.snapshot_agent {s : SnapshotPayload}
    {check : Option (List String → TraefikCheckResult)}
    (stepped : files.step config (.snapshot s now choices check) =
      some next) :
    files.appliesSnapshot config (.snapshot s now choices check) = false ∧
        next.agent = files.agent ∨
      files.appliesSnapshot config (.snapshot s now choices check) = true ∧
        next.agent = files.agent.accept s now := by
  change files.onSnapshot config s now choices check = some next at stepped
  unfold AgentFiles.onSnapshot at stepped
  cases older : files.isOlder s with
  | true =>
      simp only [older, if_true, Option.some.injEq] at stepped
      subst stepped
      left
      simp [AgentFiles.appliesSnapshot, older]
  | false =>
      simp only [older] at stepped
      obtain ⟨applied, ended, rfl⟩ := Option.map_eq_some_iff.mp stepped
      have current : ¬ (files.agent.haveApplied = true ∧
          s.version < files.agent.appliedVersion) := by
        simpa [AgentFiles.isOlder] using older
      rcases AgentFiles.appliedOf_cases ended with returned | threw
      · obtain ⟨done, returned, rfl⟩ := returned
        right
        refine ⟨?_, Agent.onSnapshot_ok current⟩
        simp only [AgentFiles.appliesSnapshot, older, Bool.not_false,
          Bool.true_and]
        exact AgentFiles.returns_iff.mpr ⟨done, returned⟩
      · obtain ⟨err, threw, rfl⟩ := threw
        left
        refine ⟨?_, Agent.onSnapshot_error⟩
        simp [AgentFiles.appliesSnapshot, AgentFiles.returns, threw]

theorem AgentFiles.tick_agent
    (stepped : files.step config (.tick now choices) = some next) :
    (files.agent.isOverdue now = true →
        AgentFiles.returns config files.templates
          (files.agent.lastData now true) choices files.directory = false) ∧
        next.agent = files.agent ∨
      files.agent.isOverdue now = true ∧
        AgentFiles.returns config files.templates
          (files.agent.lastData now true) choices files.directory = true ∧
        next.agent = { files.agent with stale := true } := by
  change files.tick config now choices = some next at stepped
  unfold AgentFiles.tick at stepped
  cases overdue : files.agent.isOverdue now with
  | false =>
      simp only [overdue] at stepped
      cases stepped
      left
      refine ⟨?_, rfl⟩
      intro impossible
      cases impossible
  | true =>
      simp only [overdue, if_true] at stepped
      obtain ⟨applied, ended, rfl⟩ := Option.map_eq_some_iff.mp stepped
      rcases AgentFiles.appliedOf_cases ended with returned | threw
      · obtain ⟨done, returned, rfl⟩ := returned
        exact .inr ⟨rfl, AgentFiles.returns_iff.mpr ⟨done, returned⟩,
          Agent.tick_ok overdue⟩
      · obtain ⟨err, threw, rfl⟩ := threw
        refine .inl ⟨fun _ => ?_, Agent.tick_error⟩
        simp [AgentFiles.returns, threw]

theorem AgentFiles.reload_agent
    {entries : Except String (List TemplateFile)} {checkedAt : Timestamp}
    (stepped : files.step config (.reload entries checkedAt now choices) =
      some next) :
    ∃ templates, next.agent = { files.agent with templates } := by
  change files.reload config entries checkedAt now choices = some next
    at stepped
  unfold AgentFiles.reload at stepped
  split at stepped
  · cases stepped
    exact ⟨files.agent.templates, rfl⟩
  · rename_i templates taken
    obtain ⟨applied, ended, rfl⟩ := Option.map_eq_some_iff.mp stepped
    exact ⟨templates.summaries, rfl⟩

/-- What the timer of an agent stands for. -/
structure Timed (limit : Nat) (observed : ObservedAgent) : Prop where
  limit : observed.files.agent.maxOffline = limit
  running : observed.files.agent.offlineSince ≤ observed.outage.clock
  since : observed.files.agent.offlineSince = observed.outage.startedAt ∨
    observed.outage.appliedAt = some observed.files.agent.offlineSince ∨
    observed.outage.droppedAt = some observed.files.agent.offlineSince
  dropped : ∀ instant, observed.outage.droppedAt = some instant →
    instant ≤ observed.files.agent.offlineSince

/-- A step that lets the timer run on. -/
theorem Timed.runs_on {limit : Nat} (timed : Timed limit before)
    {clock : Timestamp} {delivered : Bool}
    (sameLimit : after.files.agent.maxOffline =
      before.files.agent.maxOffline)
    (sameSince : after.files.agent.offlineSince =
      before.files.agent.offlineSince)
    (later : before.outage.clock ≤ clock)
    (noted : after.outage = { before.outage with clock, delivered }) :
    Timed limit after := by
  refine ⟨sameLimit.trans timed.limit, ?_, ?_, ?_⟩
  · rw [sameSince, noted]
    exact Nat.le_trans timed.running later
  · rw [sameSince, noted]
    exact timed.since
  · rw [sameSince, noted]
    exact timed.dropped

theorem Timed.step {limit : Nat} (timed : Timed limit before)
    (steps : before.StepsBy config event after) : Timed limit after := by
  obtain ⟨stepped, follows, noted⟩ := steps
  cases event with
  | snapshot s now choices check =>
      have later : before.outage.clock ≤ now := follows
      rcases AgentFiles.snapshot_agent stepped with kept | applied
      · obtain ⟨isNot, same⟩ := kept
        rw [isNot] at noted
        exact timed.runs_on (by rw [same]) (by rw [same]) later noted
      · obtain ⟨isApplied, accepted⟩ := applied
        rw [isApplied] at noted
        refine ⟨?_, ?_, ?_, ?_⟩
        · rw [accepted]
          exact timed.limit
        · rw [accepted, noted]
          exact Nat.le_refl now
        · rw [accepted, noted]
          exact .inr (.inl rfl)
        · intro instant isDropped
          rw [noted] at isDropped
          rw [accepted]
          have dropped := timed.dropped instant isDropped
          exact Nat.le_trans dropped (Nat.le_trans timed.running later)
  | tick now choices =>
      rcases AgentFiles.tick_agent stepped with ⟨-, same⟩ | expired
      · exact timed.runs_on (by rw [same]) (by rw [same]) follows noted
      · obtain ⟨-, -, same⟩ := expired
        exact timed.runs_on (by rw [same]) (by rw [same]) follows noted
  | reload entries checkedAt now choices =>
      obtain ⟨templates, same⟩ := AgentFiles.reload_agent stepped
      have later := Nat.le_trans follows.1 follows.2
      exact timed.runs_on (by rw [same]) (by rw [same]) later noted
  | connected =>
      have same : after.files =
          { before.files with agent := before.files.agent.onConnected } :=
        (Option.some.inj stepped).symm
      exact timed.runs_on (by rw [same]; rfl) (by rw [same]; rfl)
        (Nat.le_refl _) noted
  | disconnected now =>
      have same : after.files = { before.files with
          agent := before.files.agent.onDisconnected now } :=
        (Option.some.inj stepped).symm
      refine ⟨?_, ?_, ?_, ?_⟩
      · rw [same]
        exact timed.limit
      · rw [same, noted]
        exact Nat.le_refl now
      · rw [same, noted]
        exact .inr (.inr rfl)
      · intro instant isDropped
        rw [noted] at isDropped
        cases isDropped
        rw [same]
        exact Nat.le_refl now

/-! ## What the files say -/

variable {directory later : Directory} {list : List Template}
variable {data : Render.Data} {outputs : List Output}

/-- Stale files are replaced by stale ones, up to any point. -/
theorem StaleOnDisk.of_crashSafe (onDisk : StaleOnDisk config directory)
    (rendered : renderAll config.libraries config.filePrefix list data =
      .ok outputs) (stale : data.stale = true)
    (safe : Apply.CrashSafe config.libraries config.filePrefix.chars outputs
      directory later) : StaleOnDisk config later := by
  intro name content managed found
  have fate := safe.fate managed
  rw [found] at fate
  generalize isEntry : some (Entry.regular content) = entry at fate
  cases fate with
  | kept => exact onDisk name content managed isEntry.symm
  | @replaced out member own _ _ =>
      cases isEntry
      obtain ⟨template, -, produces⟩ :=
        template_of_output (renderAll_ok rendered) member
      exact ⟨template, data, stale, produces.name.symm.trans own,
        produces.rendered⟩
  | removed => cases isEntry

/-- Whatever was there, all files are stale after a render from stale data. -/
theorem staleOnDisk_of_applied {templates : Templates}
    (rendered : renderAll config.libraries config.filePrefix templates.list
      data = .ok outputs) (stale : data.stale = true)
    (applied : Apply.Applied config.libraries config.filePrefix.chars outputs
      directory later) : StaleOnDisk config later := by
  intro name content managed found
  by_cases listed : name ∈ outputs.map (·.name)
  · obtain ⟨out, member, rfl⟩ := List.mem_map.mp listed
    obtain ⟨template, -, produces⟩ :=
      template_of_output (renderAll_ok rendered) member
    rcases applied.carries (renderAll_distinct rendered) out member with
      regular | other
    · rw [found] at regular
      cases regular
      exact ⟨template, data, stale, produces.name.symm, produces.rendered⟩
    · rw [found] at other
      cases other
  · exact absurd found
      (applied.nothingElse name content managed listed)

theorem not_returns_of_threw {templates : Templates} {err : FileErr}
    (rendered : renderAll config.libraries config.filePrefix templates.list
      data = .ok outputs)
    (runs : (Apply.apply config.libraries config.filePrefix.chars
      outputs).run operate choices directory = (.threw err, later)) :
    AgentFiles.returns config templates data choices directory = false := by
  unfold AgentFiles.returns
  rw [AgentFiles.applyLocked_of_ok rendered, runs]

theorem staleOnDisk_step
    (onDisk : files.agent.stale = true → StaleOnDisk config files.directory)
    (stepped : files.step config event = some next)
    (whole : ¬ files.Tears config event)
    (stale : next.agent.stale = true) :
    StaleOnDisk config next.directory := by
  cases AgentFiles.step_cases stepped with
  | quiet _ sameDirectory sameStale =>
      rw [sameDirectory]
      exact onDisk (sameStale.symm.trans stale)
  | @failed templates data outputs err writes runs _ =>
      obtain ⟨renders, rendered⟩ := writes
      cases renders with
      | @snapshot s now choices check isNew =>
          rcases AgentFiles.snapshot_agent stepped with kept | accepted
          · rw [kept.2] at stale
            refine absurd ⟨⟨_, _, _, _, rfl⟩, stale, ?_⟩ whole
            exact ⟨_, _, _, _, _, ⟨.snapshot isNew, rendered⟩, runs⟩
          · rw [accepted.2] at stale
            cases stale
      | @tick now choices overdue =>
          rcases AgentFiles.tick_agent stepped with ⟨-, same⟩ | expired
          · rw [same] at stale
            simp [Agent.isOverdue, stale] at overdue
          · have fails : AgentFiles.returns config files.templates
                (files.agent.lastData now true) choices files.directory =
                  false := not_returns_of_threw rendered runs
            rw [fails] at expired
            cases expired.2.1
      | @reload entries checkedAt now choices templates taken =>
          obtain ⟨summaries, same⟩ := AgentFiles.reload_agent stepped
          rw [same] at stale
          have isStale : (files.agent.lastData now files.agent.stale).stale =
              true := by
            have describes : AgentFiles.Describes
                (files.agent.lastData now files.agent.stale) files.agent :=
              ⟨now, rfl⟩
            exact describes.stale.trans stale
          exact (onDisk stale).of_crashSafe rendered isStale runs.crashSafe
  | wrote writes runs sameTemplates describes _ =>
      exact staleOnDisk_of_applied writes.2 (describes.stale.trans stale)
        runs.applied

/-! ## The limit -/

/-- What couples the agent with the instants of its run and with its files. -/
structure Observable (config : FilesConfig) (limit : Nat)
    (observed : ObservedAgent) : Prop where
  timed : Timed limit observed
  onDisk : observed.files.agent.stale = true →
    StaleOnDisk config observed.files.directory

theorem Observable.step {limit : Nat}
    (observable : Observable config limit before)
    (steps : before.StepsBy config event after)
    (whole : ¬ before.files.Tears config event) :
    Observable config limit after :=
  ⟨observable.timed.step steps,
    staleOnDisk_step observable.onDisk steps.1 whole⟩

theorem observable_of_start {version : String} {limit : Nat}
    {createdAt checkedAt : Timestamp}
    {entries : Except String (List TemplateFile)}
    (started : AgentFiles.start config
      (Agent.create version limit createdAt) entries checkedAt now choices
      directory = some files) :
    Observable config limit ⟨files, .begin createdAt⟩ := by
  obtain ⟨-, templates, agent⟩ := start_leaves started
  refine ⟨⟨?_, ?_, ?_, ?_⟩, ?_⟩
  · rw [agent]
    rfl
  · rw [agent]
    exact Nat.le_refl createdAt
  · rw [agent]
    exact .inl rfl
  · intro instant isDropped
    cases isDropped
  · intro stale
    rw [agent] at stale
    cases stale

/-- The timer has run out exactly when no connection has ended within the
limit. -/
theorem Timed.exceeds_iff {limit : Nat} (timed : Timed limit before)
    (exceeds : before.outage.Exceeds limit now) :
    limit < now - before.files.agent.offlineSince ↔
      ∀ instant, before.outage.droppedAt = some instant →
        limit < now - instant := by
  constructor
  · intro runOut instant isDropped
    have dropped := timed.dropped instant isDropped
    exact Nat.lt_of_lt_of_le runOut (Nat.sub_le_sub_left dropped now)
  · intro older
    rcases timed.since with started | applied | dropped
    · rw [started]
      exact exceeds.started
    · exact exceeds.applied _ applied
    · exact older _ dropped

theorem Timed.isOverdue_iff {limit : Nat} (timed : Timed limit before)
    (enabled : 0 < limit)
    (offline : before.files.agent.connected = false) :
    before.files.agent.isOverdue now = true ↔
      before.files.agent.stale = false ∧
        limit < now - before.files.agent.offlineSince := by
  simp [Agent.isOverdue, timed.limit, enabled, offline]

/-- The steps of a run in which no snapshot breaks off over stale files. -/
def ObservedAgent.Steps (config : FilesConfig)
    (before after : ObservedAgent) : Prop :=
  ∃ event, before.StepsBy config event after ∧
    ¬ before.files.Tears config event

theorem Observable.run {limit : Nat} {observed : ObservedAgent}
    (observable : Observable config limit before)
    (run : Relation.ReflTransGen (ObservedAgent.Steps config) before
      observed) : Observable config limit observed := by
  induction run with
  | refl => exact observable
  | tail _ steps induction =>
      obtain ⟨event, steps, whole⟩ := steps
      exact induction.step steps whole

/-- A tick that fires writes the files of the active templates. -/
theorem tick_carries
    (ticks : files.step config (.tick now choices) = some next)
    (overdue : files.agent.isOverdue now = true)
    (returns : AgentFiles.returns config files.templates
      (files.agent.lastData now true) choices files.directory = true) :
    ∃ outputs, renderAll config.libraries config.filePrefix
        next.templates.list (files.agent.lastData now true) = .ok outputs ∧
      StaleOnDisk config next.directory ∧
      ∀ out ∈ outputs, Apply.Carries next.directory out := by
  have renders : files.Renders config (.tick now choices) files.templates
      (files.agent.lastData now true) := .tick overdue
  have isStale : (files.agent.lastData now true).stale = true := by
    unfold Agent.lastData
    split
    · rfl
    · rfl
  cases rendered : renderAll config.libraries config.filePrefix
      files.templates.list (files.agent.lastData now true) with
  | error err =>
      unfold AgentFiles.returns at returns
      rw [AgentFiles.applyLocked_of_error rendered] at returns
      cases returns
  | ok outputs =>
      cases AgentFiles.step_cases ticks with
      | quiet silent => exact absurd ⟨renders, rendered⟩ (silent _ _ outputs)
      | failed writes runs =>
          obtain ⟨rfl, rfl⟩ := renders.unique writes.1
          have fails : AgentFiles.returns config files.templates
              (files.agent.lastData now true) choices files.directory =
                false := not_returns_of_threw writes.2 runs
          rw [returns] at fails
          cases fails
      | wrote writes runs sameTemplates =>
          obtain ⟨rfl, rfl⟩ := renders.unique writes.1
          rw [sameTemplates]
          exact ⟨_, writes.2,
            staleOnDisk_of_applied writes.2 isStale runs.applied,
            runs.applied.carries (renderAll_distinct writes.2)⟩

/-- A tick of an agent that is offline for longer than the limit makes its
files stale, exactly when they are so already or no connection, not even one
that has brought no snapshot, has ended within the limit. -/
theorem offline_limit_is_honoured (config : FilesConfig) (version : String)
    (maxOffline : Nat) (enabled : 0 < maxOffline) (createdAt : Timestamp)
    (entries : Except String (List TemplateFile))
    (checkedAt startedAt : Timestamp) (startChoices : List Choice)
    (directory : Directory) (first : AgentFiles) (observed : ObservedAgent)
    (started : AgentFiles.start config
      (Agent.create version maxOffline createdAt) entries checkedAt startedAt
      startChoices directory = some first)
    (run : Relation.ReflTransGen (ObservedAgent.Steps config)
      ⟨first, .begin createdAt⟩ observed)
    (now : Timestamp) (choices : List Choice) (next : AgentFiles)
    (ticks : observed.files.step config (.tick now choices) = some next)
    (offline : observed.files.agent.connected = false)
    (exceeds : observed.outage.Exceeds maxOffline now)
    (succeeds : observed.files.agent.isOverdue now = true →
      AgentFiles.returns config observed.files.templates
        (observed.files.agent.lastData now true) choices
        observed.files.directory = true) :
    ShowsStale config observed.files now next ↔
      observed.files.agent.stale = true ∨
        ∀ instant, observed.outage.droppedAt = some instant →
          maxOffline < now - instant := by
  have observable := (observable_of_start started).run run
  have timed := observable.timed
  have whole : ¬ observed.files.Tears config (.tick now choices) := by
    intro tears
    obtain ⟨⟨_, _, _, _, impossible⟩, -⟩ := tears
    cases impossible
  cases stale : observed.files.agent.stale with
  | true =>
      refine ⟨fun _ => .inl rfl, fun _ => ?_⟩
      have isStale : next.agent.stale = true := by
        rcases AgentFiles.tick_agent ticks with ⟨-, same⟩ | expired
        · rw [same]
          exact stale
        · rw [expired.2.2]
      refine ⟨isStale, staleOnDisk_step observable.onDisk ticks whole isStale,
        ?_⟩
      intro fresh
      rw [stale] at fresh
      cases fresh
  | false =>
      rw [← timed.exceeds_iff exceeds]
      have overdue_iff : observed.files.agent.isOverdue now = true ↔
          observed.files.agent.stale = false ∧
            maxOffline < now - observed.files.agent.offlineSince :=
        timed.isOverdue_iff enabled offline
      constructor
      · intro shows
        right
        rcases AgentFiles.tick_agent ticks with ⟨-, same⟩ | expired
        · have impossible := shows.stale
          rw [same, stale] at impossible
          cases impossible
        · exact (overdue_iff.mp expired.1).2
      · intro runOut
        have overdue : observed.files.agent.isOverdue now = true := by
          rcases runOut with impossible | runOut
          · cases impossible
          · exact overdue_iff.mpr ⟨stale, runOut⟩
        have returned := succeeds overdue
        obtain ⟨outputs, rendered, onDisk, carries⟩ :=
          tick_carries ticks overdue returned
        refine ⟨?_, onDisk, fun _ => ⟨outputs, rendered, carries⟩⟩
        rcases AgentFiles.tick_agent ticks with ⟨fails, -⟩ | expired
        · rw [fails overdue] at returned
          cases returned
        · rw [expired.2.2]

/-! ## A connection without data -/

/-- `fluxip-a.yml` is rendered, and what is read under it. -/
def readsExample : List Choice :=
  [.succeeds exampleOutput.content, .succeeds []]

def ObservedAgent.stepped (observed : ObservedAgent) (event : FileEvent) :
    ObservedAgent where
  files := exampleAfter observed.files event
  outage := observed.outage.note observed.files.agent.connected
    (observed.files.appliesSnapshot exampleFilesConfig event) event

theorem ObservedAgent.stepped_stepsBy {observed : ObservedAgent}
    (steps : (observed.files.step exampleFilesConfig event).isSome = true)
    (follows : event.follows observed.outage.clock) :
    observed.StepsBy exampleFilesConfig event (observed.stepped event) :=
  ⟨exampleAfter_eq steps, follows, rfl⟩

theorem AgentFiles.not_tears_of_fresh (fresh : files.agent.stale = false) :
    ¬ files.Tears config event := by
  intro tears
  have stale := tears.2.1
  rw [fresh] at stale
  cases stale

/-- The agent has started with its file in place. -/
def observedStart : ObservedAgent := ⟨keptStart, .begin 0⟩

/-- It is connected, and loses the connection without a snapshot. -/
def flapped : ObservedAgent :=
  (observedStart.stepped .connected).stepped (.disconnected 50)

theorem flapped_run :
    Relation.ReflTransGen (ObservedAgent.Steps exampleFilesConfig)
      observedStart flapped := by
  have connects : observedStart.StepsBy exampleFilesConfig .connected
      (observedStart.stepped .connected) :=
    ObservedAgent.stepped_stepsBy (by decide +kernel) trivial
  have drops : (observedStart.stepped .connected).StepsBy exampleFilesConfig
      (.disconnected 50) flapped :=
    ObservedAgent.stepped_stepsBy (by decide +kernel) (Nat.zero_le 50)
  have fresh : (observedStart.stepped .connected).files.agent.stale =
      false := by decide +kernel
  apply Relation.ReflTransGen.tail (.single ⟨_, connects,
    AgentFiles.not_tears_of_fresh (by decide +kernel)⟩)
  exact ⟨_, drops, AgentFiles.not_tears_of_fresh fresh⟩

/-- A connection that brings nothing postpones the limit. -/
theorem flapping_postpones_the_limit :
    ∃ first observed next,
      AgentFiles.start exampleFilesConfig (Agent.create "1" 60 0)
        (.ok exampleEntries) 0 0 [.succeeds [], .succeeds []]
        (exampleDirectory (.regular exampleOutput.content)) = some first ∧
      Relation.ReflTransGen (ObservedAgent.Steps exampleFilesConfig)
        ⟨first, .begin 0⟩ observed ∧
      observed.files.step exampleFilesConfig (.tick 100 readsExample) =
        some next ∧
      observed.outage.clock ≤ 100 ∧
      observed.files.agent.connected = false ∧
      observed.outage.Exceeds 60 100 ∧
      AgentFiles.returns exampleFilesConfig observed.files.templates
        (observed.files.agent.lastData 100 true) readsExample
        observed.files.directory = true ∧
      next.agent.stale = false := by
  refine ⟨keptStart, flapped, exampleAfter flapped.files
    (.tick 100 readsExample), exampleStarted_eq (by decide +kernel),
    flapped_run, exampleAfter_eq (by decide +kernel), by decide +kernel,
    by decide +kernel, ⟨by decide +kernel, ?_, ?_⟩, by decide +kernel,
    by decide +kernel⟩
  · intro instant impossible
    cases impossible
  · intro instant impossible
    cases impossible

theorem offline_limit_is_honoured_without_a_connection :
    ShowsStale exampleFilesConfig keptStart 61
      (exampleAfter keptStart (.tick 61 readsExample)) := by
  have exceeds : observedStart.outage.Exceeds 60 61 := by
    refine ⟨by decide +kernel, ?_, ?_⟩
    · intro instant impossible
      cases impossible
    · intro instant impossible
      cases impossible
  have honoured := offline_limit_is_honoured exampleFilesConfig "1" 60
    (by decide) 0 (.ok exampleEntries) 0 0 [.succeeds [], .succeeds []]
    (exampleDirectory (.regular exampleOutput.content)) keptStart
    observedStart (exampleStarted_eq (by decide +kernel)) .refl 61
    readsExample _ (exampleAfter_eq (by decide +kernel)) (by decide +kernel)
    exceeds (by decide +kernel)
  apply honoured.mpr
  right
  intro instant impossible
  cases impossible

end FluxIP
