import FluxIP.Agent.Templates
import FluxIP.Agent.Writing

/-!
# The agent and its output directory

What the entry points of the agent do to its memory and to the directory they
write to.  The choices of an event are those of its file operations; where they
end before the operations do, the process was killed.
-/

namespace FluxIP

open Async Files

/-- How the agent is configured, as far as its files are concerned. -/
structure FilesConfig where
  libraries : Libraries
  templatesDir : String
  filePrefix : FilePrefix

/-- An entry of the output directory that belongs to the agent. -/
abbrev FilesConfig.isManaged (config : FilesConfig) (name : FileName) : Bool :=
  Apply.isManaged config.filePrefix.chars name

structure AgentFiles where
  agent : Agent
  templates : Templates
  directory : Directory
  deriving DecidableEq

/-- What can happen to the agent after its start.  A reload reads the clock
twice: for the check and for the files it writes. -/
inductive FileEvent where
  | snapshot (s : SnapshotPayload) (now : Timestamp) (choices : List Choice)
      (check : Option (List String → TraefikCheckResult))
  | tick (now : Timestamp) (choices : List Choice)
  | reload (entries : Except String (List TemplateFile))
      (checkedAt now : Timestamp) (choices : List Choice)
  | connected
  | disconnected (now : Timestamp)

def FileEvent.choices : FileEvent → List Choice
  | .snapshot _ _ choices _ | .tick _ choices | .reload _ _ _ choices => choices
  | .connected | .disconnected _ => []

/-- The result of `applyLocked` in the terms of the agent. -/
def appliedOf : Outcome FileErr ApplyDone → Option ApplyResult
  | .returned done => some (.ok done.files)
  | .threw err => some (.error err.text)
  | .cut => none

namespace AgentFiles

variable (config : FilesConfig)

/-- Everything is rendered and validated before anything is written. -/
def applyLocked (templates : Templates) (data : Render.Data) :
    FileProgram ApplyDone :=
  (Program.ofExcept (renderAll config.libraries config.filePrefix
    templates.list data)).bind fun outputs =>
  Apply.apply config.libraries config.filePrefix.chars outputs

/-- What `Start` does once the templates are loaded and render validly with an
empty snapshot: existing files stay untouched, and without any managed file the
templates are rendered with empty groups.  A failing cleanup is only logged. -/
def startProgram (templates : Templates) (now : Timestamp) :
    FileProgram Unit :=
  (Apply.cleanupTemp config.filePrefix.chars).attempt.bind fun _ =>
  (Apply.managed config.filePrefix.chars).bind fun managed =>
  if managed ≠ [] then .done ()
  else
    (applyLocked config templates (Agent.emptyData now false)).bind
      fun _ => .done ()

/-- `Start`; nothing is left of an agent that does not start. -/
def start (agent : Agent) (entries : Except String (List TemplateFile))
    (checkedAt now : Timestamp) (choices : List Choice)
    (directory : Directory) : Option AgentFiles :=
  match Templates.loadDir config.libraries config.templatesDir entries with
  | .error _ => none
  | .ok templates =>
      match renderAll config.libraries config.filePrefix templates.list
          (Agent.emptyData checkedAt false) with
      | .error _ => none
      | .ok _ =>
          match (startProgram config templates now).run operate choices
              directory with
          | (.returned (), directory) => some {
              agent := { agent with templates := templates.summaries }
              templates
              directory }
          | _ => none

/-- An older snapshot than the one applied. -/
def isOlder (files : AgentFiles) (s : SnapshotPayload) : Bool :=
  files.agent.haveApplied && decide (s.version < files.agent.appliedVersion)

def onSnapshot (files : AgentFiles) (s : SnapshotPayload) (now : Timestamp)
    (choices : List Choice)
    (check : Option (List String → TraefikCheckResult)) : Option AgentFiles :=
  if files.isOlder s then some files
  else
    let (outcome, directory) :=
      (applyLocked config files.templates (Agent.dataFrom s false)).run operate
        choices files.directory
    (appliedOf outcome).map fun applied => { files with
      agent := (files.agent.onSnapshot s now applied check).2
      directory }

def tick (files : AgentFiles) (now : Timestamp) (choices : List Choice) :
    Option AgentFiles :=
  if files.agent.isOverdue now then
    let (outcome, directory) :=
      (applyLocked config files.templates
        (files.agent.lastData now true)).run operate choices files.directory
    (appliedOf outcome).map fun applied => { files with
      agent := (files.agent.tick now applied).2
      directory }
  else some files

/-- What changed templates must render validly with. -/
def checkData (files : AgentFiles) (checkedAt : Timestamp) :
    List Render.Data :=
  Agent.emptyData checkedAt false ::
    (files.agent.last.map fun s =>
      Agent.dataFrom s files.agent.stale).toList

/-- The templates that a reload takes. -/
def loaded (files : AgentFiles)
    (entries : Except String (List TemplateFile)) (checkedAt : Timestamp) :
    Except String Templates :=
  match Templates.loadDir config.libraries config.templatesDir entries with
  | .error err => .error err
  | .ok templates =>
      match (files.checkData checkedAt).mapM (renderAll config.libraries
          config.filePrefix templates.list) with
      | .error err =>
          .error ("new templates rejected, keeping the previous ones: " ++
            err.text)
      | .ok _ => .ok templates

def reload (files : AgentFiles)
    (entries : Except String (List TemplateFile)) (checkedAt now : Timestamp)
    (choices : List Choice) : Option AgentFiles :=
  match files.loaded config entries checkedAt with
  | .error err => some { files with
      agent := (files.agent.reload now (.error err)).2 }
  | .ok templates =>
      let (outcome, directory) :=
        (applyLocked config templates
          (files.agent.lastData now files.agent.stale)).run operate choices
            files.directory
      (appliedOf outcome).map fun _ => {
        agent := (files.agent.reload now (.ok templates.summaries)).2
        templates
        directory }

def step (files : AgentFiles) : FileEvent → Option AgentFiles
  | .snapshot s now choices check =>
      files.onSnapshot config s now choices check
  | .tick now choices => files.tick config now choices
  | .reload entries checkedAt now choices =>
      files.reload config entries checkedAt now choices
  | .connected => some { files with agent := files.agent.onConnected }
  | .disconnected now =>
      some { files with agent := files.agent.onDisconnected now }

/-! ## What an event renders -/

/-- What an event hands to `applyLocked`, if it comes to that. -/
inductive Renders (files : AgentFiles) :
    FileEvent → Templates → Render.Data → Prop where
  | snapshot {s now choices check} : files.isOlder s = false →
      Renders files (.snapshot s now choices check) files.templates
        (Agent.dataFrom s false)
  | tick {now choices} : files.agent.isOverdue now = true →
      Renders files (.tick now choices) files.templates
        (files.agent.lastData now true)
  | reload {entries checkedAt now choices templates} :
      files.loaded config entries checkedAt = .ok templates →
      Renders files (.reload entries checkedAt now choices) templates
        (files.agent.lastData now files.agent.stale)

/-- An event comes to writing these outputs. -/
def Writes (files : AgentFiles) (event : FileEvent) (templates : Templates)
    (data : Render.Data) (outputs : List Output) : Prop :=
  files.Renders config event templates data ∧
    renderAll config.libraries config.filePrefix templates.list data =
      .ok outputs

/-- How the file operations of an event end, and what they leave. -/
def Runs (files : AgentFiles) (event : FileEvent) (outputs : List Output)
    (outcome : Outcome FileErr ApplyDone) (directory : Directory) : Prop :=
  (Apply.apply config.libraries config.filePrefix.chars outputs).run operate
    event.choices files.directory = (outcome, directory)

variable {config} {files next : AgentFiles} {event : FileEvent}

/-- The data is what the agent keeps: the last snapshot, or nothing, with the
current stale flag. -/
def Describes (data : Render.Data) (agent : Agent) : Prop :=
  ∃ now, data = agent.lastData now agent.stale

theorem Describes.stale {data : Render.Data} {agent : Agent}
    (describes : Describes data agent) : data.stale = agent.stale := by
  obtain ⟨now, rfl⟩ := describes
  unfold Agent.lastData
  split
  · rfl
  · rfl

/-- The event is a snapshot that is applied. -/
def Accepts (files : AgentFiles) (event : FileEvent) (next : AgentFiles) :
    Prop :=
  ∃ s now choices check, event = .snapshot s now choices check ∧
    next.agent = files.agent.accept s now

/-- What a step of the agent can do. -/
inductive StepsTo (config : FilesConfig) (files : AgentFiles)
    (event : FileEvent) (next : AgentFiles) : Prop where
  /-- Nothing is written. -/
  | quiet : (∀ templates data outputs,
        ¬ files.Writes config event templates data outputs) →
      next.directory = files.directory →
      next.agent.stale = files.agent.stale →
      Agent.KeepsApplied files.agent next.agent →
      next.templates = files.templates ∨ files.agent.last = none →
      StepsTo config files event next
  /-- A file operation has failed. -/
  | failed {templates data outputs err} :
      files.Writes config event templates data outputs →
      files.Runs config event outputs (.threw err) next.directory →
      Agent.KeepsApplied files.agent next.agent →
      StepsTo config files event next
  /-- Everything is written. -/
  | wrote {templates data outputs done} :
      files.Writes config event templates data outputs →
      files.Runs config event outputs (.returned done) next.directory →
      next.templates = templates → Describes data next.agent →
      (Agent.KeepsApplied files.agent next.agent ∧
        (files.agent.stale = true → next.agent.stale = true)) ∨
        files.Accepts event next →
      StepsTo config files event next

theorem applyLocked_of_error {templates : Templates} {data : Render.Data}
    {err : FileErr} {choices : List Choice} {directory : Directory}
    (rendered : renderAll config.libraries config.filePrefix templates.list
      data = .error err) :
    (applyLocked config templates data).run operate choices directory =
      (.threw err, directory) := by
  simp only [applyLocked, rendered, Program.ofExcept_error,
    Program.fail_bind, Program.run]

theorem applyLocked_of_ok {templates : Templates} {data : Render.Data}
    {outputs : List Output}
    (rendered : renderAll config.libraries config.filePrefix templates.list
      data = .ok outputs) :
    applyLocked config templates data =
      Apply.apply config.libraries config.filePrefix.chars outputs := by
  simp only [applyLocked, rendered, Program.ofExcept_ok, Program.done_bind]

/-- The two ways in which the file operations of a step can end. -/
theorem appliedOf_cases {outcome : Outcome FileErr ApplyDone}
    {applied : ApplyResult} (ended : appliedOf outcome = some applied) :
    (∃ done, outcome = .returned done ∧ applied = .ok done.files) ∨
      ∃ err, outcome = .threw err ∧ applied = .error err.text := by
  cases outcome with
  | returned done =>
      cases ended
      exact .inl ⟨done, rfl, rfl⟩
  | threw err =>
      cases ended
      exact .inr ⟨err, rfl, rfl⟩
  | cut => cases ended

/-- An event renders one thing. -/
theorem Renders.unique {templates others : Templates}
    {data other : Render.Data}
    (first : files.Renders config event templates data)
    (second : files.Renders config event others other) :
    others = templates ∧ other = data := by
  cases first with
  | snapshot =>
      cases second with
      | snapshot => exact ⟨rfl, rfl⟩
  | tick =>
      cases second with
      | tick => exact ⟨rfl, rfl⟩
  | reload taken =>
      cases second with
      | reload again =>
          rw [taken] at again
          cases again
          exact ⟨rfl, rfl⟩

/-- A file operation of the event fails. -/
def FailsOnDisk (config : FilesConfig) (files : AgentFiles)
    (event : FileEvent) : Prop :=
  ∃ templates data outputs err directory,
    files.Writes config event templates data outputs ∧
      files.Runs config event outputs (.threw err) directory

/-- How `applyLocked` can end. -/
inductive Applies (config : FilesConfig) (files : AgentFiles)
    (event : FileEvent) (templates : Templates) (data : Render.Data) :
    ApplyResult → Directory → Prop where
  | unrendered {text} : (∀ others other outputs,
        ¬ files.Writes config event others other outputs) →
      Applies config files event templates data (.error text) files.directory
  | failed {outputs err directory} :
      files.Writes config event templates data outputs →
      files.Runs config event outputs (.threw err) directory →
      Applies config files event templates data (.error err.text) directory
  | done {outputs done directory} :
      files.Writes config event templates data outputs →
      files.Runs config event outputs (.returned done) directory →
      Applies config files event templates data (.ok done.files) directory

theorem applyLocked_cases {templates : Templates} {data : Render.Data}
    {applied : ApplyResult}
    (renders : files.Renders config event templates data)
    (ended : appliedOf ((applyLocked config templates data).run operate
      event.choices files.directory).1 = some applied) :
    files.Applies config event templates data applied
      ((applyLocked config templates data).run operate event.choices
        files.directory).2 := by
  cases rendered : renderAll config.libraries config.filePrefix templates.list
      data with
  | error err =>
      rw [applyLocked_of_error rendered] at ended ⊢
      cases ended
      apply Applies.unrendered
      intro others other outputs writes
      obtain ⟨rfl, rfl⟩ := renders.unique writes.1
      have impossible := writes.2
      rw [rendered] at impossible
      cases impossible
  | ok outputs =>
      rw [applyLocked_of_ok rendered] at ended ⊢
      rcases appliedOf_cases ended with returned | threw
      · obtain ⟨done, outcome, rfl⟩ := returned
        exact .done ⟨renders, rendered⟩ (Prod.ext outcome rfl)
      · obtain ⟨err, outcome, rfl⟩ := threw
        exact .failed ⟨renders, rendered⟩ (Prod.ext outcome rfl)

theorem onSnapshot_stepsTo {s : SnapshotPayload} {now : Timestamp}
    {choices : List Choice}
    {check : Option (List String → TraefikCheckResult)}
    (stepped : files.onSnapshot config s now choices check = some next) :
    StepsTo config files (.snapshot s now choices check) next := by
  unfold onSnapshot at stepped
  cases older : files.isOlder s with
  | true =>
      simp only [older, if_true, Option.some.injEq] at stepped
      subst stepped
      refine .quiet ?_ rfl rfl ⟨rfl, rfl, rfl⟩ (.inl rfl)
      intro templates data outputs writes
      cases writes.1 with
      | snapshot isNew =>
          rw [older] at isNew
          cases isNew
  | false =>
      simp only [older] at stepped
      obtain ⟨applied, ended, rfl⟩ := Option.map_eq_some_iff.mp stepped
      have current : ¬ (files.agent.haveApplied = true ∧
          s.version < files.agent.appliedVersion) := by
        simpa [isOlder] using older
      have applies : files.Applies config (.snapshot s now choices check)
          files.templates (Agent.dataFrom s false) applied
          ((applyLocked config files.templates
            (Agent.dataFrom s false)).run operate choices
              files.directory).2 :=
        applyLocked_cases (.snapshot older) ended
      generalize ((applyLocked config files.templates
        (Agent.dataFrom s false)).run operate choices files.directory).2 =
          directory at applies ⊢
      cases applies with
      | unrendered silent =>
          rw [Agent.onSnapshot_error]
          exact .quiet silent rfl rfl ⟨rfl, rfl, rfl⟩ (.inl rfl)
      | failed writes runs =>
          rw [Agent.onSnapshot_error]
          exact .failed writes runs ⟨rfl, rfl, rfl⟩
      | done writes runs =>
          rw [Agent.onSnapshot_ok current]
          exact .wrote writes runs rfl ⟨now, rfl⟩
            (.inr ⟨s, now, choices, check, rfl, rfl⟩)

theorem tick_stepsTo {now : Timestamp} {choices : List Choice}
    (stepped : files.tick config now choices = some next) :
    StepsTo config files (.tick now choices) next := by
  unfold tick at stepped
  cases overdue : files.agent.isOverdue now with
  | false =>
      simp only [overdue] at stepped
      cases stepped
      refine .quiet ?_ rfl rfl ⟨rfl, rfl, rfl⟩ (.inl rfl)
      intro templates data outputs writes
      cases writes.1 with
      | tick isOverdue =>
          rw [overdue] at isOverdue
          cases isOverdue
  | true =>
      simp only [overdue, if_true] at stepped
      obtain ⟨applied, ended, rfl⟩ := Option.map_eq_some_iff.mp stepped
      have applies : files.Applies config (.tick now choices)
          files.templates (files.agent.lastData now true) applied
          ((applyLocked config files.templates
            (files.agent.lastData now true)).run operate choices
              files.directory).2 :=
        applyLocked_cases (.tick overdue) ended
      generalize ((applyLocked config files.templates
        (files.agent.lastData now true)).run operate choices
          files.directory).2 = directory at applies ⊢
      cases applies with
      | unrendered silent =>
          rw [Agent.tick_error]
          exact .quiet silent rfl rfl ⟨rfl, rfl, rfl⟩ (.inl rfl)
      | failed writes runs =>
          rw [Agent.tick_error]
          exact .failed writes runs ⟨rfl, rfl, rfl⟩
      | done writes runs =>
          rw [Agent.tick_ok overdue]
          exact .wrote writes runs rfl ⟨now, rfl⟩
            (.inl ⟨⟨rfl, rfl, rfl⟩, fun _ => rfl⟩)

/-- Templates that are taken render validly with the last snapshot. -/
theorem loaded_renders {entries : Except String (List TemplateFile)}
    {checkedAt : Timestamp} {templates : Templates} {s : SnapshotPayload}
    (taken : files.loaded config entries checkedAt = .ok templates)
    (last : files.agent.last = some s) :
    ∃ outputs, renderAll config.libraries config.filePrefix templates.list
      (Agent.dataFrom s files.agent.stale) = .ok outputs := by
  unfold loaded at taken
  split at taken
  · cases taken
  · rename_i others isLoaded
    split at taken
    · cases taken
    · rename_i rendered checked
      cases taken
      simp only [checkData, last, Option.map_some, Option.toList_some] at checked
      cases first : renderAll config.libraries config.filePrefix
          templates.list (Agent.emptyData checkedAt false) with
      | error err => simp [first, Bind.bind, Except.bind] at checked
      | ok outputs =>
          cases second : renderAll config.libraries config.filePrefix
              templates.list (Agent.dataFrom s files.agent.stale) with
          | error err =>
              simp [first, second, Bind.bind, Except.bind] at checked
          | ok outputs => exact ⟨outputs, rfl⟩

theorem reload_stepsTo {entries : Except String (List TemplateFile)}
    {checkedAt now : Timestamp} {choices : List Choice}
    (stepped : files.reload config entries checkedAt now choices =
      some next) :
    StepsTo config files (.reload entries checkedAt now choices) next := by
  unfold reload at stepped
  cases taken : files.loaded config entries checkedAt with
  | error err =>
      simp only [taken] at stepped
      cases stepped
      refine .quiet ?_ rfl rfl ⟨rfl, rfl, rfl⟩ (.inl rfl)
      intro templates data outputs writes
      cases writes.1 with
      | reload again =>
          rw [taken] at again
          cases again
  | ok templates =>
      simp only [taken] at stepped
      obtain ⟨applied, ended, rfl⟩ := Option.map_eq_some_iff.mp stepped
      have applies : files.Applies config
          (.reload entries checkedAt now choices) templates
          (files.agent.lastData now files.agent.stale) applied
          ((applyLocked config templates
            (files.agent.lastData now files.agent.stale)).run operate choices
              files.directory).2 :=
        applyLocked_cases (.reload taken) ended
      generalize ((applyLocked config templates
        (files.agent.lastData now files.agent.stale)).run operate choices
          files.directory).2 = directory at applies ⊢
      cases applies with
      | unrendered silent =>
          refine .quiet silent rfl rfl ⟨rfl, rfl, rfl⟩ (.inr ?_)
          cases last : files.agent.last with
          | none => rfl
          | some s =>
              obtain ⟨outputs, rendered⟩ := loaded_renders taken last
              have data : files.agent.lastData now files.agent.stale =
                  Agent.dataFrom s files.agent.stale := by
                simp only [Agent.lastData, last]
              rw [← data] at rendered
              exact absurd ⟨.reload taken, rendered⟩
                (silent templates _ outputs)
      | failed writes runs =>
          exact .failed writes runs ⟨rfl, rfl, rfl⟩
      | done writes runs =>
          exact .wrote writes runs rfl ⟨now, rfl⟩
            (.inl ⟨⟨rfl, rfl, rfl⟩, fun stale => stale⟩)

theorem step_cases (stepped : files.step config event = some next) :
    StepsTo config files event next := by
  cases event with
  | snapshot s now choices check => exact onSnapshot_stepsTo stepped
  | tick now choices => exact tick_stepsTo stepped
  | reload entries checkedAt now choices => exact reload_stepsTo stepped
  | connected =>
      cases stepped
      refine .quiet ?_ rfl rfl ⟨rfl, rfl, rfl⟩ (.inl rfl)
      intro templates data outputs writes
      cases writes.1
  | disconnected now =>
      cases stepped
      refine .quiet ?_ rfl rfl ⟨rfl, rfl, rfl⟩ (.inl rfl)
      intro templates data outputs writes
      cases writes.1

end AgentFiles

end FluxIP
