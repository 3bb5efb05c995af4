import FluxIP.Guarantees.AgentFiles

/-!
# Snapshots that are not applied

A snapshot whose rendering fails is reported as an error, an older one as
ignored; neither changes anything, and neither does a tick whose rendering
fails.
-/

namespace FluxIP

open Async Files

/-- The output lacks the prefix or is not valid. -/
inductive Apply.Rejects (libraries : Libraries) (filePrefix : List Char)
    (out : Output) : Prop where
  | unprefixed : hasPrefix filePrefix out.name = false →
      Rejects libraries filePrefix out
  | invalid {err : FileErr} :
      validate libraries out.name out.content = .error err →
      Rejects libraries filePrefix out

namespace AgentFiles

variable (config : FilesConfig)

/-- `OnSnapshot` with the report it returns. -/
def respond (files : AgentFiles) (s : SnapshotPayload) (now : Timestamp)
    (choices : List Choice)
    (check : Option (List String → TraefikCheckResult)) :
    Option (ReportMessage × AgentFiles) :=
  if files.isOlder s then
    some ({ files.agent.reportOn s .ignoredStale with
      stale := files.agent.stale }, files)
  else
    let (outcome, directory) :=
      (applyLocked config files.templates (Agent.dataFrom s false)).run operate
        choices files.directory
    (appliedOf outcome).map fun applied =>
      ((files.agent.onSnapshot s now applied check).1, { files with
        agent := (files.agent.onSnapshot s now applied check).2
        directory })

/-- One of the active templates fails with this data. -/
def FailsToRender (files : AgentFiles) (data : Render.Data) : Prop :=
  ∃ template ∈ files.templates.list,
    template.Fails config.libraries config.filePrefix data

variable {config} {files : AgentFiles} {s : SnapshotPayload}
variable {now : Timestamp} {choices : List Choice} {data : Render.Data}
variable {check : Option (List String → TraefikCheckResult)}

/-- The report comes with the step of the agent. -/
theorem onSnapshot_eq_respond :
    files.onSnapshot config s now choices check =
      (files.respond config s now choices check).map (·.2) := by
  unfold onSnapshot respond
  split
  · rfl
  · simp only [Option.map_map]
    rfl

/-- Nothing is written unless everything renders. -/
theorem applyLocked_of_fails (fails : files.FailsToRender config data)
    (choices : List Choice) :
    ∃ err, (applyLocked config files.templates data).run operate choices
      files.directory = (.threw err, files.directory) := by
  obtain ⟨template, member, fails⟩ := fails
  obtain ⟨err, failed⟩ := renderAll_error member fails
  exact ⟨err, applyLocked_of_error failed⟩

theorem respond_of_fails (current : files.isOlder s = false)
    (fails : files.FailsToRender config (Agent.dataFrom s false)) :
    ∃ error, files.respond config s now choices check =
      some ({ files.agent.reportOn s .error with
        error
        templates := files.agent.templateSums }, files) := by
  obtain ⟨err, ran⟩ := applyLocked_of_fails fails choices
  refine ⟨err.text, ?_⟩
  have isCurrent : ¬ (files.agent.haveApplied = true ∧
      s.version < files.agent.appliedVersion) := by
    simpa [isOlder] using current
  simp only [respond, current, ran, appliedOf, Agent.onSnapshot, isCurrent,
    if_false, Option.map_some]
  rfl

theorem tick_of_fails
    (fails : files.FailsToRender config (files.agent.lastData now true)) :
    files.tick config now choices = some files := by
  unfold tick
  split
  · obtain ⟨err, ran⟩ := applyLocked_of_fails fails choices
    simp only [ran, appliedOf, Option.map_some, Agent.tick_error]
  · rfl

end AgentFiles

namespace Apply

variable {libraries : Libraries} {filePrefix : List Char}
variable {outputs : List Output}

theorem checkOutputs_error {out : Output} (member : out ∈ outputs)
    (rejects : Rejects libraries filePrefix out) :
    ∃ err, checkOutputs libraries filePrefix outputs = .error err := by
  cases checked : checkOutputs libraries filePrefix outputs with
  | error err => exact ⟨err, rfl⟩
  | ok value =>
      obtain ⟨isPrefix, valid⟩ := checkOutputs_ok checked member
      cases rejects with
      | unprefixed lacks =>
          rw [isPrefix] at lacks
          cases lacks
      | invalid invalid =>
          rw [valid] at invalid
          cases invalid

/-- `Apply` checks the outputs again before it writes any of them. -/
theorem apply_of_rejects {out : Output} (member : out ∈ outputs)
    (rejects : Rejects libraries filePrefix out) (choices : List Choice)
    (directory : Directory) :
    ∃ err, (apply libraries filePrefix outputs).run operate choices directory =
      (.threw err, directory) := by
  obtain ⟨err, failed⟩ := checkOutputs_error member rejects
  unfold apply
  split
  · exact ⟨_, rfl⟩
  · rw [failed]
    exact ⟨_, rfl⟩

end Apply

/-- A snapshot or tick for which a template fails changes nothing, and neither
does an older snapshot; the report says which of the two it was.  Outputs of
which one is rejected are not written. -/
theorem snapshots_all_or_nothing (config : FilesConfig) (files : AgentFiles) :
    (∀ s now choices check, files.isOlder s = false →
      files.FailsToRender config (Agent.dataFrom s false) →
      ∃ report, files.respond config s now choices check =
          some (report, files) ∧
        report.result = .error ∧ report.version = s.version) ∧
    (∀ now choices,
      files.FailsToRender config (files.agent.lastData now true) →
      files.tick config now choices = some files) ∧
    (∀ s now choices check, files.isOlder s = true →
      ∃ report, files.respond config s now choices check =
          some (report, files) ∧
        report.result = .ignoredStale ∧ report.version = s.version) ∧
    (∀ outputs choices,
      (∃ out ∈ outputs,
        Apply.Rejects config.libraries config.filePrefix.chars out) →
      ∃ err, (Apply.apply config.libraries config.filePrefix.chars outputs).run
        operate choices files.directory = (.threw err, files.directory)) := by
  refine ⟨?_, ?_, ?_, ?_⟩
  · intro s now choices check current fails
    obtain ⟨error, responds⟩ := AgentFiles.respond_of_fails current fails
    exact ⟨_, responds, rfl, rfl⟩
  · exact fun now choices fails => AgentFiles.tick_of_fails fails
  · intro s now choices check older
    simp only [AgentFiles.respond, older, if_true]
    exact ⟨_, rfl, rfl, rfl⟩
  · intro outputs choices rejected
    obtain ⟨out, member, rejects⟩ := rejected
    exact Apply.apply_of_rejects member rejects choices files.directory

/-! ## A template that renders nothing -/

def blankTemplate : Template :=
  { exampleTemplate with source := "" }

def blankOutput : Output :=
  { exampleOutput with content := [] }

/-- Version 2 is applied, and the second template has been emptied since. -/
def blankFiles : AgentFiles where
  agent := { Agent.create "1" 60 0 with
    haveApplied := true
    appliedVersion := 2 }
  templates := ⟨[{ exampleTemplate with
    outputName := ⟨"b.yml".toList, by decide⟩ }, blankTemplate], by decide⟩
  directory := exampleDirectory (.regular exampleOutput.content)

theorem blankOutput_invalid :
    Apply.validate exampleLibraries blankOutput.name blankOutput.content =
      .error ⟨"fluxip-a.yml: rendered document is empty", false⟩ := by
  decide +kernel

theorem blankTemplate_fails (data : Render.Data) :
    blankFiles.FailsToRender exampleFilesConfig data :=
  ⟨blankTemplate, .tail _ (.head _), .invalid rfl blankOutput_invalid⟩

theorem snapshots_all_or_nothing_blank :
    (∃ report, blankFiles.respond exampleFilesConfig
        { exampleSnapshot with version := 3 } 1 [.succeeds []] none =
          some (report, blankFiles) ∧
      report.result = .error ∧ report.version = 3) ∧
    blankFiles.tick exampleFilesConfig 100 [.succeeds []] = some blankFiles ∧
    (∃ report, blankFiles.respond exampleFilesConfig exampleSnapshot 1
        [.succeeds []] none = some (report, blankFiles) ∧
      report.result = .ignoredStale ∧ report.version = 1) ∧
    ∃ err, (Apply.apply exampleLibraries exampleFilesConfig.filePrefix.chars
        [exampleOutput, blankOutput]).run operate [.succeeds []]
          blankFiles.directory = (.threw err, blankFiles.directory) := by
  obtain ⟨snapshots, ticks, older, outputs⟩ :=
    snapshots_all_or_nothing exampleFilesConfig blankFiles
  refine ⟨snapshots _ 1 _ none (by decide) (blankTemplate_fails _),
    ticks 100 _ (blankTemplate_fails _), older _ 1 _ none (by decide),
    outputs _ _ ⟨blankOutput, .tail _ (.head _), .invalid blankOutput_invalid⟩⟩

end FluxIP
