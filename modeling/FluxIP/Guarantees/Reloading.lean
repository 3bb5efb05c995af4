import FluxIP.Guarantees.AgentFiles

/-!
# Reloading the templates

Changed templates are checked with the last snapshot and with an empty one
before they are taken.  What is rendered afterwards is covered by the check
once there is a snapshot; before it, the empty data carries the stale flag,
which the check leaves out.
-/

namespace FluxIP

open Async Files

namespace AgentFiles

variable (config : FilesConfig)

/-- What `Reload` returns. -/
def reloadResult (files : AgentFiles)
    (entries : Except String (List TemplateFile)) (checkedAt now : Timestamp)
    (choices : List Choice) : Option (Except String Unit) :=
  match files.loaded config entries checkedAt with
  | .error err => some (.error err)
  | .ok templates =>
      (appliedOf ((applyLocked config templates
        (files.agent.lastData now files.agent.stale)).run operate choices
          files.directory).1).map (·.map fun _ => ())

/-- The loading, rendering or validation error of a reload. -/
def rejection (files : AgentFiles)
    (entries : Except String (List TemplateFile))
    (checkedAt now : Timestamp) : Option String :=
  match files.loaded config entries checkedAt with
  | .error err => some err
  | .ok templates =>
      match renderAll config.libraries config.filePrefix templates.list
          (files.agent.lastData now files.agent.stale) with
      | .error err => some err.text
      | .ok outputs =>
          match Apply.checkOutputs config.libraries config.filePrefix.chars
              outputs with
          | .error err => some err.text
          | .ok () => none

/-- What a reload that is rejected leaves as it was. -/
structure Unchanged (before after : AgentFiles) : Prop where
  templates : after.templates = before.templates
  last : after.agent.last = before.agent.last
  appliedVersion : after.agent.appliedVersion = before.agent.appliedVersion
  stale : after.agent.stale = before.agent.stale
  directory : after.directory = before.directory

/-- The check covers what is rendered after it: there is a snapshot, or the
templates that pass render validly with the current stale flag too, or they are
the active ones. -/
def PreChecked (files : AgentFiles)
    (entries : Except String (List TemplateFile))
    (checkedAt now : Timestamp) : Prop :=
  ∀ templates outputs,
    Templates.loadDir config.libraries config.templatesDir entries =
      .ok templates →
    renderAll config.libraries config.filePrefix templates.list
      (Agent.emptyData checkedAt false) = .ok outputs →
    files.agent.last ≠ none ∨
      (∃ others, renderAll config.libraries config.filePrefix templates.list
        (Agent.emptyData now files.agent.stale) = .ok others) ∨
      templates = files.templates

variable {config} {files next : AgentFiles}
variable {entries : Except String (List TemplateFile)}
variable {checkedAt now : Timestamp} {choices : List Choice}
variable {templates : Templates} {outputs : List Output}

theorem Unchanged.refl : Unchanged files files := ⟨rfl, rfl, rfl, rfl, rfl⟩

/-! ## The check -/

/-- Without a snapshot, the check renders the empty data. -/
theorem loaded_of_empty (last : files.agent.last = none)
    (isLoaded : Templates.loadDir config.libraries config.templatesDir
      entries = .ok templates)
    (rendered : renderAll config.libraries config.filePrefix templates.list
      (Agent.emptyData checkedAt false) = .ok outputs) :
    files.loaded config entries checkedAt = .ok templates := by
  simp [loaded, isLoaded, checkData, last, rendered, Bind.bind, Except.bind,
    Pure.pure, Except.pure]

theorem empty_of_loaded
    (taken : files.loaded config entries checkedAt = .ok templates) :
    Templates.loadDir config.libraries config.templatesDir entries =
        .ok templates ∧
      ∃ outputs, renderAll config.libraries config.filePrefix templates.list
        (Agent.emptyData checkedAt false) = .ok outputs := by
  unfold loaded at taken
  split at taken
  · cases taken
  · rename_i others isLoaded
    split at taken
    · cases taken
    · rename_i rendered checked
      cases taken
      refine ⟨isLoaded, ?_⟩
      cases first : renderAll config.libraries config.filePrefix
          templates.list (Agent.emptyData checkedAt false) with
      | error err =>
          simp [checkData, first, Bind.bind, Except.bind] at checked
      | ok outputs => exact ⟨outputs, rfl⟩

/-- Rendered files carry the prefix and are valid. -/
theorem checkOutputs_of_rendered {list : List Template} {data : Render.Data}
    (rendered : renderAll config.libraries config.filePrefix list data =
      .ok outputs) :
    Apply.checkOutputs config.libraries config.filePrefix.chars outputs =
      .ok () := by
  have all := renderAll_ok rendered
  clear rendered
  induction all with
  | nil => rfl
  | @cons template out list outputs produces _ induction =>
      have carries : Apply.hasPrefix config.filePrefix.chars out.name =
          true := by
        rw [produces.name]
        exact List.isPrefixOf_iff_prefix.mpr (List.prefix_append _ _)
      simp only [Apply.checkOutputs, carries, if_true, produces.valid]
      exact induction

/-! ## What a reload does -/

/-- A rejection is what the reload returns. -/
theorem reloadResult_of_rejection {text : String}
    (rejected : files.rejection config entries checkedAt now = some text) :
    files.reloadResult config entries checkedAt now choices =
      some (.error text) := by
  unfold rejection at rejected
  unfold reloadResult
  cases taken : files.loaded config entries checkedAt with
  | error err =>
      simp only [taken] at rejected ⊢
      cases rejected
      rfl
  | ok templates =>
      simp only [taken] at rejected ⊢
      cases rendered : renderAll config.libraries config.filePrefix
          templates.list (files.agent.lastData now files.agent.stale) with
      | error err =>
          simp only [rendered] at rejected
          cases rejected
          rw [applyLocked_of_error rendered]
          rfl
      | ok outputs =>
          simp only [rendered, checkOutputs_of_rendered rendered] at rejected
          cases rejected

/-- Any other error is one of a file operation. -/
theorem rejection_of_reloadResult {text : String}
    (failed : files.reloadResult config entries checkedAt now choices =
      some (.error text)) :
    files.rejection config entries checkedAt now = some text ∨
      files.FailsOnDisk config (.reload entries checkedAt now choices) := by
  unfold reloadResult at failed
  unfold rejection
  cases taken : files.loaded config entries checkedAt with
  | error err =>
      simp only [taken] at failed ⊢
      cases failed
      exact .inl rfl
  | ok templates =>
      simp only [taken] at failed ⊢
      obtain ⟨applied, ended, isError⟩ := Option.map_eq_some_iff.mp failed
      cases rendered : renderAll config.libraries config.filePrefix
          templates.list (files.agent.lastData now files.agent.stale) with
      | error err =>
          rw [applyLocked_of_error rendered] at ended
          cases ended
          cases isError
          exact .inl rfl
      | ok outputs =>
          rw [applyLocked_of_ok rendered] at ended
          rcases appliedOf_cases ended with returned | threw
          · obtain ⟨done, _, rfl⟩ := returned
            cases isError
          · obtain ⟨err, outcome, rfl⟩ := threw
            exact .inr ⟨templates, _, outputs, err, _,
              ⟨.reload taken, rendered⟩, Prod.ext outcome rfl⟩

/-- Templates that pass the check and fail afterwards are active, and nothing
else has changed. -/
theorem reload_of_error {err : FileErr}
    (reloaded : files.reload config entries checkedAt now choices =
      some next)
    (taken : files.loaded config entries checkedAt = .ok templates)
    (rendered : renderAll config.libraries config.filePrefix templates.list
      (files.agent.lastData now files.agent.stale) = .error err) :
    next.templates = templates ∧
      Unchanged { files with templates } next := by
  unfold reload at reloaded
  simp only [taken] at reloaded
  rw [applyLocked_of_error rendered] at reloaded
  cases reloaded
  exact ⟨rfl, rfl, rfl, rfl, rfl, rfl⟩

theorem reload_of_loadError {err : String}
    (reloaded : files.reload config entries checkedAt now choices =
      some next)
    (failed : files.loaded config entries checkedAt = .error err) :
    next = files := by
  unfold reload at reloaded
  simp only [failed] at reloaded
  cases reloaded
  rfl

end AgentFiles

/-- A reload that is rejected with a loading, rendering or validation error
leaves everything as it was, exactly when its check covers the data that is
rendered after it. -/
theorem reload_is_atomic (config : FilesConfig) (files next : AgentFiles)
    (entries : Except String (List TemplateFile)) (checkedAt now : Timestamp)
    (choices : List Choice)
    (reloaded : files.reload config entries checkedAt now choices =
      some next) :
    (∀ text, files.rejection config entries checkedAt now = some text →
        files.Unchanged next) ↔
      files.PreChecked config entries checkedAt now := by
  cases taken : files.loaded config entries checkedAt with
  | error err =>
      have same := AgentFiles.reload_of_loadError reloaded taken
      constructor
      · intro _ templates outputs isLoaded rendered
        left
        intro last
        have passes : files.loaded config entries checkedAt = .ok templates :=
          AgentFiles.loaded_of_empty last isLoaded rendered
        rw [taken] at passes
        cases passes
      · intro _ _ _
        rw [same]
        exact .refl
  | ok templates =>
      obtain ⟨isLoaded, checked, renderedEmpty⟩ :=
        AgentFiles.empty_of_loaded taken
      cases rendered : renderAll config.libraries config.filePrefix
          templates.list (files.agent.lastData now files.agent.stale) with
      | ok outputs =>
          constructor
          · intro _ others _ isOther _
            cases isLoaded.symm.trans isOther
            cases last : files.agent.last with
            | some s => exact .inl (by simp)
            | none =>
                simp only [Agent.lastData, last] at rendered
                exact .inr (.inl ⟨outputs, rendered⟩)
          · intro _ text rejected
            simp only [AgentFiles.rejection, taken, rendered,
              AgentFiles.checkOutputs_of_rendered rendered] at rejected
            cases rejected
      | error err =>
          obtain ⟨active, rest⟩ :=
            AgentFiles.reload_of_error reloaded taken rendered
          have rejected : files.rejection config entries checkedAt now =
              some err.text := by
            simp only [AgentFiles.rejection, taken, rendered]
          have last : files.agent.last = none := by
            cases last : files.agent.last with
            | none => rfl
            | some s =>
                obtain ⟨outputs, renders⟩ :=
                  AgentFiles.loaded_renders taken last
                simp only [Agent.lastData, last] at rendered
                rw [renders] at rendered
                cases rendered
          have data : files.agent.lastData now files.agent.stale =
              Agent.emptyData now files.agent.stale := by
            simp only [Agent.lastData, last]
          constructor
          · intro atomic others _ isOther _
            cases isLoaded.symm.trans isOther
            exact .inr (.inr
              (active.symm.trans (atomic err.text rejected).templates))
          · intro preChecked text _
            rcases preChecked templates checked isLoaded renderedEmpty with
              isSome | renders | same
            · exact absurd last isSome
            · obtain ⟨others, renders⟩ := renders
              rw [data, renders] at rendered
              cases rendered
            · exact ⟨active.trans same, rest.last, rest.appliedVersion,
                rest.stale, rest.directory⟩

/-- A template that renders no key. -/
def noKeyEntries : List TemplateFile :=
  [⟨exampleTemplate.file, false, .ok "# none\n"⟩]

theorem reload_is_atomic_applied :
    ∃ next, (exampleAfter keptStart exampleEvent).reload exampleFilesConfig
        (.ok noKeyEntries) 2 2 [] = some next ∧
      (exampleAfter keptStart exampleEvent).Unchanged next := by
  have reloads : ((exampleAfter keptStart exampleEvent).reload
      exampleFilesConfig (.ok noKeyEntries) 2 2 []).isSome = true := by
    decide +kernel
  have rejects : ((exampleAfter keptStart exampleEvent).rejection
      exampleFilesConfig (.ok noKeyEntries) 2 2).isSome = true := by
    decide +kernel
  obtain ⟨next, reloaded⟩ := Option.isSome_iff_exists.mp reloads
  obtain ⟨text, rejected⟩ := Option.isSome_iff_exists.mp rejects
  have atomic := reload_is_atomic exampleFilesConfig _ next (.ok noKeyEntries)
    2 2 [] reloaded
  refine ⟨next, reloaded, atomic.mpr ?_ text rejected⟩
  exact fun _ _ _ _ => .inl (by decide +kernel)

/-! ## Templates for which the flag matters -/

/-- `a: 1` unless the data is stale, and nothing then. -/
def unlessStale : String :=
  "\x7b\x7bif not .Stale\x7d\x7da: 1\n\x7b\x7bend\x7d\x7d"

/-- The template above is executed; all others render their own source. -/
def staleLibraries : Libraries :=
  { exampleLibraries with
    execute source data :=
      if source = unlessStale then
        .ok (if data.stale then [] else bytesOf "a: 1\n")
      else exampleLibraries.execute source data }

def staleConfig : FilesConfig :=
  { exampleFilesConfig with libraries := staleLibraries }

def unlessStaleEntries : List TemplateFile :=
  [⟨exampleTemplate.file, false, .ok unlessStale⟩]

/-- The agent has started, and the offline limit of 60 has passed without a
snapshot. -/
def staleStart : Option AgentFiles :=
  (AgentFiles.start staleConfig (Agent.create "1" 60 0) (.ok exampleEntries) 0
    0 [.succeeds [], .succeeds []]
    (exampleDirectory (.regular exampleOutput.content))).bind fun files =>
  files.step staleConfig
    (.tick 61 [.succeeds exampleOutput.content, .succeeds []])

/-- Before the first snapshot, templates that render nothing from stale data
pass the check of an agent that is stale, are taken, and are then rejected. -/
theorem rejected_templates_are_active :
    ∃ files next text,
      staleStart = some files ∧
      files.reload staleConfig (.ok unlessStaleEntries) 62 62 [] = some next ∧
      files.rejection staleConfig (.ok unlessStaleEntries) 62 62 = some text ∧
      files.reloadResult staleConfig (.ok unlessStaleEntries) 62 62 [] =
        some (.error text) ∧
      ¬ files.Unchanged next := by
  have reached : staleStart.isSome = true := by decide +kernel
  obtain ⟨files, isFiles⟩ := Option.isSome_iff_exists.mp reached
  have outcome : (staleStart.bind fun files =>
      (files.reload staleConfig (.ok unlessStaleEntries) 62 62 []).bind
        fun next =>
      (files.rejection staleConfig (.ok unlessStaleEntries) 62 62).map
        fun _ => decide (next.templates = files.templates)) = some false := by
    decide +kernel
  rw [isFiles, Option.bind_some] at outcome
  obtain ⟨next, reloaded, outcome⟩ := Option.bind_eq_some_iff.mp outcome
  obtain ⟨text, rejected, differs⟩ := Option.map_eq_some_iff.mp outcome
  refine ⟨files, next, text, isFiles, reloaded, rejected,
    AgentFiles.reloadResult_of_rejection rejected, ?_⟩
  intro unchanged
  exact of_decide_eq_false differs unchanged.templates

end FluxIP
