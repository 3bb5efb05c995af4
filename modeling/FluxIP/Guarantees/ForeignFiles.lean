import Mathlib.Logic.Relation
import FluxIP.Guarantees.AgentFiles

/-!
# Foreign files

The output directory may hold more than the files of the agent.  Whatever the
agent does, and wherever it is stopped, an entry that carries neither the name
of a managed file nor that of a temporary one stays as it is.
-/

namespace FluxIP

open Async Files

/-- Neither the prefix with a managed extension nor `.<prefix>*.tmp`. -/
def FilesConfig.isForeign (config : FilesConfig) (name : FileName) : Bool :=
  !config.isManaged name && !Apply.isTemp config.filePrefix.chars name

/-- Foreign entries are the same. -/
def KeepsForeign (config : FilesConfig) (before after : Directory) : Prop :=
  ∀ name, config.isForeign name = true →
    after.lookup name = before.lookup name

/-- The process of the agent: not running, or with its memory. -/
inductive AgentProcess where
  | down (directory : Directory)
  | up (files : AgentFiles)

def AgentProcess.directory : AgentProcess → Directory
  | .down directory => directory
  | .up files => files.directory

/-- What can happen to the process.  A start fails, or the process is killed,
before any file operation, or inside one. -/
inductive AgentProcess.Steps (config : FilesConfig) :
    AgentProcess → AgentProcess → Prop where
  | starts {agent entries checkedAt now choices directory files} :
      AgentFiles.start config agent entries checkedAt now choices directory =
        some files →
      Steps config (.down directory) (.up files)
  | startFails {templates now choices directory} :
      Steps config (.down directory) (.down
        ((AgentFiles.startProgram config templates now).run operate choices
          directory).2)
  | event {files event next} :
      AgentFiles.step config files event = some next →
      Steps config (.up files) (.up next)
  | killed {files event templates data choices} :
      AgentFiles.Renders config files event templates data →
      Steps config (.up files) (.down
        ((AgentFiles.applyLocked config templates data).run operate choices
          files.directory).2)
  | stopped {files} : Steps config (.up files) (.down files.directory)

variable {config : FilesConfig} {before middle after : Directory}
variable {files next : AgentFiles} {outputs : List Output}

theorem FilesConfig.isForeign_iff {name : FileName} :
    config.isForeign name = true ↔ config.isManaged name = false ∧
      Apply.isTemp config.filePrefix.chars name = false := by
  simp [FilesConfig.isForeign]

theorem KeepsForeign.refl : KeepsForeign config before before :=
  fun _ _ => rfl

theorem KeepsForeign.trans (first : KeepsForeign config before middle)
    (second : KeepsForeign config middle after) :
    KeepsForeign config before after :=
  fun name foreign => (second name foreign).trans (first name foreign)

theorem Apply.CrashSafe.keepsForeign
    (safe : Apply.CrashSafe config.libraries config.filePrefix.chars outputs
      before after) : KeepsForeign config before after := by
  intro name foreign
  obtain ⟨unmanaged, notTemp⟩ := FilesConfig.isForeign_iff.mp foreign
  cases safe with
  | settled settled => exact (settled name).of_not_managed unmanaged
  | littered isTemp wasFree isFile rest =>
      apply (rest name _).of_not_managed unmanaged
      intro same
      subst same
      rw [isTemp] at notTemp
      cases notTemp

theorem Apply.Spared.keepsForeign
    (spared : Apply.Spared config.filePrefix.chars before after) :
    KeepsForeign config before after :=
  fun name foreign => spared name (FilesConfig.isForeign_iff.mp foreign).2

/-! ## The programs -/

theorem apply_keepsForeign (kept : KeepsForeign config before middle) :
    (Apply.apply config.libraries config.filePrefix.chars outputs).Survives
      operate (fun _ => KeepsForeign config before)
      (KeepsForeign config before) middle := by
  apply (Apply.apply_survives config.libraries config.filePrefix.chars outputs
    middle).mono
  · intro result state atEnd
    cases result with
    | ok done =>
        have safe : Apply.CrashSafe config.libraries config.filePrefix.chars
            outputs middle state := .settled atEnd.settled
        exact kept.trans safe.keepsForeign
    | error error =>
        exact kept.trans (Apply.CrashSafe.keepsForeign atEnd)
  · exact fun state stopped => kept.trans stopped.keepsForeign

theorem applyLocked_keepsForeign (templates : Templates) (data : Render.Data)
    (kept : KeepsForeign config before middle) :
    (AgentFiles.applyLocked config templates data).Survives operate
      (fun _ => KeepsForeign config before) (KeepsForeign config before)
      middle := by
  cases rendered : renderAll config.libraries config.filePrefix templates.list
      data with
  | error err =>
      simp only [AgentFiles.applyLocked, rendered, Program.ofExcept_error,
        Program.fail_bind]
      exact kept
  | ok outputs =>
      rw [AgentFiles.applyLocked_of_ok rendered]
      exact apply_keepsForeign kept

theorem cleanupTemp_keepsForeign :
    (Apply.cleanupTemp config.filePrefix.chars).Survives operate
      (fun _ => KeepsForeign config before) (KeepsForeign config before)
      before := by
  apply (Apply.cleanupTemp_survives config.filePrefix.chars before).mono
  · intro result state atEnd
    cases result with
    | ok value => exact atEnd.1.keepsForeign
    | error error => exact Apply.Spared.keepsForeign atEnd
  · exact fun _ stopped => Apply.Spared.keepsForeign stopped

theorem startProgram_keepsForeign (config : FilesConfig)
    (templates : Templates) (now : Timestamp) (before : Directory) :
    (AgentFiles.startProgram config templates now).Survives operate
      (fun _ => KeepsForeign config before) (KeepsForeign config before)
      before := by
  apply cleanupTemp_keepsForeign.attempt.bind
  · intro _ middle cleaned
    have kept : KeepsForeign config before middle := cleaned
    apply (Apply.managed_survives kept).bind
    · intro names state listed
      obtain ⟨rfl, -⟩ := listed
      split
      · exact kept
      · apply (applyLocked_keepsForeign templates _ kept).bind
        · exact fun _ _ atEnd => atEnd
        · exact fun _ _ atEnd => atEnd
    · exact fun _ _ atEnd => atEnd
  · exact fun _ _ impossible => impossible.elim

/-- Wherever a program that keeps foreign files is stopped, they are kept. -/
theorem keepsForeign_of_survives {α : Type} {program : FileProgram α}
    (survives : program.Survives operate
      (fun _ => KeepsForeign config before) (KeepsForeign config before)
      before) (choices : List Choice) :
    KeepsForeign config before (program.run operate choices before).2 := by
  apply (survives.sound choices).everywhere
  exact fun _ atEnd => atEnd

/-! ## Every step -/

theorem start_keepsForeign {agent : Agent}
    {entries : Except String (List TemplateFile)}
    {checkedAt now : Timestamp} {choices : List Choice}
    (started : AgentFiles.start config agent entries checkedAt now choices
      before = some files) : KeepsForeign config before files.directory := by
  unfold AgentFiles.start at started
  split at started
  · cases started
  · rename_i templates loaded
    split at started
    · cases started
    · split at started
      · rename_i outcome directory ran
        have kept := keepsForeign_of_survives
          (startProgram_keepsForeign config templates now before) choices
        rw [ran] at kept
        cases started
        exact kept
      · cases started

/-- The file operations of a step keep foreign entries. -/
theorem runs_keepsForeign {event : FileEvent}
    {outcome : Outcome FileErr ApplyDone}
    (runs : files.Runs config event outputs outcome after) :
    KeepsForeign config files.directory after := by
  have survives : (Apply.apply config.libraries config.filePrefix.chars
      outputs).Survives operate
      (fun _ => KeepsForeign config files.directory)
      (KeepsForeign config files.directory) files.directory :=
    apply_keepsForeign .refl
  have kept := keepsForeign_of_survives survives event.choices
  unfold AgentFiles.Runs at runs
  rw [runs] at kept
  exact kept

theorem step_keepsForeign {event : FileEvent}
    (stepped : files.step config event = some next) :
    KeepsForeign config files.directory next.directory := by
  cases AgentFiles.step_cases stepped with
  | quiet _ sameDirectory =>
      rw [sameDirectory]
      exact .refl
  | failed _ runs => exact runs_keepsForeign runs
  | wrote _ runs => exact runs_keepsForeign runs

theorem AgentProcess.Steps.keepsForeign {process later : AgentProcess}
    (steps : process.Steps config later) :
    KeepsForeign config process.directory later.directory := by
  cases steps with
  | starts started => exact start_keepsForeign started
  | startFails =>
      exact keepsForeign_of_survives (startProgram_keepsForeign _ _ _ _) _
  | event stepped => exact step_keepsForeign stepped
  | killed renders =>
      exact keepsForeign_of_survives (applyLocked_keepsForeign _ _ .refl) _
  | stopped => exact .refl

/-- Starts, snapshots, ticks and reloads follow one another, each with any
failures, and the process is killed at any point and started again.  No entry
is created, modified or deleted whose name is neither that of a managed file nor
that of a temporary one. -/
theorem foreign_files_untouched (config : FilesConfig)
    {process later : AgentProcess}
    (run : Relation.ReflTransGen (AgentProcess.Steps config) process later)
    (name : FileName) (unmanaged : config.isManaged name = false)
    (notTemp : Apply.isTemp config.filePrefix.chars name = false) :
    later.directory.lookup name = process.directory.lookup name := by
  have kept : KeepsForeign config process.directory later.directory := by
    induction run with
    | refl => exact .refl
    | tail _ steps induction => exact induction.trans steps.keepsForeign
  exact kept name (FilesConfig.isForeign_iff.mpr ⟨unmanaged, notTemp⟩)

/-- A file of the administrator next to those of the agent. -/
def manualName : FileName := ⟨"manual.yml".toList, by decide⟩

/-- The agent runs next to that file. -/
def besideManual : AgentFiles :=
  { olderStart with
    directory := olderStart.directory.insert manualName
      (.regular (bytesOf "c: 3\n")) }

theorem foreign_files_untouched_manual :
    (exampleAfter besideManual exampleReload).directory.lookup manualName =
      some (.regular (bytesOf "c: 3\n")) := by
  have run : Relation.ReflTransGen (AgentProcess.Steps exampleFilesConfig)
      (.up besideManual) (.up (exampleAfter besideManual exampleReload)) :=
    .single (.event (exampleAfter_eq (by decide +kernel)))
  have untouched := foreign_files_untouched exampleFilesConfig run manualName
    (by decide +kernel) (by decide +kernel)
  exact untouched.trans (AList.lookup_insert _)

end FluxIP
