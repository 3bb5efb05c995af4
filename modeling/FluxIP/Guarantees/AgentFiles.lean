import Mathlib.Logic.Relation
import FluxIP.Agent.Files

/-!
# The files of the agent and its memory

After the first snapshot the managed files are exactly what the active
templates render from the last snapshot with the current stale flag.  Before
it, the files found at the start are kept as long as no reload and no failing
snapshot writes something else.
-/

namespace FluxIP

open Async Files

variable {config : FilesConfig} {files next : AgentFiles}

/-! ## What is rendered -/

theorem renderAll_names {templates : List Template} {data : Render.Data}
    {outputs : List Output}
    (rendered : renderAll config.libraries config.filePrefix templates data =
      .ok outputs) :
    outputs.map (·.name) =
      (templates.map (·.outputName)).map config.filePrefix.name := by
  have all := renderAll_ok rendered
  clear rendered
  induction all with
  | nil => rfl
  | cons produces _ induction =>
      simp only [List.map_cons, produces.name, induction]

theorem FilePrefix.name_injective (filePrefix : FilePrefix) :
    Function.Injective filePrefix.name := by
  intro first second same
  have chars := congrArg FileName.chars same
  have equal : first.chars = second.chars :=
    List.append_cancel_left chars
  cases first
  cases second
  cases equal
  rfl

theorem renderAll_distinct {templates : Templates} {data : Render.Data}
    {outputs : List Output}
    (rendered : renderAll config.libraries config.filePrefix templates.list
      data = .ok outputs) :
    (outputs.map (·.name)).Nodup := by
  rw [renderAll_names rendered]
  exact templates.distinct.map config.filePrefix.name_injective

/-- Every rendered file belongs to the agent. -/
theorem renderAll_managed {templates : List Template} {data : Render.Data}
    {outputs : List Output}
    (rendered : renderAll config.libraries config.filePrefix templates data =
      .ok outputs) {out : Output} (member : out ∈ outputs) :
    config.isManaged out.name = true := by
  obtain ⟨template, -, produces⟩ :=
    template_of_output (renderAll_ok rendered) member
  apply Bool.and_eq_true_iff.mpr
  refine ⟨?_, Apply.managedExt_of_validate produces.valid⟩
  rw [produces.name]
  exact List.isPrefixOf_iff_prefix.mpr (List.prefix_append _ _)

/-! ## What the directory holds -/

/-- Nothing but regular files carries the name of a managed file. -/
def OnlyFiles (config : FilesConfig) (directory : Directory) : Prop :=
  ∀ name, config.isManaged name = true → directory.lookup name ≠ some .other

/-- The managed files are exactly these outputs. -/
def HoldsExactly (config : FilesConfig) (outputs : List Output)
    (directory : Directory) : Prop :=
  ∀ name, config.isManaged name = true →
    directory.lookup name =
      (outputs.find? (·.name = name)).map fun out => .regular out.content

variable {outputs : List Output} {before after : Directory}

theorem Apply.CrashSafe.onlyFiles
    (safe : Apply.CrashSafe config.libraries config.filePrefix.chars outputs
      before after)
    (only : OnlyFiles config before) : OnlyFiles config after := by
  intro name managed found
  have fate := safe.fate managed
  rw [found] at fate
  exact only name managed fate.of_other

theorem Apply.Applied.holdsExactly
    (applied : Apply.Applied config.libraries config.filePrefix.chars outputs
      before after)
    (distinct : (outputs.map (·.name)).Nodup)
    (only : OnlyFiles config before) :
    HoldsExactly config outputs after := by
  have onlyAfter := Apply.CrashSafe.onlyFiles (.settled applied.settled) only
  intro name managed
  cases found : outputs.find? (·.name = name) with
  | some out =>
      have member := List.mem_of_find?_eq_some found
      have own : out.name = name := by
        simpa using List.find?_some found
      subst own
      rcases applied.carries distinct out member with regular | other
      · exact regular
      · exact absurd other (onlyAfter out.name managed)
  | none =>
      have unwanted : name ∉ outputs.map (·.name) := by
        intro listed
        obtain ⟨out, member, own⟩ := List.mem_map.mp listed
        have differs := List.find?_eq_none.mp found out member
        simp [own] at differs
      cases held : after.lookup name with
      | none => rfl
      | some entry =>
          cases entry with
          | other => exact absurd held (onlyAfter name managed)
          | regular content =>
              exact absurd held
                (applied.nothingElse name content managed unwanted)

/-- The managed files are the same. -/
def KeepsManaged (config : FilesConfig) (before after : Directory) : Prop :=
  ∀ name, config.isManaged name = true →
    after.lookup name = before.lookup name

theorem Apply.Spared.keepsManaged
    (spared : Apply.Spared config.filePrefix.chars before after) :
    KeepsManaged config before after :=
  fun name managed => spared name (Apply.not_isTemp_of_isManaged managed)

theorem KeepsManaged.onlyFiles (keeps : KeepsManaged config before after)
    (only : OnlyFiles config before) : OnlyFiles config after := by
  intro name managed
  rw [keeps name managed]
  exact only name managed

/-! ## The start -/

/-- What the start leaves in the directory, wherever it is stopped: with a
managed file, all of them as they were. -/
structure StartLeaves (config : FilesConfig) (before after : Directory) :
    Prop where
  onlyFiles : OnlyFiles config before → OnlyFiles config after
  keeps : Apply.managedFiles config.filePrefix.chars before.list ≠ [] →
    KeepsManaged config before after

theorem KeepsManaged.startLeaves (keeps : KeepsManaged config before after) :
    StartLeaves config before after where
  onlyFiles := keeps.onlyFiles
  keeps := fun _ => keeps

theorem StartLeaves.of_apply {middle : Directory}
    (keeps : KeepsManaged config before middle)
    (none : Apply.managedFiles config.filePrefix.chars middle.list = [])
    (safe : Apply.CrashSafe config.libraries config.filePrefix.chars outputs
      middle after) : StartLeaves config before after where
  onlyFiles := fun only => safe.onlyFiles (keeps.onlyFiles only)
  keeps := by
    intro some
    obtain ⟨name, member⟩ := List.exists_mem_of_ne_nil _ some
    obtain ⟨managed, content, held⟩ := Apply.mem_managedFiles.mp member
    rw [← keeps name managed] at held
    have listed := Apply.mem_managedFiles.mpr ⟨managed, content, held⟩
    rw [none] at listed
    cases listed

theorem startProgram_survives (config : FilesConfig) (templates : Templates)
    (now : Timestamp) (before : Directory) :
    (AgentFiles.startProgram config templates now).Survives operate
      (fun _ => StartLeaves config before) (StartLeaves config before)
      before := by
  have unchanged : StartLeaves config before before :=
    KeepsManaged.startLeaves fun _ _ => rfl
  have cleaned : (Apply.cleanupTemp config.filePrefix.chars).Survives operate
      (fun _ => KeepsManaged config before) (StartLeaves config before)
      before := by
    apply (Apply.cleanupTemp_survives config.filePrefix.chars before).mono
    · intro result state atEnd
      cases result with
      | ok value => exact atEnd.1.keepsManaged
      | error error => exact Apply.Spared.keepsManaged atEnd
    · exact fun _ stopped => (Apply.Spared.keepsManaged stopped).startLeaves
  apply cleaned.attempt.bind
  · intro _ middle keeps
    have kept : KeepsManaged config before middle := keeps
    apply (Apply.managed_survives kept.startLeaves).bind
    · intro names state listed
      obtain ⟨rfl, rfl⟩ := listed
      split
      · exact kept.startLeaves
      · rename_i none
        have none := not_not.mp none
        cases rendered : renderAll config.libraries config.filePrefix
            templates.list (Agent.emptyData now false) with
        | error err =>
            simp only [AgentFiles.applyLocked, rendered,
              Program.ofExcept_error, Program.fail_bind]
            exact kept.startLeaves
        | ok outputs =>
            rw [AgentFiles.applyLocked_of_ok rendered]
            have leaves : ∀ after, Apply.CrashSafe config.libraries
                config.filePrefix.chars outputs state after →
                StartLeaves config before after :=
              fun _ safe => .of_apply kept none safe
            have applies : (Apply.apply config.libraries
                config.filePrefix.chars outputs).Survives operate
                (fun _ => StartLeaves config before)
                (StartLeaves config before) state := by
              apply (Apply.apply_survives config.libraries
                config.filePrefix.chars outputs state).mono
              · intro result after atEnd
                cases result with
                | ok done => exact leaves after (.settled atEnd.settled)
                | error error => exact leaves after atEnd
              · exact leaves
            apply applies.bind
            · exact fun _ _ atEnd => atEnd
            · exact fun _ _ atEnd => atEnd
    · exact fun _ _ atEnd => atEnd
  · exact fun _ _ impossible => impossible.elim

variable {agent : Agent} {entries : Except String (List TemplateFile)}
variable {checkedAt now : Timestamp} {choices : List Choice}

theorem start_leaves
    (started : AgentFiles.start config agent entries checkedAt now choices
      before = some files) :
    StartLeaves config before files.directory ∧
      ∃ templates, files.agent = { agent with templates } := by
  unfold AgentFiles.start at started
  split at started
  · cases started
  · rename_i templates loaded
    split at started
    · cases started
    · split at started
      · rename_i outcome directory ran
        have ends := (startProgram_survives config templates now
          before).sound choices
        rw [ran] at ends
        cases started
        exact ⟨ends, templates.summaries, rfl⟩
      · cases started

/-! ## Files and memory -/

/-- The managed files are exactly the outputs of the active templates rendered
on the last snapshot with the current stale flag. -/
def MirrorsMemory (config : FilesConfig) (files : AgentFiles) : Prop :=
  ∃ s outputs, files.agent.last = some s ∧
    renderAll config.libraries config.filePrefix files.templates.list
      (Agent.dataFrom s files.agent.stale) = .ok outputs ∧
    (∀ out ∈ outputs, config.isManaged out.name = true) ∧
    ∀ name, config.isManaged name = true →
      files.directory.lookup name =
        (outputs.find? (·.name = name)).map fun out => .regular out.content

/-- One event, none of whose file operations fails. -/
def Undisturbed (config : FilesConfig) (files next : AgentFiles) : Prop :=
  ∃ event, files.step config event = some next ∧
    ¬ files.FailsOnDisk config event

/-- What couples the memory of the agent with the directory. -/
structure Coupled (config : FilesConfig) (files : AgentFiles) : Prop where
  onlyFiles : OnlyFiles config files.directory
  applied : files.agent.haveApplied = true → files.agent.last.isSome = true
  mirrors : files.agent.last.isSome = true → MirrorsMemory config files

theorem AgentFiles.Runs.applied {event : FileEvent} {done : ApplyDone}
    (runs : files.Runs config event outputs (.returned done) after) :
    Apply.Applied config.libraries config.filePrefix.chars outputs
      files.directory after := by
  have ends := (Apply.apply_survives config.libraries
    config.filePrefix.chars outputs files.directory).sound event.choices
  unfold Runs at runs
  rw [runs] at ends
  exact ends

theorem AgentFiles.Runs.crashSafe {event : FileEvent} {err : FileErr}
    (runs : files.Runs config event outputs (.threw err) after) :
    Apply.CrashSafe config.libraries config.filePrefix.chars outputs
      files.directory after := by
  have ends := (Apply.apply_survives config.libraries
    config.filePrefix.chars outputs files.directory).sound event.choices
  unfold Runs at runs
  rw [runs] at ends
  exact ends

theorem Coupled.step (coupled : Coupled config files)
    (undisturbed : Undisturbed config files next) : Coupled config next := by
  obtain ⟨event, stepped, succeeds⟩ := undisturbed
  cases AgentFiles.step_cases stepped with
  | quiet silent sameDirectory sameStale keeps sameTemplates =>
      refine ⟨?_, ?_, ?_⟩
      · rw [sameDirectory]
        exact coupled.onlyFiles
      · rw [keeps.haveApplied, keeps.last]
        exact coupled.applied
      · intro isSome
        rw [keeps.last] at isSome
        obtain ⟨s, outputs, last, rendered, managed, holds⟩ :=
          coupled.mirrors isSome
        have templates : next.templates = files.templates := by
          rcases sameTemplates with same | none
          · exact same
          · rw [last] at none
            cases none
        refine ⟨s, outputs, keeps.last.trans last, ?_, managed, ?_⟩
        · rw [templates, sameStale]
          exact rendered
        · rw [sameDirectory]
          exact holds
  | failed writes runs keeps =>
      exact absurd ⟨_, _, _, _, _, writes, runs⟩ succeeds
  | wrote writes runs sameTemplates describes accepts =>
      have applied := runs.applied
      refine ⟨?_, ?_, ?_⟩
      · exact Apply.CrashSafe.onlyFiles (.settled applied.settled)
          coupled.onlyFiles
      · rcases accepts with ⟨keeps, -⟩ | accepted
        · rw [keeps.haveApplied, keeps.last]
          exact coupled.applied
        · obtain ⟨s, now, choices, check, -, same⟩ := accepted
          intro _
          rw [same]
          rfl
      · intro isSome
        obtain ⟨s, last⟩ := Option.isSome_iff_exists.mp isSome
        obtain ⟨now, data⟩ := describes
        simp only [Agent.lastData, last] at data
        obtain ⟨-, rendered⟩ := writes
        subst sameTemplates data
        exact ⟨s, _, last, rendered,
          fun out => renderAll_managed rendered,
          applied.holdsExactly (renderAll_distinct rendered)
            coupled.onlyFiles⟩

/-- Once the stale flag is set, every write but that of an applied snapshot
renders with it. -/
theorem stale_of_writes {event : FileEvent} {templates : Templates}
    {data : Render.Data} (stale : files.agent.stale = true)
    (stepped : files.step config event = some next)
    (succeeds : ¬ files.FailsOnDisk config event)
    (writes : files.Writes config event templates data outputs) :
    data.stale = true ∨ files.Accepts event next := by
  cases AgentFiles.step_cases stepped with
  | quiet silent => exact absurd writes (silent templates data outputs)
  | failed writes runs =>
      exact absurd ⟨_, _, _, _, _, writes, runs⟩ succeeds
  | wrote others _ _ describes accepts =>
      obtain ⟨-, rfl⟩ := others.1.unique writes.1
      rcases accepts with ⟨-, stays⟩ | accepted
      · left
        rw [describes.stale]
        exact stays stale
      · exact .inr accepted

theorem coupled_of_start {version : String} {maxOffline : Nat}
    {createdAt : Timestamp} (only : OnlyFiles config before)
    (started : AgentFiles.start config
      (Agent.create version maxOffline createdAt) entries checkedAt now
      choices before = some files) : Coupled config files := by
  obtain ⟨leaves, templates, agent⟩ := start_leaves started
  have none : files.agent.last = none := by
    rw [agent]
    rfl
  refine ⟨leaves.onlyFiles only, ?_, ?_⟩
  · intro applied
    rw [agent] at applied
    cases applied
  · intro isSome
    rw [none] at isSome
    cases isSome

/-- Once a snapshot has been applied the files mirror the memory of the agent,
in a directory in which nothing but regular files carries a managed name. -/
theorem files_mirror_memory (config : FilesConfig) (version : String)
    (maxOffline : Nat) (createdAt : Timestamp)
    (entries : Except String (List TemplateFile)) (checkedAt now : Timestamp)
    (choices : List Choice) (directory : Directory)
    (onlyFiles : ∀ name, config.isManaged name = true →
      directory.lookup name ≠ some .other)
    (first files : AgentFiles)
    (started : AgentFiles.start config
      (Agent.create version maxOffline createdAt) entries checkedAt now
      choices directory = some first)
    (run : Relation.ReflTransGen (Undisturbed config) first files) :
    (files.agent.haveApplied = true → MirrorsMemory config files) ∧
      (files.agent.stale = true →
        ∀ event next templates data outputs,
          files.step config event = some next →
          ¬ files.FailsOnDisk config event →
          files.Writes config event templates data outputs →
          data.stale = true ∨ files.Accepts event next) := by
  have coupled : Coupled config files := by
    induction run with
    | refl => exact coupled_of_start onlyFiles started
    | tail _ undisturbed induction => exact induction.step undisturbed
  constructor
  · intro applied
    exact coupled.mirrors (coupled.applied applied)
  · intro stale event next templates data outputs stepped succeeds writes
    exact stale_of_writes stale stepped succeeds writes

/-! ## A link in the directory -/

def bytesOf (text : String) : Content :=
  text.toList.map fun c => c.toNat.toUInt8

/-- A document of one key, and templates that render their own source. -/
def exampleLibraries : Libraries where
  yaml content := if content = bytesOf "a: 1\n" then .ok 1 else .ok 0
  toml _ := .error "expected a key"
  sha256 content :=
    if content = bytesOf "a: 1\n" then
      "37b128c59f1f5097f73f82691cb519f1f568667faab5ced1b4ab979d36837eae"
    else ""
  quote text := "\"" ++ text ++ "\""
  parse _ _ := .ok ()
  execute source _ := .ok (bytesOf source)

def exampleFilesConfig : FilesConfig where
  libraries := exampleLibraries
  templatesDir := "/templates"
  filePrefix := ⟨"fluxip-".toList, by decide, by decide, by decide, by decide⟩

def exampleTemplate : Template where
  file := ⟨"a.yml.tmpl".toList, by decide⟩
  outputName := ⟨"a.yml".toList, by decide⟩
  sum := "37b128c59f1f5097f73f82691cb519f1f568667faab5ced1b4ab979d36837eae"
  expect := []
  source := "a: 1\n"

def exampleEntries : List TemplateFile :=
  [⟨exampleTemplate.file, false, .ok exampleTemplate.source⟩]

def exampleOutput : Output where
  name := ⟨"fluxip-a.yml".toList, by decide⟩
  content := bytesOf "a: 1\n"

def exampleDirectory (entry : Entry) : Directory :=
  (∅ : Directory).insert exampleOutput.name entry

/-- The agent starts in a directory in which `fluxip-a.yml` is this entry. -/
def exampleStart (entry : Entry) (choices : List Choice) : Option AgentFiles :=
  AgentFiles.start exampleFilesConfig (Agent.create "1" 60 0)
    (.ok exampleEntries) 0 0 choices (exampleDirectory entry)

def exampleStarted (entry : Entry) (choices : List Choice) : AgentFiles :=
  (exampleStart entry choices).getD
    ⟨Agent.create "1" 60 0, .empty, exampleDirectory entry⟩

def exampleSnapshot : SnapshotPayload where
  providerName := "edge"
  groups := []
  version := 1
  correlationId := 7
  generatedAt := 0

/-- What is read under `fluxip-a.yml` is what the template renders. -/
def exampleEvent : FileEvent :=
  .snapshot exampleSnapshot 1 [.succeeds exampleOutput.content, .succeeds []]
    none

/-- The state after an event, if there is one. -/
def exampleAfter (files : AgentFiles) (event : FileEvent) : AgentFiles :=
  (files.step exampleFilesConfig event).getD files

theorem exampleStarted_eq {entry : Entry} {choices : List Choice}
    (starts : (exampleStart entry choices).isSome = true) :
    exampleStart entry choices = some (exampleStarted entry choices) := by
  obtain ⟨files, started⟩ := Option.isSome_iff_exists.mp starts
  rw [exampleStarted, started]
  rfl

theorem exampleAfter_eq {files : AgentFiles} {event : FileEvent}
    (steps : (files.step exampleFilesConfig event).isSome = true) :
    files.step exampleFilesConfig event = some (exampleAfter files event) := by
  obtain ⟨next, stepped⟩ := Option.isSome_iff_exists.mp steps
  rw [exampleAfter, stepped]
  rfl

/-- No file operation fails once the template is rendered again. -/
theorem exampleEvent_succeeds {files : AgentFiles}
    (templates : files.templates.list = [exampleTemplate])
    (returns : ((Apply.apply exampleLibraries
      exampleFilesConfig.filePrefix.chars [exampleOutput]).run operate
        exampleEvent.choices files.directory).1 =
      .returned ⟨Apply.fileSums exampleLibraries [exampleOutput], [], []⟩) :
    ¬ files.FailsOnDisk exampleFilesConfig exampleEvent := by
  intro fails
  obtain ⟨others, data, outputs, err, directory, writes, runs⟩ := fails
  obtain ⟨renders, rendered⟩ := writes
  cases renders with
  | snapshot isNew =>
      have same : renderAll exampleLibraries exampleFilesConfig.filePrefix
          [exampleTemplate] (Agent.dataFrom exampleSnapshot false) =
            .ok [exampleOutput] := by decide +kernel
      rw [templates] at rendered
      cases same.symm.trans rendered
      have threw := congrArg Prod.fst runs
      cases returns.symm.trans threw

/-- The start in a directory with a link: it is read through once. -/
def linkedStart : AgentFiles :=
  exampleStarted .other [.succeeds [], .succeeds [],
    .succeeds exampleOutput.content, .succeeds []]

/-- A link under the name of an output, through which the same content is read,
is taken for the file. -/
theorem link_taken_for_the_file :
    ∃ choices first files,
      AgentFiles.start exampleFilesConfig (Agent.create "1" 60 0)
        (.ok exampleEntries) 0 0 choices (exampleDirectory .other) =
          some first ∧
      Relation.ReflTransGen (Undisturbed exampleFilesConfig) first files ∧
      files.agent.haveApplied = true ∧
      ¬ MirrorsMemory exampleFilesConfig files := by
  refine ⟨_, linkedStart, exampleAfter linkedStart exampleEvent,
    exampleStarted_eq (by decide +kernel),
    .single ⟨exampleEvent, exampleAfter_eq (by decide +kernel),
      exampleEvent_succeeds (by decide +kernel) (by decide +kernel)⟩,
    by decide +kernel, ?_⟩
  intro mirrors
  obtain ⟨s, outputs, -, -, -, holds⟩ := mirrors
  have link := holds exampleOutput.name (by decide +kernel)
  have isLink : (exampleAfter linkedStart exampleEvent).directory.lookup
      exampleOutput.name = some .other := by decide +kernel
  rw [isLink] at link
  obtain ⟨out, -, impossible⟩ := Option.map_eq_some_iff.mp link.symm
  cases impossible

/-- The start in a directory in which the file is there already. -/
def keptStart : AgentFiles :=
  exampleStarted (.regular exampleOutput.content) [.succeeds [], .succeeds []]

theorem exampleDirectory_onlyFiles (content : Content) (name : FileName) :
    (exampleDirectory (.regular content)).lookup name ≠ some .other := by
  intro found
  by_cases own : name = exampleOutput.name
  · subst own
    rw [exampleDirectory, AList.lookup_insert] at found
    cases found
  · rw [exampleDirectory, AList.lookup_insert_ne own] at found
    cases found

theorem files_mirror_memory_once :
    MirrorsMemory exampleFilesConfig (exampleAfter keptStart exampleEvent) := by
  have only : ∀ name, exampleFilesConfig.isManaged name = true →
      (exampleDirectory (.regular exampleOutput.content)).lookup name ≠
        some .other :=
    fun name _ => exampleDirectory_onlyFiles _ name
  have run : Relation.ReflTransGen (Undisturbed exampleFilesConfig) keptStart
      (exampleAfter keptStart exampleEvent) :=
    .single ⟨exampleEvent, exampleAfter_eq (by decide +kernel),
      exampleEvent_succeeds (by decide +kernel) (by decide +kernel)⟩
  exact (files_mirror_memory exampleFilesConfig "1" 60 0 (.ok exampleEntries)
    0 0 [.succeeds [], .succeeds []]
    (exampleDirectory (.regular exampleOutput.content)) only keptStart _
    (exampleStarted_eq (by decide +kernel)) run).1 (by decide +kernel)

/-! ## Before the first snapshot -/

/-- An event before there is data: no snapshot is applied, and the maximum
offline duration has not passed. -/
def BeforeData (config : FilesConfig) (files : AgentFiles) (event : FileEvent)
    (next : AgentFiles) : Prop :=
  files.step config event = some next ∧ next.agent.haveApplied = false ∧
    ∀ now choices, event = .tick now choices →
      files.agent.isOverdue now = false

/-- If the event comes to writing files, what it renders contains every managed
file with the content it has. -/
def RendersWhatIsThere (config : FilesConfig) (files : AgentFiles)
    (event : FileEvent) : Prop :=
  ∀ templates data outputs, files.Writes config event templates data outputs →
    ∀ name content, config.isManaged name = true →
      files.directory.lookup name = some (.regular content) →
      ⟨name, content⟩ ∈ outputs

/-- A managed file stays as it is if its content is that of its output. -/
theorem Apply.Fate.same {name : FileName} {content : Content}
    {entry : Option Entry}
    (distinct : (outputs.map (·.name)).Nodup)
    (member : ⟨name, content⟩ ∈ outputs)
    (found : before.lookup name = some (.regular content))
    (fate : Apply.Fate config.libraries config.filePrefix.chars outputs before
      name entry) : entry = some (.regular content) := by
  cases fate with
  | kept => exact found
  | @replaced out listed own =>
      have same : out = ⟨name, content⟩ :=
        List.inj_on_of_nodup_map distinct listed member own
      rw [same]
  | removed _ unwanted =>
      exact absurd (List.mem_map.mpr ⟨_, member, rfl⟩) unwanted

theorem keeps_of_rendersWhatIsThere {event : FileEvent} {name : FileName}
    {content : Content}
    (stepped : files.step config event = some next)
    (same : RendersWhatIsThere config files event)
    (managed : config.isManaged name = true)
    (found : files.directory.lookup name = some (.regular content)) :
    next.directory.lookup name = some (.regular content) := by
  cases AgentFiles.step_cases stepped with
  | quiet _ sameDirectory =>
      rw [sameDirectory]
      exact found
  | failed writes runs =>
      apply (runs.crashSafe.fate managed).same (renderAll_distinct writes.2)
      · exact same _ _ _ writes name content managed found
      · exact found
  | wrote writes runs =>
      apply (runs.applied.settled name).same (renderAll_distinct writes.2)
      · exact same _ _ _ writes name content managed found
      · exact found

/-- Every managed file that is there when the agent starts is kept, as long as
each reload and each failing snapshot either writes nothing or renders what is
there. -/
theorem existing_files_survive (config : FilesConfig) (version : String)
    (maxOffline : Nat) (createdAt : Timestamp)
    (entries : Except String (List TemplateFile)) (checkedAt now : Timestamp)
    (choices : List Choice) (directory : Directory) (first files : AgentFiles)
    (started : AgentFiles.start config
      (Agent.create version maxOffline createdAt) entries checkedAt now
      choices directory = some first)
    (run : Relation.ReflTransGen
      (fun before after => ∃ event, BeforeData config before event after ∧
        RendersWhatIsThere config before event) first files) :
    ∀ name content, config.isManaged name = true →
      directory.lookup name = some (.regular content) →
      files.directory.lookup name = some (.regular content) := by
  intro name content managed found
  induction run with
  | refl =>
      have listed : name ∈ Apply.managedFiles config.filePrefix.chars
          directory.list :=
        Apply.mem_managedFiles.mpr ⟨managed, content, found⟩
      have keeps := (start_leaves started).1.keeps (List.ne_nil_of_mem listed)
      rw [keeps name managed]
      exact found
  | tail _ steps induction =>
      obtain ⟨event, before, same⟩ := steps
      exact keeps_of_rendersWhatIsThere before.1 same managed induction

/-- An older file is there when the agent starts. -/
def olderStart : AgentFiles :=
  exampleStarted (.regular (bytesOf "b: 2\n")) [.succeeds [], .succeeds []]

/-- The templates are loaded again, unchanged. -/
def exampleReload : FileEvent :=
  .reload (.ok exampleEntries) 1 1
    [.succeeds [], .succeeds [1, 2, 3, 4, 5, 6], .succeeds [], .succeeds [],
      .succeeds [], .succeeds [], .succeeds [], .succeeds [], .succeeds []]

/-- A reload renders the templates with empty groups over the files the start
has kept. -/
theorem reload_overwrites_existing_files :
    ∃ choices first files,
      AgentFiles.start exampleFilesConfig (Agent.create "1" 60 0)
        (.ok exampleEntries) 0 0 choices
        (exampleDirectory (.regular (bytesOf "b: 2\n"))) = some first ∧
      BeforeData exampleFilesConfig first exampleReload files ∧
      ∃ name content, exampleFilesConfig.isManaged name = true ∧
        (exampleDirectory (.regular (bytesOf "b: 2\n"))).lookup name =
          some (.regular content) ∧
        files.directory.lookup name ≠ some (.regular content) := by
  refine ⟨_, olderStart, exampleAfter olderStart exampleReload,
    exampleStarted_eq (by decide +kernel),
    ⟨exampleAfter_eq (by decide +kernel), by decide +kernel, ?_⟩,
    exampleOutput.name, bytesOf "b: 2\n", by decide +kernel,
    by decide +kernel, by decide +kernel⟩
  intro now choices isTick
  cases isTick

theorem existing_files_survive_while_connected :
    (exampleAfter olderStart .connected).directory.lookup exampleOutput.name =
      some (.regular (bytesOf "b: 2\n")) := by
  have run : Relation.ReflTransGen
      (fun before after => ∃ event,
        BeforeData exampleFilesConfig before event after ∧
          RendersWhatIsThere exampleFilesConfig before event) olderStart
      (exampleAfter olderStart .connected) := by
    apply Relation.ReflTransGen.single
    refine ⟨.connected, ⟨exampleAfter_eq (by decide +kernel),
      by decide +kernel, ?_⟩, ?_⟩
    · intro now choices isTick
      cases isTick
    · intro templates data outputs writes
      cases writes.1
  exact existing_files_survive exampleFilesConfig "1" 60 0 (.ok exampleEntries)
    0 0 [.succeeds [], .succeeds []]
    (exampleDirectory (.regular (bytesOf "b: 2\n"))) olderStart _
    (exampleStarted_eq (by decide +kernel)) run exampleOutput.name
    (bytesOf "b: 2\n") (by decide +kernel) (by decide +kernel)

end FluxIP
