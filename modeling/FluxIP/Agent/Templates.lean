import FluxIP.Agent.Agent
import FluxIP.Agent.Apply

/-!
# Templates

Local template files are turned, with a snapshot, into the contents of
configuration files.
-/

namespace FluxIP

open Files

/-- The prefix of the managed files, as the configuration admits it. -/
structure FilePrefix where
  chars : List Char
  notEmpty : chars ≠ []
  noDot : chars.head? ≠ some '.'
  noSeparator : '/' ∉ chars
  noBackslash : '\\' ∉ chars

/-- The checks of `checkCommon` on the prefix. -/
def FilePrefix.check (libraries : Libraries) (text : String) :
    Except String FilePrefix :=
  if notEmpty : text.toList = [] then
    .error ("FLUXIP_FILE_PREFIX must not be empty: the agent only manages " ++
      "files with this prefix")
  else if allowed : text.toList.head? ≠ some '.' ∧ '/' ∉ text.toList ∧
      '\\' ∉ text.toList then
    .ok ⟨text.toList, notEmpty, allowed.1, allowed.2.1, allowed.2.2⟩
  else
    .error ("FLUXIP_FILE_PREFIX " ++ libraries.quote text ++
      " must not start with a dot or contain path separators")

/-- The final file name of an output. -/
def FilePrefix.name (filePrefix : FilePrefix) (outputName : FileName) :
    FileName where
  chars := filePrefix.chars ++ outputName.chars
  noSeparator := by
    have inPrefix := filePrefix.noSeparator
    have inName := outputName.noSeparator
    simp [inPrefix, inName]

/-- One loaded template file.  `outputName` is the output file name without
prefix, `source` what the parsed template is executed from. -/
structure Template where
  file : FileName
  outputName : FileName
  sum : String
  expect : List String
  source : String
  deriving DecidableEq

namespace Template

open Apply (asText ext isYaml isToml managedExt validate within)

def summary (template : Template) : AgentTemplate where
  sum := ⟨asText template.file, template.sum⟩
  expect := template.expect

/-- `unicode.IsSpace` -/
def isSpace (c : Char) : Bool :=
  c.toNat ∈ [0x09, 0x0A, 0x0B, 0x0C, 0x0D, 0x20, 0x85, 0xA0, 0x1680, 0x2028,
    0x2029, 0x202F, 0x205F, 0x3000] ∨
  0x2000 ≤ c.toNat ∧ c.toNat ≤ 0x200A

/-- `strings.Fields` -/
def fields (line : List Char) : List String :=
  ((line.splitOnP isSpace).filter (· ≠ [])).map String.ofList

/-- The objects named by `# fluxip:expect` lines. -/
def parseExpect (source : String) : List String :=
  (source.toList.splitOn '\n').filterMap fun line =>
    match fields line with
    | ["#", "fluxip:expect", type, object] => some (type ++ ":" ++ object)
    | _ => none

def suffix : List Char := ".tmpl".toList

/-- The file name without the suffix of templates. -/
def outputOf (file : FileName) : FileName where
  chars := file.chars.take (file.chars.length - suffix.length)
  noSeparator := fun member => file.noSeparator (List.mem_of_mem_take member)

/-- A template is built from its file name and source. -/
def parse (libraries : Libraries) (file : FileName) (source : String) :
    Except String Template :=
  let label := "template " ++ libraries.quote (asText file) ++ ": "
  let out := outputOf file
  if !suffix.isSuffixOf file.chars then
    .error (label ++ "file name must end in .tmpl")
  else if !managedExt out || out.chars.length = (ext out.chars).length then
    .error (label ++
      "output must be <name>.yml, <name>.yaml or <name>.toml")
  else
    match libraries.parse (asText file) source with
    | .error err => .error (label ++ err)
    | .ok () => .ok {
        file
        outputName := out
        sum := libraries.sha256 source.toUTF8.toList
        expect := parseExpect source
        source }

/-- What a template writes for its data. -/
def render (libraries : Libraries) (template : Template) (data : Render.Data) :
    Except FileErr Content :=
  (libraries.execute template.source data).mapError fun err =>
    ⟨"template " ++ libraries.quote (asText template.file) ++ ": " ++ err,
      false⟩

end Template

/-- An entry of the templates directory: `source` is what reading it gives. -/
structure TemplateFile where
  name : FileName
  isDir : Bool
  source : Except String String

/-- The active templates: no two of them have the same output. -/
structure Templates where
  list : List Template
  distinct : (list.map (·.outputName)).Nodup
  deriving DecidableEq

namespace Templates

open Apply (asText)

def empty : Templates where
  list := []
  distinct := List.nodup_nil

def summaries (templates : Templates) : List AgentTemplate :=
  templates.list.map (·.summary)

/-- Two templates must not produce the same output. -/
def add (libraries : Libraries) (templates : Templates) (template : Template) :
    Except String Templates :=
  match found : templates.list.find?
      (·.outputName = template.outputName) with
  | some other =>
      .error ("templates " ++ libraries.quote (asText other.file) ++ " and " ++
        libraries.quote (asText template.file) ++
        " produce the same output " ++
        libraries.quote (asText template.outputName))
  | none => .ok {
      list := template :: templates.list
      distinct := by
        apply List.nodup_cons.mpr
        refine ⟨?_, templates.distinct⟩
        intro member
        obtain ⟨other, listed, same⟩ := List.mem_map.mp member
        have differs := List.find?_eq_none.mp found other listed
        simp [same] at differs }

def sorted (templates : Templates) : Templates where
  list := templates.list.insertionSort
    fun first second => first.file.chars ≤ second.file.chars
  distinct := by
    have permuted := (List.perm_insertionSort
      (fun first second : Template => first.file.chars ≤ second.file.chars)
      templates.list).map (·.outputName)
    exact permuted.nodup_iff.mpr templates.distinct

/-- The loop of `LoadDir`. -/
def loadEntries (libraries : Libraries) :
    List TemplateFile → Templates → Except String Templates
  | [], templates => .ok templates
  | entry :: entries, templates =>
      if entry.isDir || !Template.suffix.isSuffixOf entry.name.chars then
        loadEntries libraries entries templates
      else
        match entry.source with
        | .error err =>
            .error ("template " ++ libraries.quote (asText entry.name) ++
              ": " ++ err)
        | .ok source =>
            match Template.parse libraries entry.name source with
            | .error err => .error err
            | .ok template =>
                match templates.add libraries template with
                | .error err => .error err
                | .ok templates => loadEntries libraries entries templates

/-- Every template file of the directory, sorted by name.  A directory without
templates is an error. -/
def loadDir (libraries : Libraries) (dir : String)
    (entries : Except String (List TemplateFile)) : Except String Templates :=
  match entries with
  | .error err => .error ("templates directory: " ++ err)
  | .ok entries =>
      match loadEntries libraries entries .empty with
      | .error err => .error err
      | .ok templates =>
          if templates.list = [] then
            .error ("templates directory " ++ libraries.quote dir ++
              " contains no *.tmpl files")
          else .ok templates.sorted

end Templates

/-- Every template is rendered and validated. -/
def renderAll (libraries : Libraries) (filePrefix : FilePrefix) :
    List Template → Render.Data → Except FileErr (List Output)
  | [], _ => .ok []
  | template :: templates, data =>
      match template.render libraries data with
      | .error err => .error err
      | .ok content =>
          let name := filePrefix.name template.outputName
          match Apply.validate libraries name content with
          | .error err =>
              .error { err with
                text := "template " ++
                  libraries.quote (Apply.asText template.file) ++ ": " ++
                  err.text }
          | .ok () =>
              (renderAll libraries filePrefix templates data).map
                fun outputs => ⟨name, content⟩ :: outputs

/-! ## What a rendering depends on -/

variable {libraries : Libraries} {filePrefix : FilePrefix}
variable {data : Render.Data} {template : Template}
variable {templates : List Template} {outputs : List Output}

/-- The template renders to this output, which is valid. -/
structure Template.Produces (libraries : Libraries) (filePrefix : FilePrefix)
    (data : Render.Data) (template : Template) (out : Output) : Prop where
  name : out.name = filePrefix.name template.outputName
  rendered : template.render libraries data = .ok out.content
  valid : Apply.validate libraries out.name out.content = .ok ()

/-- The template fails to render, or what it renders is not valid. -/
inductive Template.Fails (libraries : Libraries) (filePrefix : FilePrefix)
    (data : Render.Data) (template : Template) : Prop where
  | unrendered {err : FileErr} :
      template.render libraries data = .error err →
      Fails libraries filePrefix data template
  | invalid {content : Content} {err : FileErr} :
      template.render libraries data = .ok content →
      Apply.validate libraries (filePrefix.name template.outputName) content =
        .error err →
      Fails libraries filePrefix data template

variable (libraries filePrefix data template) in
theorem Template.produces_or_fails :
    (∃ out, template.Produces libraries filePrefix data out) ∨
      template.Fails libraries filePrefix data := by
  cases rendered : template.render libraries data with
  | error err => exact .inr (.unrendered rendered)
  | ok content =>
      cases valid : Apply.validate libraries
          (filePrefix.name template.outputName) content with
      | error err => exact .inr (.invalid rendered valid)
      | ok value => exact .inl ⟨⟨_, content⟩, rfl, rendered, valid⟩

theorem renderAll_of_produces {out : Output}
    (produces : template.Produces libraries filePrefix data out) :
    renderAll libraries filePrefix (template :: templates) data =
      (renderAll libraries filePrefix templates data).map
        fun outputs => out :: outputs := by
  obtain ⟨name, content⟩ := out
  obtain ⟨rfl, rendered, valid⟩ := produces
  simp only [renderAll, rendered, valid]

theorem renderAll_of_fails
    (fails : template.Fails libraries filePrefix data) :
    ∃ err, renderAll libraries filePrefix (template :: templates) data =
      .error err := by
  cases fails with
  | unrendered rendered =>
      simp only [renderAll, rendered]
      exact ⟨_, rfl⟩
  | invalid rendered invalid =>
      simp only [renderAll, rendered, invalid]
      exact ⟨_, rfl⟩

/-- Every template renders to its own output. -/
theorem renderAll_ok
    (rendered : renderAll libraries filePrefix templates data = .ok outputs) :
    List.Forall₂ (Template.Produces libraries filePrefix data) templates
      outputs := by
  induction templates generalizing outputs with
  | nil =>
      cases rendered
      exact .nil
  | cons template templates induction =>
      rcases Template.produces_or_fails libraries filePrefix data template with
        produced | fails
      · obtain ⟨out, produces⟩ := produced
        rw [renderAll_of_produces produces] at rendered
        cases rest : renderAll libraries filePrefix templates data with
        | error err =>
            rw [rest] at rendered
            cases rendered
        | ok others =>
            rw [rest] at rendered
            cases rendered
            exact .cons produces (induction rest)
      · obtain ⟨err, failed⟩ := @renderAll_of_fails _ _ _ _ templates fails
        rw [failed] at rendered
        cases rendered

/-- Every output comes from one of the templates. -/
theorem template_of_output
    (all : List.Forall₂ (Template.Produces libraries filePrefix data)
      templates outputs) {out : Output} (member : out ∈ outputs) :
    ∃ template ∈ templates,
      template.Produces libraries filePrefix data out := by
  induction all with
  | nil => cases member
  | cons produces _ induction =>
      rcases List.mem_cons.mp member with here | later
      · subst here
        exact ⟨_, List.mem_cons_self, produces⟩
      · obtain ⟨other, listed, produced⟩ := induction later
        exact ⟨other, List.mem_cons_of_mem _ listed, produced⟩

/-- One template that fails is enough. -/
theorem renderAll_error (member : template ∈ templates)
    (fails : template.Fails libraries filePrefix data) :
    ∃ err, renderAll libraries filePrefix templates data = .error err := by
  induction templates with
  | nil => cases member
  | cons first templates induction =>
      rcases List.mem_cons.mp member with here | later
      · subst here
        exact renderAll_of_fails fails
      · rcases Template.produces_or_fails libraries filePrefix data first with
          produced | fails
        · obtain ⟨out, produces⟩ := produced
          obtain ⟨err, failed⟩ := induction later
          rw [renderAll_of_produces produces, failed]
          exact ⟨err, rfl⟩
        · exact renderAll_of_fails fails

end FluxIP
