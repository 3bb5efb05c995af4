import FluxIP.Agent.Render
import FluxIP.Files.Directory

/-!
# Writing the rendered files

`Apply` validates rendered files and replaces them atomically, touching only
files with the agent's prefix.
-/

namespace FluxIP

open Async Files

/-- What the agent uses of the packages it links: `yaml` and `toml` give the
number of keys of the decoded document, `sha256` the sum in hexadecimal digits,
`quote` a quoted text, `parse` the error in a template's source, if any, and
`execute` what a template writes for its data. -/
structure Libraries where
  yaml : Content → Except String Nat
  toml : Content → Except String Nat
  sha256 : Content → String
  quote : String → String
  parse : (file source : String) → Except String Unit
  execute : (source : String) → Render.Data → Except String Content

/-- One rendered file.  `name` is the final file name including the prefix. -/
structure Output where
  name : FileName
  content : Content
  deriving DecidableEq

/-- What `Apply` did. -/
structure ApplyDone where
  files : List FileChecksum
  written : List FileName
  removed : List FileName
  deriving DecidableEq

namespace Apply

/-- `filepath.Ext` -/
def ext (name : List Char) : List Char :=
  if '.' ∈ name then '.' :: (name.reverse.takeWhile (· ≠ '.')).reverse else []

def isYaml (name : FileName) : Bool :=
  ext name.chars = ".yml".toList || ext name.chars = ".yaml".toList

def isToml (name : FileName) : Bool :=
  ext name.chars = ".toml".toList

def managedExt (name : FileName) : Bool :=
  isYaml name || isToml name

def asText (name : FileName) : String := String.ofList name.chars

/-- `fmt.Errorf("%s: %w", name, err)` -/
def within (name : FileName) (err : FileErr) : FileErr :=
  { err with text := asText name ++ ": " ++ err.text }

/-- An empty document is rejected on purpose: Traefik must never see an empty
allow-list file. -/
def notEmpty (keys : Nat) : Except String Unit :=
  if keys = 0 then .error "rendered document is empty" else .ok ()

/-- Content is a non-empty YAML or TOML document according to the file
extension. -/
def validate (libraries : Libraries) (name : FileName) (content : Content) :
    Except FileErr Unit :=
  let document : Except String Unit :=
    if isYaml name then
      match libraries.yaml content with
      | .error err => .error ("invalid YAML: " ++ err)
      | .ok keys => notEmpty keys
    else if isToml name then
      match libraries.toml content with
      | .error err => .error ("invalid TOML: " ++ err)
      | .ok keys => notEmpty keys
    else .error "unsupported file type"
  document.mapError fun text => within name ⟨text, false⟩

def hasPrefix (filePrefix : List Char) (name : FileName) : Bool :=
  filePrefix.isPrefixOf name.chars

/-- The names of the agent: its prefix and a managed extension. -/
def isManaged (filePrefix : List Char) (name : FileName) : Bool :=
  hasPrefix filePrefix name && managedExt name

/-- The names of the files an interrupted write leaves behind. -/
def isTemp (filePrefix : List Char) (name : FileName) : Bool :=
  ('.' :: filePrefix).isPrefixOf name.chars &&
    ".tmp".toList.isSuffixOf name.chars

/-- The files in the directory that belong to the agent. -/
def managedFiles (filePrefix : List Char) (entries : List DirEntry) :
    List FileName :=
  (((entries.filter (·.isRegular)).map (·.name)).filter
    (isManaged filePrefix)).insertionSort
      fun first second => first.chars ≤ second.chars

/-- Everything else in the directory is never read, changed or deleted. -/
def managed (filePrefix : List Char) : FileProgram (List FileName) :=
  (operation .readDir).bind fun entries =>
    .done (managedFiles filePrefix entries)

/-- `os.Remove(path)`, where it is fine that the file is already gone. -/
def removeIfThere (name : FileName) : FileProgram Unit :=
  (operation (.remove name)).tryCatch fun err =>
    if err.notExist then .done () else .fail err

/-- Leftovers of an interrupted write are removed, and nothing else. -/
def cleanupTempOf (filePrefix : List Char) : List DirEntry → FileProgram Unit
  | [] => .done ()
  | entry :: entries =>
      (if entry.isRegular && isTemp filePrefix entry.name then
        removeIfThere entry.name
      else .done ()).bind fun _ => cleanupTempOf filePrefix entries

def cleanupTemp (filePrefix : List Char) : FileProgram Unit :=
  (operation .readDir).bind fun entries =>
    cleanupTempOf filePrefix entries

/-! ## Replacing one file -/

def hexDigit (digit : Nat) : Char :=
  if digit < 10 then Char.ofNat (48 + digit) else Char.ofNat (87 + digit)

/-- `hex.EncodeToString` -/
def encodeToString (bytes : Content) : List Char :=
  bytes.flatMap fun byte =>
    [hexDigit (byte.toNat / 16), hexDigit (byte.toNat % 16)]

theorem hexDigit_ne {digit : Nat} (small : digit < 16) :
    hexDigit digit ≠ '/' := by
  revert digit
  decide

theorem encodeToString_noSeparator (bytes : Content) :
    '/' ∉ encodeToString bytes := by
  intro member
  obtain ⟨byte, -, digit⟩ := List.mem_flatMap.mp member
  have high : byte.toNat / 16 < 16 :=
    Nat.div_lt_of_lt_mul byte.toNat_lt
  have low : byte.toNat % 16 < 16 := Nat.mod_lt _ (by decide)
  rcases List.mem_pair.mp digit with isHigh | isLow
  · exact hexDigit_ne high isHigh.symm
  · exact hexDigit_ne low isLow.symm

/-- `"." + name + "." + hex.EncodeToString(rnd[:]) + ".tmp"` -/
def tempName (name : FileName) (rnd : Content) : FileName where
  chars := '.' :: (name.chars ++ '.' :: (encodeToString rnd ++ ".tmp".toList))
  noSeparator := by
    have inName := name.noSeparator
    have inRandom := encodeToString_noSeparator rnd
    simp [inName, inRandom]

/-- Write to `tmp` next to the target, sync, then rename; `cleanup` after an
error. -/
def writeAtomic (name : FileName) (content : Content) : FileProgram Unit :=
  (operation (.random 6)).bind fun rnd =>
    let tmp := tempName name rnd
    let cleanup : FileProgram Unit :=
      (operation (.remove tmp)).attempt.bind
        fun _ => .done ()
    let closeAndCleanup : FileProgram Unit :=
      (operation (.close tmp)).attempt.bind
        fun _ => cleanup
    (operation (.create tmp)).bind fun _ =>
      ((operation (.write tmp content)).tryCatch
          fun err => closeAndCleanup.bind fun _ => .fail err).bind fun _ =>
      ((operation (.sync tmp)).tryCatch
          fun err => closeAndCleanup.bind fun _ => .fail err).bind fun _ =>
      ((operation (.close tmp)).tryCatch
          fun err => cleanup.bind fun _ => .fail err).bind fun _ =>
      (operation (.rename tmp name)).tryCatch
          fun err => cleanup.bind fun _ => .fail err

/-! ## Applying the outputs -/

/-- Every output has the prefix and is valid. -/
def checkOutputs (libraries : Libraries) (filePrefix : List Char) :
    List Output → Except FileErr Unit
  | [] => .ok ()
  | out :: outputs =>
      if hasPrefix filePrefix out.name then
        (validate libraries out.name out.content).bind fun _ =>
          checkOutputs libraries filePrefix outputs
      else
        .error ⟨asText out.name ++ ": output name lacks the prefix " ++
          libraries.quote (String.ofList filePrefix), false⟩

def fileSums (libraries : Libraries) (outputs : List Output) :
    List FileChecksum :=
  outputs.map fun out => ⟨asText out.name, libraries.sha256 out.content⟩

/-- Each file is replaced only if its content changed. -/
def writeOutputs : List Output → FileProgram (List FileName)
  | [] => .done []
  | out :: outputs =>
      (operation (.readFile out.name)).attempt.bind
        fun existing =>
          if existing = .ok out.content then writeOutputs outputs
          else
            ((writeAtomic out.name out.content).tryCatch fun err =>
              .fail (within out.name err)).bind fun _ =>
            (writeOutputs outputs).bind fun written =>
              .done (out.name :: written)

/-- Managed files without an output are removed. -/
def removeUnwanted (outputs : List Output) :
    List FileName → FileProgram (List FileName)
  | [] => .done []
  | name :: names =>
      if name ∈ outputs.map (·.name) then removeUnwanted outputs names
      else
        ((removeIfThere name).tryCatch fun err =>
          .fail (within name err)).bind fun _ =>
        (removeUnwanted outputs names).bind fun removed =>
          .done (name :: removed)

/-- Every output is validated first and nothing is written if any is invalid.
Then each file is replaced atomically; managed files without an output are
removed at the end. -/
def apply (libraries : Libraries) (filePrefix : List Char)
    (outputs : List Output) : FileProgram ApplyDone :=
  if filePrefix = [] then .fail ⟨"file prefix must not be empty", false⟩
  else
    (Program.ofExcept (checkOutputs libraries filePrefix outputs)).bind
      fun _ =>
    (writeOutputs outputs).bind fun written =>
    (managed filePrefix).bind fun names =>
    (removeUnwanted outputs names).bind fun removed =>
    (Program.onlyIf (written ≠ [] || removed ≠ [])
      (operation .syncDir)).bind fun _ =>
    .done ⟨fileSums libraries outputs, written, removed⟩

end Apply

end FluxIP
