import FluxIP.Async.Completion
import FluxIP.Guarantees.AgentFiles

/-!
# What `Apply` writes and removes

When `Apply` succeeds the managed files are those of the outputs, and its
result says which of them it has written and which files it has removed.  An
output is written again where its file cannot be read.
-/

namespace FluxIP.Apply

open Async Files

/-- Reading this file has failed. -/
def failedRead (name : FileName) : Answered fileSystem FileErr → Bool
  | ⟨.readFile other, .error _⟩ => decide (other = name)
  | _ => false

/-- The file of the output is absent, has different content, or could not be
read. -/
def isRewritten (directory : Directory) (history : History fileSystem FileErr)
    (out : Output) : Bool :=
  decide (directory.lookup out.name ≠ some (.regular out.content)) ||
    history.any (failedRead out.name)

/-! ## Reading -/

variable {libraries : Libraries} {filePrefix : List Char}
variable {outputs todo : List Output} {out : Output} {name : FileName}
variable {history later : History fileSystem FileErr}
variable {directory middle before after : Directory}

/-- Calls that do not read the file. -/
def Spares (name : FileName) (call : Operation) : Prop :=
  call ≠ .readFile name

theorem failedRead_of_spares {call : Operation}
    (spares : Spares name call) (answer : Except FileErr call.Answer) :
    failedRead name ⟨call, answer⟩ = false := by
  cases call with
  | readFile other =>
      cases answer with
      | ok value => rfl
      | error error =>
          have different : other ≠ name := by
            intro same
            subst same
            exact spares rfl
          simp [failedRead, different]
  | _ => rfl

theorem no_failedRead
    (spares : ∀ answered ∈ history, Spares name answered.call) :
    history.any (failedRead name) = false := by
  apply List.any_eq_false.mpr
  intro answered member
  rw [failedRead_of_spares (spares answered member) answered.answer]
  exact Bool.false_ne_true

theorem operation_spares {op : Operation} (spares : Spares name op) :
    (operation op).Calls (Spares name) :=
  (Program.calls_perform (S := fileSystem) op).mpr spares

theorem writeAtomic_spares {own : FileName} {content : Content} :
    (writeAtomic own content).Calls (Spares name) := by
  have cleans : ∀ tmp, ((operation (.remove tmp)).attempt.bind
      fun _ => .done ()).Calls (Spares name) :=
    fun tmp => (operation_spares (by nofun)).attempt.bind
      fun _ => Program.calls_done ()
  have closes : ∀ tmp, ((operation (.close tmp)).attempt.bind
      fun _ => (operation (.remove tmp)).attempt.bind
        fun _ => .done ()).Calls (Spares name) :=
    fun tmp => (operation_spares (by nofun)).attempt.bind
      fun _ => cleans tmp
  apply (operation_spares (by nofun)).bind
  intro rnd
  apply (operation_spares (by nofun)).bind
  intro _
  apply Program.Calls.bind
  · exact (operation_spares (by nofun)).tryCatch fun _ =>
      (closes _).bind fun _ => trivial
  intro _
  apply Program.Calls.bind
  · exact (operation_spares (by nofun)).tryCatch fun _ =>
      (closes _).bind fun _ => trivial
  intro _
  apply Program.Calls.bind
  · exact (operation_spares (by nofun)).tryCatch fun _ =>
      (cleans _).bind fun _ => trivial
  intro _
  exact (operation_spares (by nofun)).tryCatch fun _ =>
    (cleans _).bind fun _ => trivial

theorem replacing_spares {own : FileName} {content : Content} :
    ((writeAtomic own content).tryCatch fun err =>
      .fail (within own err)).Calls (Spares name) :=
  writeAtomic_spares.tryCatch fun _ => trivial

/-- Only the files of the outputs are read. -/
theorem writeOutputs_spares (fresh : name ∉ todo.map (·.name)) :
    (writeOutputs todo).Calls (Spares name) := by
  induction todo with
  | nil => trivial
  | cons out todo induction =>
      obtain ⟨different, later⟩ := not_or.mp
        (fun member => fresh (List.mem_cons.mpr member))
      simp only [writeOutputs]
      apply Program.Calls.bind
      · apply (operation_spares ?_).attempt
        intro same
        exact different (Operation.readFile.inj same).symm
      · intro existing
        split
        · exact induction later
        · apply replacing_spares.bind
          intro _
          exact (induction later).bind fun _ => trivial

theorem removeUnwanted_spares {names : List FileName} :
    (removeUnwanted outputs names).Calls (Spares name) := by
  induction names with
  | nil => trivial
  | cons first names induction =>
      simp only [removeUnwanted]
      split
      · exact induction
      · apply Program.Calls.bind
        · apply Program.Calls.tryCatch
          · apply (operation_spares (fun same => by cases same)).tryCatch
            intro err
            split
            · trivial
            · trivial
          · exact fun _ => trivial
        · exact fun _ => induction.bind fun _ => trivial

/-- What follows the writing reads no file. -/
theorem clearing_spares {files : List FileChecksum}
    {written : List FileName} :
    ((managed filePrefix).bind fun names =>
      (removeUnwanted outputs names).bind fun removed =>
      (Program.onlyIf (written ≠ [] || removed ≠ [])
        (operation .syncDir)).bind fun _ =>
      .done (ApplyDone.mk files written removed)).Calls (Spares name) := by
  apply Program.Calls.bind
  · exact (operation_spares (by nofun)).bind fun _ => trivial
  intro names
  apply removeUnwanted_spares.bind
  intro removed
  apply Program.Calls.bind
  · cases (written ≠ [] || removed ≠ [] : Bool) with
    | false => trivial
    | true => exact operation_spares (by nofun)
  · exact fun _ => trivial

/-- What reading a file says of it. -/
theorem operate_readFile {choice : Choice} {existing : Except FileErr Content}
    (read : operate (.readFile name) choice directory =
      some (existing, after)) :
    after = directory ∧
      ((∃ err, existing = .error err) ∨ ∃ entry bytes,
        directory.lookup name = some entry ∧
          existing = .ok (Operation.value directory bytes (.readFile name))) := by
  rcases operate_cases read with succeeded | failed
  · obtain ⟨bytes, accepted, isValue, isAfter⟩ := succeeded
    refine ⟨isAfter.trans (Operation.effect_of_looks rfl), .inr ?_⟩
    cases found : directory.lookup name with
    | none =>
        have missing : name ∉ directory := AList.lookup_eq_none.mp found
        simp [Operation.refusal, missing] at accepted
    | some entry => exact ⟨entry, bytes, rfl, isValue⟩
  · obtain ⟨err, rfl, fails⟩ := failed
    exact ⟨fails.of_looks rfl, .inl ⟨err, rfl⟩⟩

/-- An output is left out exactly if its content is read. -/
theorem isRewritten_cons {existing : Except FileErr Content} {choice : Choice}
    (onlyFile : directory.lookup out.name ≠ some .other)
    (read : operate (.readFile out.name) choice directory =
      some (existing, after))
    (fresh : history.any (failedRead out.name) = false) :
    isRewritten directory (⟨.readFile out.name, existing⟩ :: history) out =
      decide (existing ≠ .ok out.content) := by
  obtain ⟨-, failed | present⟩ := operate_readFile read
  · obtain ⟨err, rfl⟩ := failed
    simp [isRewritten, failedRead]
  · obtain ⟨entry, bytes, found, rfl⟩ := present
    cases entry with
    | other => exact absurd found onlyFile
    | regular content =>
        simp [isRewritten, failedRead, fresh, found, Operation.value]

/-! ## Writing -/

/-- What happens to other files does not matter. -/
theorem isRewritten_congr
    (sameFile : middle.lookup out.name = directory.lookup out.name)
    (sameReads : later.any (failedRead out.name) =
      history.any (failedRead out.name)) :
    isRewritten middle later out = isRewritten directory history out := by
  simp only [isRewritten, sameFile, sameReads]

theorem isRewritten_append
    (quiet : ∀ name, later.any (failedRead name) = false) :
    isRewritten directory (history ++ later) =
      isRewritten directory history := by
  funext out
  apply isRewritten_congr rfl
  rw [List.any_append, quiet, Bool.or_false]

theorem filter_isRewritten_congr
    (sameFiles : ∀ out ∈ todo,
      middle.lookup out.name = directory.lookup out.name)
    (sameReads : ∀ out ∈ todo, later.any (failedRead out.name) =
      history.any (failedRead out.name)) :
    todo.filter (isRewritten middle later) =
      todo.filter (isRewritten directory history) :=
  List.filter_congr fun out member =>
    isRewritten_congr (sameFiles out member) (sameReads out member)

theorem writeOutputs_written {written : List FileName}
    (distinct : (todo.map (·.name)).Nodup)
    (onlyFiles : ∀ out ∈ todo, directory.lookup out.name ≠ some .other)
    (completes : (writeOutputs todo).Completes operate history directory
      (.ok written) after) :
    written = (todo.filter (isRewritten directory history)).map (·.name) := by
  induction todo generalizing history directory written with
  | nil =>
      cases completes
      rfl
  | cons out todo induction =>
      obtain ⟨fresh, distinctLater⟩ := List.nodup_cons.mp distinct
      have onlyLater : ∀ other ∈ todo,
          directory.lookup other.name ≠ some .other :=
        fun other member => onlyFiles other (List.mem_cons_of_mem _ member)
      simp only [writeOutputs] at completes
      obtain ⟨earlier, later, existing, start, rfl, first, rest⟩ :=
        completes.seq
      obtain ⟨inner, same, performed⟩ := first.attempted
      cases same
      obtain ⟨rfl, choice, read⟩ := performed.performed
      obtain ⟨rfl, -⟩ := operate_readFile read
      have own := onlyFiles out List.mem_cons_self
      have others : ∀ other ∈ todo,
          Spares other.name (.readFile out.name) := by
        intro other member same
        have again : out.name = other.name := Operation.readFile.inj same
        exact fresh (List.mem_map.mpr ⟨other, member, again.symm⟩)
      split at rest
      · rename_i isSame
        have spared : later.any (failedRead out.name) = false :=
          no_failedRead (rest.calls (writeOutputs_spares fresh))
        have kept : isRewritten start
            ([⟨.readFile out.name, existing⟩] ++ later) out = false := by
          rw [List.singleton_append, isRewritten_cons own read spared]
          exact decide_eq_false (not_not.mpr isSame)
        rw [List.filter_cons_of_neg (ne_true_of_eq_false kept)]
        rw [induction distinctLater onlyLater rest]
        congr 1
        apply filter_isRewritten_congr
        · exact fun _ _ => rfl
        · intro other member
          simp [failedRead_of_spares (others other member) existing]
      · rename_i differs
        obtain ⟨replacing, ending, value, replaced, rfl, replaces, rest⟩ :=
          rest.seq
        obtain ⟨remaining, empty, names, last, rfl, writes, atEnd⟩ := rest.seq
        cases atEnd
        have isReplaced : Replaced start out.name out.content replaced :=
          replaces.returned.ends writeAtomic_survives
        have sparing : ∀ name, replacing.any (failedRead name) = false :=
          fun name => no_failedRead (replaces.calls replacing_spares)
        have spared : (replacing ++ (remaining ++ [])).any
            (failedRead out.name) = false := by
          simp [sparing, no_failedRead (writes.calls
            (writeOutputs_spares fresh))]
        have listed : isRewritten start ([⟨.readFile out.name, existing⟩] ++
            (replacing ++ (remaining ++ []))) out = true := by
          rw [List.singleton_append, isRewritten_cons own read spared]
          exact decide_eq_true differs
        have different : ∀ other ∈ todo, other.name ≠ out.name := by
          intro other member same
          exact others other member (by rw [same])
        have onlyThere : ∀ other ∈ todo,
            replaced.lookup other.name ≠ some .other := by
          intro other member
          rw [isReplaced.rest _ (different other member)]
          exact onlyLater other member
        rw [List.filter_cons_of_pos listed, List.map_cons]
        rw [induction distinctLater onlyThere writes]
        congr 2
        apply filter_isRewritten_congr
        · intro other member
          exact isReplaced.rest _ (different other member)
        · intro other member
          simp [failedRead_of_spares (others other member) existing, sparing]

/-! ## Removing -/

theorem removeUnwanted_removed {names removed : List FileName}
    (completes : (removeUnwanted outputs names).Completes operate history
      directory (.ok removed) after) :
    removed = names.filter (· ∉ outputs.map (·.name)) := by
  induction names generalizing history directory removed with
  | nil =>
      cases completes
      rfl
  | cons name names induction =>
      simp only [removeUnwanted] at completes
      split at completes
      · rename_i wanted
        rw [List.filter_cons_of_neg (by simpa using wanted)]
        exact induction completes
      · rename_i unwanted
        obtain ⟨earlier, later, value, middle, rfl, -, rest⟩ := completes.seq
        obtain ⟨removing, empty, others, last, rfl, removes, atEnd⟩ := rest.seq
        cases atEnd
        rw [List.filter_cons_of_pos (by simpa using unwanted)]
        rw [induction removes]

theorem managedFiles_nodup : (managedFiles filePrefix directory.list).Nodup := by
  unfold managedFiles
  apply (List.perm_insertionSort _ _).nodup_iff.mpr
  exact ((list_distinct.sublist
    (List.filter_sublist.map _)).filter _)

theorem managedFiles_sorted :
    (managedFiles filePrefix directory.list).Pairwise
      fun first second => first.chars ≤ second.chars := by
  have total : Std.Total fun first second : FileName =>
      first.chars ≤ second.chars :=
    ⟨fun first second => le_total first.chars second.chars⟩
  have transitive : IsTrans FileName fun first second =>
      first.chars ≤ second.chars :=
    ⟨fun _ _ _ => le_trans⟩
  exact List.pairwise_insertionSort _ _

/-- Files that are the same in two directories are listed alike. -/
theorem managedFiles_filter_congr {listed : FileName → Bool}
    (same : ∀ name, listed name = true →
      middle.lookup name = directory.lookup name) :
    (managedFiles filePrefix middle.list).filter listed =
      (managedFiles filePrefix directory.list).filter listed := by
  have permuted : List.Perm
      ((managedFiles filePrefix middle.list).filter listed)
      ((managedFiles filePrefix directory.list).filter listed) := by
    apply (List.perm_ext_iff_of_nodup (managedFiles_nodup.filter _)
      (managedFiles_nodup.filter _)).mpr
    intro name
    simp only [List.mem_filter, mem_managedFiles]
    constructor
    · intro found
      obtain ⟨isFile, isListed⟩ := found
      rw [same name isListed] at isFile
      exact ⟨isFile, isListed⟩
    · intro found
      obtain ⟨isFile, isListed⟩ := found
      rw [← same name isListed] at isFile
      exact ⟨isFile, isListed⟩
  refine permuted.eq_of_pairwise ?_ (managedFiles_sorted.filter _)
    (managedFiles_sorted.filter _)
  intro first second _ _ before after
  obtain ⟨chars, noSeparator⟩ := first
  obtain ⟨others, noOther⟩ := second
  cases le_antisymm before after
  rfl

/-! ## Once more -/

/-- Every output is in its file. -/
def AllCarried (outputs : List Output) (directory : Directory) : Prop :=
  ∀ out ∈ outputs, directory.lookup out.name = some (.regular out.content)

/-- No file operation fails. -/
def AllSucceed (choices : List Choice) : Prop :=
  ∀ choice ∈ choices, ∃ bytes, choice = .succeeds bytes

theorem run_readFile {α : Type} {choice : Choice} {choices : List Choice}
    {next : Except FileErr Content → FileProgram α}
    (carried : directory.lookup out.name = some (.regular out.content))
    (succeeds : ∃ bytes, choice = .succeeds bytes) :
    ((operation (.readFile out.name)).attempt.bind next).run operate
        (choice :: choices) directory =
      (next (.ok out.content)).run operate choices directory := by
  obtain ⟨bytes, rfl⟩ := succeeds
  have present : out.name ∈ directory :=
    AList.lookup_isSome.mp (by rw [carried]; rfl)
  have read : operate (.readFile out.name) (.succeeds bytes) directory =
      some (.ok out.content, directory) := by
    simp [operate, Operation.refusal, present, Operation.isReady,
      Operation.value, carried, Operation.effect]
  exact Program.run_attempt operate read

theorem run_writeOutputs {α : Type} {choices : List Choice}
    {next : List FileName → FileProgram α}
    (carried : AllCarried todo directory) (succeed : AllSucceed choices)
    (enough : todo.length ≤ choices.length) :
    ((writeOutputs todo).bind next).run operate choices directory =
      (next []).run operate (choices.drop todo.length) directory := by
  induction todo generalizing choices with
  | nil => rfl
  | cons out todo induction =>
      cases choices with
      | nil => cases enough
      | cons choice choices =>
          obtain ⟨here, later⟩ := List.forall_mem_cons.mp succeed
          simp only [writeOutputs, Program.bind_assoc]
          rw [run_readFile (carried out List.mem_cons_self) here]
          simp only [if_true]
          apply induction
          · exact fun other member =>
              carried other (List.mem_cons_of_mem _ member)
          · exact later
          · simpa using enough

theorem removeUnwanted_of_wanted {names : List FileName}
    (wanted : ∀ name ∈ names, name ∈ outputs.map (·.name)) :
    removeUnwanted outputs names = .done [] := by
  induction names with
  | nil => rfl
  | cons name names induction =>
      obtain ⟨here, later⟩ := List.forall_mem_cons.mp wanted
      simp only [removeUnwanted, here, if_true]
      exact induction later

/-- Where the managed files are those of the outputs, `Apply` does nothing. -/
theorem run_apply_again {choices : List Choice} (notEmpty : filePrefix ≠ [])
    (checked : checkOutputs libraries filePrefix outputs = .ok ())
    (carried : AllCarried outputs directory)
    (nothingElse : ∀ name ∈ managedFiles filePrefix directory.list,
      name ∈ outputs.map (·.name))
    (succeed : AllSucceed choices)
    (enough : outputs.length < choices.length) :
    (apply libraries filePrefix outputs).run operate choices directory =
      (.returned ⟨fileSums libraries outputs, [], []⟩, directory) := by
  simp only [apply, notEmpty, if_false, checked, Program.ofExcept_ok,
    Program.done_bind]
  rw [run_writeOutputs carried succeed enough.le]
  cases rest : choices.drop outputs.length with
  | nil =>
      have short := congrArg List.length rest
      simp only [List.length_drop, List.length_nil] at short
      omega
  | cons choice rest =>
      have member : choice ∈ choices :=
        List.mem_of_mem_drop (rest ▸ List.mem_cons_self)
      obtain ⟨bytes, rfl⟩ := succeed choice member
      have listed : operate .readDir (.succeeds bytes) directory =
          some (.ok directory.list, directory) := rfl
      simp only [managed, Program.bind_assoc, Program.done_bind]
      refine (Program.run_perform operate listed).trans ?_
      rw [removeUnwanted_of_wanted nothingElse]
      rfl

/-! ## The whole of it -/

/-- What a successful `Apply` has done, step by step. -/
structure Succeeds (libraries : Libraries) (filePrefix : List Char)
    (outputs : List Output) (history : History fileSystem FileErr)
    (before : Directory) (done : ApplyDone) (after : Directory) : Prop where
  notEmpty : filePrefix ≠ []
  checked : checkOutputs libraries filePrefix outputs = .ok ()
  files : done.files = fileSums libraries outputs
  written : done.written =
    (outputs.filter (isRewritten before history)).map (·.name)
  removed : done.removed = (managedFiles filePrefix before.list).filter
    (· ∉ outputs.map (·.name))
  applied : Applied libraries filePrefix outputs before after

theorem apply_succeeds {done : ApplyDone}
    (distinct : (outputs.map (·.name)).Nodup)
    (onlyFiles : ∀ name, isManaged filePrefix name = true →
      before.lookup name ≠ some .other)
    (completes : (apply libraries filePrefix outputs).Completes operate history
      before (.ok done) after) :
    Succeeds libraries filePrefix outputs history before done after := by
  have applied := completes.ends
    (apply_survives libraries filePrefix outputs before)
  unfold apply at completes
  split at completes
  · cases completes
  · rename_i notEmpty
    cases checked : checkOutputs libraries filePrefix outputs with
    | error err =>
        rw [checked] at completes
        cases completes
    | ok value =>
        simp only [checked, Program.ofExcept_ok, Program.done_bind]
          at completes
        obtain ⟨writing, clearing, written, middle, rfl, writes, rest⟩ :=
          completes.seq
        have quiet : ∀ name, clearing.any (failedRead name) = false :=
          fun name => no_failedRead (rest.calls clearing_spares)
        obtain ⟨listing, later, names, state, rfl, lists, rest⟩ := rest.seq
        obtain ⟨removing, later, removed, last, rfl, removes, rest⟩ := rest.seq
        obtain ⟨syncing, empty, value, final, rfl, syncs, atEnd⟩ := rest.seq
        cases atEnd
        have wrote := writes.ends
          (writeOutputs_survives checked (fun _ member => member) .refl)
        have isListed : state = middle ∧
            names = managedFiles filePrefix middle.list :=
          lists.ends (@managed_survives _ _ (fun _ => True) trivial)
        obtain ⟨rfl, rfl⟩ := isListed
        refine ⟨notEmpty, checked, rfl, ?_, ?_, applied⟩
        · have onlyOutputs : ∀ out ∈ outputs,
              before.lookup out.name ≠ some .other :=
            fun out member => onlyFiles _ (isManaged_of_checked checked member)
          rw [isRewritten_append quiet]
          exact writeOutputs_written distinct onlyOutputs writes
        · rw [removeUnwanted_removed removes]
          apply managedFiles_filter_congr
          intro name unwanted
          apply wrote.rest
          simpa using unwanted

/-- A successful `Apply` leaves exactly the outputs as managed files, in a
directory in which nothing but regular files carries a managed name, and says
what it has done: it has written the outputs whose file was absent, different or
not readable, and removed the managed files without an output.  Applied once
more, without a failing file operation, the same outputs change nothing. -/
theorem apply_is_exact (libraries : Libraries) (filePrefix : List Char)
    (outputs : List Output) (before after : Directory)
    (choices : List Choice) (done : ApplyDone)
    (distinct : (outputs.map (·.name)).Nodup)
    (onlyFiles : ∀ name, isManaged filePrefix name = true →
      before.lookup name ≠ some .other)
    (ran : (apply libraries filePrefix outputs).run operate choices before =
      (.returned done, after)) :
    (∀ name, name ∈ managedFiles filePrefix after.list ↔
      name ∈ outputs.map (·.name)) ∧
    (∀ out ∈ outputs, after.lookup out.name = some (.regular out.content)) ∧
    done.files = outputs.map (fun out =>
      ⟨asText out.name, libraries.sha256 out.content⟩) ∧
    done.written = (outputs.filter (isRewritten before
      ((apply libraries filePrefix outputs).recorded operate choices
        before))).map (·.name) ∧
    done.removed = (managedFiles filePrefix before.list).filter
      (· ∉ outputs.map (·.name)) ∧
    ∀ again, AllSucceed again → outputs.length < again.length →
      (apply libraries filePrefix outputs).run operate again after =
        (.returned ⟨done.files, [], []⟩, after) := by
  have completes := @Program.completes _ _ _ _ _ _ _ _ _ _ (.ok done) ran
  have succeeds := apply_succeeds distinct onlyFiles completes
  have managed : ∀ out ∈ outputs, isManaged filePrefix out.name = true :=
    fun out member => isManaged_of_checked succeeds.checked member
  have carried : AllCarried outputs after := by
    intro out member
    rcases succeeds.applied.carries distinct out member with regular | other
    · exact regular
    · have fate := succeeds.applied.settled out.name
      rw [other] at fate
      exact absurd fate.of_other (onlyFiles _ (managed out member))
  have nothingElse : ∀ name ∈ managedFiles filePrefix after.list,
      name ∈ outputs.map (·.name) := by
    intro name member
    obtain ⟨isManaged, content, found⟩ := mem_managedFiles.mp member
    by_contra unwanted
    exact succeeds.applied.nothingElse name content isManaged unwanted found
  refine ⟨?_, carried, succeeds.files, succeeds.written, succeeds.removed, ?_⟩
  · intro name
    constructor
    · exact nothingElse name
    · intro wanted
      obtain ⟨out, member, rfl⟩ := List.mem_map.mp wanted
      exact mem_managedFiles.mpr
        ⟨managed out member, out.content, carried out member⟩
  · intro again succeed enough
    rw [succeeds.files]
    exact run_apply_again succeeds.notEmpty succeeds.checked carried
      nothingElse succeed enough

/-! ## A file that cannot be read -/

/-- The file is there with its content, but cannot be read. -/
def unreadable : List Choice :=
  [.fails "permission denied" false, .succeeds [1, 2, 3, 4, 5, 6],
    .succeeds [], .succeeds [], .succeeds [], .succeeds [], .succeeds [],
    .succeeds [], .succeeds []]

/-- An output that is in its file already is written again if the file cannot
be read, and applying it once more can fail. -/
theorem unreadable_file_is_written :
    ∃ libraries filePrefix outputs before after choices done again err,
      filePrefix ≠ [] ∧ (outputs.map (·.name)).Nodup ∧
      checkOutputs libraries filePrefix outputs = .ok () ∧
      (∀ name, before.lookup name ≠ some .other) ∧
      (apply libraries filePrefix outputs).run operate choices before =
        (.returned done, after) ∧
      done.written ≠ (outputs.filter fun out =>
        before.lookup out.name ≠ some (.regular out.content)).map (·.name) ∧
      ((apply libraries filePrefix outputs).run operate again after).1 =
        .threw err := by
  refine ⟨exampleLibraries, exampleFilesConfig.filePrefix.chars,
    [exampleOutput], exampleDirectory (.regular exampleOutput.content), _,
    unreadable, ⟨fileSums exampleLibraries [exampleOutput],
      [exampleOutput.name], []⟩,
    [.fails "input/output error" false, .fails "input/output error" false],
    ⟨"fluxip-a.yml: input/output error", false⟩, by decide, by decide,
    by decide +kernel, exampleDirectory_onlyFiles _, Prod.ext ?_ rfl, ?_, ?_⟩
  · decide +kernel
  · decide +kernel
  · decide +kernel

/-- The file is there with an older, empty content. -/
theorem apply_is_exact_once :
    ∃ after, (apply exampleLibraries exampleFilesConfig.filePrefix.chars
        [exampleOutput]).run operate ([.succeeds []] ++ unreadable.drop 1)
          (exampleDirectory (.regular [])) =
        (.returned ⟨fileSums exampleLibraries [exampleOutput],
          [exampleOutput.name], []⟩, after) ∧
      ∀ name, name ∈ managedFiles exampleFilesConfig.filePrefix.chars
        after.list ↔ name = exampleOutput.name := by
  have returns : ((apply exampleLibraries exampleFilesConfig.filePrefix.chars
      [exampleOutput]).run operate ([.succeeds []] ++ unreadable.drop 1)
        (exampleDirectory (.regular []))).1 =
      .returned ⟨fileSums exampleLibraries [exampleOutput],
        [exampleOutput.name], []⟩ := by
    decide +kernel
  have ran : (apply exampleLibraries exampleFilesConfig.filePrefix.chars
      [exampleOutput]).run operate ([.succeeds []] ++ unreadable.drop 1)
        (exampleDirectory (.regular [])) =
      (.returned ⟨fileSums exampleLibraries [exampleOutput],
        [exampleOutput.name], []⟩, _) := Prod.ext returns rfl
  have exact := apply_is_exact exampleLibraries
    exampleFilesConfig.filePrefix.chars [exampleOutput] _ _ _ _ (by decide)
    (fun name _ => exampleDirectory_onlyFiles [] name) ran
  refine ⟨_, ran, ?_⟩
  intro name
  rw [exact.1 name]
  exact List.mem_singleton

end FluxIP.Apply
