import FluxIP.Agent.Apply

/-!
# What `Apply` leaves in the directory

One file is replaced in one step, beside which at most a temporary file can be
left over.  Whatever point `Apply` reaches, every name has its old entry, the
whole content of its output, or, without an output, nothing any more.
-/

namespace FluxIP.Apply

open Async Files

/-! ## Names -/

variable {libraries : Libraries} {filePrefix : List Char}
variable {name tmp : FileName} {rnd content : Content}

theorem ext_of_suffix {chars before : List Char} {suffix : List Char}
    (noDot : '.' ∉ suffix) (split : chars = before ++ '.' :: suffix) :
    ext chars = '.' :: suffix := by
  have hasDot : '.' ∈ chars := by simp [split]
  have stops : chars.reverse.takeWhile (· ≠ '.') = suffix.reverse := by
    rw [split, List.reverse_append, List.reverse_cons, List.append_assoc]
    rw [List.takeWhile_append_of_pos]
    · simp
    · intro char member
      simp only [decide_eq_true_eq]
      intro isDot
      subst isDot
      exact noDot (List.mem_reverse.mp member)
  simp only [ext, hasDot, if_true]
  rw [stops, List.reverse_reverse]

/-- The agent never takes a temporary file for one of its own. -/
theorem not_isManaged_of_isTemp (isTemp : isTemp filePrefix name = true)
    (anyPrefix : List Char) : isManaged anyPrefix name = false := by
  obtain ⟨-, ends⟩ := Bool.and_eq_true_iff.mp isTemp
  obtain ⟨before, split⟩ := List.isSuffixOf_iff_suffix.mp ends
  have ending : name.chars = before ++ '.' :: "tmp".toList := split.symm
  have temporary : ext name.chars = ".tmp".toList :=
    ext_of_suffix (by decide) ending
  have unmanaged : managedExt name = false := by
    simp only [managedExt, isYaml, isToml, temporary]
    decide
  simp only [isManaged, unmanaged, Bool.and_false]

theorem not_isTemp_of_isManaged {anyPrefix : List Char}
    (managed : isManaged anyPrefix name = true) :
    isTemp filePrefix name = false := by
  cases temporary : isTemp filePrefix name with
  | false => rfl
  | true =>
      rw [not_isManaged_of_isTemp temporary] at managed
      cases managed

theorem tempName_isTemp (isPrefix : hasPrefix filePrefix name = true) :
    isTemp filePrefix (tempName name rnd) = true := by
  obtain ⟨rest, split⟩ := List.isPrefixOf_iff_prefix.mp isPrefix
  apply Bool.and_eq_true_iff.mpr
  constructor
  · apply List.isPrefixOf_iff_prefix.mpr
    refine ⟨rest ++ '.' :: (encodeToString rnd ++ ".tmp".toList), ?_⟩
    simp [tempName, ← split]
  · apply List.isSuffixOf_iff_suffix.mpr
    refine ⟨'.' :: (name.chars ++ '.' :: encodeToString rnd), ?_⟩
    simp [tempName]

theorem tempName_ne : tempName name rnd ≠ name := by
  intro same
  have lengths := congrArg (·.chars.length) same
  simp only [tempName, List.length_cons, List.length_append] at lengths
  omega

theorem managedExt_of_validate
    (valid : validate libraries name content = .ok ()) :
    managedExt name = true := by
  unfold managedExt
  by_cases yaml : isYaml name = true
  · simp [yaml]
  · by_cases toml : isToml name = true
    · simp [toml]
    · simp [validate, yaml, toml, Except.mapError] at valid

theorem checkOutputs_ok {outputs : List Output}
    (checked : checkOutputs libraries filePrefix outputs = .ok ())
    {out : Output} (member : out ∈ outputs) :
    hasPrefix filePrefix out.name = true ∧
      validate libraries out.name out.content = .ok () := by
  induction outputs with
  | nil => cases member
  | cons first rest induction =>
      simp only [checkOutputs] at checked
      split at checked
      · rename_i isPrefix
        cases valid : validate libraries first.name first.content with
        | error err =>
            rw [valid] at checked
            cases checked
        | ok value =>
            rw [valid] at checked
            rcases List.mem_cons.mp member with here | later
            · subst here
              exact ⟨isPrefix, valid⟩
            · exact induction checked later
      · cases checked

theorem isManaged_of_checked {outputs : List Output}
    (checked : checkOutputs libraries filePrefix outputs = .ok ())
    {out : Output} (member : out ∈ outputs) :
    isManaged filePrefix out.name = true := by
  obtain ⟨isPrefix, valid⟩ := checkOutputs_ok checked member
  exact Bool.and_eq_true_iff.mpr ⟨isPrefix, managedExt_of_validate valid⟩

/-! ## Replacing one file -/

variable {start directory after : Directory}

/-- The file has its new content, and nothing else has changed. -/
structure Replaced (start : Directory) (name : FileName) (content : Content)
    (directory : Directory) : Prop where
  own : directory.lookup name = some (.regular content)
  rest : ∀ other, other ≠ name →
    directory.lookup other = start.lookup other

/-- Nothing has changed but for a file under a name that was free. -/
structure Littered (start : Directory) (tmp : FileName)
    (directory : Directory) : Prop where
  free : start.lookup tmp = none
  isFile : directory.lookup tmp ≠ some .other
  rest : ∀ other, other ≠ tmp →
    directory.lookup other = start.lookup other

/-- What replacing a file can leave behind at any point. -/
inductive Interrupted (start : Directory) (name : FileName)
    (content : Content) (directory : Directory) : Prop where
  | unchanged : (∀ other, directory.lookup other = start.lookup other) →
      Interrupted start name content directory
  | littered {rnd : Content} : Littered start (tempName name rnd) directory →
      Interrupted start name content directory
  | replaced : Replaced start name content directory →
      Interrupted start name content directory

theorem Littered.create (free : tmp ∉ start) :
    Littered start tmp (Operation.effect start (.create tmp)) where
  free := AList.lookup_eq_none.mpr free
  isFile := by
    rw [Operation.lookup_create_self free]
    intro impossible
    cases impossible
  rest := fun _ different => Operation.lookup_create different

theorem Littered.write (littered : Littered start tmp directory) :
    Littered start tmp
      (Operation.effect directory (.write tmp content)) where
  free := littered.free
  isFile := by
    cases found : directory.lookup tmp with
    | none =>
        simp only [Operation.effect, found]
        intro impossible
        cases impossible
    | some entry =>
        cases entry with
        | regular before =>
            rw [Operation.lookup_write_self found]
            intro impossible
            cases impossible
        | other => exact absurd found littered.isFile
  rest := by
    intro other different
    rw [Operation.lookup_write different]
    exact littered.rest other different

theorem Littered.remove (littered : Littered start tmp directory) :
    Littered start tmp (Operation.effect directory (.remove tmp)) where
  free := littered.free
  isFile := by
    rw [Operation.lookup_remove_self]
    intro impossible
    cases impossible
  rest := by
    intro other different
    rw [Operation.lookup_remove different]
    exact littered.rest other different

theorem Littered.rename (littered : Littered start tmp directory)
    (different : tmp ≠ name)
    (holds : directory.lookup tmp = some (.regular content)) :
    Replaced start name content
      (Operation.effect directory (.rename tmp name)) where
  own := Operation.lookup_rename_new holds
  rest := by
    intro other notOwn
    by_cases isTmp : other = tmp
    · subst isTmp
      rw [Operation.lookup_rename_old different]
      exact littered.free.symm
    · rw [Operation.lookup_rename isTmp notOwn]
      exact littered.rest other isTmp

theorem Replaced.remove (replaced : Replaced start name content directory)
    (different : tmp ≠ name) (free : start.lookup tmp = none) :
    Replaced start name content
      (Operation.effect directory (.remove tmp)) where
  own := by
    rw [Operation.lookup_remove (Ne.symm different)]
    exact replaced.own
  rest := by
    intro other notOwn
    by_cases isTmp : other = tmp
    · subst isTmp
      rw [Operation.lookup_remove_self]
      exact free.symm
    · rw [Operation.lookup_remove isTmp]
      exact replaced.rest other notOwn

/-- From the creation of the temporary file on. -/
def Late (start : Directory) (name tmp : FileName) (content : Content)
    (directory : Directory) : Prop :=
  Littered start tmp directory ∨
    start.lookup tmp = none ∧ Replaced start name content directory

theorem Late.interrupted
    (late : Late start name (tempName name rnd) content directory) :
    Interrupted start name content directory := by
  rcases late with littered | ⟨-, replaced⟩
  · exact .littered littered
  · exact .replaced replaced

theorem Late.remove (different : tmp ≠ name)
    (late : Late start name tmp content directory) :
    Late start name tmp content
      (Operation.effect directory (.remove tmp)) := by
  rcases late with littered | ⟨free, replaced⟩
  · exact .inl littered.remove
  · exact .inr ⟨free, replaced.remove different free⟩

theorem cleanup_survives (different : tmp ≠ name)
    (late : Late start name tmp content directory) :
    ((operation (.remove tmp)).attempt.bind fun _ =>
      .done ()).Survives operate
        (fun _ => Late start name tmp content)
        (Late start name tmp content) directory := by
  have attempted : (operation (.remove tmp)).Survives operate
      (fun _ => Late start name tmp content)
      (Late start name tmp content) directory := by
    apply operation_survives late
    · exact fun _ _ => late.remove different
    · intro error after fails
      cases fails with
      | refused => exact late
      | before => exact late
      | after => exact late.remove different
  apply attempted.attempt.bind
  · exact fun _ _ atEnd => atEnd
  · exact fun _ _ impossible => impossible.elim

theorem closeAndCleanup_survives (different : tmp ≠ name)
    (late : Late start name tmp content directory) :
    ((operation (.close tmp)).attempt.bind fun _ =>
      (operation (.remove tmp)).attempt.bind fun _ =>
        .done ()).Survives operate
        (fun _ => Late start name tmp content)
        (Late start name tmp content) directory := by
  have closed : (operation (.close tmp)).Survives operate
      (fun _ => Late start name tmp content)
      (Late start name tmp content) directory :=
    looking_survives rfl late
  apply closed.attempt.bind
  · intro outcome state atEnd
    exact cleanup_survives different atEnd
  · exact fun _ _ impossible => impossible.elim

/-- The temporary file holds this much. -/
def Holding (start : Directory) (tmp : FileName) (content : Content)
    (directory : Directory) : Prop :=
  Littered start tmp directory ∧
    directory.lookup tmp = some (.regular content)

theorem create_survives :
    (operation (.create (tempName name rnd))).Survives operate
      (orElse (fun _ => Holding start (tempName name rnd) [])
        (Interrupted start name content))
      (Interrupted start name content) start := by
  have unchanged : Interrupted start name content start :=
    .unchanged fun _ => rfl
  apply operation_survives unchanged
  · intro bytes accepted
    have free : tempName name rnd ∉ start := by
      intro taken
      simp [Operation.refusal, taken] at accepted
    exact ⟨Littered.create free, Operation.lookup_create_self free⟩
  · intro error after fails
    cases fails with
    | refused => exact unchanged
    | before => exact unchanged
    | after =>
        by_cases taken : tempName name rnd ∈ start
        · simp only [Operation.effect, taken, if_true]
          exact unchanged
        · exact .littered (Littered.create taken)

theorem write_survives (holding : Holding start tmp [] directory) :
    (operation (.write tmp content)).Survives operate
      (orElse (fun _ => Holding start tmp content) (Littered start tmp))
      (Littered start tmp) directory := by
  apply operation_survives holding.1
  · intro bytes accepted
    exact ⟨holding.1.write, Operation.lookup_write_self holding.2⟩
  · intro error after fails
    cases fails with
    | refused => exact holding.1
    | before => exact holding.1
    | after => exact holding.1.write
    | halfWay => exact holding.1.write

/-- Syncing and closing. -/
theorem holding_survives {op : Operation} (looks : op.looks = true)
    (holding : Holding start tmp content directory) :
    (operation op).Survives operate
      (orElse (fun _ => Holding start tmp content) (Littered start tmp))
      (Littered start tmp) directory := by
  have kept : (operation op).Survives operate
      (fun _ => Holding start tmp content) (Holding start tmp content)
      directory :=
    looking_survives looks holding
  apply kept.mono
  · intro result state atEnd
    cases result with
    | ok value => exact atEnd
    | error error => exact atEnd.1
  · exact fun _ stopped => stopped.1

theorem rename_survives (different : tmp ≠ name)
    (holding : Holding start tmp content directory) :
    (operation (.rename tmp name)).Survives operate
      (orElse (fun _ => Replaced start name content)
        (Late start name tmp content))
      (Late start name tmp content) directory := by
  have renamed := holding.1.rename different holding.2
  apply operation_survives (.inl holding.1)
  · exact fun _ _ => renamed
  · intro error after fails
    cases fails with
    | refused => exact .inl holding.1
    | before => exact .inl holding.1
    | after => exact .inr ⟨holding.1.free, renamed⟩

/-- Replacing a file either does it or can be seen through. -/
theorem writeAtomic_survives :
    (writeAtomic name content).Survives operate
      (orElse (fun _ => Replaced start name content)
        (Interrupted start name content))
      (Interrupted start name content) start := by
  have drawn : (operation (.random 6)).Survives operate
      (orElse (fun _ state => state = start)
        (Interrupted start name content))
      (Interrupted start name content) start := by
    have looked : (operation (.random 6)).Survives operate
        (fun _ state => state = start) (fun state => state = start) start :=
      looking_survives rfl rfl
    have unchanged : ∀ state, state = start →
        Interrupted start name content state := by
      intro state same
      subst same
      exact .unchanged fun _ => rfl
    apply looked.mono
    · intro result state same
      cases result with
      | ok rnd => exact same
      | error error => exact unchanged state same
    · exact unchanged
  apply drawn.seq
  intro rnd state same
  subst same
  have late : ∀ directory, Late state name (tempName name rnd) content
      directory → Interrupted state name content directory :=
    fun _ late => late.interrupted
  have littered : ∀ directory, Littered state (tempName name rnd) directory →
      Interrupted state name content directory :=
    fun _ littered => .littered littered
  have closes : ∀ directory, Littered state (tempName name rnd) directory →
      ((operation (.close (tempName name rnd))).attempt.bind fun _ =>
        (operation (.remove (tempName name rnd))).attempt.bind fun _ =>
          .done ()).Survives operate
        (fun _ => Interrupted state name content)
        (Interrupted state name content) directory := by
    intro directory littered
    apply (closeAndCleanup_survives tempName_ne (.inl littered)).mono
    · exact fun _ => late
    · exact late
  have cleans : ∀ directory, Late state name (tempName name rnd) content
      directory →
      ((operation (.remove (tempName name rnd))).attempt.bind fun _ =>
        .done ()).Survives operate
        (fun _ => Interrupted state name content)
        (Interrupted state name content) directory := by
    intro directory isLate
    apply (cleanup_survives tempName_ne isLate).mono
    · exact fun _ => late
    · exact late
  apply create_survives.seq
  intro _ directory created
  apply Program.Survives.seq
  · apply Program.Survives.rethrow
    · apply (write_survives created).mono
      · exact fun _ _ atEnd => atEnd
      · exact littered
    · exact fun _ => closes
  intro _ directory written
  apply Program.Survives.seq
  · apply Program.Survives.rethrow
    · apply (holding_survives rfl written).mono
      · exact fun _ _ atEnd => atEnd
      · exact littered
    · exact fun _ => closes
  intro _ directory synced
  apply Program.Survives.seq
  · apply Program.Survives.rethrow
    · apply (holding_survives rfl synced).mono
      · exact fun _ _ atEnd => atEnd
      · exact littered
    · exact fun _ directory littered => cleans directory (.inl littered)
  intro _ directory closed
  apply Program.Survives.rethrow
  · apply (rename_survives tempName_ne closed).mono
    · exact fun _ _ atEnd => atEnd
    · exact late
  · exact fun _ => cleans

/-! ## Applying the outputs -/

variable {outputs : List Output} {before : Directory}

/-- What can be found under a name once `Apply` has started. -/
inductive Fate (libraries : Libraries) (filePrefix : List Char)
    (outputs : List Output) (before : Directory) (name : FileName) :
    Option Entry → Prop where
  | kept : Fate libraries filePrefix outputs before name (before.lookup name)
  | replaced {out : Output} : out ∈ outputs → out.name = name →
      hasPrefix filePrefix name = true →
      validate libraries name out.content = .ok () →
      Fate libraries filePrefix outputs before name
        (some (.regular out.content))
  | removed : isManaged filePrefix name = true →
      name ∉ outputs.map (·.name) →
      Fate libraries filePrefix outputs before name none

/-- No file is half way. -/
def Settled (libraries : Libraries) (filePrefix : List Char)
    (outputs : List Output) (before directory : Directory) : Prop :=
  ∀ name,
    Fate libraries filePrefix outputs before name (directory.lookup name)

/-- No file is half way, but for one temporary file. -/
inductive CrashSafe (libraries : Libraries) (filePrefix : List Char)
    (outputs : List Output) (before directory : Directory) : Prop where
  | settled : Settled libraries filePrefix outputs before directory →
      CrashSafe libraries filePrefix outputs before directory
  | littered {tmp : FileName} : isTemp filePrefix tmp = true →
      before.lookup tmp = none → directory.lookup tmp ≠ some .other →
      (∀ name, name ≠ tmp →
        Fate libraries filePrefix outputs before name
          (directory.lookup name)) →
      CrashSafe libraries filePrefix outputs before directory

theorem Settled.refl : Settled libraries filePrefix outputs before before :=
  fun _ => .kept

theorem Settled.of_lookup
    (settled : Settled libraries filePrefix outputs before directory)
    (same : ∀ name, after.lookup name = directory.lookup name) :
    Settled libraries filePrefix outputs before after := by
  intro name
  rw [same name]
  exact settled name

/-- A name the agent does not manage keeps its entry. -/
theorem Fate.of_not_managed
    (unmanaged : isManaged filePrefix name = false) {entry : Option Entry}
    (fate : Fate libraries filePrefix outputs before name entry) :
    entry = before.lookup name := by
  cases fate with
  | kept => rfl
  | replaced member own isPrefix valid =>
      have managed := Bool.and_eq_true_iff.mpr
        ⟨isPrefix, managedExt_of_validate valid⟩
      rw [← isManaged, unmanaged] at managed
      cases managed
  | removed managed =>
      rw [unmanaged] at managed
      cases managed

/-- What is not a file was there before. -/
theorem Fate.of_other
    (fate : Fate libraries filePrefix outputs before name (some .other)) :
    before.lookup name = some .other := by
  generalize found : some Entry.other = entry at fate
  cases fate with
  | kept => rfl
  | replaced => cases found
  | removed => cases found

/-- A managed file is never half way. -/
theorem CrashSafe.fate
    (safe : CrashSafe libraries filePrefix outputs before directory)
    (managed : isManaged filePrefix name = true) :
    Fate libraries filePrefix outputs before name
      (directory.lookup name) := by
  cases safe with
  | settled settled => exact settled name
  | littered isTemp wasFree isFile rest =>
      apply rest
      intro same
      subst same
      rw [not_isManaged_of_isTemp isTemp] at managed
      cases managed

theorem Settled.replaced
    (checked : checkOutputs libraries filePrefix outputs = .ok ())
    (settled : Settled libraries filePrefix outputs before directory)
    {out : Output} (member : out ∈ outputs)
    (replaced : Replaced directory out.name out.content after) :
    Settled libraries filePrefix outputs before after := by
  intro name
  by_cases own : name = out.name
  · subst own
    rw [replaced.own]
    obtain ⟨isPrefix, valid⟩ := checkOutputs_ok checked member
    exact .replaced member rfl isPrefix valid
  · rw [replaced.rest name own]
    exact settled name

theorem Settled.interrupted
    (checked : checkOutputs libraries filePrefix outputs = .ok ())
    (settled : Settled libraries filePrefix outputs before directory)
    {out : Output} (member : out ∈ outputs)
    (interrupted : Interrupted directory out.name out.content after) :
    CrashSafe libraries filePrefix outputs before after := by
  cases interrupted with
  | unchanged same => exact .settled (settled.of_lookup same)
  | replaced replaced =>
      exact .settled (settled.replaced checked member replaced)
  | @littered rnd littered =>
      have isTemp : isTemp filePrefix (tempName out.name rnd) = true :=
        tempName_isTemp (checkOutputs_ok checked member).1
      have wasFree := (settled _).of_not_managed
        (not_isManaged_of_isTemp isTemp filePrefix)
      rw [littered.free] at wasFree
      refine .littered isTemp wasFree.symm littered.isFile ?_
      intro name different
      rw [littered.rest name different]
      exact settled name

/-- The output is in its file, unless its name is that of something else than a
file. -/
def Carries (directory : Directory) (out : Output) : Prop :=
  directory.lookup out.name = some (.regular out.content) ∨
    directory.lookup out.name = some .other

theorem Carries.of_lookup {out : Output} (carries : Carries directory out)
    (same : after.lookup out.name = directory.lookup out.name) :
    Carries after out := by
  unfold Carries
  rw [same]
  exact carries

theorem readFile_survives {out : Output} :
    (operation (.readFile out.name)).Survives operate
      (fun existing state => state = directory ∧
        (existing = .ok out.content → Carries directory out))
      (fun state => state = directory) directory := by
  apply @operation_survives directory (.readFile out.name)
  · rfl
  · intro bytes accepted
    refine ⟨Operation.effect_of_looks rfl, ?_⟩
    intro same
    cases found : directory.lookup out.name with
    | none =>
        have missing : out.name ∉ directory := AList.lookup_eq_none.mp found
        simp [Operation.refusal, missing] at accepted
    | some entry =>
        cases entry with
        | other => exact .inr found
        | regular content =>
            simp only [Operation.value, found, Except.ok.injEq] at same
            subst same
            exact .inl found
  · intro error after fails
    refine ⟨fails.of_looks rfl, ?_⟩
    intro impossible
    cases impossible

/-- What has been done once these outputs are written. -/
structure Written (libraries : Libraries) (filePrefix : List Char)
    (outputs : List Output) (before start : Directory) (written : List Output)
    (directory : Directory) : Prop where
  settled : Settled libraries filePrefix outputs before directory
  carries : (written.map (·.name)).Nodup →
    ∀ out ∈ written, Carries directory out
  rest : ∀ name, name ∉ written.map (·.name) →
    directory.lookup name = start.lookup name

theorem Written.cons {out : Output} {written : List Output}
    {middle : Directory}
    (own : Carries middle out)
    (frame : ∀ name, name ≠ out.name →
      middle.lookup name = start.lookup name)
    (rest : Written libraries filePrefix outputs before middle written
      directory) :
    Written libraries filePrefix outputs before start (out :: written)
      directory where
  settled := rest.settled
  carries := by
    intro distinct
    obtain ⟨fresh, later⟩ := List.nodup_cons.mp distinct
    intro other member
    rcases List.mem_cons.mp member with here | member
    · subst here
      exact own.of_lookup (rest.rest _ fresh)
    · exact rest.carries later other member
  rest := by
    intro name unwritten
    obtain ⟨different, later⟩ := not_or.mp
      (fun member => unwritten (List.mem_cons.mpr member))
    rw [rest.rest name later]
    exact frame name different

theorem writeOutputs_survives {todo : List Output}
    (checked : checkOutputs libraries filePrefix outputs = .ok ())
    (within : ∀ out ∈ todo, out ∈ outputs)
    (settled : Settled libraries filePrefix outputs before start) :
    (writeOutputs todo).Survives operate
      (orElse (fun _ => Written libraries filePrefix outputs before start todo)
        (CrashSafe libraries filePrefix outputs before))
      (CrashSafe libraries filePrefix outputs before) start := by
  induction todo generalizing start with
  | nil =>
      exact ⟨settled, fun _ _ member => absurd member List.not_mem_nil,
        fun _ _ => rfl⟩
  | cons out todo induction =>
      have member := within out List.mem_cons_self
      have later : ∀ other ∈ todo, other ∈ outputs :=
        fun other isLater => within other (List.mem_cons_of_mem _ isLater)
      have read : (operation (.readFile out.name)).Survives operate
          (fun existing state => state = start ∧
            (existing = .ok out.content → Carries start out))
          (CrashSafe libraries filePrefix outputs before) start := by
        apply readFile_survives.mono
        · exact fun _ _ atEnd => atEnd
        · intro state same
          subst same
          exact .settled settled
      apply read.attempt.bind
      · intro existing state atEnd
        obtain ⟨same, unchanged⟩ := atEnd
        subst same
        split
        · rename_i isSame
          apply (induction later settled).mono
          · intro result directory atEnd
            cases result with
            | ok written =>
                exact Written.cons (unchanged isSame) (fun _ _ => rfl) atEnd
            | error error => exact atEnd
          · exact fun _ stopped => stopped
        · have replaces : ((writeAtomic out.name out.content).tryCatch
              fun err => .fail (Apply.within out.name err)).Survives operate
              (orElse (fun _ => Replaced state out.name out.content)
                (CrashSafe libraries filePrefix outputs before))
              (CrashSafe libraries filePrefix outputs before) state := by
            have interrupted : ∀ directory,
                Interrupted state out.name out.content directory →
                CrashSafe libraries filePrefix outputs before directory :=
              fun _ => settled.interrupted checked member
            apply (writeAtomic_survives.mono (fun _ _ atEnd => atEnd)
              interrupted).tryCatch
            · exact fun _ _ atEnd => atEnd
            · exact fun _ directory => interrupted directory
          apply replaces.seq
          intro _ directory replaced
          apply (induction later (settled.replaced checked member replaced)).seq
          intro written final atEnd
          exact Written.cons (.inl replaced.own) replaced.rest atEnd
      · exact fun _ _ impossible => impossible.elim

/-! ## Removing files -/

theorem mem_managedFiles :
    name ∈ managedFiles filePrefix directory.list ↔
      isManaged filePrefix name = true ∧
        ∃ content, directory.lookup name = some (.regular content) := by
  unfold managedFiles
  rw [List.mem_insertionSort, List.mem_filter, List.mem_map]
  constructor
  · intro found
    obtain ⟨⟨entry, member, rfl⟩, managed⟩ := found
    obtain ⟨listed, regular⟩ := List.mem_filter.mp member
    obtain ⟨held, stored, same⟩ := Directory.mem_list.mp listed
    refine ⟨managed, ?_⟩
    cases held with
    | regular content => exact ⟨content, stored⟩
    | other =>
        rw [← same] at regular
        cases regular
  · intro found
    obtain ⟨managed, content, stored⟩ := found
    refine ⟨⟨⟨name, true⟩, ?_, rfl⟩, managed⟩
    apply List.mem_filter.mpr
    exact ⟨Directory.mem_list.mpr ⟨_, stored, rfl⟩, rfl⟩

theorem managed_survives {crash : Directory → Prop}
    (stopped : crash directory) :
    (managed filePrefix).Survives operate
      (orElse (fun names state => state = directory ∧
        names = managedFiles filePrefix directory.list) crash)
      crash directory := by
  apply (readDir_survives stopped).bind
  · intro entries state atEnd
    obtain ⟨same, listed⟩ := atEnd
    subst listed
    exact ⟨same, rfl⟩
  · intro error state same
    have here : state = directory := same
    subst here
    exact stopped

/-- The file is gone, and nothing else has changed. -/
structure Removed (start : Directory) (name : FileName)
    (directory : Directory) : Prop where
  own : directory.lookup name = none
  rest : ∀ other, other ≠ name →
    directory.lookup other = start.lookup other

theorem Removed.remove :
    Removed start name (Operation.effect start (.remove name)) where
  own := Operation.lookup_remove_self
  rest := fun _ different => Operation.lookup_remove different

theorem removeIfThere_survives {crash : Directory → Prop}
    (stopped : crash start)
    (removed : ∀ directory, Removed start name directory →
      crash directory) :
    (removeIfThere name).Survives operate
      (orElse (fun _ => Removed start name) crash) crash start := by
  have attempted : (operation (.remove name)).Survives operate
      (fun result state => match result with
        | .ok _ => Removed start name state
        | .error err => if err.notExist then Removed start name state
          else crash state) crash start := by
    apply operation_survives stopped
    · exact fun _ _ => Removed.remove
    · intro error after fails
      cases fails with
      | refused refused =>
          by_cases present : name ∈ start
          · simp [Operation.refusal, present] at refused
          · simp only [Operation.refusal, present, if_false,
              Option.some.injEq] at refused
            subst refused
            exact ⟨AList.lookup_eq_none.mpr present, fun _ _ => rfl⟩
      | before => exact stopped
      | after => exact removed _ Removed.remove
  apply attempted.tryCatch
  · exact fun _ _ atEnd => atEnd
  · intro error state atEnd
    cases gone : error.notExist with
    | true =>
        simp only [gone, if_true] at atEnd ⊢
        exact atEnd
    | false =>
        simp only [gone] at atEnd ⊢
        exact atEnd

/-- What has been done once these files have been looked at. -/
structure Cleared (libraries : Libraries) (filePrefix : List Char)
    (outputs : List Output) (before start : Directory) (names : List FileName)
    (directory : Directory) : Prop where
  settled : Settled libraries filePrefix outputs before directory
  gone : ∀ name ∈ names, name ∉ outputs.map (·.name) →
    directory.lookup name = none
  rest : ∀ name, name ∉ names ∨ name ∈ outputs.map (·.name) →
    directory.lookup name = start.lookup name

theorem Settled.removed
    (settled : Settled libraries filePrefix outputs before start)
    (isManaged : isManaged filePrefix name = true)
    (unwanted : name ∉ outputs.map (·.name))
    (removed : Removed start name directory) :
    Settled libraries filePrefix outputs before directory := by
  intro other
  by_cases own : other = name
  · subst own
    rw [removed.own]
    exact .removed isManaged unwanted
  · rw [removed.rest other own]
    exact settled other

theorem removeUnwanted_survives {names : List FileName}
    (managed : ∀ name ∈ names, isManaged filePrefix name = true)
    (settled : Settled libraries filePrefix outputs before start) :
    (removeUnwanted outputs names).Survives operate
      (orElse (fun _ => Cleared libraries filePrefix outputs before start names)
        (CrashSafe libraries filePrefix outputs before))
      (CrashSafe libraries filePrefix outputs before) start := by
  induction names generalizing start with
  | nil =>
      exact ⟨settled, fun _ member => absurd member List.not_mem_nil,
        fun _ _ => rfl⟩
  | cons name names induction =>
      have isManaged := managed name List.mem_cons_self
      have later : ∀ other ∈ names, Apply.isManaged filePrefix other = true :=
        fun other isLater => managed other (List.mem_cons_of_mem _ isLater)
      simp only [removeUnwanted]
      split
      · rename_i wanted
        apply (induction later settled).mono
        · intro result directory atEnd
          cases result with
          | error error => exact atEnd
          | ok removed =>
              refine ⟨atEnd.settled, ?_, ?_⟩
              · intro other member unwanted
                rcases List.mem_cons.mp member with here | member
                · subst here
                  exact absurd wanted unwanted
                · exact atEnd.gone other member unwanted
              · intro other kept
                apply atEnd.rest
                rcases kept with absent | wanted
                · exact .inl fun member =>
                    absent (List.mem_cons_of_mem _ member)
                · exact .inr wanted
        · exact fun _ stopped => stopped
      · rename_i unwanted
        have removes : ((removeIfThere name).tryCatch
            fun err => .fail (within name err)).Survives operate
            (orElse (fun _ => Removed start name)
              (CrashSafe libraries filePrefix outputs before))
            (CrashSafe libraries filePrefix outputs before) start := by
          apply (removeIfThere_survives (.settled settled) ?_).tryCatch
          · exact fun _ _ atEnd => atEnd
          · exact fun _ _ atEnd => atEnd
          · intro directory removed
            exact .settled (settled.removed isManaged unwanted removed)
        apply removes.seq
        intro _ directory removed
        apply (induction later
          (settled.removed isManaged unwanted removed)).seq
        intro _ final atEnd
        refine ⟨atEnd.settled, ?_, ?_⟩
        · intro other member isUnwanted
          rcases List.mem_cons.mp member with here | member
          · subst here
            by_cases again : other ∈ names
            · exact atEnd.gone other again unwanted
            · rw [atEnd.rest other (.inl again)]
              exact removed.own
          · exact atEnd.gone other member isUnwanted
        · intro other kept
          have different : other ≠ name := by
            intro same
            subst same
            rcases kept with absent | wanted
            · exact absent List.mem_cons_self
            · exact unwanted wanted
          rw [atEnd.rest other ?_]
          · exact removed.rest other different
          · rcases kept with absent | wanted
            · exact .inl fun member =>
                absent (List.mem_cons_of_mem _ member)
            · exact .inr wanted

/-! ## The whole of `Apply` -/

/-- Every output is in its file, and no other file is managed. -/
structure Applied (libraries : Libraries) (filePrefix : List Char)
    (outputs : List Output) (before directory : Directory) : Prop where
  settled : Settled libraries filePrefix outputs before directory
  carries : (outputs.map (·.name)).Nodup →
    ∀ out ∈ outputs, Carries directory out
  nothingElse : ∀ name content, isManaged filePrefix name = true →
    name ∉ outputs.map (·.name) →
    directory.lookup name ≠ some (.regular content)

theorem Cleared.applied {middle : Directory}
    (written : Written libraries filePrefix outputs before start outputs middle)
    (cleared : Cleared libraries filePrefix outputs before middle
      (managedFiles filePrefix middle.list) directory) :
    Applied libraries filePrefix outputs before directory where
  settled := cleared.settled
  carries := by
    intro distinct out member
    apply (written.carries distinct out member).of_lookup
    exact cleared.rest _ (.inr (List.mem_map_of_mem member))
  nothingElse := by
    intro name content managed unwanted found
    by_cases listed : name ∈ managedFiles filePrefix middle.list
    · rw [cleared.gone name listed unwanted] at found
      cases found
    · rw [cleared.rest name (.inl listed)] at found
      exact listed (mem_managedFiles.mpr ⟨managed, content, found⟩)

variable (libraries filePrefix outputs before) in
theorem apply_survives :
    (apply libraries filePrefix outputs).Survives operate
      (orElse (fun _ => Applied libraries filePrefix outputs before)
        (CrashSafe libraries filePrefix outputs before))
      (CrashSafe libraries filePrefix outputs before) before := by
  have unchanged : CrashSafe libraries filePrefix outputs before before :=
    .settled .refl
  unfold apply
  split
  · exact unchanged
  · cases checked : checkOutputs libraries filePrefix outputs with
    | error error => exact unchanged
    | ok value =>
        apply (writeOutputs_survives checked (fun _ member => member)
          .refl).seq
        intro _ middle written
        apply (managed_survives (.settled written.settled)).seq
        intro names state listed
        obtain ⟨rfl, rfl⟩ := listed
        have managed : ∀ name ∈ managedFiles filePrefix state.list,
            isManaged filePrefix name = true :=
          fun name member => (mem_managedFiles.mp member).1
        apply (removeUnwanted_survives managed written.settled).seq
        intro removed directory cleared
        have applied := Cleared.applied written cleared
        have synced : (operation .syncDir).Survives operate
            (fun _ => Applied libraries filePrefix outputs before)
            (Applied libraries filePrefix outputs before) directory :=
          looking_survives rfl applied
        have syncs : ∀ condition, (Program.onlyIf condition
            (operation .syncDir)).Survives operate
            (orElse (fun _ => Applied libraries filePrefix outputs before)
              (CrashSafe libraries filePrefix outputs before))
            (CrashSafe libraries filePrefix outputs before) directory := by
          intro condition
          cases condition with
          | false => exact applied
          | true =>
              apply synced.mono
              · intro result state atEnd
                cases result with
                | ok value => exact atEnd
                | error error => exact .settled atEnd.settled
              · exact fun _ stopped => .settled stopped.settled
        exact (syncs _).seq fun _ _ atEnd => atEnd

/-! ## Cleaning up -/

/-- Nothing but temporary files has changed. -/
def Spared (filePrefix : List Char) (start directory : Directory) : Prop :=
  ∀ name, isTemp filePrefix name = false →
    directory.lookup name = start.lookup name

/-- What has been done once these entries have been looked at. -/
structure Swept (filePrefix : List Char) (start : Directory)
    (entries : List DirEntry) (directory : Directory) : Prop where
  spared : Spared filePrefix start directory
  gone : ∀ entry ∈ entries, entry.isRegular = true →
    isTemp filePrefix entry.name = true → directory.lookup entry.name = none
  rest : ∀ name, (∀ entry ∈ entries, entry.isRegular = true →
      entry.name ≠ name) →
    directory.lookup name = start.lookup name

theorem Removed.spared (isTemp : isTemp filePrefix name = true)
    (removed : Removed start name directory) :
    Spared filePrefix start directory := by
  intro other permanent
  apply removed.rest
  intro same
  subst same
  rw [isTemp] at permanent
  cases permanent

theorem Spared.trans {middle : Directory}
    (first : Spared filePrefix start middle)
    (second : Spared filePrefix middle directory) :
    Spared filePrefix start directory := by
  intro name permanent
  rw [second name permanent]
  exact first name permanent

theorem cleanupTempOf_survives {entries : List DirEntry}
    (distinct : (entries.map (·.name)).Nodup) :
    (cleanupTempOf filePrefix entries).Survives operate
      (orElse (fun _ => Swept filePrefix start entries)
        (Spared filePrefix start))
      (Spared filePrefix start) start := by
  have unchanged : ∀ directory : Directory,
      Spared filePrefix directory directory := fun _ _ _ => rfl
  induction entries generalizing start with
  | nil =>
      exact ⟨unchanged start, fun _ member => absurd member List.not_mem_nil,
        fun _ _ => rfl⟩
  | cons entry entries induction =>
      obtain ⟨fresh, later⟩ := List.nodup_cons.mp distinct
      simp only [cleanupTempOf]
      split
      · rename_i isLeftover
        obtain ⟨isRegular, isTemp⟩ := Bool.and_eq_true_iff.mp isLeftover
        have removes : (removeIfThere entry.name).Survives operate
            (orElse (fun _ => Removed start entry.name)
              (Spared filePrefix start))
            (Spared filePrefix start) start :=
          removeIfThere_survives (unchanged start)
            fun _ => Removed.spared isTemp
        apply removes.seq
        intro _ middle removed
        have first := removed.spared isTemp
        apply (induction later).mono
        · intro result directory atEnd
          cases result with
          | error error => exact first.trans atEnd
          | ok value =>
              refine ⟨first.trans atEnd.spared, ?_, ?_⟩
              · intro other member regular temp
                rcases List.mem_cons.mp member with here | member
                · subst here
                  rw [atEnd.rest other.name ?_]
                  · exact removed.own
                  · intro again member _ same
                    exact fresh (List.mem_map.mpr ⟨again, member, same⟩)
                · exact atEnd.gone other member regular temp
              · intro name unlisted
                rw [atEnd.rest name fun other member =>
                  unlisted other (List.mem_cons_of_mem _ member)]
                apply removed.rest
                exact Ne.symm (unlisted entry List.mem_cons_self isRegular)
        · exact fun _ stopped => first.trans stopped
      · rename_i isOther
        apply (induction later).mono
        · intro result directory atEnd
          cases result with
          | error error => exact atEnd
          | ok value =>
              refine ⟨atEnd.spared, ?_, ?_⟩
              · intro other member regular temp
                rcases List.mem_cons.mp member with here | member
                · subst here
                  exact absurd (Bool.and_eq_true_iff.mpr ⟨regular, temp⟩)
                    isOther
                · exact atEnd.gone other member regular temp
              · intro name unlisted
                exact atEnd.rest name fun other member =>
                  unlisted other (List.mem_cons_of_mem _ member)
        · exact fun _ stopped => stopped

theorem list_distinct : (directory.list.map (·.name)).Nodup := by
  have permuted := (List.perm_insertionSort
    (fun first second : DirEntry => first.name.chars ≤ second.name.chars)
    (directory.entries.map fun entry =>
      DirEntry.mk entry.1 entry.2.isRegular)).map (·.name)
  apply permuted.nodup_iff.mpr
  rw [List.map_map]
  exact directory.nodupKeys

variable (filePrefix start) in
/-- After a cleanup without an error no leftover is there; a cleanup changes
nothing else. -/
theorem cleanupTemp_survives :
    (cleanupTemp filePrefix).Survives operate
      (orElse (fun _ state => Spared filePrefix start state ∧
          ∀ name, isTemp filePrefix name = true →
            start.lookup name ≠ some .other → state.lookup name = none)
        (Spared filePrefix start))
      (Spared filePrefix start) start := by
  have unchanged : Spared filePrefix start start := fun _ _ => rfl
  apply (readDir_survives unchanged).bind
  · intro entries state atEnd
    obtain ⟨rfl, rfl⟩ := atEnd
    apply (cleanupTempOf_survives list_distinct).mono
    · intro result directory atEnd
      cases result with
      | error error => exact atEnd
      | ok value =>
          refine ⟨atEnd.spared, ?_⟩
          intro name isTemp isFile
          cases found : state.lookup name with
          | none =>
              rw [← found]
              apply atEnd.rest
              intro entry member regular same
              subst same
              obtain ⟨held, stored, -⟩ := Directory.mem_list.mp member
              rw [found] at stored
              cases stored
          | some entry =>
              cases entry with
              | other => exact absurd found isFile
              | regular content =>
                  have listed : DirEntry.mk name true ∈ state.list :=
                    Directory.mem_list.mpr ⟨_, found, rfl⟩
                  exact atEnd.gone _ listed rfl isTemp
    · exact fun _ stopped => stopped
  · intro error state same
    have here : state = start := same
    subst here
    exact unchanged

end FluxIP.Apply
