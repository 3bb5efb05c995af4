import FluxIP.Agent.Writing

/-!
# The output directory survives a crash

`Apply` may be killed between any two of its file operations, or inside one of
them, and any of them may fail.  No managed file is ever found half way.
-/

namespace FluxIP

open Async Files

/-- What is in the directory at some point of `Apply`. -/
structure LeavesWhole (libraries : Libraries) (filePrefix : List Char)
    (outputs : List Output) (before after : Directory) : Prop where
  /-- A managed file has its old content, the new content of its output, or is
  gone because no output has its name. -/
  managed : ∀ name, Apply.isManaged filePrefix name = true →
    after.lookup name = before.lookup name ∨
    (∃ out ∈ outputs, out.name = name ∧
      Apply.validate libraries name out.content = .ok () ∧
      after.lookup name = some (.regular out.content)) ∨
    (name ∉ outputs.map (·.name) ∧ after.lookup name = none)
  /-- Besides, there is at most one new file: `Managed` never lists it, and a
  cleanup removes it. -/
  others : ∃ leftover : Option FileName,
    (∀ name, leftover = some name →
      Apply.isTemp filePrefix name = true ∧ before.lookup name = none ∧
      (∀ directory : Directory,
        name ∉ Apply.managedFiles filePrefix directory.list) ∧
      ∀ choices cleaned,
        (Apply.cleanupTemp filePrefix).run operate choices after =
          (.returned (), cleaned) →
        cleaned.lookup name = none) ∧
    ∀ name, Apply.isManaged filePrefix name = false →
      leftover ≠ some name → after.lookup name = before.lookup name

variable {libraries : Libraries} {filePrefix : List Char}
variable {outputs : List Output} {before after : Directory}

theorem Apply.Fate.managed {name : FileName} {entry : Option Entry}
    (fate : Apply.Fate libraries filePrefix outputs before name entry) :
    entry = before.lookup name ∨
    (∃ out ∈ outputs, out.name = name ∧
      Apply.validate libraries name out.content = .ok () ∧
      entry = some (.regular out.content)) ∨
    (name ∉ outputs.map (·.name) ∧ entry = none) := by
  cases fate with
  | kept => exact .inl rfl
  | replaced member own isPrefix valid =>
      exact .inr (.inl ⟨_, member, own, valid, rfl⟩)
  | removed isManaged unwanted => exact .inr (.inr ⟨unwanted, rfl⟩)

/-- `Managed` lists no leftover. -/
theorem Apply.not_mem_managedFiles_of_isTemp {name : FileName}
    (isTemp : Apply.isTemp filePrefix name = true) (directory : Directory) :
    name ∉ Apply.managedFiles filePrefix directory.list := by
  intro listed
  have isManaged := (Apply.mem_managedFiles.mp listed).1
  rw [Apply.not_isManaged_of_isTemp isTemp] at isManaged
  cases isManaged

/-- A cleanup removes every leftover. -/
theorem Apply.cleanupTemp_removes {name : FileName} {choices : List Choice}
    {cleaned : Directory}
    (isTemp : Apply.isTemp filePrefix name = true)
    (isFile : after.lookup name ≠ some .other)
    (returned : (Apply.cleanupTemp filePrefix).run operate choices after =
      (.returned (), cleaned)) : cleaned.lookup name = none := by
  have ends := (Apply.cleanupTemp_survives filePrefix after).sound choices
  rw [returned] at ends
  exact ends.2 name isTemp isFile

theorem Apply.CrashSafe.leavesWhole
    (safe : Apply.CrashSafe libraries filePrefix outputs before after) :
    LeavesWhole libraries filePrefix outputs before after := by
  cases safe with
  | settled settled =>
      refine ⟨fun name _ => (settled name).managed, none, ?_, ?_⟩
      · intro name impossible
        cases impossible
      · intro name unmanaged _
        exact (settled name).of_not_managed unmanaged
  | @littered tmp isTemp wasFree isFile rest =>
      have safe : Apply.CrashSafe libraries filePrefix outputs before after :=
        .littered isTemp wasFree isFile rest
      refine ⟨fun name isManaged => (safe.fate isManaged).managed, some tmp,
        ?_, ?_⟩
      · intro name isLeftover
        cases isLeftover
        exact ⟨isTemp, wasFree,
          Apply.not_mem_managedFiles_of_isTemp isTemp,
          fun _ _ => Apply.cleanupTemp_removes isTemp isFile⟩
      · intro name unmanaged different
        apply (rest name _).of_not_managed unmanaged
        intro same
        subst same
        exact different rfl

/-- The environment may fail any operation, before or after its effect, stop a
write half way, and cut the run after any operation. -/
theorem apply_leaves_whole (libraries : Libraries) (filePrefix : List Char)
    (outputs : List Output) (choices : List Choice) (before : Directory) :
    LeavesWhole libraries filePrefix outputs before
      ((Apply.apply libraries filePrefix outputs).run operate choices
        before).2 := by
  have ends := (Apply.apply_survives libraries filePrefix outputs
    before).sound choices
  apply Apply.CrashSafe.leavesWhole
  apply ends.everywhere
  intro result atEnd
  cases result with
  | ok value => exact .settled atEnd.settled
  | error error => exact atEnd

end FluxIP
