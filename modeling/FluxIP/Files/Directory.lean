import Mathlib.Data.Char
import Mathlib.Data.List.AList
import Mathlib.Data.List.Lex
import Mathlib.Data.List.Sort
import FluxIP.Async.Crash

/-!
# A directory and the operations on it

A program works on one directory by single file operations.  An operation may
be refused, may fail without or after its effect, and a write may stop half
way; the process may be killed between any two of them.  `rename` replaces its
target in one step.
-/

namespace Files

open Async

/-- The name of an entry of the directory. -/
structure FileName where
  chars : List Char
  noSeparator : '/' ∉ chars
  deriving DecidableEq

abbrev Content := List UInt8

/-- A regular file, or anything else an entry can be: a link, a directory. -/
inductive Entry where
  | regular (content : Content)
  | other
  deriving DecidableEq, Repr

def Entry.isRegular : Entry → Bool
  | .regular _ => true
  | .other => false

abbrev Directory := AList fun _ : FileName => Entry

/-- An error, of which only the text and whether it says that there is no such
file are ever looked at. -/
structure FileErr where
  text : String
  notExist : Bool := false
  deriving DecidableEq, Repr

/-- What `readDir` says of an entry. -/
structure DirEntry where
  name : FileName
  isRegular : Bool
  deriving DecidableEq

/-- The operations.  `create` refuses a name that is taken; `random` asks for so
many random bytes. -/
inductive Operation where
  | random (count : Nat)
  | readFile (name : FileName)
  | create (name : FileName)
  | write (name : FileName) (content : Content)
  | sync (name : FileName)
  | close (name : FileName)
  | rename (old new : FileName)
  | remove (name : FileName)
  | readDir
  | syncDir

abbrev Operation.Answer : Operation → Type
  | .random _ => Content
  | .readFile _ => Content
  | .readDir => List DirEntry
  | _ => Unit

def fileSystem : Signature where
  Call := Operation
  Answer := Operation.Answer

/-- A program on the directory. -/
abbrev FileProgram := Program fileSystem FileErr

def operation (operation : Operation) : FileProgram operation.Answer :=
  Program.perform (S := fileSystem) operation

/-- What the environment decides about an operation.  `bytes` are the random
bytes, or what is read through an entry that is not a regular file. -/
inductive Choice where
  | succeeds (bytes : Content)
  | fails (text : String) (afterEffect : Bool)
  | stopsHalfWay (text : String) (written : Nat)

def Directory.list (directory : Directory) : List DirEntry :=
  (directory.entries.map fun entry =>
    DirEntry.mk entry.1 entry.2.isRegular).insertionSort
      fun first second => first.name.chars ≤ second.name.chars

namespace Operation

/-- Why the operation cannot be carried out, if it cannot. -/
def refusal (directory : Directory) : Operation → Option FileErr
  | .readFile name | .remove name | .rename name _ =>
      if name ∈ directory then none
      else some ⟨"no such file or directory", true⟩
  | .create name =>
      if name ∈ directory then some ⟨"file exists", false⟩ else none
  | _ => none

def effect (directory : Directory) : Operation → Directory
  | .create name =>
      if name ∈ directory then directory
      else directory.insert name (.regular [])
  | .write name content =>
      match directory.lookup name with
      | some (.regular old) => directory.insert name (.regular (old ++ content))
      | _ => directory
  | .rename old new =>
      match directory.lookup old with
      | some entry => (directory.erase old).insert new entry
      | none => directory
  | .remove name => directory.erase name
  | _ => directory

def value (directory : Directory) (bytes : Content) :
    (operation : Operation) → operation.Answer
  | .random _ => bytes
  | .readFile name =>
      match directory.lookup name with
      | some (.regular content) => content
      | _ => bytes
  | .readDir => directory.list
  | .create _ | .write _ _ | .sync _ | .close _ | .rename _ _ | .remove _
  | .syncDir => ()

/-- So many random bytes are what `random` answers with. -/
def isReady (bytes : Content) : Operation → Bool
  | .random count => decide (bytes.length = count)
  | _ => true

end Operation

def operate : Semantics fileSystem FileErr Choice Directory
  | operation, .succeeds bytes, directory =>
      match Operation.refusal directory operation with
      | some error => some (.error error, directory)
      | none =>
          if Operation.isReady bytes operation then
            some (.ok (Operation.value directory bytes operation),
              Operation.effect directory operation)
          else none
  | operation, .fails text afterEffect, directory =>
      some (.error ⟨text, false⟩,
        if afterEffect then Operation.effect directory operation
        else directory)
  | .write name content, .stopsHalfWay text written, directory =>
      some (.error ⟨text, false⟩,
        Operation.effect directory (.write name (content.take written)))
  | _, .stopsHalfWay _ _, _ => none

/-! ## What an operation leaves behind -/

variable {directory : Directory} {name old new : FileName}

namespace Operation

theorem lookup_create_self (free : name ∉ directory) :
    (effect directory (.create name)).lookup name = some (.regular []) := by
  simp only [effect, free, if_false]
  exact AList.lookup_insert directory

/-- A name that is not the operation's own keeps its entry. -/
theorem lookup_create {other : FileName} (different : other ≠ name) :
    (effect directory (.create name)).lookup other =
      directory.lookup other := by
  simp only [effect]
  split
  · rfl
  · exact AList.lookup_insert_ne different

theorem lookup_write_self {before content : Content}
    (found : directory.lookup name = some (.regular before)) :
    (effect directory (.write name content)).lookup name =
      some (.regular (before ++ content)) := by
  simp only [effect, found]
  exact AList.lookup_insert directory

theorem lookup_write {other : FileName} {content : Content}
    (different : other ≠ name) :
    (effect directory (.write name content)).lookup other =
      directory.lookup other := by
  simp only [effect]
  split
  · exact AList.lookup_insert_ne different
  · rfl

theorem lookup_rename_new {entry : Entry}
    (found : directory.lookup old = some entry) :
    (effect directory (.rename old new)).lookup new = some entry := by
  simp only [effect, found]
  exact AList.lookup_insert (directory.erase old)

theorem lookup_rename_old (different : old ≠ new) :
    (effect directory (.rename old new)).lookup old = none := by
  simp only [effect]
  split
  · rw [AList.lookup_insert_ne different]
    exact AList.lookup_erase old directory
  · assumption

theorem lookup_rename {other : FileName} (notOld : other ≠ old)
    (notNew : other ≠ new) :
    (effect directory (.rename old new)).lookup other =
      directory.lookup other := by
  simp only [effect]
  split
  · rw [AList.lookup_insert_ne notNew]
    exact AList.lookup_erase_ne notOld
  · rfl

theorem lookup_remove_self :
    (effect directory (.remove name)).lookup name = none :=
  AList.lookup_erase name directory

theorem lookup_remove {other : FileName} (different : other ≠ name) :
    (effect directory (.remove name)).lookup other =
      directory.lookup other :=
  AList.lookup_erase_ne different

end Operation

theorem Directory.mem_list {entry : DirEntry} :
    entry ∈ directory.list ↔
      ∃ held, directory.lookup entry.name = some held ∧
        held.isRegular = entry.isRegular := by
  unfold Directory.list
  rw [List.mem_insertionSort, List.mem_map]
  constructor
  · intro member
    obtain ⟨⟨name, held⟩, stored, rfl⟩ := member
    exact ⟨held, AList.mem_lookup_iff.mpr stored, rfl⟩
  · intro found
    obtain ⟨held, stored, regular⟩ := found
    refine ⟨⟨entry.name, held⟩, AList.mem_lookup_iff.mp stored, ?_⟩
    simp only [regular]

/-- How an operation can fail, and what is there after it. -/
inductive Fails (directory : Directory) :
    Operation → FileErr → Directory → Prop where
  | refused {operation error} :
      Operation.refusal directory operation = some error →
      Fails directory operation error directory
  | before {operation text} :
      Fails directory operation ⟨text, false⟩ directory
  | after {operation text} :
      Fails directory operation ⟨text, false⟩
        (Operation.effect directory operation)
  | halfWay {name content text written} :
      Fails directory (.write name content) ⟨text, false⟩
        (Operation.effect directory (.write name (content.take written)))

theorem operate_cases {operation : Operation} {choice : Choice}
    {answer : Except FileErr operation.Answer} {after : Directory}
    (operated : operate operation choice directory = some (answer, after)) :
    (∃ bytes, Operation.refusal directory operation = none ∧
      answer = .ok (Operation.value directory bytes operation) ∧
      after = Operation.effect directory operation) ∨
    ∃ error, answer = .error error ∧
      Fails directory operation error after := by
  cases choice with
  | succeeds bytes =>
      cases refused : Operation.refusal directory operation with
      | some error =>
          simp only [operate, refused] at operated
          obtain ⟨rfl, rfl⟩ := Prod.mk.inj (Option.some.inj operated)
          exact .inr ⟨error, rfl, .refused refused⟩
      | none =>
          simp only [operate, refused] at operated
          split at operated
          · obtain ⟨rfl, rfl⟩ := Prod.mk.inj (Option.some.inj operated)
            exact .inl ⟨bytes, rfl, rfl, rfl⟩
          · cases operated
  | fails text afterEffect =>
      obtain ⟨rfl, rfl⟩ := Prod.mk.inj (Option.some.inj operated)
      cases afterEffect with
      | false => exact .inr ⟨_, rfl, .before⟩
      | true => exact .inr ⟨_, rfl, .after⟩
  | stopsHalfWay text written =>
      cases operation with
      | write name content =>
          obtain ⟨rfl, rfl⟩ := Prod.mk.inj (Option.some.inj operated)
          exact .inr ⟨_, rfl, .halfWay⟩
      | _ => cases operated

/-- The rule for one operation. -/
theorem operation_survives {op : Operation}
    {post : Except FileErr op.Answer → Directory → Prop}
    {crash : Directory → Prop} (stopped : crash directory)
    (succeeds : ∀ bytes, Operation.refusal directory op = none →
      post (.ok (Operation.value directory bytes op))
        (Operation.effect directory op))
    (fails : ∀ error after, Fails directory op error after →
      post (.error error) after) :
    (operation op).Survives operate post crash directory := by
  apply Program.Survives.perform stopped
  intro choice answer after operated
  rcases operate_cases operated with succeeded | failed
  · obtain ⟨bytes, accepted, rfl, rfl⟩ := succeeded
    exact succeeds bytes accepted
  · obtain ⟨error, rfl, failed⟩ := failed
    exact fails error after failed

/-- Reading the directory. -/
theorem readDir_survives {crash : Directory → Prop}
    (stopped : crash directory) :
    (operation .readDir).Survives operate
      (orElse (fun entries state => state = directory ∧
        entries = directory.list) (fun state => state = directory))
      crash directory := by
  apply @operation_survives directory .readDir
  · exact stopped
  · exact fun _ _ => ⟨rfl, rfl⟩
  · intro error after fails
    cases fails with
    | refused => rfl
    | before => rfl
    | after => rfl

/-- Operations that only look. -/
def Operation.looks : Operation → Bool
  | .create _ | .write _ _ | .rename _ _ | .remove _ => false
  | _ => true

theorem Operation.effect_of_looks {op : Operation}
    (looks : op.looks = true) : op.effect directory = directory := by
  cases op with
  | create _ | write _ _ | rename _ _ | remove _ => cases looks
  | _ => rfl

theorem Fails.of_looks {op : Operation} {error : FileErr} {after : Directory}
    (looks : op.looks = true) (fails : Fails directory op error after) :
    after = directory := by
  cases fails with
  | refused => rfl
  | before => rfl
  | after => exact Operation.effect_of_looks looks
  | halfWay => cases looks

/-- The rule for an operation that only looks, where its answer does not
matter. -/
theorem looking_survives {op : Operation} (looks : op.looks = true)
    {assertion : Directory → Prop} (here : assertion directory) :
    (operation op).Survives operate (fun _ => assertion) assertion
      directory := by
  apply operation_survives here
  · intro bytes accepted
    rw [Operation.effect_of_looks looks]
    exact here
  · intro error after fails
    rw [fails.of_looks looks]
    exact here

end Files
