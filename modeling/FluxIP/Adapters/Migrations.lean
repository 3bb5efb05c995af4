import FluxIP.Async.Pool
import FluxIP.Text.Utf16
import Mathlib.Data.List.Perm.Basic
import Mathlib.Logic.Function.Basic

/-!
# The migration runner

A run takes a session from the pool, waits for the advisory lock, and applies
each file that is not recorded in a transaction of its own.  A session and what
it holds end when the server ends it, which can happen at any time.  Of the
database only the recorded files and the statements that have taken effect
matter here.
-/

namespace FluxIP

open Async

/-! ## The database -/

/-- `schema_migrations`, if it exists, and the statements of migration files
that have taken effect. -/
structure Tables where
  schemaMigrations : Option (List String) := none
  effects : List String := []
  deriving DecidableEq, Repr

inductive Write where
  | createTable
  | execute (statements : List String)
  | insert (filename : String)
  deriving DecidableEq, Repr

def Write.apply (tables : Tables) : Write → Tables
  | .createTable =>
      { tables with
        schemaMigrations := some (tables.schemaMigrations.getD []) }
  | .execute statements =>
      { tables with effects := tables.effects ++ statements }
  | .insert filename =>
      { tables with
        schemaMigrations := tables.schemaMigrations.map (· ++ [filename]) }

/-- A transaction that was begun: its writes, or an error after which only its
end is accepted. -/
inductive Transaction where
  | «open» (writes : List Write)
  | aborted
  deriving DecidableEq, Repr

/-- A session of the server.  A client that has lost its connection cannot use
it any more. -/
structure DatabaseSession where
  owner : Option Nat
  transaction : Option Transaction := none
  usable : Bool := true
  deriving DecidableEq, Repr

/-- `lock` is the session that holds the advisory lock, and how many times. -/
structure Database where
  tables : Tables := {}
  lock : Option (Nat × Nat) := none
  sessions : Nat → Option DatabaseSession := fun _ => none
  nextSession : Nat := 0

inductive MigrationErr where
  | database (message : String)
  | file (message : String)
  | migration (filename : String) (cause : MigrationErr)
  | outdated (pending : List String)
  deriving DecidableEq, Repr

/-! ## Queries -/

inductive Query where
  | lock
  | createTable
  | select
  | begin
  | execute (statements : List String)
  | insert (filename : String)
  | commit
  | rollback
  | unlock
  deriving DecidableEq, Repr

@[reducible] def Query.Answer : Query → Type
  | .select => List String
  | _ => Unit

/-- How a query ends.  `failed` is an error of the server; `broken` is a lost
connection, after the query was carried out or before. -/
inductive QueryFate where
  | ok
  | failed (message : String)
  | broken (message : String) (carriedOut : Bool)
  deriving DecidableEq, Repr

/-- The query is carried out, whatever its client sees. -/
def QueryFate.takesEffect : QueryFate → Bool
  | .ok => true
  | .failed _ => false
  | .broken _ carriedOut => carriedOut

/-- What the environment decides about a call: the idle session that is taken
from the pool, if any, and the order of rows or directory entries. -/
structure MigrationChoice where
  fate : QueryFate := .ok
  session : Option Nat := none
  listed : List String := []
  deriving DecidableEq, Repr

/-- The tables as a session sees them. -/
def DatabaseSession.view (session : DatabaseSession) (tables : Tables) :
    Tables :=
  match session.transaction with
  | some (.open writes) => writes.foldl Write.apply tables
  | _ => tables

namespace Database

def setSession (database : Database) (id : Nat)
    (session : Option DatabaseSession) : Database :=
  { database with sessions := Function.update database.sessions id session }

/-- An error ends what a transaction accepts. -/
def abort (database : Database) (id : Nat) (session : DatabaseSession) :
    Database :=
  database.setSession id
    (some { session with transaction := session.transaction.map fun _ => .aborted })

/-- A write waits for the end of its transaction; outside of one it takes
effect at once. -/
def write (database : Database) (id : Nat) (session : DatabaseSession)
    (write : Write) : Database :=
  match session.transaction with
  | some (.open writes) => database.setSession id
      (some { session with transaction := some (.open (writes ++ [write])) })
  | _ => { database with tables := write.apply database.tables }

def commit (database : Database) (id : Nat) (session : DatabaseSession) :
    Database :=
  { database with tables := session.view database.tables }.setSession id
    (some { session with transaction := none })

/-- The query in a session that takes queries, if it need not wait.  Nobody
waits for a row: the advisory lock comes first. -/
def carryOut (database : Database) (id : Nat) (session : DatabaseSession)
    (listed : List String) :
    (query : Query) → Option (Except MigrationErr query.Answer × Database)
  | .lock =>
      match database.lock with
      | none => some (.ok (), { database with lock := some (id, 1) })
      | some (holder, depth) =>
          if holder = id then
            some (.ok (), { database with lock := some (id, depth + 1) })
          else none
  | .createTable => some (.ok (), database.write id session .createTable)
  | .select =>
      match (session.view database.tables).schemaMigrations with
      | none => some (.error (.database "undefined table"),
          database.abort id session)
      | some rows =>
          if listed.isPerm rows then some (.ok listed, database) else none
  | .begin =>
      some (.ok (), database.setSession id (some { session with
        transaction := some (session.transaction.getD (.open [])) }))
  | .execute statements =>
      some (.ok (), database.write id session (.execute statements))
  | .insert filename =>
      match (session.view database.tables).schemaMigrations with
      | none => some (.error (.database "undefined table"),
          database.abort id session)
      | some rows =>
          if filename ∈ rows then
            some (.error (.database "unique violation"),
              database.abort id session)
          else some (.ok (), database.write id session (.insert filename))
  | .commit => some (.ok (), database.commit id session)
  | .rollback =>
      some (.ok (), database.setSession id
        (some { session with transaction := none }))
  | .unlock =>
      some (.ok (), { database with
        lock := match database.lock with
          | some (holder, depth) =>
              if holder = id then
                if depth ≤ 1 then none else some (id, depth - 1)
              else some (holder, depth)
          | none => none })

/-- The query as the server takes it: a transaction with an error accepts only
its end. -/
def accept (database : Database) (id : Nat) (session : DatabaseSession)
    (listed : List String) (query : Query) :
    Option (Except MigrationErr query.Answer × Database) :=
  if session.transaction = some .aborted ∧ query ≠ .commit ∧
      query ≠ .rollback then
    some (.error (.database "transaction is aborted"), database)
  else database.carryOut id session listed query

/-- An error of the server.  A commit that fails ends the transaction; a
rollback does not fail. -/
def reject (database : Database) (id : Nat) (session : DatabaseSession) :
    Query → Option Database
  | .commit => some (database.setSession id
      (some { session with transaction := none }))
  | .rollback => none
  | _ => some (database.abort id session)

/-- The client cannot use the session any more. -/
def disconnect (database : Database) (id : Nat) : Database :=
  database.setSession id
    ((database.sessions id).map ({ · with usable := false }))

def query (database : Database) (id : Nat) (choice : MigrationChoice)
    (query : Query) : Option (Except MigrationErr query.Answer × Database) :=
  match database.sessions id with
  | none => some (.error (.database "connection terminated"), database)
  | some session =>
      if session.usable then
        match choice.fate with
        | .ok => database.accept id session choice.listed query
        | .failed message => (database.reject id session query).map
            (.error (.database message), ·)
        | .broken message true =>
            (database.accept id session choice.listed query).map fun result =>
              (.error (.database message), result.2.disconnect id)
        | .broken message false =>
            some (.error (.database message), database.disconnect id)
      else some (.error (.database "connection terminated"), database)

/-! ## Sessions -/

/-- `pool.connect`: an idle session, or a new one. -/
def connect (database : Database) (run : Nat) :
    Option Nat → Option (Nat × Database)
  | none => some (database.nextSession,
      { database with nextSession := database.nextSession + 1 }.setSession
        database.nextSession (some { owner := some run }))
  | some id =>
      match database.sessions id with
      | some session =>
          if session.usable ∧ session.owner = none then
            some (id, database.setSession id
              (some { session with owner := some run }))
          else none
      | none => none

/-- `client.release`: a client without a connection is not used again. -/
def release (database : Database) (id : Nat) : Database :=
  match database.sessions id with
  | some session =>
      if session.usable then
        database.setSession id (some { session with owner := none })
      else database
  | none => database

/-- The server ends a session: its transaction is rolled back and its lock
released. -/
def endSession (database : Database) (id : Nat) : Database :=
  { database with
    lock := database.lock.filter (·.1 ≠ id) }.setSession id none

end Database

/-! ## Calls -/

/-- `regclass` and `selectPooled` are queries of the pool: they are read in a
session that nobody has, outside of any transaction. -/
inductive MigrationCall where
  | connect (run : Nat)
  | query (client : Nat) (query : Query)
  | release (client : Nat)
  | regclass
  | selectPooled
  | readdir
  | readFile (filename : String)
  | endSession (session : Nat)
  deriving DecidableEq, Repr

@[reducible] def MigrationCall.Answer : MigrationCall → Type
  | .connect _ => Nat
  | .query _ sent => sent.Answer
  | .regclass => Bool
  | .selectPooled => List String
  | .readdir => List String
  | .readFile _ => List String
  | _ => Unit

@[reducible] def migrations : Signature := ⟨MigrationCall, MigrationCall.Answer⟩

/-- A directory: its entries, and the statements of each file. -/
structure MigrationsDir where
  entries : List String
  distinct : entries.Nodup
  statements : String → List String

/-- A call whose failure changes nothing. -/
def attemptRead {α : Type} (choice : MigrationChoice)
    (error : String → MigrationErr) (answer : Option (Except MigrationErr α))
    (database : Database) : Option (Except MigrationErr α × Database) :=
  match choice.fate with
  | .ok => answer.map (·, database)
  | .failed message => some (.error (error message), database)
  | .broken message _ => some (.error (error message), database)

def migrationSemantics (dir : MigrationsDir) :
    Semantics migrations MigrationErr MigrationChoice Database
  | .connect run, choice, database =>
      match choice.fate with
      | .ok => (database.connect run choice.session).map fun result =>
          (.ok result.1, result.2)
      | .failed message => some (.error (.database message), database)
      | .broken message _ => some (.error (.database message), database)
  | .query client sent, choice, database =>
      database.query client choice sent
  | .release client, _, database => some (.ok (), database.release client)
  | .regclass, choice, database =>
      attemptRead choice .database
        (some (.ok database.tables.schemaMigrations.isSome)) database
  | .selectPooled, choice, database =>
      attemptRead choice .database
        (match database.tables.schemaMigrations with
          | none => some (.error (.database "undefined table"))
          | some rows =>
              if choice.listed.isPerm rows then some (.ok choice.listed)
              else none)
        database
  | .readdir, choice, database =>
      attemptRead choice .file
        (if choice.listed.isPerm dir.entries then some (.ok choice.listed)
          else none)
        database
  | .readFile filename, choice, database =>
      attemptRead choice .file (some (.ok (dir.statements filename))) database
  | .endSession session, _, database =>
      some (.ok (), database.endSession session)

/-! ## The programs -/

abbrev MigrationProgram (α : Type) := Program migrations MigrationErr α

namespace Migrate

def call (call : MigrationCall) : MigrationProgram call.Answer :=
  @Program.perform migrations MigrationErr call

def sendQuery (client : Nat) (query : Query) : MigrationProgram query.Answer :=
  call (.query client query)

/-- `.catch(() => undefined)` -/
def ignoring (program : MigrationProgram Unit) : MigrationProgram Unit :=
  program.tryCatch fun _ => .done ()

/-- The names of a listing that end in `.sql`, sorted. -/
def migrationFiles (listing : List String) : List String :=
  Utf16.sort (listing.filter fun name => ".sql".toList.isSuffixOf name.toList)

/-- One file in a transaction of its own. -/
def applyFile (client : Nat) (file : String) (sql : List String) :
    MigrationProgram Unit :=
  Program.tryCatch
    (do
      sendQuery client .begin
      sendQuery client (.execute sql)
      sendQuery client (.insert file)
      sendQuery client .commit)
    fun cause => do
      ignoring (sendQuery client .rollback)
      .fail (.migration file cause)

/-- The loop over the files; `applied` are those of this run. -/
def applyFiles (client : Nat) (alreadyApplied : List String) :
    (files applied : List String) → MigrationProgram (List String)
  | [], applied => .done applied
  | file :: files, applied =>
      if file ∈ alreadyApplied then applyFiles client alreadyApplied files applied
      else do
        let sql ← call (.readFile file)
        applyFile client file sql
        applyFiles client alreadyApplied files (applied ++ [file])

/-- What a run does while it has a session. -/
def migrate (client : Nat) : MigrationProgram (List String) := do
  sendQuery client .lock
  sendQuery client .createTable
  let alreadyApplied ← sendQuery client .select
  let listing ← call .readdir
  applyFiles client alreadyApplied (migrationFiles listing) []

def runMigrations (run : Nat) : MigrationProgram (List String) := do
  let client ← call (.connect run)
  Program.tryFinally (migrate client)
    (do
      ignoring (sendQuery client .unlock)
      call (.release client))

/-- The recorded files, if the table is there. -/
def recordedFiles (present : Bool) : MigrationProgram (List String) :=
  if present then call .selectPooled else pure []

def assertSchemaCurrent : MigrationProgram Unit := do
  let present ← call .regclass
  let alreadyApplied ← recordedFiles present
  let listing ← call .readdir
  let pending := (migrationFiles listing).filter (· ∉ alreadyApplied)
  if pending = [] then pure () else .fail (.outdated pending)

end Migrate

/-! ## The processes on one database -/

inductive MigrationCommand where
  | runMigrations
  | assertSchemaCurrent
  | endSession (session : Nat)
  deriving DecidableEq, Repr

/-- Something that happens at the database; `number` tells runs apart. -/
structure MigrationRequest where
  number : Nat
  command : MigrationCommand
  deriving DecidableEq, Repr

inductive MigrationResult where
  | applied (files : List String)
  | current
  | ended
  deriving DecidableEq, Repr

def MigrationRequest.program (request : MigrationRequest) :
    MigrationProgram MigrationResult :=
  match request.command with
  | .runMigrations => do
      let files ← Migrate.runMigrations request.number
      pure (.applied files)
  | .assertSchemaCurrent => do
      Migrate.assertSchemaCurrent
      pure .current
  | .endSession session => do
      Migrate.call (.endSession session)
      pure .ended

def migrationService (dir : MigrationsDir) :
    Service migrations MigrationErr MigrationRequest MigrationResult
      MigrationChoice Database where
  semantics := migrationSemantics dir
  program := MigrationRequest.program
  admits _ _ := true

abbrev MigrationPool :=
  Pool migrations MigrationErr MigrationRequest MigrationResult Database

end FluxIP
