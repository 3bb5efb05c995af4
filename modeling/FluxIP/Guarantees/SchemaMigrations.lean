import FluxIP.Adapters.Migrations
import FluxIP.Async.RelyGuarantee

/-!
# Migrations are applied once, in order

Whoever writes holds the advisory lock, and writes a file and its record in one
step.  So the recorded files are a prefix of the sorted files at every moment,
and what has taken effect are their statements.
-/

namespace FluxIP

open Async

/-- The files of the directory, in order. -/
def MigrationsDir.files (dir : MigrationsDir) : List String :=
  Migrate.migrationFiles dir.entries

def Tables.recorded (tables : Tables) : List String :=
  tables.schemaMigrations.getD []

/-- The recorded files are the first of the files, and what has taken effect
are their statements, once each and in this order. -/
structure AppliedInOrder (dir : MigrationsDir) (tables : Tables) : Prop where
  first : tables.recorded <+: dir.files
  effects : tables.effects = tables.recorded.flatMap dir.statements

/-- What one step does to the tables: nothing, or the table is created, or the
next file takes effect and is recorded. -/
inductive TablesStep (dir : MigrationsDir) (before : Tables) : Tables → Prop where
  | same : TablesStep dir before before
  | created (absent : before.schemaMigrations = none) :
      TablesStep dir before { before with schemaMigrations := some [] }
  | applied (file : String) (next : before.recorded ++ [file] <+: dir.files) :
      TablesStep dir before
        ⟨some (before.recorded ++ [file]),
          before.effects ++ dir.statements file⟩

/-- The tables with so many files applied. -/
def tablesAt (dir : MigrationsDir) (count : Nat) : Tables :=
  ⟨some (dir.files.take count), (dir.files.take count).flatMap dir.statements⟩

def Database.holds (database : Database) (id : Nat) : Bool :=
  database.lock.any (·.1 = id)

variable {dir : MigrationsDir} {before after : Tables}

theorem MigrationsDir.files_nodup (dir : MigrationsDir) : dir.files.Nodup :=
  (Utf16.sort_perm _).nodup_iff.mpr (dir.distinct.filter _)

/-- Every listing of the directory gives the same files. -/
theorem migrationFiles_of_perm {listing : List String}
    (listed : listing.Perm dir.entries) :
    Migrate.migrationFiles listing = dir.files :=
  Utf16.sort_congr (listed.filter _)

theorem TablesStep.grows (step : TablesStep dir before after) :
    before.recorded <+: after.recorded := by
  cases step with
  | same => exact List.prefix_rfl
  | created absent => simp [Tables.recorded, absent]
  | applied file next => exact List.prefix_append _ _

theorem TablesStep.exists (step : TablesStep dir before after)
    (present : before.schemaMigrations.isSome) :
    after.schemaMigrations.isSome := by
  cases step with
  | same => exact present
  | created absent => rfl
  | applied file next => rfl

theorem TablesStep.inOrder (step : TablesStep dir before after)
    (inOrder : AppliedInOrder dir before) : AppliedInOrder dir after := by
  cases step with
  | same => exact inOrder
  | created absent =>
      have nothing : before.effects = [] := by
        simpa [Tables.recorded, absent] using inOrder.effects
      exact ⟨List.nil_prefix, nothing⟩
  | applied file next =>
      refine ⟨next, ?_⟩
      rw [inOrder.effects]
      simp [Tables.recorded]

theorem AppliedInOrder.initial : AppliedInOrder dir {} :=
  ⟨List.nil_prefix, rfl⟩

theorem createTable_step (tables : Tables) :
    TablesStep dir tables (Write.createTable.apply tables) := by
  obtain ⟨schemaMigrations, effects⟩ := tables
  cases schemaMigrations with
  | none => exact .created rfl
  | some rows => exact .same

/-- Tables in order are those with so many files applied. -/
theorem AppliedInOrder.eq_tablesAt {tables : Tables}
    (inOrder : AppliedInOrder dir tables) :
    Write.createTable.apply tables = tablesAt dir tables.recorded.length ∧
      tables.recorded.length ≤ dir.files.length := by
  have same := List.prefix_iff_eq_take.mp inOrder.first
  refine ⟨?_, inOrder.first.length_le⟩
  unfold tablesAt
  rw [← same, ← inOrder.effects]
  rfl

/-! ## What is invariant, and what runs may rely on -/

structure SchemaInvariant (dir : MigrationsDir) (database : Database) : Prop where
  inOrder : AppliedInOrder dir database.tables
  opened : ∀ id session, database.sessions id = some session →
    id < database.nextSession
  idle : ∀ id session, database.sessions id = some session →
    session.usable = true → session.owner = none → session.transaction = none

/-- What everybody may rely on. -/
structure SchemaGrows (before after : Database) : Prop where
  grows : before.tables.recorded <+: after.tables.recorded
  «exists» : before.tables.schemaMigrations.isSome →
    after.tables.schemaMigrations.isSome
  opened : before.nextSession ≤ after.nextSession
  ended : ∀ id, id < before.nextSession → before.sessions id = none →
    after.sessions id = none

/-- The sessions of a run are left alone, unless they are ended; and nobody
writes while one of them holds the lock. -/
def SparesRun (run : Nat) (before after : Database) : Prop :=
  ∀ id session, id < before.nextSession →
    before.sessions id = some session → session.owner = some run →
    after.sessions id = none ∨ after.sessions id = some session ∧
      (before.holds id = true →
        after.holds id = true ∧ after.tables = before.tables)

theorem SchemaGrows.refl (database : Database) : SchemaGrows database database :=
  ⟨List.prefix_rfl, id, Nat.le_refl _, fun _ _ gone => gone⟩

theorem SchemaGrows.trans {first second third : Database}
    (earlier : SchemaGrows first second) (later : SchemaGrows second third) :
    SchemaGrows first third where
  grows := earlier.grows.trans later.grows
  «exists» := later.exists ∘ earlier.exists
  opened := Nat.le_trans earlier.opened later.opened
  ended id old gone := later.ended id (Nat.lt_of_lt_of_le old earlier.opened)
    (earlier.ended id old gone)

theorem SparesRun.refl (run : Nat) (database : Database) :
    SparesRun run database database :=
  fun _ _ _ found _ => .inr ⟨found, fun holds => ⟨holds, rfl⟩⟩

theorem SparesRun.trans {run : Nat} {first second third : Database}
    (opens : SchemaGrows first second) (earlier : SparesRun run first second)
    (grows : SchemaGrows second third) (later : SparesRun run second third) :
    SparesRun run first third := by
  intro id session old found own
  have known := Nat.lt_of_lt_of_le old opens.opened
  rcases earlier id session old found own with gone | ⟨kept, locked⟩
  · exact .inl (grows.ended id known gone)
  · rcases later id session known kept own with gone | ⟨stays, still⟩
    · exact .inl gone
    · refine .inr ⟨stays, fun holds => ?_⟩
      obtain ⟨holdsNow, same⟩ := locked holds
      obtain ⟨holdsStill, sameStill⟩ := still holdsNow
      exact ⟨holdsStill, sameStill.trans same⟩

/-- Whether the others stand still, and what is known of the number of recorded
files until the run changes it. -/
structure MigrationSetting where
  alone : Prop
  early : Nat → Prop
  shared : ¬ alone → ∀ count, early count

def MigrationRequest.isRun (request : MigrationRequest) : Prop :=
  request.command = .runMigrations

def MigrationRely (setting : MigrationSetting) (request : MigrationRequest)
    (before after : Database) : Prop :=
  SchemaGrows before after ∧
    (request.isRun → SparesRun request.number before after) ∧
    (setting.alone → after = before)

/-- What a request may do between two awaits of others. -/
structure MigrationTurn (dir : MigrationsDir) (request : MigrationRequest)
    (before after : Database) : Prop where
  tables : TablesStep dir before.tables after.tables
  grows : SchemaGrows before after
  spares : ∀ other : MigrationRequest, other ≠ request → other.isRun →
    SparesRun other.number before after

def migrationContract (dir : MigrationsDir) (setting : MigrationSetting)
    (request : MigrationRequest) :
    Contract migrations MigrationErr MigrationChoice Database where
  invariant := SchemaInvariant dir
  rely := MigrationRely setting request
  guarantee := MigrationTurn dir request
  allowed _ _ _ choice := setting.alone → choice.fate = .ok
  reflexive database := ⟨.refl database, fun _ => .refl _ database, fun _ => rfl⟩
  transitive _ _ _ earlier later := by
    refine ⟨earlier.1.trans later.1, fun isRun => ?_, fun alone => ?_⟩
    · exact (earlier.2.1 isRun).trans earlier.1 later.1 (later.2.1 isRun)
    · exact (later.2.2 alone).trans (earlier.2.2 alone)

/-! ## What a run knows of its session -/

/-- The run has the session, and as long as it can use it `claim` holds. -/
structure HasSession (setting : MigrationSetting) (run id : Nat)
    (claim : DatabaseSession → Prop) (database : Database) : Prop where
  opened : id < database.nextSession
  here : ∀ session, database.sessions id = some session →
    session.owner = some run ∧ (session.usable = true → claim session)
  alive : setting.alone → ∃ session, database.sessions id = some session ∧
    session.usable = true

/-- In no transaction. -/
def Clean (setting : MigrationSetting) (run id : Nat) :
    Database → Prop :=
  HasSession setting run id fun session => session.transaction = none

/-- The session holds the lock, in this transaction and with these tables. -/
def Locked (setting : MigrationSetting) (run id : Nat)
    (transaction : Option Transaction) (tables : Tables)
    (database : Database) : Prop :=
  HasSession setting run id (fun session =>
    session.transaction = transaction ∧ database.holds id = true ∧
      database.tables = tables) database

variable {setting : MigrationSetting} {request : MigrationRequest}
variable {run id : Nat} {database next : Database}

theorem HasSession.mono {claim weaker : DatabaseSession → Prop}
    (has : HasSession setting run id claim database)
    (implies : ∀ session, claim session → weaker session) :
    HasSession setting run id weaker database where
  opened := has.opened
  here session found :=
    ⟨(has.here session found).1,
      fun usable => implies session ((has.here session found).2 usable)⟩
  alive := has.alive

/-- What a run knows is left alone by what it relies on. -/
theorem HasSession.stable {claim later : DatabaseSession → Prop}
    (has : HasSession setting request.number id claim database)
    (isRun : request.isRun)
    (implies : ∀ session, claim session →
      (database.holds id = true →
        next.holds id = true ∧ next.tables = database.tables) → later session)
    (rely : MigrationRely setting request database next) :
    HasSession setting request.number id later next where
  opened := Nat.lt_of_lt_of_le has.opened rely.1.opened
  here session found := by
    cases before : database.sessions id with
    | none =>
        have gone := rely.1.ended id has.opened before
        cases gone.symm.trans found
    | some same =>
        obtain ⟨own, claimed⟩ := has.here same before
        rcases rely.2.1 isRun id same has.opened before own with
          gone | ⟨kept, locked⟩
        · cases gone.symm.trans found
        · cases kept.symm.trans found
          exact ⟨own, fun usable => implies session (claimed usable) locked⟩
  alive alone := by
    rw [rely.2.2 alone]
    exact has.alive alone

theorem Clean.stable (has : Clean setting request.number id database)
    (isRun : request.isRun)
    (rely : MigrationRely setting request database next) :
    Clean setting request.number id next :=
  HasSession.stable has isRun (fun _ claim _ => claim) rely

theorem Locked.stable {transaction : Option Transaction} {tables : Tables}
    (has : Locked setting request.number id transaction tables database)
    (isRun : request.isRun)
    (rely : MigrationRely setting request database next) :
    Locked setting request.number id transaction tables next := by
  refine HasSession.stable has isRun ?_ rely
  rintro session ⟨inside, holds, same⟩ locked
  obtain ⟨still, unchanged⟩ := locked holds
  exact ⟨inside, still, unchanged.trans same⟩

theorem Locked.clean {tables : Tables}
    (has : Locked setting run id none tables database) :
    Clean setting run id database :=
  HasSession.mono has fun _ claim => claim.1

/-! ## What a query changes -/

/-- A query changes its own session, and of the lock only its own part. -/
structure QueryFrame (id : Nat) (owner : Option Nat) (before after : Database) :
    Prop where
  others : ∀ other, other ≠ id → after.sessions other = before.sessions other
  opened : after.nextSession = before.nextSession
  here : ∃ session, after.sessions id = some session ∧ session.owner = owner
  lock : ∀ other, other ≠ id → before.holds other = true →
    after.holds other = true

variable {session : DatabaseSession} {listed : List String}

theorem setSession_frame {changed : DatabaseSession} {tables : Tables}
    (same : changed.owner = session.owner) :
    QueryFrame id session.owner database
      ({ database with tables }.setSession id (some changed)) where
  others _ different := Function.update_of_ne different _ _
  opened := rfl
  here := ⟨changed, Function.update_self _ _ _, same⟩
  lock _ _ holds := holds

theorem lock_frame {lock : Option (Nat × Nat)} {tables : Tables}
    (found : database.sessions id = some session)
    (keeps : ∀ other, other ≠ id → database.holds other = true →
      lock.any (·.1 = other) = true) :
    QueryFrame id session.owner database { database with lock, tables } where
  others _ _ := rfl
  opened := rfl
  here := ⟨session, found, rfl⟩
  lock := keeps

theorem abort_frame :
    QueryFrame id session.owner database (database.abort id session) :=
  setSession_frame rfl

theorem write_frame {write : Write}
    (found : database.sessions id = some session) :
    QueryFrame id session.owner database (database.write id session write) := by
  unfold Database.write
  split
  · exact setSession_frame rfl
  · exact lock_frame found fun _ _ holds => holds

theorem carryOut_frame {query : Query}
    {answer : Except MigrationErr query.Answer}
    (found : database.sessions id = some session)
    (result : database.carryOut id session listed query =
      some (answer, next)) :
    QueryFrame id session.owner database next := by
  cases query with
  | lock =>
      simp only [Database.carryOut] at result
      split at result
      · rename_i free
        cases result
        apply lock_frame found
        intro other _ holds
        simp [Database.holds, free] at holds
      · rename_i holder depth taken
        split at result
        · rename_i same
          cases result
          apply lock_frame found
          intro other different holds
          simp only [Database.holds, taken, Option.any_some,
            decide_eq_true_eq] at holds
          exact absurd (holds.symm.trans same) different
        · cases result
  | createTable => cases result; exact write_frame found
  | select =>
      simp only [Database.carryOut] at result
      split at result
      · cases result; exact abort_frame
      · split at result
        · cases result
          exact lock_frame found
            fun _ _ holds => holds
        · cases result
  | begin =>
      cases result
      exact setSession_frame rfl
  | execute statements => cases result; exact write_frame found
  | insert filename =>
      simp only [Database.carryOut] at result
      split at result
      · cases result; exact abort_frame
      · split at result
        · cases result; exact abort_frame
        · cases result; exact write_frame found
  | commit => cases result; exact setSession_frame rfl
  | rollback =>
      cases result
      exact setSession_frame rfl
  | unlock =>
      cases result
      apply lock_frame found
      intro other different holds
      cases lock : database.lock with
      | none => simp [Database.holds, lock] at holds
      | some held =>
          obtain ⟨holder, depth⟩ := held
          simp only [Database.holds, lock, Option.any_some,
            decide_eq_true_eq] at holds
          subst holds
          simp [different]

theorem accept_frame {query : Query}
    {answer : Except MigrationErr query.Answer}
    (found : database.sessions id = some session)
    (result : database.accept id session listed query = some (answer, next)) :
    QueryFrame id session.owner database next := by
  unfold Database.accept at result
  split at result
  · cases result
    exact lock_frame found fun _ _ holds => holds
  · exact carryOut_frame found result

theorem reject_frame {query : Query}
    (result : database.reject id session query = some next) :
    QueryFrame id session.owner database next ∧ next.tables = database.tables := by
  cases query with
  | commit =>
      cases result
      exact ⟨setSession_frame rfl, rfl⟩
  | rollback => cases result
  | _ => cases result; exact ⟨abort_frame, rfl⟩

theorem QueryFrame.disconnect {owner : Option Nat} {after : Database}
    (frame : QueryFrame id owner database after) :
    QueryFrame id owner database (after.disconnect id) where
  others other different :=
    (Function.update_of_ne different _ _).trans (frame.others other different)
  opened := frame.opened
  here := by
    obtain ⟨session, found, own⟩ := frame.here
    refine ⟨{ session with usable := false }, ?_, own⟩
    simp [Database.disconnect, Database.setSession, found]
  lock := frame.lock

theorem disconnect_frame (found : database.sessions id = some session) :
    QueryFrame id session.owner database (database.disconnect id) :=
  QueryFrame.disconnect (lock_frame found
    fun _ _ holds => holds)

theorem Database.holds_unique {other : Nat} (first : database.holds id = true)
    (second : database.holds other = true) : id = other := by
  unfold Database.holds at first second
  cases lock : database.lock with
  | none => rw [lock] at first; cases first
  | some held =>
      rw [lock] at first second
      exact (of_decide_eq_true first).symm.trans (of_decide_eq_true second)

/-- A step of a request that changes one session, which no other run has: a
part of the lock only of this session, and the tables only under the lock. -/
structure SessionChange (request : MigrationRequest) (id : Nat)
    (before after : Database) : Prop where
  others : ∀ other, other ≠ id → after.sessions other = before.sessions other
  opened : before.nextSession ≤ after.nextSession
  here : ∀ session, after.sessions id = some session →
    id < after.nextSession ∧ (session.usable = true → session.owner = none →
      session.transaction = none)
  ended : id < before.nextSession → before.sessions id = none →
    after.sessions id = none
  free : ∀ session run, id < before.nextSession →
    before.sessions id = some session → session.owner = some run →
    run = request.number ∧ request.isRun
  lock : ∀ other, other ≠ id → before.holds other = true →
    after.holds other = true

theorem SessionChange.own (invariant : SchemaInvariant dir database)
    (change : SessionChange request id database next)
    (tables : TablesStep dir database.tables next.tables)
    (locked : next.tables = database.tables ∨ database.holds id = true) :
    SchemaInvariant dir next ∧ MigrationTurn dir request database next := by
  refine ⟨⟨tables.inOrder invariant.inOrder, ?_, ?_⟩,
    ⟨tables, ⟨tables.grows, tables.exists, change.opened, ?_⟩, ?_⟩⟩
  · intro other present atOther
    by_cases same : other = id
    · subst same
      exact (change.here present atOther).1
    · rw [change.others other same] at atOther
      exact Nat.lt_of_lt_of_le (invariant.opened other present atOther)
        change.opened
  · intro other present atOther
    by_cases same : other = id
    · subst same
      exact (change.here present atOther).2
    · rw [change.others other same] at atOther
      exact invariant.idle other present atOther
  · intro other old gone
    by_cases same : other = id
    · subst same
      exact change.ended old gone
    · rw [change.others other same]
      exact gone
  · intro other different otherRun otherId theirs old atOther theirOwn
    have apart : otherId ≠ id := by
      intro same
      subst same
      obtain ⟨sameNumber, isRun⟩ := change.free theirs _ old atOther theirOwn
      apply different
      obtain ⟨number, command⟩ := other
      obtain ⟨ownNumber, ownCommand⟩ := request
      cases sameNumber
      cases otherRun
      cases isRun
      rfl
    refine .inr ⟨(change.others otherId apart).trans atOther, fun holds => ?_⟩
    refine ⟨change.lock otherId apart holds, ?_⟩
    rcases locked with same | mine
    · exact same
    · exact absurd (Database.holds_unique holds mine) apart

/-- A query of a run keeps what there is to keep. -/
theorem QueryFrame.own
    (invariant : SchemaInvariant dir database) (isRun : request.isRun)
    (found : database.sessions id = some session)
    (frame : QueryFrame id (some request.number) database next)
    (own : session.owner = some request.number)
    (tables : TablesStep dir database.tables next.tables)
    (locked : next.tables = database.tables ∨ database.holds id = true) :
    SchemaInvariant dir next ∧ MigrationTurn dir request database next := by
  obtain ⟨changed, atNext, sameOwner⟩ := frame.here
  have change : SessionChange request id database next :=
    { others := frame.others
      opened := Nat.le_of_eq frame.opened.symm
      here := fun same atSame => by
        cases atNext.symm.trans atSame
        refine ⟨frame.opened ▸ invariant.opened id session found, ?_⟩
        exact fun _ unowned => by cases sameOwner.symm.trans unowned
      ended := fun _ gone => by cases gone.symm.trans found
      free := fun same other _ atSame theirs => by
        cases atSame.symm.trans found
        cases own.symm.trans theirs
        exact ⟨rfl, isRun⟩
      lock := frame.lock }
  exact change.own invariant tables locked

/-! ## The rule for a query -/

theorem HasSession.of_frame {claim later : DatabaseSession → Prop}
    (has : HasSession setting run id claim database)
    (frame : QueryFrame id (some run) database next)
    (claimed : ∀ session, next.sessions id = some session →
      session.usable = true → later session)
    (alive : setting.alone → ∃ session, next.sessions id = some session ∧
      session.usable = true) :
    HasSession setting run id later next where
  opened := Nat.lt_of_lt_of_eq has.opened frame.opened.symm
  here session found := by
    obtain ⟨changed, atNext, own⟩ := frame.here
    cases atNext.symm.trans found
    exact ⟨own, claimed session found⟩
  alive := alive

/-- The session after a lost connection takes no more queries. -/
theorem disconnect_unusable {claim : DatabaseSession → Prop}
    (found : (database.disconnect id).sessions id = some session)
    (usable : session.usable = true) : claim session := by
  rw [show (database.disconnect id).sessions id =
    (database.sessions id).map ({ · with usable := false }) from
      Function.update_self _ _ _] at found
  obtain ⟨before, -, same⟩ := Option.map_eq_some_iff.mp found
  subst same
  cases usable

/-- What a query of a run does in the eyes of its run: `accepts` says what the
server does with it, `rejects` what is left after an error of the server. -/
theorem sendQuery_ensures {query : Query} (isRun : request.isRun)
    (pre : Database → Prop) {good : query.Answer → Database → Prop}
    {bad : DatabaseSession → Prop}
    (owned : ∀ database, pre database →
      HasSession setting request.number id (fun _ => True) database)
    (preStable : ∀ database next, pre database →
      MigrationRely setting request database next → pre next)
    (goodStable : ∀ answer database next, good answer database →
      MigrationRely setting request database next → good answer next)
    (accepts : ∀ database session listed answer next,
      SchemaInvariant dir database → pre database →
      database.sessions id = some session → session.usable = true →
      database.accept id session listed query = some (answer, next) →
      TablesStep dir database.tables next.tables ∧
        (next.tables = database.tables ∨ database.holds id = true) ∧
        match answer with
        | .ok value => good value next
        | .error _ => ¬ setting.alone ∧
            ∀ session, next.sessions id = some session → bad session)
    (rejects : ∀ database session next, pre database →
      database.sessions id = some session → session.usable = true →
      database.reject id session query = some next →
      ∀ session, next.sessions id = some session → bad session)
    {history : History migrations MigrationErr} {state : Database}
    (here : pre state) :
    (Migrate.sendQuery id query).Ensures (migrationSemantics dir)
      (migrationContract dir setting request)
      (yielding (fun answer _ => good answer)
        (fun _ database => ¬ setting.alone ∧
          HasSession setting request.number id bad database)
        fun _ _ => True) history state := by
  refine @Program.Ensures.perform migrations MigrationErr MigrationChoice Database
    _ _ (.query id query) _ _ _ ?_
  intro before environment
  refine ⟨trivial, ?_⟩
  intro choice answer after allowed result
  have atCall := preStable _ _ here environment.2
  have has := owned before atCall
  have badStable {database final : Database} (alone : ¬ setting.alone)
      (has : HasSession setting request.number id bad database)
      (later : (migrationContract dir setting request).Environment database
        final) :
      ¬ setting.alone ∧ HasSession setting request.number id bad final :=
    ⟨alone, has.stable isRun (fun _ claim _ => claim) later.2⟩
  change before.query id choice query = some (answer, after) at result
  unfold Database.query at result
  split at result
  · rename_i gone
    cases result
    refine ⟨⟨environment.1, ⟨.same, .refl _, fun other _ _ => .refl _ _⟩⟩, ?_⟩
    intro final later
    have alone : ¬ setting.alone := fun alone => by
      obtain ⟨session, found, -⟩ := has.alive alone
      cases gone.symm.trans found
    refine badStable alone ⟨has.opened, fun session found => ?_, has.alive⟩ later
    cases gone.symm.trans found
  · rename_i session found
    have own := (has.here session found).1
    split at result
    · rename_i usable
      split at result
      · rename_i fate
        obtain ⟨tables, locked, rest⟩ := accepts before session choice.listed
          answer after environment.1 atCall found usable result
        have frame := own ▸ accept_frame found result
        refine ⟨frame.own environment.1 isRun found own tables locked, ?_⟩
        intro final later
        cases answer with
        | ok value => exact goodStable value _ _ rest later.2
        | error error =>
            refine badStable rest.1 (has.of_frame frame ?_ ?_) later
            · exact fun session found _ => rest.2 session found
            · exact fun alone => absurd alone rest.1
      · rename_i message fate
        obtain ⟨rejected, rejection, same⟩ := Option.map_eq_some_iff.mp result
        cases same
        obtain ⟨frame, same⟩ := reject_frame rejection
        have frame := own ▸ frame
        refine ⟨frame.own environment.1 isRun found own (same ▸ .same)
          (.inl same), ?_⟩
        intro final later
        have alone : ¬ setting.alone := fun alone => by
          cases fate.symm.trans (allowed alone)
        refine badStable alone (has.of_frame frame ?_ ?_) later
        · exact fun changed atNext _ => rejects before session _ atCall found
            usable rejection changed atNext
        · exact fun now => absurd now alone
      · rename_i message fate
        obtain ⟨⟨value, carried⟩, accepted, same⟩ :=
          Option.map_eq_some_iff.mp result
        cases same
        obtain ⟨tables, locked, -⟩ := accepts before session choice.listed
          value carried environment.1 atCall found usable accepted
        have frame := (own ▸ accept_frame found accepted).disconnect
        refine ⟨frame.own environment.1 isRun found own tables locked, ?_⟩
        intro final later
        have alone : ¬ setting.alone := fun alone => by
          cases fate.symm.trans (allowed alone)
        refine badStable alone (has.of_frame frame ?_ ?_) later
        · exact fun _ => disconnect_unusable
        · exact fun now => absurd now alone
      · rename_i message fate
        cases result
        have frame := own ▸ disconnect_frame found
        refine ⟨frame.own environment.1 isRun found own .same (.inl rfl), ?_⟩
        intro final later
        have alone : ¬ setting.alone := fun alone => by
          cases fate.symm.trans (allowed alone)
        refine badStable alone (has.of_frame frame ?_ ?_) later
        · exact fun _ => disconnect_unusable
        · exact fun now => absurd now alone
    · rename_i unusable
      cases result
      refine ⟨⟨environment.1, ⟨.same, .refl _, fun other _ _ => .refl _ _⟩⟩, ?_⟩
      intro final later
      have alone : ¬ setting.alone := fun alone => by
        obtain ⟨same, atSame, usable⟩ := has.alive alone
        cases atSame.symm.trans found
        exact unusable usable
      refine badStable alone ⟨has.opened, fun same atSame => ?_, has.alive⟩ later
      cases atSame.symm.trans found
      exact ⟨own, fun usable => absurd usable unusable⟩

/-! ## The queries of a run -/

/-- What is known of the number of recorded files stays known. -/
theorem early_stable
    (early : setting.early database.tables.recorded.length)
    (rely : MigrationRely setting request database next) :
    setting.early next.tables.recorded.length := by
  by_cases alone : setting.alone
  · rw [rely.2.2 alone]
    exact early
  · exact setting.shared alone _

theorem accept_outside {query : Query} (clean : session.transaction = none) :
    database.accept id session listed query =
      database.carryOut id session listed query := by
  simp [Database.accept, clean]

theorem accept_open {query : Query} {writes : List Write}
    (inside : session.transaction = some (.open writes)) :
    database.accept id session listed query =
      database.carryOut id session listed query := by
  simp [Database.accept, inside]

theorem write_outside {write : Write} (clean : session.transaction = none) :
    database.write id session write =
      { database with tables := write.apply database.tables } := by
  simp [Database.write, clean]

/-- An error of the server leaves no transaction where there was none. -/
theorem reject_outside {query : Query} (clean : session.transaction = none)
    (result : database.reject id session query = some next)
    {later : DatabaseSession} (found : next.sessions id = some later) :
    later.transaction = none := by
  cases query with
  | commit =>
      cases result
      cases (Function.update_self id _ _).symm.trans found
      rfl
  | rollback => cases result
  | _ =>
      cases result
      cases (Function.update_self id _ _).symm.trans found
      simp [clean]

section Queries

variable {history : History migrations MigrationErr} {state : Database}

/-- The postcondition of a query outside of a transaction. -/
abbrev afterQuery {α : Type} (setting : MigrationSetting) (run id : Nat)
    (good : α → Database → Prop) :
    History migrations MigrationErr → Outcome MigrationErr α → Database → Prop :=
  yielding (fun answer _ => good answer)
    (fun _ database => ¬ setting.alone ∧ Clean setting run id database)
    fun _ _ => True

theorem lock_ensures (isRun : request.isRun)
    (outside : Clean setting request.number id state)
    (early : setting.early state.tables.recorded.length) :
    (Migrate.sendQuery id .lock).Ensures (migrationSemantics dir)
      (migrationContract dir setting request)
      (afterQuery setting request.number id fun _ database =>
        ∃ tables, AppliedInOrder dir tables ∧
          setting.early tables.recorded.length ∧
          Locked setting request.number id none tables database)
      history state := by
  refine sendQuery_ensures isRun
    (fun database => Clean setting request.number id database ∧
      setting.early database.tables.recorded.length)
    ?_ ?_ ?_ ?_ ?_ ⟨outside, early⟩
  · exact fun _ pre => HasSession.mono pre.1 fun _ _ => trivial
  · exact fun _ _ pre rely =>
      ⟨pre.1.stable isRun rely, early_stable pre.2 rely⟩
  · rintro _ database next ⟨tables, inOrder, early, locked⟩ rely
    exact ⟨tables, inOrder, early, locked.stable isRun rely⟩
  · rintro database session listed answer next invariant ⟨outside, early⟩ found
      usable result
    have clean := (outside.here session found).2 usable
    rw [accept_outside clean] at result
    have taken {lock : Option (Nat × Nat)} (mine : lock.any (·.1 = id) = true) :
        ∃ tables, AppliedInOrder dir tables ∧
          setting.early tables.recorded.length ∧
          Locked setting request.number id none tables
            { database with lock } := by
      refine ⟨database.tables, invariant.inOrder, early, outside.opened, ?_,
        outside.alive⟩
      intro same atSame
      exact ⟨(outside.here same atSame).1, fun usable =>
        ⟨(outside.here same atSame).2 usable, mine, rfl⟩⟩
    simp only [Database.carryOut] at result
    split at result
    · cases result
      exact ⟨.same, .inl rfl, taken (by simp)⟩
    · split at result
      · cases result
        exact ⟨.same, .inl rfl, taken (by simp)⟩
      · cases result
  · intro database session next pre found usable result later atLater
    exact reject_outside ((pre.1.here session found).2 usable) result atLater

theorem createTable_ensures (isRun : request.isRun) {tables : Tables}
    (inOrder : AppliedInOrder dir tables)
    (locked : Locked setting request.number id none tables state) :
    (Migrate.sendQuery id .createTable).Ensures (migrationSemantics dir)
      (migrationContract dir setting request)
      (afterQuery setting request.number id fun _ =>
        Locked setting request.number id none
          (tablesAt dir tables.recorded.length))
      history state := by
  refine sendQuery_ensures isRun
    (Locked setting request.number id none tables) ?_ ?_ ?_ ?_ ?_ locked
  · exact fun _ pre => HasSession.mono pre fun _ _ => trivial
  · exact fun _ _ pre rely => pre.stable isRun rely
  · exact fun _ _ _ good rely => good.stable isRun rely
  · intro database session listed answer next invariant pre found usable result
    obtain ⟨clean, holds, same⟩ := (pre.here session found).2 usable
    rw [accept_outside clean] at result
    simp only [Database.carryOut, write_outside clean] at result
    cases result
    refine ⟨createTable_step database.tables, .inr holds, pre.opened, ?_,
      pre.alive⟩
    intro later atLater
    obtain ⟨own, claim⟩ := pre.here later atLater
    refine ⟨own, fun usable => ⟨(claim usable).1, holds, ?_⟩⟩
    rw [← inOrder.eq_tablesAt.1, ← same]
  · intro database session next pre found usable result later atLater
    exact reject_outside ((pre.here session found).2 usable).1 result atLater

theorem select_ensures (isRun : request.isRun) {count : Nat}
    (bound : count ≤ dir.files.length)
    (locked : Locked setting request.number id none (tablesAt dir count) state) :
    (Migrate.sendQuery id .select).Ensures (migrationSemantics dir)
      (migrationContract dir setting request)
      (afterQuery setting request.number id fun rows database =>
        rows.Perm (dir.files.take count) ∧
          Locked setting request.number id none (tablesAt dir count) database ∧
          count ≤ database.tables.recorded.length)
      history state := by
  refine sendQuery_ensures isRun
    (Locked setting request.number id none (tablesAt dir count))
    ?_ ?_ ?_ ?_ ?_ locked
  · exact fun _ pre => HasSession.mono pre fun _ _ => trivial
  · exact fun _ _ pre rely => pre.stable isRun rely
  · rintro rows database next ⟨listed, good, reached⟩ rely
    exact ⟨listed, good.stable isRun rely,
      Nat.le_trans reached rely.1.grows.length_le⟩
  · intro database session listed answer next invariant pre found usable result
    obtain ⟨clean, holds, same⟩ := (pre.here session found).2 usable
    rw [accept_outside clean] at result
    have view : session.view database.tables = tablesAt dir count := by
      simp [DatabaseSession.view, clean, same]
    simp only [Database.carryOut, view] at result
    split at result
    · rename_i absent
      cases absent
    · rename_i rows present
      cases present
      split at result
      · rename_i perm
        cases result
        refine ⟨.same, .inl rfl, List.isPerm_iff.mp perm, pre, ?_⟩
        simp [same, tablesAt, Tables.recorded, bound]
      · cases result
  · intro database session next pre found usable result later atLater
    exact reject_outside ((pre.here session found).2 usable).1 result atLater

/-- The postcondition of a query inside of a transaction. -/
abbrev insideQuery {α : Type} (setting : MigrationSetting) (run id : Nat)
    (good : α → Database → Prop) :
    History migrations MigrationErr → Outcome MigrationErr α → Database → Prop :=
  yielding (fun answer _ => good answer)
    (fun _ database => ¬ setting.alone ∧
      HasSession setting run id (fun _ => True) database)
    fun _ _ => True

/-- The session after a query that changes its transaction only. -/
theorem Locked.setTransaction {transaction changed : Option Transaction}
    {tables : Tables}
    (pre : Locked setting request.number id transaction tables database)
    (found : database.sessions id = some session)
    (usable : session.usable = true) :
    Locked setting request.number id changed tables
      (database.setSession id
        (some { session with transaction := changed })) where
  opened := pre.opened
  here later atLater := by
    cases (Function.update_self id _ _).symm.trans atLater
    obtain ⟨own, claim⟩ := pre.here session found
    exact ⟨own, fun usable => ⟨rfl, (claim usable).2⟩⟩
  alive _ := ⟨_, Function.update_self id _ _, usable⟩

/-- A query that only changes the transaction of the run. -/
theorem transaction_ensures {query : Query} (isRun : request.isRun)
    {transaction changed : Option Transaction} {tables : Tables}
    (carries : ∀ (database : Database) session listed answer next,
      session.transaction = transaction → database.tables = tables →
      database.accept id session listed query = some (answer, next) →
      (∃ value, answer = .ok value) ∧
        next = database.setSession id
          (some { session with transaction := changed }))
    (locked : Locked setting request.number id transaction tables state) :
    (Migrate.sendQuery id query).Ensures (migrationSemantics dir)
      (migrationContract dir setting request)
      (insideQuery setting request.number id fun _ =>
        Locked setting request.number id changed tables)
      history state := by
  refine sendQuery_ensures isRun
    (Locked setting request.number id transaction tables) ?_ ?_ ?_ ?_ ?_ locked
  · exact fun _ pre => HasSession.mono pre fun _ _ => trivial
  · exact fun _ _ pre rely => pre.stable isRun rely
  · exact fun _ _ _ good rely => good.stable isRun rely
  · intro database session listed answer next invariant pre found usable result
    obtain ⟨inside, holds, same⟩ := (pre.here session found).2 usable
    obtain ⟨⟨value, answered⟩, effect⟩ :=
      carries database session listed answer next inside same result
    subst answered effect
    exact ⟨.same, .inl rfl, pre.setTransaction found usable⟩
  · exact fun _ _ _ _ _ _ _ _ _ => trivial

theorem begin_ensures (isRun : request.isRun) {tables : Tables}
    (locked : Locked setting request.number id none tables state) :
    (Migrate.sendQuery id .begin).Ensures (migrationSemantics dir)
      (migrationContract dir setting request)
      (insideQuery setting request.number id fun _ =>
        Locked setting request.number id (some (.open [])) tables)
      history state := by
  refine transaction_ensures isRun ?_ locked
  intro database session listed answer next clean _ result
  rw [accept_outside clean] at result
  cases result
  simp [clean]

theorem execute_ensures (isRun : request.isRun) {tables : Tables}
    {statements : List String}
    (locked : Locked setting request.number id (some (.open [])) tables state) :
    (Migrate.sendQuery id (.execute statements)).Ensures (migrationSemantics dir)
      (migrationContract dir setting request)
      (insideQuery setting request.number id fun _ =>
        Locked setting request.number id
          (some (.open [.execute statements])) tables)
      history state := by
  refine transaction_ensures isRun ?_ locked
  intro database session listed answer next inside _ result
  rw [accept_open inside] at result
  cases result
  simp [Database.write, inside]

theorem insert_ensures (isRun : request.isRun) {count : Nat}
    {statements : List String} {file : String}
    (fresh : file ∉ dir.files.take count)
    (locked : Locked setting request.number id
      (some (.open [.execute statements])) (tablesAt dir count) state) :
    (Migrate.sendQuery id (.insert file)).Ensures (migrationSemantics dir)
      (migrationContract dir setting request)
      (insideQuery setting request.number id fun _ =>
        Locked setting request.number id
          (some (.open [.execute statements, .insert file]))
          (tablesAt dir count))
      history state := by
  refine transaction_ensures isRun ?_ locked
  intro database session listed answer next inside same result
  rw [accept_open inside] at result
  have view : (session.view database.tables).schemaMigrations =
      some (dir.files.take count) := by
    simp [DatabaseSession.view, inside, same, Write.apply, tablesAt]
  simp only [Database.carryOut, view, fresh, if_false] at result
  cases result
  simp [Database.write, inside]

/-- The next file as a step of the tables. -/
theorem tablesAt_next {count : Nat} {file : String}
    (next : dir.files[count]? = some file) :
    tablesAt dir (count + 1) = ⟨some (dir.files.take count ++ [file]),
        (dir.files.take count).flatMap dir.statements ++ dir.statements file⟩ ∧
      TablesStep dir (tablesAt dir count) (tablesAt dir (count + 1)) := by
  have taken : dir.files.take (count + 1) = dir.files.take count ++ [file] := by
    rw [List.take_add_one, next]
    rfl
  have same : tablesAt dir (count + 1) = ⟨some (dir.files.take count ++ [file]),
      (dir.files.take count).flatMap dir.statements ++ dir.statements file⟩ := by
    simp [tablesAt, taken]
  refine ⟨same, ?_⟩
  rw [same]
  have step := @TablesStep.applied dir (tablesAt dir count) file
    (taken ▸ List.take_prefix _ _)
  exact step

theorem commit_ensures (isRun : request.isRun) {count : Nat} {file : String}
    (next : dir.files[count]? = some file)
    (locked : Locked setting request.number id
      (some (.open [.execute (dir.statements file), .insert file]))
      (tablesAt dir count) state) :
    (Migrate.sendQuery id .commit).Ensures (migrationSemantics dir)
      (migrationContract dir setting request)
      (insideQuery setting request.number id fun _ database =>
        Locked setting request.number id none (tablesAt dir (count + 1))
            database ∧
          count + 1 ≤ database.tables.recorded.length)
      history state := by
  refine sendQuery_ensures isRun
    (Locked setting request.number id
      (some (.open [.execute (dir.statements file), .insert file]))
      (tablesAt dir count)) ?_ ?_ ?_ ?_ ?_ locked
  · exact fun _ pre => HasSession.mono pre fun _ _ => trivial
  · exact fun _ _ pre rely => pre.stable isRun rely
  · rintro _ database next ⟨good, reached⟩ rely
    exact ⟨good.stable isRun rely,
      Nat.le_trans reached rely.1.grows.length_le⟩
  · intro database session listed answer after invariant pre found usable result
    obtain ⟨inside, holds, same⟩ := (pre.here session found).2 usable
    obtain ⟨later, step⟩ := tablesAt_next next
    rw [accept_open inside] at result
    have view : session.view database.tables = tablesAt dir (count + 1) := by
      rw [later]
      simp [DatabaseSession.view, inside, same, Write.apply, tablesAt]
    simp only [Database.carryOut, Database.commit, view] at result
    cases result
    refine ⟨same ▸ step, .inr holds, ⟨pre.opened, ?_, ?_⟩, ?_⟩
    · intro changed atChanged
      cases (Function.update_self id _ _).symm.trans atChanged
      exact ⟨(pre.here session found).1, fun _ => ⟨rfl, holds, rfl⟩⟩
    · exact fun _ => ⟨_, Function.update_self id _ _, usable⟩
    · have inside := (List.getElem?_eq_some_iff.mp next).1
      simp only [Database.setSession, tablesAt, Tables.recorded,
        Option.getD_some, List.length_take]
      omega
  · exact fun _ _ _ _ _ _ _ _ _ => trivial

/-- However it ends, a rollback leaves no transaction. -/
theorem rollback_ensures (isRun : request.isRun)
    (has : HasSession setting request.number id (fun _ => True) state) :
    (Migrate.sendQuery id .rollback).Ensures (migrationSemantics dir)
      (migrationContract dir setting request)
      (afterQuery setting request.number id fun _ =>
        Clean setting request.number id)
      history state := by
  refine sendQuery_ensures isRun
    (HasSession setting request.number id fun _ => True) ?_ ?_ ?_ ?_ ?_ has
  · exact fun _ pre => pre
  · exact fun _ _ pre rely => pre.stable isRun (fun _ _ _ => trivial) rely
  · exact fun _ _ _ good rely => good.stable isRun rely
  · intro database session listed answer next invariant pre found usable result
    have effect : answer = .ok () ∧ next = database.setSession id
        (some { session with transaction := none }) := by
      simp only [Database.accept, ne_eq, not_true_eq_false, and_false,
        if_false] at result
      cases result
      exact ⟨rfl, rfl⟩
    obtain ⟨rfl, rfl⟩ := effect
    refine ⟨.same, .inl rfl, pre.opened, fun later atLater => ?_,
      fun _ => ⟨_, Function.update_self id _ _, usable⟩⟩
    cases (Function.update_self id _ _).symm.trans atLater
    exact ⟨(pre.here session found).1, fun _ => rfl⟩
  · intro database session next pre found usable result
    cases result

theorem unlock_ensures (isRun : request.isRun)
    (outside : Clean setting request.number id state) :
    (Migrate.sendQuery id .unlock).Ensures (migrationSemantics dir)
      (migrationContract dir setting request)
      (afterQuery setting request.number id fun _ =>
        Clean setting request.number id)
      history state := by
  refine sendQuery_ensures isRun (Clean setting request.number id)
    ?_ ?_ ?_ ?_ ?_ outside
  · exact fun _ pre => HasSession.mono pre fun _ _ => trivial
  · exact fun _ _ pre rely => pre.stable isRun rely
  · exact fun _ _ _ good rely => good.stable isRun rely
  · intro database session listed answer next invariant pre found usable result
    rw [accept_outside ((pre.here session found).2 usable)] at result
    cases result
    exact ⟨.same, .inl rfl, pre.opened, pre.here, pre.alive⟩
  · intro database session next pre found usable result later atLater
    exact reject_outside ((pre.here session found).2 usable) result atLater

/-! ## The other calls -/

/-- A call that changes nothing. -/
theorem attemptRead_cases {α : Type} {choice : MigrationChoice}
    {error : String → MigrationErr} {offered : Option (Except MigrationErr α)}
    {answer : Except MigrationErr α}
    (result : attemptRead choice error offered database =
      some (answer, next)) :
    next = database ∧ (offered = some answer ∨
      choice.fate ≠ .ok ∧ ∃ message, answer = .error (error message)) := by
  unfold attemptRead at result
  split at result
  · obtain ⟨value, same, pair⟩ := Option.map_eq_some_iff.mp result
    cases pair
    exact ⟨rfl, .inl same⟩
  · rename_i message fate
    cases result
    exact ⟨rfl, .inr ⟨by rw [fate]; exact nofun, message, rfl⟩⟩
  · rename_i message carriedOut fate
    cases result
    exact ⟨rfl, .inr ⟨by rw [fate]; exact nofun, message, rfl⟩⟩

theorem MigrationTurn.refl (database : Database) :
    MigrationTurn dir request database database :=
  ⟨.same, .refl _, fun _ _ _ => .refl _ _⟩

/-- A call that changes nothing keeps what a request relies on. -/
theorem read_ensures (call : MigrationCall) {pre : Database → Prop}
    (good : call.Answer → Database → Prop)
    (preStable : ∀ database next, pre database →
      MigrationRely setting request database next → pre next)
    (goodStable : ∀ answer database next, good answer database →
      MigrationRely setting request database next → good answer next)
    (reads : ∀ (database : Database) (choice : MigrationChoice) answer next,
      SchemaInvariant dir database → pre database →
      migrationSemantics dir call choice database = some (answer, next) →
      next = database ∧
        match answer with
        | .ok value => good value database
        | .error _ => choice.fate ≠ .ok)
    (here : pre state) :
    (Migrate.call call).Ensures (migrationSemantics dir)
      (migrationContract dir setting request)
      (yielding (fun answer _ => good answer)
        (fun _ database => ¬ setting.alone ∧ pre database)
        fun _ _ => True) history state := by
  refine @Program.Ensures.perform migrations MigrationErr MigrationChoice Database
    _ _ call _ _ _ ?_
  intro before environment
  refine ⟨trivial, ?_⟩
  intro choice answer after allowed result
  have atCall := preStable _ _ here environment.2
  obtain ⟨same, ends⟩ := reads before choice answer after environment.1 atCall
    result
  subst same
  refine ⟨⟨environment.1, .refl _⟩, ?_⟩
  intro final later
  cases answer with
  | ok value => exact goodStable value _ _ ends later.2
  | error error =>
      have alone : ¬ setting.alone := fun alone => ends (allowed alone)
      exact ⟨alone, preStable _ _ atCall later.2⟩

theorem readdir_ensures (pre : Database → Prop)
    (preStable : ∀ database next, pre database →
      MigrationRely setting request database next → pre next)
    (here : pre state) :
    (Migrate.call .readdir).Ensures (migrationSemantics dir)
      (migrationContract dir setting request)
      (yielding (fun (listing : List String) _ database =>
          listing.Perm dir.entries ∧ pre database)
        (fun _ database => ¬ setting.alone ∧ pre database)
        fun _ _ => True) history state := by
  refine read_ensures .readdir
    (fun (listing : List String) database =>
      listing.Perm dir.entries ∧ pre database) preStable ?_ ?_ here
  · exact fun _ database next good rely =>
      ⟨good.1, preStable database next good.2 rely⟩
  · intro database choice answer next _ atCall result
    obtain ⟨same, offered⟩ := attemptRead_cases result
    refine ⟨same, ?_⟩
    rcases offered with offered | ⟨failed, message, rfl⟩
    · split at offered
      · rename_i perm
        cases offered
        exact ⟨List.isPerm_iff.mp perm, atCall⟩
      · cases offered
    · exact failed

theorem readFile_ensures {pre : Database → Prop} (file : String)
    (preStable : ∀ database next, pre database →
      MigrationRely setting request database next → pre next)
    (here : pre state) :
    (Migrate.call (.readFile file)).Ensures (migrationSemantics dir)
      (migrationContract dir setting request)
      (yielding (fun (sql : List String) _ database =>
          sql = dir.statements file ∧ pre database)
        (fun _ database => ¬ setting.alone ∧ pre database)
        fun _ _ => True) history state := by
  refine read_ensures (.readFile file)
    (fun (sql : List String) database =>
      sql = dir.statements file ∧ pre database) preStable ?_ ?_ here
  · exact fun _ database next good rely =>
      ⟨good.1, preStable database next good.2 rely⟩
  · intro database choice answer next _ atCall result
    obtain ⟨same, offered⟩ := attemptRead_cases result
    refine ⟨same, ?_⟩
    rcases offered with offered | ⟨failed, message, rfl⟩
    · cases offered
      exact ⟨rfl, atCall⟩
    · exact failed

/-- A session that is taken from the pool is in no transaction. -/
theorem connect_ensures (isRun : request.isRun)
    (early : setting.early state.tables.recorded.length) :
    (Migrate.call (.connect request.number)).Ensures (migrationSemantics dir)
      (migrationContract dir setting request)
      (yielding (fun (client : Nat) _ database =>
          Clean setting request.number client database ∧
            setting.early database.tables.recorded.length)
        (fun _ _ => ¬ setting.alone) fun _ _ => True) history state := by
  refine @Program.Ensures.perform migrations MigrationErr MigrationChoice Database
    _ _ (.connect request.number) _ _ _ ?_
  intro before environment
  refine ⟨trivial, ?_⟩
  intro choice answer after allowed result
  have early := early_stable early environment.2
  have invariant := environment.1
  have finish {client : Nat} (session : DatabaseSession)
      (clean : session.transaction = none)
      (own : session.owner = some request.number)
      (usable : session.usable = true)
      (atClient : after.sessions client = some session)
      (same : after.tables = before.tables)
      (change : SessionChange request client before after) :
      (migrationContract dir setting request).Own before after ∧
        ∀ final, (migrationContract dir setting request).Environment after
          final → Clean setting request.number client final ∧
            setting.early final.tables.recorded.length := by
    refine ⟨change.own invariant (same ▸ .same) (.inl same), ?_⟩
    intro final later
    have outside : Clean setting request.number client after := by
      refine ⟨(change.here session atClient).1, fun other atOther => ?_,
        fun _ => ⟨session, atClient, usable⟩⟩
      cases atClient.symm.trans atOther
      exact ⟨own, fun _ => clean⟩
    exact ⟨outside.stable isRun later.2, early_stable (same ▸ early) later.2⟩
  simp only [migrationSemantics] at result
  split at result
  · obtain ⟨⟨client, connected⟩, connects, pair⟩ :=
      Option.map_eq_some_iff.mp result
    cases pair
    cases taken : choice.session with
    | none =>
        rw [taken] at connects
        cases connects
        refine finish { owner := some request.number } rfl rfl rfl
          (Function.update_self _ _ _) rfl ?_
        exact {
          others := fun _ different => Function.update_of_ne different _ _
          opened := Nat.le_succ _
          here := fun session found => by
            cases (Function.update_self _ _ _).symm.trans found
            exact ⟨Nat.lt_succ_self _, fun _ unowned => by cases unowned⟩
          ended := fun old => absurd old (Nat.lt_irrefl _)
          free := fun _ _ old => absurd old (Nat.lt_irrefl _)
          lock := fun _ _ holds => holds }
    | some id =>
        rw [taken] at connects
        simp only [Database.connect] at connects
        split at connects
        · rename_i session found
          split at connects
          · rename_i idle
            cases connects
            have clean := invariant.idle client session found idle.1 idle.2
            refine finish { session with owner := some request.number } clean rfl
              idle.1 (Function.update_self _ _ _) rfl ?_
            exact {
              others := fun _ different => Function.update_of_ne different _ _
              opened := Nat.le_refl _
              here := fun session found => by
                cases (Function.update_self _ _ _).symm.trans found
                exact ⟨invariant.opened client _ ‹_›,
                  fun _ unowned => by cases unowned⟩
              ended := fun _ gone => by cases gone.symm.trans found
              free := fun same other _ atSame theirs => by
                cases atSame.symm.trans found
                cases idle.2.symm.trans theirs
              lock := fun _ _ holds => holds }
          · cases connects
        · cases connects
  · rename_i message fate
    cases result
    exact ⟨⟨invariant, .refl _⟩, fun final later alone => by
      cases fate.symm.trans (allowed alone)⟩
  · rename_i message carriedOut fate
    cases result
    exact ⟨⟨invariant, .refl _⟩, fun final later alone => by
      cases fate.symm.trans (allowed alone)⟩

theorem release_ensures (isRun : request.isRun)
    {holds : Database → Prop}
    (stable : ∀ database next, holds database →
      MigrationRely setting request database next → holds next)
    (framed : ∀ database, holds database → holds (database.release id))
    (outside : Clean setting request.number id state) (here : holds state) :
    (Migrate.call (.release id)).Ensures (migrationSemantics dir)
      (migrationContract dir setting request)
      (ending (fun _ => holds) (fun _ _ => False) fun _ _ => True) history
      state := by
  refine @Program.Ensures.perform migrations MigrationErr MigrationChoice Database
    _ _ (.release id) _ _ _ ?_
  intro before environment
  refine ⟨trivial, ?_⟩
  intro choice answer after allowed result
  cases result
  have atCall := outside.stable isRun environment.2
  have kept := framed before (stable _ _ here environment.2)
  have invariant := environment.1
  suffices own : SchemaInvariant dir (before.release id) ∧
      MigrationTurn dir request before (before.release id) from
    ⟨own, fun final later => stable _ _ kept later.2⟩
  unfold Database.release
  split
  · rename_i session found
    split
    · rename_i usable
      obtain ⟨own, clean⟩ := atCall.here session found
      have change : SessionChange request id before
          (before.setSession id (some { session with owner := none })) :=
        { others := fun _ different => Function.update_of_ne different _ _
          opened := Nat.le_refl _
          here := fun same atSame => by
            cases (Function.update_self _ _ _).symm.trans atSame
            exact ⟨invariant.opened id session found, fun _ _ => clean usable⟩
          ended := fun _ gone => by cases gone.symm.trans found
          free := fun same other _ atSame theirs => by
            cases atSame.symm.trans found
            cases own.symm.trans theirs
            exact ⟨rfl, isRun⟩
          lock := fun _ _ holds => holds }
      exact change.own invariant .same (.inl rfl)
    · exact ⟨invariant, .refl _⟩
  · exact ⟨invariant, .refl _⟩

/-! ## A run -/

/-- So many files are recorded. -/
def AtLeast (count : Nat) (database : Database) : Prop :=
  count ≤ database.tables.recorded.length

theorem SchemaGrows.atLeast {count : Nat} (grows : SchemaGrows database next)
    (reached : AtLeast count database) : AtLeast count next :=
  Nat.le_trans reached grows.grows.length_le

/-- An exception that is ignored. -/
theorem ignoring_ensures {program : MigrationProgram Unit}
    {holds : Database → Prop}
    (stable : ∀ database next, holds database →
      MigrationRely setting request database next → holds next)
    (invariant : SchemaInvariant dir state)
    (ensures : program.Ensures (migrationSemantics dir)
      (migrationContract dir setting request)
      (yielding (fun _ _ => holds)
        (fun _ database => ¬ setting.alone ∧ holds database)
        fun _ _ => True) history state) :
    (Migrate.ignoring program).Ensures (migrationSemantics dir)
      (migrationContract dir setting request)
      (yielding (fun _ _ => holds) (fun _ _ => False) fun _ _ => True)
      history state := by
  refine ensures.tryCatch invariant ?_ ?_ (fun _ _ _ => trivial)
  · exact fun _ _ _ atEnd final later => stable _ _ atEnd later.2
  · exact fun _ _ _ _ atEnd final later => stable _ _ atEnd.2 later.2

theorem applyFile_ensures (isRun : request.isRun) {count : Nat} {file : String}
    (next : dir.files[count]? = some file)
    (invariant : SchemaInvariant dir state)
    (locked : Locked setting request.number id none (tablesAt dir count) state) :
    (Migrate.applyFile id file (dir.statements file)).Ensures
      (migrationSemantics dir) (migrationContract dir setting request)
      (afterQuery setting request.number id fun _ database =>
        Locked setting request.number id none (tablesAt dir (count + 1))
            database ∧ AtLeast (count + 1) database)
      history state := by
  obtain ⟨inside, atCount⟩ := List.getElem?_eq_some_iff.mp next
  have fresh : file ∉ dir.files.take count := by
    rw [← atCount, List.mem_take_iff_getElem]
    rintro ⟨index, bound, same⟩
    have equal := (dir.files_nodup.getElem_inj_iff).mp same
    omega
  have body : (do
        Migrate.sendQuery id .begin
        Migrate.sendQuery id (.execute (dir.statements file))
        Migrate.sendQuery id (.insert file)
        Migrate.sendQuery id .commit : MigrationProgram Unit).Ensures
      (migrationSemantics dir) (migrationContract dir setting request)
      (insideQuery setting request.number id fun _ database =>
        Locked setting request.number id none (tablesAt dir (count + 1))
            database ∧ AtLeast (count + 1) database)
      history state := by
    refine Program.Ensures.seq _ invariant (begin_ensures isRun locked) ?_
    intro _ history state invariant began
    refine Program.Ensures.seq _ invariant (execute_ensures isRun began) ?_
    intro _ history state invariant executed
    refine Program.Ensures.seq _ invariant
      (insert_ensures isRun fresh executed) ?_
    intro _ history state invariant inserted
    exact commit_ensures isRun next inserted
  refine body.tryCatch invariant ?_ ?_ (fun _ _ _ => trivial)
  · intro history _ state atEnd final later
    exact ⟨atEnd.1.stable isRun later.2, later.2.1.atLeast atEnd.2⟩
  · intro history error state invariant atEnd
    refine Program.Ensures.bind (ignoring_ensures
      (fun _ _ outside rely => outside.stable isRun rely) invariant
      (rollback_ensures isRun atEnd.2)) invariant ?_ ?_ (fun _ _ _ => trivial)
    · intro history _ state _ outside final later
      exact ⟨atEnd.1, Clean.stable outside isRun later.2⟩
    · exact fun _ _ _ never => never.elim

/-- What a run knows at the end of its loop. -/
abbrev afterLoop (dir : MigrationsDir) (setting : MigrationSetting)
    (run id : Nat) (expected : List String) :
    History migrations MigrationErr → Outcome MigrationErr (List String) →
      Database → Prop :=
  yielding
    (fun applied _ database => applied = expected ∧
      Clean setting run id database ∧ AtLeast dir.files.length database)
    (fun _ database => ¬ setting.alone ∧ Clean setting run id database)
    fun _ _ => True

/-- The files before `count` are skipped, the others are applied one by one. -/
theorem applyFiles_ensures (isRun : request.isRun) {count : Nat}
    {alreadyApplied : List String}
    (recorded : alreadyApplied.Perm (dir.files.take count))
    {done rest applied : List String} (whole : done ++ rest = dir.files)
    (bound : count ≤ dir.files.length)
    (invariant : SchemaInvariant dir state)
    (locked : Locked setting request.number id none
      (tablesAt dir (max done.length count)) state)
    (reached : AtLeast (max done.length count) state) :
    (Migrate.applyFiles id alreadyApplied rest applied).Ensures
      (migrationSemantics dir) (migrationContract dir setting request)
      (afterLoop dir setting request.number id
        (applied ++ rest.filter (· ∉ alreadyApplied))) history state := by
  induction rest generalizing done applied history state with
  | nil =>
      rw [List.append_nil] at whole
      subst whole
      rw [Nat.max_eq_left bound] at reached
      intro final later
      refine ⟨by simp, locked.clean.stable isRun later.2, ?_⟩
      exact later.2.1.atLeast reached
  | cons file rest ih =>
      have next : dir.files[done.length]? = some file := by
        rw [← whole]
        simp
      have whole' : (done ++ [file]) ++ rest = dir.files := by
        rw [← whole]
        simp
      have known : file ∈ alreadyApplied ↔ done.length < count := by
        rw [recorded.mem_iff, List.mem_take_iff_getElem]
        obtain ⟨inside, atDone⟩ := List.getElem?_eq_some_iff.mp next
        constructor
        · rintro ⟨index, small, same⟩
          have equal := (dir.files_nodup.getElem_inj_iff).mp
            (same.trans atDone.symm)
          omega
        · exact fun small => ⟨done.length, by omega, atDone⟩
      unfold Migrate.applyFiles
      by_cases skipped : file ∈ alreadyApplied
      · have small := known.mp skipped
        have same : max (done ++ [file]).length count =
            max done.length count := by
          rw [List.length_append, List.length_singleton]
          omega
        rw [if_pos skipped, List.filter_cons_of_neg (by simpa using skipped)]
        exact ih whole' invariant (same ▸ locked) (same ▸ reached)
      · have large : count ≤ done.length :=
          Nat.not_lt.mp fun small => skipped (known.mpr small)
        have later : max (done ++ [file]).length count = done.length + 1 := by
          rw [List.length_append, List.length_singleton]
          omega
        rw [Nat.max_eq_left large] at locked
        rw [if_neg skipped, List.filter_cons_of_pos (by simpa using skipped)]
        refine Program.Ensures.bind (readFile_ensures file
          (fun _ _ here rely => Locked.stable here isRun rely) locked) invariant
          ?_ ?_ (fun _ _ _ => trivial)
        · rintro history sql state invariant ⟨rfl, locked⟩
          refine Program.Ensures.seq _ invariant
            (applyFile_ensures isRun next invariant locked) ?_
          rintro _ history state invariant ⟨locked, reached⟩
          rw [List.append_cons]
          exact ih whole' invariant (later ▸ locked) (later ▸ reached)
        · exact fun _ _ _ atEnd => ⟨atEnd.1, atEnd.2.clean⟩

/-- What is known at the end of a run. -/
abbrev afterRun (dir : MigrationsDir) (setting : MigrationSetting) :
    History migrations MigrationErr → Outcome MigrationErr (List String) →
      Database → Prop :=
  yielding
    (fun applied _ database =>
      (∃ count, setting.early count ∧ count ≤ dir.files.length ∧
        applied = dir.files.drop count) ∧
        AtLeast dir.files.length database)
    (fun _ _ => ¬ setting.alone) fun _ _ => True

/-- What is left of the files without the recorded ones. -/
theorem filter_eq_drop {count : Nat} {alreadyApplied : List String}
    (recorded : alreadyApplied.Perm (dir.files.take count)) :
    dir.files.filter (· ∉ alreadyApplied) = dir.files.drop count := by
  have split := List.take_append_drop count dir.files
  have apart := List.nodup_append.mp (split ▸ dir.files_nodup)
  have same : ∀ file, file ∈ alreadyApplied ↔ file ∈ dir.files.take count :=
    fun _ => recorded.mem_iff
  conv => lhs; rw [← split]
  rw [List.filter_append, List.filter_eq_nil_iff.mpr, List.nil_append,
    List.filter_eq_self.mpr]
  · intro file later
    have absent : file ∉ dir.files.take count :=
      fun earlier => apart.2.2 file earlier file later rfl
    simpa [same] using absent
  · intro file earlier
    simpa [same] using earlier

theorem migrate_ensures (isRun : request.isRun)
    (invariant : SchemaInvariant dir state)
    (outside : Clean setting request.number id state)
    (early : setting.early state.tables.recorded.length) :
    (Migrate.migrate id).Ensures (migrationSemantics dir)
      (migrationContract dir setting request)
      (yielding
        (fun (applied : List String) _ database =>
          (∃ count, setting.early count ∧ count ≤ dir.files.length ∧
            applied = dir.files.drop count) ∧
            Clean setting request.number id database ∧
            AtLeast dir.files.length database)
        (fun _ database =>
          ¬ setting.alone ∧ Clean setting request.number id database)
        fun _ _ => True) history state := by
  refine Program.Ensures.seq _ invariant (lock_ensures isRun outside early) ?_
  rintro _ history state invariant ⟨tables, inOrder, early, locked⟩
  refine Program.Ensures.seq _ invariant
    (createTable_ensures isRun inOrder locked) ?_
  intro _ history state invariant locked
  have bound := inOrder.eq_tablesAt.2
  refine Program.Ensures.seq _ invariant (select_ensures isRun bound locked) ?_
  rintro alreadyApplied history state invariant ⟨recorded, locked, reached⟩
  refine Program.Ensures.bind (readdir_ensures
    (fun database => Locked setting request.number id none
      (tablesAt dir tables.recorded.length) database ∧
        AtLeast tables.recorded.length database)
    (fun _ _ here rely => ⟨here.1.stable isRun rely, rely.1.atLeast here.2⟩)
    ⟨locked, reached⟩) invariant ?_ ?_ (fun _ _ _ => trivial)
  · rintro history listing state invariant ⟨listed, locked, reached⟩
    rw [migrationFiles_of_perm listed]
    have start : max ([] : List String).length tables.recorded.length =
        tables.recorded.length := Nat.zero_max _
    refine (applyFiles_ensures isRun recorded rfl bound invariant
      (start ▸ locked) (start ▸ reached)).relax ?_ (fun _ _ atEnd => atEnd)
      (fun _ _ _ => trivial)
    rintro applied history database ⟨rfl, clean, reached⟩
    exact ⟨⟨_, early, bound, filter_eq_drop recorded⟩, clean, reached⟩
  · exact fun _ _ _ atEnd => ⟨atEnd.1, atEnd.2.1.clean⟩

theorem runMigrations_ensures (isRun : request.isRun)
    (invariant : SchemaInvariant dir state)
    (early : setting.early state.tables.recorded.length) :
    (Migrate.runMigrations request.number).Ensures (migrationSemantics dir)
      (migrationContract dir setting request) (afterRun dir setting) history
      state := by
  refine Program.Ensures.bind (connect_ensures isRun early) invariant ?_
    (fun _ _ _ atEnd => atEnd) (fun _ _ _ => trivial)
  rintro history client state invariant ⟨outside, early⟩
  -- what holds of the outcome of the loop still holds after the cleanup
  have cleanup (holds : Database → Prop)
      (stable : ∀ database next, holds database → SchemaGrows database next →
        holds next)
      (unread : ∀ database, holds database → holds (database.release client))
      {history : History migrations MigrationErr} {state : Database}
      (invariant : SchemaInvariant dir state)
      (outside : Clean setting request.number client state)
      (here : holds state) :
      (do
          Migrate.ignoring (Migrate.sendQuery client .unlock)
          Migrate.call (.release client) : MigrationProgram Unit).Ensures
        (migrationSemantics dir) (migrationContract dir setting request)
        (yielding (fun _ _ => holds) (fun _ _ => False) fun _ _ => True)
        history state := by
    have unlocked : (Migrate.ignoring (Migrate.sendQuery client .unlock)).Ensures
        (migrationSemantics dir) (migrationContract dir setting request)
        (yielding (fun _ _ => Clean setting request.number client)
          (fun _ _ => False) fun _ _ => True) history state :=
      ignoring_ensures (fun _ _ outside rely => outside.stable isRun rely)
        invariant (unlock_ensures isRun outside)
    have unlocked := unlocked.carrying
      (fun _ _ here later => stable _ _ here later.2.1)
      (fun _ _ here own => stable _ _ here own.2.grows) here
    refine unlocked.bind invariant ?_ (fun _ _ _ atEnd => atEnd.2)
      (fun _ _ _ => trivial)
    intro history _ state invariant atEnd
    exact release_ensures isRun (fun _ _ here rely => stable _ _ here rely.1)
      unread atEnd.2 atEnd.1
  refine Program.Ensures.bind (migrate_ensures isRun invariant outside
    early).attempt invariant ?_ (fun _ _ _ never => never.elim)
    (fun _ _ _ => trivial)
  intro history outcome state invariant atEnd
  cases outcome with
  | ok applied =>
      obtain ⟨known, outside, reached⟩ := atEnd
      refine Program.Ensures.bind (cleanup (AtLeast dir.files.length)
        (fun _ _ here grows => grows.atLeast here) ?_ invariant outside reached)
        invariant ?_ (fun _ _ _ never => never.elim) (fun _ _ _ => trivial)
      · intro database reached
        unfold Database.release
        split
        · split
          · exact reached
          · exact reached
        · exact reached
      · intro history _ state _ reached final later
        exact ⟨known, later.2.1.atLeast reached⟩
  | error error =>
      obtain ⟨alone, outside⟩ := atEnd
      refine Program.Ensures.bind (cleanup (fun _ => True)
        (fun _ _ _ _ => trivial) (fun _ _ => trivial) invariant outside trivial)
        invariant ?_ (fun _ _ _ never => never.elim) (fun _ _ _ => trivial)
      exact fun _ _ _ _ _ _ _ => alone

/-! ## The check -/

/-- What the check says of the number of recorded files it has seen. -/
def afterCheck (dir : MigrationsDir) (setting : MigrationSetting)
    (_ : History migrations MigrationErr) :
    Outcome MigrationErr Unit → Database → Prop
  | .returned _, database => ∃ count, setting.early count ∧
      dir.files.drop count = [] ∧ AtLeast count database
  | .threw error, _ => setting.alone → ∃ count, setting.early count ∧
      dir.files.drop count ≠ [] ∧ error = .outdated (dir.files.drop count)
  | .cut, _ => True

theorem regclass_ensures
    (early : setting.early state.tables.recorded.length) :
    (Migrate.call .regclass).Ensures (migrationSemantics dir)
      (migrationContract dir setting request)
      (yielding (fun (present : Bool) _ database =>
          setting.early database.tables.recorded.length ∧
            if present then database.tables.schemaMigrations.isSome = true
            else setting.early 0)
        (fun _ _ => ¬ setting.alone) fun _ _ => True) history state := by
  refine (read_ensures .regclass (fun (present : Bool) database =>
      setting.early database.tables.recorded.length ∧
        if present then database.tables.schemaMigrations.isSome = true
        else setting.early 0)
    (fun _ _ => early_stable) ?_ ?_ early).relax (fun _ _ _ atEnd => atEnd)
    (fun _ _ atEnd => atEnd.1) (fun _ _ _ => trivial)
  · intro present database next good rely
    refine ⟨early_stable good.1 rely, ?_⟩
    cases present with
    | true => exact rely.1.exists good.2
    | false => exact good.2
  · intro database choice answer next _ early result
    obtain ⟨same, offered⟩ := attemptRead_cases result
    refine ⟨same, ?_⟩
    rcases offered with offered | ⟨failed, message, rfl⟩
    · cases offered
      refine ⟨early, ?_⟩
      cases present : database.tables.schemaMigrations with
      | some rows => rfl
      | none =>
          have nothing : database.tables.recorded.length = 0 := by
            simp [Tables.recorded, present]
          exact nothing ▸ early
    · exact failed

theorem selectPooled_ensures
    (early : setting.early state.tables.recorded.length)
    (present : state.tables.schemaMigrations.isSome = true) :
    (Migrate.call .selectPooled).Ensures (migrationSemantics dir)
      (migrationContract dir setting request)
      (yielding (fun (rows : List String) _ database =>
          ∃ count, setting.early count ∧ rows.Perm (dir.files.take count) ∧
            AtLeast count database)
        (fun _ _ => ¬ setting.alone) fun _ _ => True) history state := by
  have stable : ∀ database next,
      (setting.early database.tables.recorded.length ∧
        database.tables.schemaMigrations.isSome = true) →
      MigrationRely setting request database next →
      setting.early next.tables.recorded.length ∧
        next.tables.schemaMigrations.isSome = true :=
    fun _ _ here rely => ⟨early_stable here.1 rely, rely.1.exists here.2⟩
  refine (read_ensures .selectPooled (fun (rows : List String) database =>
      ∃ count, setting.early count ∧ rows.Perm (dir.files.take count) ∧
        AtLeast count database) stable ?_ ?_ ⟨early, present⟩).relax
    (fun _ _ _ atEnd => atEnd) (fun _ _ atEnd => atEnd.1)
    (fun _ _ _ => trivial)
  · rintro rows database next ⟨count, early, recorded, reached⟩ rely
    exact ⟨count, early, recorded, rely.1.atLeast reached⟩
  · rintro database choice answer next invariant ⟨early, present⟩ result
    obtain ⟨same, offered⟩ := attemptRead_cases result
    refine ⟨same, ?_⟩
    obtain ⟨rows, found⟩ := Option.isSome_iff_exists.mp present
    rcases offered with offered | ⟨failed, message, rfl⟩
    · rw [found] at offered
      dsimp only at offered
      split at offered
      · rename_i perm
        cases offered
        have recorded : database.tables.recorded = rows := by
          simp [Tables.recorded, found]
        refine ⟨rows.length, recorded ▸ early, ?_, recorded ▸ Nat.le_refl _⟩
        have first := recorded ▸ invariant.inOrder.first
        rw [← List.prefix_iff_eq_take.mp first]
        exact List.isPerm_iff.mp perm
      · cases offered
    · exact failed

theorem assertSchemaCurrent_ensures (invariant : SchemaInvariant dir state)
    (early : setting.early state.tables.recorded.length) :
    Migrate.assertSchemaCurrent.Ensures (migrationSemantics dir)
      (migrationContract dir setting request) (afterCheck dir setting) history
      state := by
  have failing {history : History migrations MigrationErr} {error : MigrationErr}
      {database : Database} (alone : ¬ setting.alone) :
      afterCheck dir setting history (.threw error) database :=
    fun now => absurd now alone
  refine Program.Ensures.bind (regclass_ensures early) invariant ?_
    (fun _ _ _ => failing) (fun _ _ _ => trivial)
  intro history present state invariant known
  have selected : (Migrate.recordedFiles present).Ensures
      (migrationSemantics dir)
      (migrationContract dir setting request)
      (yielding (fun (rows : List String) _ database =>
          ∃ count, setting.early count ∧ rows.Perm (dir.files.take count) ∧
            AtLeast count database)
        (fun _ _ => ¬ setting.alone) fun _ _ => True) history state := by
    cases present with
    | true => exact selectPooled_ensures known.1 known.2
    | false =>
        exact fun final _ => ⟨0, known.2, List.Perm.refl _, Nat.zero_le _⟩
  refine Program.Ensures.bind selected invariant ?_ (fun _ _ _ => failing)
    (fun _ _ _ => trivial)
  rintro history alreadyApplied state invariant ⟨count, early, recorded, reached⟩
  refine Program.Ensures.bind (readdir_ensures (AtLeast count)
    (fun _ _ here rely => rely.1.atLeast here) reached) invariant ?_
    (fun _ _ _ atEnd => failing atEnd.1) (fun _ _ _ => trivial)
  rintro history listing state invariant ⟨listed, reached⟩
  rw [migrationFiles_of_perm listed]
  dsimp only
  rw [filter_eq_drop recorded]
  split
  · rename_i none
    exact fun final later => ⟨count, early, none, later.2.1.atLeast reached⟩
  · rename_i some
    exact fun final later alone => ⟨count, early, some, rfl⟩

end Queries

/-! ## All that happens at the database -/

theorem endSession_own (session : Nat) (command : request.command =
      .endSession session) (invariant : SchemaInvariant dir database) :
    SchemaInvariant dir (database.endSession session) ∧
      MigrationTurn dir request database (database.endSession session) := by
  have others {other : Nat} {present : DatabaseSession}
      (found : (database.endSession session).sessions other = some present) :
      database.sessions other = some present := by
    by_cases same : other = session
    · subst same
      cases (Function.update_self _ _ _).symm.trans found
    · exact (Function.update_of_ne same _ _).symm.trans found
  refine ⟨⟨invariant.inOrder, fun other present found =>
      invariant.opened other present (others found),
    fun other present found => invariant.idle other present (others found)⟩,
    ⟨.same, ⟨List.prefix_rfl, id, Nat.le_refl _, ?_⟩, ?_⟩⟩
  · intro other _ gone
    by_cases same : other = session
    · subst same
      exact Function.update_self _ _ _
    · exact (Function.update_of_ne same _ _).trans gone
  · intro other _ _ id theirs _ found _
    by_cases same : id = session
    · subst same
      exact .inl (Function.update_self _ _ _)
    · refine .inr ⟨(Function.update_of_ne same _ _).trans found, fun holds => ?_⟩
      refine ⟨?_, rfl⟩
      unfold Database.holds at holds
      obtain ⟨held, taken, mine⟩ := (Option.any_eq_true _ _).mp holds
      have mine := of_decide_eq_true mine
      simp [Database.holds, Database.endSession, Database.setSession, taken,
        mine, same]

/-- What is known at the end of a request. -/
def afterRequest (dir : MigrationsDir) (_ : MigrationRequest)
    (_ : History migrations MigrationErr) :
    Outcome MigrationErr MigrationResult → Database → Prop
  | .returned (.applied files), database =>
      files <:+ dir.files ∧ AtLeast dir.files.length database
  | .returned .current, database => AtLeast dir.files.length database
  | _, _ => True

/-- Others may do anything, and nothing is known at the start. -/
def sharedSetting : MigrationSetting := ⟨False, fun _ => True, fun _ _ => trivial⟩

theorem request_ensures (request : MigrationRequest)
    (invariant : SchemaInvariant dir database) :
    request.program.Ensures (migrationSemantics dir)
      (migrationContract dir sharedSetting request) (afterRequest dir request)
      [] database := by
  unfold MigrationRequest.program
  split
  · rename_i isRun
    refine Program.Ensures.bind (runMigrations_ensures isRun invariant trivial)
      invariant ?_ (fun _ _ _ _ => trivial) (fun _ _ _ => trivial)
    rintro history files state _ ⟨⟨count, -, -, rfl⟩, reached⟩ final later
    exact ⟨List.drop_suffix _ _, later.2.1.atLeast reached⟩
  · refine Program.Ensures.bind (assertSchemaCurrent_ensures invariant trivial)
      invariant ?_ (fun _ _ _ _ => trivial) (fun _ _ _ => trivial)
    rintro history _ state _ ⟨count, -, none, reached⟩ final later
    have all : dir.files.length ≤ count := List.drop_eq_nil_iff.mp none
    exact later.2.1.atLeast (Nat.le_trans all reached)
  · rename_i session command
    intro before environment
    refine ⟨trivial, fun choice answer after _ result => ?_⟩
    cases result
    exact ⟨endSession_own session command environment.1, fun _ _ => trivial⟩

theorem migrationContracts :
    Pool.Compatible (migrationContract dir sharedSetting)
      (SchemaInvariant dir) where
  invariant_iff _ _ := Iff.rfl
  covered request other _ _ different turn := by
    refine ⟨turn.grows, fun isRun => ?_, fun never => never.elim⟩
    exact turn.spares other (fun same => different same.symm) isRun

theorem SchemaInvariant.initial : SchemaInvariant dir {} :=
  ⟨.initial, fun _ _ found => (by cases found), fun _ _ found => (by cases found)⟩

theorem anyMove_allowed (pool : MigrationPool)
    (move : Move MigrationRequest MigrationChoice) :
    Pool.Allowed (migrationContract dir sharedSetting) pool move := by
  cases move with
  | start request => trivial
  | advance index choice => exact fun _ _ _ _ _ never => never.elim

theorem migrations_within {pool : MigrationPool}
    (run : Pool.Run (migrationService dir) (fun _ _ => True) ⟨{}, []⟩ pool) :
    Pool.WithinContracts (migrationContract dir sharedSetting)
      (afterRequest dir) (migrationService dir) (SchemaInvariant dir) pool := by
  refine Pool.WithinContracts.run migrationContracts
    (fun request state invariant _ => request_ensures request invariant)
    (.of_idle .initial) (run.mono fun pool move _ => anyMove_allowed pool move)

/-! ## Alone -/

/-- Nobody else acts, and so many files are recorded. -/
def aloneSetting (count : Nat) : MigrationSetting :=
  ⟨True, fun known => known = count, fun never => absurd trivial never⟩

/-- How a program that runs alone ends, if nothing fails. -/
theorem alone_ends {α : Type} (request : MigrationRequest)
    {program : MigrationProgram α}
    {post : History migrations MigrationErr → Outcome MigrationErr α → Database →
      Prop}
    (invariant : SchemaInvariant dir database)
    (ensures : program.Ensures (migrationSemantics dir)
      (migrationContract dir
        (aloneSetting database.tables.recorded.length) request) post []
      database)
    {choices : List MigrationChoice}
    (reliable : ∀ choice ∈ choices, choice.fate = .ok) :
    ∃ history, post history
      (program.run (migrationSemantics dir) choices database).1
      (program.run (migrationSemantics dir) choices database).2 := by
  have executes : ∃ history, Execution (migrationSemantics dir) Eq
      (migrationContract dir
        (aloneSetting database.tables.recorded.length) request).allowed
      [] program database history
      (program.run (migrationSemantics dir) choices database).1
      (program.run (migrationSemantics dir) choices database).2 :=
    Program.run_execution (migrationSemantics dir) (fun _ => rfl) program choices
      database [] (fun choice member _ _ _ _ => reliable choice member)
  obtain ⟨history, execution⟩ := executes
  refine ⟨history, ensures.sound ?_ invariant execution⟩
  rintro before _ invariant rfl
  exact ⟨invariant, Contract.reflexive _ before⟩

/-- The files a run would apply. -/
def pendingFiles (dir : MigrationsDir) (database : Database) : List String :=
  dir.files.drop database.tables.recorded.length

theorem further_run (number : Nat) (invariant : SchemaInvariant dir database)
    {choices : List MigrationChoice}
    (reliable : ∀ choice ∈ choices, choice.fate = .ok) :
    ((Migrate.runMigrations number).run (migrationSemantics dir) choices
        database).1 = .cut ∨
      ((Migrate.runMigrations number).run (migrationSemantics dir) choices
        database).1 = .returned (pendingFiles dir database) := by
  obtain ⟨history, atEnd⟩ := alone_ends ⟨number, .runMigrations⟩ invariant
    (runMigrations_ensures rfl invariant rfl) reliable
  cases outcome : ((Migrate.runMigrations number).run (migrationSemantics dir)
      choices database).1 with
  | returned applied =>
      rw [outcome] at atEnd
      obtain ⟨⟨count, rfl, -, rfl⟩, -⟩ := atEnd
      exact .inr rfl
  | threw error =>
      rw [outcome] at atEnd
      exact absurd trivial atEnd
  | cut => exact .inl rfl

theorem check_ends (invariant : SchemaInvariant dir database)
    {choices : List MigrationChoice}
    (reliable : ∀ choice ∈ choices, choice.fate = .ok) :
    let outcome := (Migrate.assertSchemaCurrent.run (migrationSemantics dir)
      choices database).1
    outcome = .cut ∨
      pendingFiles dir database = [] ∧ outcome = .returned () ∨
      pendingFiles dir database ≠ [] ∧
        outcome = .threw (.outdated (pendingFiles dir database)) := by
  intro outcome
  obtain ⟨history, atEnd⟩ := alone_ends ⟨0, .assertSchemaCurrent⟩ invariant
    (assertSchemaCurrent_ensures invariant rfl) reliable
  cases same : outcome with
  | returned _ =>
      rw [show (Migrate.assertSchemaCurrent.run (migrationSemantics dir)
        choices database).1 = .returned _ from same] at atEnd
      obtain ⟨count, rfl, none, -⟩ := atEnd
      exact .inr (.inl ⟨none, rfl⟩)
  | threw error =>
      rw [show (Migrate.assertSchemaCurrent.run (migrationSemantics dir)
        choices database).1 = .threw error from same] at atEnd
      obtain ⟨count, rfl, some, rfl⟩ := atEnd trivial
      exact .inr (.inr ⟨some, rfl⟩)
  | cut => exact .inl rfl

/-! ## Migrations are applied once, in order -/

theorem attemptRead_tables {α : Type} {choice : MigrationChoice}
    {error : String → MigrationErr} {offered : Option (Except MigrationErr α)}
    {answer : Except MigrationErr α}
    (result : attemptRead choice error offered database =
      some (answer, next)) : next.tables = database.tables :=
  congrArg Database.tables (attemptRead_cases result).1

/-- A call without an effect leaves the tables alone. -/
theorem tables_of_failed {call : MigrationCall} {choice : MigrationChoice}
    {answer : Except MigrationErr call.Answer}
    (failed : choice.fate.takesEffect = false)
    (result : migrationSemantics dir call choice database =
      some (answer, next)) : next.tables = database.tables := by
  cases call with
  | connect run =>
      simp only [migrationSemantics] at result
      split at result
      · rename_i fate
        rw [fate] at failed
        cases failed
      · cases result; rfl
      · cases result; rfl
  | query client query =>
      change database.query client choice query = some (answer, next) at result
      unfold Database.query at result
      split at result
      · cases result; rfl
      · split at result
        · split at result
          · rename_i fate
            rw [fate] at failed
            cases failed
          · obtain ⟨rejected, rejection, pair⟩ :=
              Option.map_eq_some_iff.mp result
            cases pair
            exact (reject_frame rejection).2
          · rename_i fate
            rw [fate] at failed
            cases failed
          · cases result; rfl
        · cases result; rfl
  | release client =>
      cases result
      unfold Database.release
      split
      · split
        · rfl
        · rfl
      · rfl
  | regclass => exact attemptRead_tables result
  | selectPooled => exact attemptRead_tables result
  | readdir => exact attemptRead_tables result
  | readFile filename => exact attemptRead_tables result
  | endSession session => cases result; rfl

/-- Whatever the runs do and wherever they fail: the recorded files are a prefix
of the files, their statements have taken effect once each, and one step adds a
file with its record or nothing, and nothing if it fails.  Whoever returns has
seen all files applied, and the check accepts what a run would leave alone. -/
theorem migrations_applied_once (dir : MigrationsDir) {pool : MigrationPool}
    (run : Pool.Run (migrationService dir) (fun _ _ => True) ⟨{}, []⟩ pool) :
    AppliedInOrder dir pool.state.tables ∧
      (∀ move next, pool.step (migrationService dir) move = some next →
        TablesStep dir pool.state.tables next.state.tables) ∧
      (∀ index choice next,
        pool.step (migrationService dir) (.advance index choice) = some next →
        choice.fate.takesEffect = false →
        next.state.tables = pool.state.tables) ∧
      (∀ thread ∈ pool.threads,
        (∀ files, thread.program = .done (.applied files) →
          files <:+ dir.files ∧ pool.state.tables.recorded = dir.files) ∧
        (thread.program = .done .current →
          pool.state.tables.recorded = dir.files)) ∧
      ∀ number choices furtherChoices,
        (∀ choice ∈ choices ++ furtherChoices, choice.fate = .ok) →
        let check := (Migrate.assertSchemaCurrent.run (migrationSemantics dir)
          choices pool.state).1
        let further := ((Migrate.runMigrations number).run
          (migrationSemantics dir) furtherChoices pool.state).1
        check ≠ .cut → further ≠ .cut →
          (check = .returned () ↔ further = .returned []) := by
  have within := migrations_within run
  have invariant := within.keeps
  have complete (reached : AtLeast dir.files.length pool.state) :
      pool.state.tables.recorded = dir.files :=
    invariant.inOrder.first.eq_of_length_le reached
  refine ⟨invariant.inOrder, ?_, ?_, ?_, ?_⟩
  · intro move next moved
    have step : (fun before after : Database =>
        TablesStep dir before.tables after.tables) pool.state next.state :=
      within.covered (fun _ => .same) migrationContracts
        (fun _ _ _ turn => turn.tables) (anyMove_allowed pool move) moved
    exact step
  · intro index choice next moved failed
    obtain ⟨request, history, call, resume, answer, state, -, result, rfl⟩ :=
      Pool.step_advance moved
    exact tables_of_failed failed result
  · intro thread member
    obtain ⟨request, history, program⟩ := thread
    constructor
    · rintro files rfl
      obtain ⟨suffix, reached⟩ := within.finished migrationContracts member
      exact ⟨suffix, complete reached⟩
    · rintro rfl
      exact complete (within.finished migrationContracts member)
  · intro number choices furtherChoices reliable check further ends furtherEnds
    have applies : further = .returned (pendingFiles dir pool.state) :=
      (further_run number invariant fun choice member =>
        reliable choice (List.mem_append_right _ member)).resolve_left furtherEnds
    have seen := (check_ends invariant fun choice member =>
      reliable choice (List.mem_append_left _ member)).resolve_left ends
    rw [applies]
    rcases seen with ⟨none, current⟩ | ⟨some, outdated⟩
    · exact ⟨fun _ => congrArg Outcome.returned none, fun _ => current⟩
    · constructor
      · intro current
        cases current.symm.trans outdated
      · intro nothing
        injection nothing with nothing
        exact absurd nothing some

namespace SchemaMigrations

/-- Two files, listed out of order, and one that is no migration. -/
def twoFiles : MigrationsDir where
  entries := ["0002.sql", "README.md", "0001.sql"]
  distinct := by decide
  statements file := [file ++ ": create", file ++ ": alter"]

def advance : Move MigrationRequest MigrationChoice := .advance 0 {}

/-- The directory is listed in this order. -/
def lists : MigrationChoice := { listed := twoFiles.entries }

/-- A run up to the commit of the first file. -/
def untilCommit : List (Move MigrationRequest MigrationChoice) :=
  [.start ⟨0, .runMigrations⟩, advance, advance, advance, advance,
    .advance 0 lists, advance, advance, advance, advance]

/-- The first file is applied, the second one fails. -/
def secondFails : List (Move MigrationRequest MigrationChoice) :=
  untilCommit ++ [advance, advance, advance,
    .advance 0 { fate := .failed "syntax error" }, advance, advance, advance]

def commitLost : List (Move MigrationRequest MigrationChoice) :=
  untilCommit ++
    [.advance 0 { fate := .broken "connection lost" true }, advance, advance,
      advance]

/-- What is left after the first file, in the order of the rows. -/
def oneRow : MigrationChoice := { listed := ["0001.sql"] }

def checkChoices : List MigrationChoice := [{}, oneRow, lists]

def furtherChoices : List MigrationChoice :=
  [{}, {}, {}, oneRow, lists, {}, {}, {}, {}, {}, {}, {}]

/-- The tables, how the programs have ended, and what a check and a further run
do then. -/
structure Seen where
  tables : Tables
  outcomes : List (Outcome MigrationErr MigrationResult)
  check : Outcome MigrationErr Unit
  further : Outcome MigrationErr (List String)
  deriving DecidableEq

def seen (pool : MigrationPool) : Seen where
  tables := pool.state.tables
  outcomes := pool.threads.map (·.program.outcome)
  check := (Migrate.assertSchemaCurrent.run (migrationSemantics twoFiles)
    checkChoices pool.state).1
  further := ((Migrate.runMigrations 1).run (migrationSemantics twoFiles)
    furtherChoices pool.state).1

/-- The first file is applied, and the second one still pending. -/
def oneApplied (outcome : Outcome MigrationErr MigrationResult) : Seen where
  tables := ⟨some ["0001.sql"], twoFiles.statements "0001.sql"⟩
  outcomes := [outcome]
  check := .threw (.outdated ["0002.sql"])
  further := .returned ["0002.sql"]

end SchemaMigrations

open SchemaMigrations in
theorem migrations_applied_once_second_fails :
    ∃ pool : MigrationPool,
      seen pool = oneApplied
        (.threw (.migration "0002.sql" (.database "syntax error"))) ∧
      AppliedInOrder twoFiles pool.state.tables := by
  have ends : ((⟨{}, []⟩ : MigrationPool).follow (migrationService twoFiles)
      (fun _ _ => true) secondFails).map seen = some (oneApplied
        (.threw (.migration "0002.sql" (.database "syntax error")))) := by
    decide +kernel
  obtain ⟨pool, followed, same⟩ := Option.map_eq_some_iff.mp ends
  exact ⟨pool, same, (migrations_applied_once twoFiles
    (Pool.run_of_follow (fun _ _ _ => trivial) followed)).1⟩

open SchemaMigrations in
/-- The connection is lost while the commit is answered: the run reports the
file as failed, and it is applied and recorded. -/
theorem failed_file_recorded :
    ¬ ∀ (dir : MigrationsDir) (pool : MigrationPool),
      Pool.Run (migrationService dir) (fun _ _ => True) ⟨{}, []⟩ pool →
      ∀ file cause,
        pool.threads.map (·.program.outcome) =
          [.threw (.migration file cause)] →
        file ∉ pool.state.tables.recorded := by
  intro claim
  have ends : ((⟨{}, []⟩ : MigrationPool).follow (migrationService twoFiles)
      (fun _ _ => true) commitLost).map
        (fun pool => (pool.state.tables, pool.threads.map (·.program.outcome))) =
        some (⟨some ["0001.sql"], twoFiles.statements "0001.sql"⟩,
          [.threw (.migration "0001.sql" (.database "connection lost"))]) := by
    decide +kernel
  obtain ⟨pool, followed, same⟩ := Option.map_eq_some_iff.mp ends
  have absent := claim twoFiles pool
    (Pool.run_of_follow (fun _ _ _ => trivial) followed) "0001.sql" _
    (congrArg Prod.snd same)
  rw [show pool.state.tables = _ from congrArg Prod.fst same] at absent
  exact absent (by decide)

end FluxIP
