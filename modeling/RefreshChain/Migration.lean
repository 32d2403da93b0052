import RefreshChain.Action

/-!
# Migrations

The schema is built by migrations, applied in order and each recorded once it has been carried out.
No transaction surrounds them: what was done before a failure stays.

* `Migration.up`, `Migration.down`: the statements that apply a migration and take it back.
* `Migrations.up`, `Migrations.down`: apply the next ones, or take back the last ones.
* `Migrations.fresh`, `Migrations.refresh`, `Migrations.reset`: from scratch, all back and forth,
  all back.
* `Migrations.status`: which ones are applied. A record of a migration that is not in the list is
  an error.
-/

namespace RefreshChain

inductive Migration where
  | createUsers
  | createSsoProviders
  | createSsoSessions
  | createRefreshTokens
  | createAuditLogEntries
  deriving DecidableEq, Repr

namespace Migration

/-- All migrations, in the order in which they apply. -/
def all : List Migration :=
  [.createUsers, .createSsoProviders, .createSsoSessions, .createRefreshTokens,
    .createAuditLogEntries]

def name : Migration → String
  | .createUsers => "m0001_create_users"
  | .createSsoProviders => "m0002_create_sso_providers"
  | .createSsoSessions => "m0003_create_sso_sessions"
  | .createRefreshTokens => "m0004_create_refresh_tokens"
  | .createAuditLogEntries => "m0005_create_audit_log_entries"

/-- The statements that apply the migration. -/
def up : Migration → List (Statement Unit)
  | .createUsers => [.createTable Table.users.definition, .createIndex .usersByInstance]
  | .createSsoProviders => [.createTable Table.ssoProviders.definition]
  | .createSsoSessions =>
    [.createTable Table.ssoSessions.definition, .createIndex .sessionsByUser]
  | .createRefreshTokens =>
    [.createTable Table.refreshTokens.definition, .createIndex .tokensByParent,
      .createIndex .tokensByInstanceUser]
  | .createAuditLogEntries =>
    [.createTable Table.auditLogEntries.definition, .createIndex .auditByInstance]

/-- The statements that take the migration back. -/
def down : Migration → List (Statement Unit)
  | .createUsers => [.dropTable .users]
  | .createSsoProviders => [.dropTable .ssoProviders]
  | .createSsoSessions => [.dropTable .ssoSessions]
  | .createRefreshTokens =>
    [.dropIndex Index.tokensByInstanceUser.name, .dropIndex Index.tokensByParent.name,
      .dropTable .refreshTokens]
  | .createAuditLogEntries => [.dropTable .auditLogEntries]

/-- The statements that apply the migration and record it. -/
def upRecorded (m : Migration) : List (Statement Unit) := m.up ++ [.recordMigration m.name]

/-- The statements that take the migration back and delete its record. -/
def downRecorded (m : Migration) : List (Statement Unit) :=
  m.down ++ [.deleteMigrations (· = m.name)]

/-- The complaint about recorded migrations that are not in the list. -/
def missingMessage (versions : List String) : String :=
  "\n".intercalate <| versions.map fun v =>
    "Migration file of version '" ++ v
      ++ "' is missing, this migration has been applied but its file is missing"

end Migration

namespace Migrations

variable {σ : Type}

/-- Sets up the table of records unless it is there. -/
def install : Action σ StoreError Unit :=
  Action.write (.createTable Table.migrations.definition)

/-- Carries out statements one after the other. -/
def run : List (Statement Unit) → Action σ StoreError Unit
  | [] => return ()
  | s :: ss => do
    Action.write s
    run ss

/-- Which migrations are applied. -/
def status : Action σ StoreError (List (Migration × Bool)) := do
  install
  let records ← Action.read [.migrations] (·.migrations)
  match records.filter fun v => Migration.all.all (·.name ≠ v) with
  | [] => return Migration.all.map fun m => (m, records.contains m.name)
  | unknown => Action.fail (.custom (Migration.missingMessage (unknown.mergeSort (· ≤ ·))))

/-- The first `n` of a list, or all. -/
def limit {α : Type} : Option Nat → List α → List α
  | none, xs => xs
  | some n, xs => xs.take n

/-- Applies the migrations that are pending, at most as many as given. -/
def up (steps : Option Nat) : Action σ StoreError Unit := do
  let pending := (← status).filterMap fun (m, applied) => if applied then none else some m
  run ((limit steps pending).flatMap Migration.upRecorded)

/-- Takes migrations back, the last one first, at most as many as given. -/
def down (steps : Option Nat) : Action σ StoreError Unit := do
  let applied := (← status).filterMap fun (m, applied) => if applied then some m else none
  run ((limit steps applied.reverse).flatMap Migration.downRecorded)

/-- Drops all tables, whatever they are, and applies all migrations. -/
def fresh : Action σ StoreError Unit := do
  install
  Action.adjust (·.enforce false)
  let tables ← Action.read [] (·.schema.tables)
  run (tables.map Statement.dropTable)
  Action.adjust (·.enforce true)
  up none

/-- Takes all migrations back and applies them again. -/
def refresh : Action σ StoreError Unit := do
  down none
  up none

/-- Takes all migrations back. -/
def reset : Action σ StoreError Unit := down none

end Migrations

end RefreshChain
