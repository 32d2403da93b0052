/-!
# Schema

The tables of the store, what they consist of, and which objects a store has at a given time.

* `Table.definition`: the columns, the unique keys and the references of each table.
* `Index`: a separate index, with its table and its columns.
* `Trigger`: a refusal of row changes, or the removal of each new row.
* `Schema`: the tables in the order of their creation, the separate indexes, and the triggers.
-/

namespace RefreshChain

/-- The tables. The last one records which migrations have been applied. -/
inductive Table where
  | users
  | ssoProviders
  | ssoSessions
  | refreshTokens
  | auditLogEntries
  | migrations
  deriving DecidableEq, Repr

/-- An index that is an object of its own. Those behind a primary key or a unique column are part
of their table. -/
structure Index where
  name : String
  table : Table
  columns : List String
  deriving DecidableEq, Repr

/-- The ways in which a statement changes a row. -/
inductive RowChange where
  | insert
  | update
  | delete
  deriving DecidableEq, Repr

inductive Trigger where
  /-- Each such change of a row of the table is refused with the message. -/
  | refuse (table : Table) (change : RowChange) (message : String)
  /-- Each new row of the table is deleted at once. -/
  | vanish (table : Table)
  deriving DecidableEq, Repr

/-! ## Names -/

namespace Table

def all : List Table :=
  [.users, .ssoProviders, .ssoSessions, .refreshTokens, .auditLogEntries, .migrations]

def name : Table → String
  | .users => "users"
  | .ssoProviders => "sso_providers"
  | .ssoSessions => "sso_sessions"
  | .refreshTokens => "refresh_tokens"
  | .auditLogEntries => "audit_log_entries"
  | .migrations => "seaql_migrations"

def ofName? (s : String) : Option Table := all.find? (·.name = s)

/-- The primary key of the table. -/
def key : Table → String
  | .migrations => "version"
  | _ => "id"

end Table

/-! ## What a table is made of -/

/-- The types of columns. -/
inductive ColumnType where
  | uuid
  | string
  | boolean
  | bigInteger
  | timestamp
  | json
  deriving DecidableEq, Repr

namespace ColumnType

def all : List ColumnType := [.uuid, .string, .boolean, .bigInteger, .timestamp, .json]

/-- How the type is written where a table is declared. -/
def word : ColumnType → String
  | .uuid => "uuid_text"
  | .string => "varchar"
  | .boolean => "boolean"
  | .bigInteger => "bigint"
  | .timestamp => "timestamp_with_timezone_text"
  | .json => "json_text"

end ColumnType

/-- What a column holds in a row that gives no value for it. -/
inductive ColumnDefault where
  | now
  | flag (b : Bool)
  deriving DecidableEq, Repr

structure Column where
  name : String
  type : ColumnType
  notNull : Bool := true
  default? : Option ColumnDefault := none
  primaryKey : Bool := false
  autoIncrement : Bool := false
  deriving DecidableEq, Repr

namespace Column

/-- A column that may be absent. -/
def optional (name : String) (type : ColumnType) : Column := { name, type, notNull := false }

/-- The time at which something was done to the row. -/
def stamp (name : String) : Column := { name, type := .timestamp, default? := some .now }

/-- The column of the primary key. -/
def key (name : String) (type : ColumnType) : Column := { name, type, primaryKey := true }

end Column

/-- What becomes of a row when the row goes that it refers to. -/
inductive DeleteRule where
  | noAction
  | cascade
  deriving DecidableEq, Repr

/-- How the rule is written where a table is declared. -/
def DeleteRule.word : DeleteRule → String
  | .noAction => "NO ACTION"
  | .cascade => "CASCADE"

/-- A column whose values are keys of another table. -/
structure ForeignKey where
  name : String
  column : String
  /-- The table that is referred to. -/
  parent : Table
  parentColumn : String := "id"
  onDelete : DeleteRule := .noAction
  deriving DecidableEq, Repr

namespace ForeignKey

def sessionUser : ForeignKey where
  name := "fk_sso_sessions_user"
  column := "user_id"
  parent := .users
  onDelete := .cascade

def sessionProvider : ForeignKey where
  name := "fk_sso_sessions_provider"
  column := "sso_provider_id"
  parent := .ssoProviders
  onDelete := .cascade

def tokenUser : ForeignKey where
  name := "fk_refresh_tokens_user"
  column := "user_id"
  parent := .users
  onDelete := .cascade

def tokenSession : ForeignKey where
  name := "fk_refresh_tokens_sso_session"
  column := "sso_session_id"
  parent := .ssoSessions
  onDelete := .cascade

end ForeignKey

/-- Columns whose values differ in any two rows. -/
structure UniqueKey where
  name : String
  columns : List String
  deriving DecidableEq, Repr

/-- What a table is made of. Columns and references are in the order of their declaration. -/
structure Table.Definition where
  table : Table
  columns : List Column
  uniqueKeys : List UniqueKey := []
  foreignKeys : List ForeignKey := []
  deriving DecidableEq, Repr

namespace Table

/-- How the table is declared. -/
def definition : Table → Table.Definition
  | .users => {
    table := .users
    columns := [{ name := "instance_id", type := .uuid }, .key "id" .uuid,
      { name := "email", type := .string }, .optional "last_sign_in_at" .timestamp,
      .stamp "created_at", .stamp "updated_at"] }
  | .ssoProviders => {
    table := .ssoProviders
    columns := [.key "id" .uuid, .optional "resource_id" .string, .stamp "created_at",
      .stamp "updated_at"] }
  | .ssoSessions => {
    table := .ssoSessions
    columns := [.key "id" .uuid, { name := "user_id", type := .uuid },
      { name := "sso_provider_id", type := .uuid }, { name := "not_before", type := .timestamp },
      { name := "not_after", type := .timestamp },
      { name := "idp_initiated", type := .boolean, default? := some (.flag false) },
      .stamp "created_at", .stamp "updated_at"]
    foreignKeys := [.sessionUser, .sessionProvider] }
  | .refreshTokens => {
    table := .refreshTokens
    columns := [{ name := "instance_id", type := .uuid },
      { Column.key "id" .bigInteger with autoIncrement := true },
      { name := "token", type := .string }, .optional "parent" .string,
      { name := "user_id", type := .uuid }, .optional "sso_session_id" .uuid,
      { name := "revoked", type := .boolean, default? := some (.flag false) },
      .stamp "created_at", .stamp "updated_at"]
    uniqueKeys := [⟨"idx_refresh_tokens_token_unique", ["token"]⟩]
    foreignKeys := [.tokenUser, .tokenSession] }
  | .auditLogEntries => {
    table := .auditLogEntries
    columns := [.key "id" .uuid, { name := "instance_id", type := .uuid },
      .optional "user_id" .uuid, .optional "actor_email" .string,
      { name := "action", type := .string }, .optional "meta" .json, .stamp "created_at"] }
  | .migrations => {
    table := .migrations
    columns := [.key "version" .string, { name := "applied_at", type := .bigInteger }] }

@[simp] theorem definition_table (t : Table) : t.definition.table = t := by cases t <;> rfl

/-- The references of the table's rows. The one declared last is checked first. -/
def foreignKeys (t : Table) : List ForeignKey := t.definition.foreignKeys.reverse

end Table

namespace Index

def usersByInstance : Index := ⟨"idx_users_instance_id", .users, ["instance_id"]⟩

def sessionsByUser : Index := ⟨"idx_sso_sessions_user_id", .ssoSessions, ["user_id"]⟩

def tokensByParent : Index := ⟨"idx_refresh_tokens_parent", .refreshTokens, ["parent"]⟩

def tokensByInstanceUser : Index :=
  ⟨"idx_refresh_tokens_instance_user", .refreshTokens, ["instance_id", "user_id"]⟩

def auditByInstance : Index :=
  ⟨"idx_audit_log_entries_instance_id", .auditLogEntries, ["instance_id"]⟩

def all : List Index :=
  [usersByInstance, sessionsByUser, tokensByParent, tokensByInstanceUser, auditByInstance]

end Index

namespace RowChange

def word : RowChange → String
  | .insert => "INSERT"
  | .update => "UPDATE"
  | .delete => "DELETE"

end RowChange

namespace Trigger

def table : Trigger → Table
  | .refuse t _ _ => t
  | .vanish t => t

def name : Trigger → String
  | .refuse t c _ => "fail_" ++ t.name ++ "_" ++ c.word
  | .vanish t => "vanish_" ++ t.name

end Trigger

/-! ## The objects of a store -/

structure Schema where
  /-- What the tables are made of, in the order of their creation. -/
  definitions : List Table.Definition := []
  indexes : List Index := []
  triggers : List Trigger := []
  deriving DecidableEq, Repr

namespace Schema

/-- The tables in the order of their creation. -/
def tables (s : Schema) : List Table := s.definitions.map (·.table)

def indexNames (s : Schema) : List String := s.indexes.map (·.name)

/-- The message with which such a change of a row of `t` is refused, if it is. -/
def refusal? (s : Schema) (t : Table) (c : RowChange) : Option String :=
  s.triggers.findSome? fun
    | .refuse t' c' m => if t' = t ∧ c' = c then some m else none
    | .vanish _ => none

/-- Whether a new row of `t` is deleted at once. -/
def vanishes (s : Schema) (t : Table) : Bool := s.triggers.contains (.vanish t)

/-- Whether anything happens besides when a row of `t` is inserted. -/
def watchesInserts (s : Schema) (t : Table) : Bool :=
  s.vanishes t || (s.refusal? t .insert).isSome

/-- The tables whose rows refer to rows of `t`, the one created last first: the order in which the
store gets to them. -/
def childrenOf (s : Schema) (t : Table) : List Table :=
  s.tables.reverse.filter fun c => c.foreignKeys.any (·.parent = t)

/-- The kind, name and table of each object, in the order of the names. -/
def objects (s : Schema) : List (String × String × Table) :=
  (s.tables.map (fun t => ("table", t.name, t))
    ++ s.indexes.map (fun i => ("index", i.name, i.table))
    ++ s.triggers.map (fun t => ("trigger", t.name, t.table))).mergeSort
      fun a b => a.2.1 ≤ b.2.1

/-- Adds a table unless one of its name is there. -/
def addTable (s : Schema) (d : Table.Definition) : Schema :=
  if d.table ∈ s.tables then s else { s with definitions := s.definitions ++ [d] }

/-- Adds an index unless one of its name is there. -/
def addIndex (s : Schema) (i : Index) : Schema :=
  if i.name ∈ s.indexNames then s else { s with indexes := s.indexes ++ [i] }

/-- Removes a table with its indexes and triggers. -/
def dropTable (s : Schema) (t : Table) : Schema where
  definitions := s.definitions.filter (·.table ≠ t)
  indexes := s.indexes.filter (·.table ≠ t)
  triggers := s.triggers.filter (·.table ≠ t)

/-- Removes the index of the given name. -/
def dropIndex (s : Schema) (name : String) : Schema :=
  { s with indexes := s.indexes.filter (·.name ≠ name) }

/-- Removes the trigger of the given name. -/
def dropTrigger (s : Schema) (name : String) : Schema :=
  { s with triggers := s.triggers.filter (·.name ≠ name) }

/-- Adds a trigger in place of the one of the same name. -/
def addTrigger (s : Schema) (t : Trigger) : Schema :=
  { s.dropTrigger t.name with triggers := (s.dropTrigger t.name).triggers ++ [t] }

end Schema

end RefreshChain
