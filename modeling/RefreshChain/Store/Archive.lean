import RefreshChain.Store.Database

/-!
# Archives

The written form of a database: one record a line, the fields of a record separated by tabs.

* `Archive.escape`, `Archive.unescape?`: keep tabs and line ends out of a field.
* `Database.toArchive`, `Database.ofArchive?`: a whole database. A text that is not an archive is
  refused.
-/

namespace RefreshChain

namespace Archive

/-! ## Fields -/

/-- Writes a text without tabs and line ends. -/
def escape : List Char → List Char
  | [] => []
  | '\\' :: cs => '\\' :: '\\' :: escape cs
  | '\t' :: cs => '\\' :: 't' :: escape cs
  | '\n' :: cs => '\\' :: 'n' :: escape cs
  | '\r' :: cs => '\\' :: 'r' :: escape cs
  | c :: cs => c :: escape cs

/-- Reads what `escape` writes. -/
def unescape? : List Char → Option (List Char)
  | [] => some []
  | '\\' :: '\\' :: cs => (unescape? cs).map ('\\' :: ·)
  | '\\' :: 't' :: cs => (unescape? cs).map ('\t' :: ·)
  | '\\' :: 'n' :: cs => (unescape? cs).map ('\n' :: ·)
  | '\\' :: 'r' :: cs => (unescape? cs).map ('\r' :: ·)
  | '\\' :: _ => none
  | c :: cs => (unescape? cs).map (c :: ·)

theorem unescape?_escape (cs : List Char) : unescape? (escape cs) = some cs := by
  fun_induction escape cs <;> simp_all [unescape?]

/-- How values of a type are written into a field and read from one. -/
class Field (α : Type) where
  write : α → List Char
  read? : List Char → Option α

instance : Field String where
  write s := escape s.toList
  read? cs := (unescape? cs).map String.ofList

instance : Field Int where
  write i := (toString i).toList
  read? cs := (String.ofList cs).toInt?

instance : Field Bool where
  write b := [if b then '1' else '0']
  read?
    | ['1'] => some true
    | ['0'] => some false
    | _ => none

instance : Field Uuid where
  write u := u.toString.toList
  read? cs := Uuid.parse? (String.ofList cs)

/-- The seconds and the nanoseconds of an instant are separated by a point. -/
instance : Field Instant where
  write t := Field.write t.seconds ++ '.' :: (toString t.nanos).toList
  read? cs := do
    let seconds ← Field.read? (cs.takeWhile (· ≠ '.'))
    let nanos ← (String.ofList ((cs.dropWhile (· ≠ '.')).drop 1)).toNat?
    return ⟨seconds, nanos⟩

/-- A value that is there is marked by an equals sign, one that is not by a hyphen. -/
instance {α : Type} [Field α] : Field (Option α) where
  write
    | some a => '=' :: Field.write a
    | none => ['-']
  read?
    | '=' :: cs => (Field.read? cs).map some
    | ['-'] => some none
    | _ => none

instance : Field Table where
  write t := t.name.toList
  read? cs := Table.ofName? (String.ofList cs)

instance : Field RowChange where
  write c := c.word.toList
  read? cs := [RowChange.insert, .update, .delete].find? (·.word.toList = cs)

instance : Field ColumnType where
  write t := t.word.toList
  read? cs := ColumnType.all.find? (·.word.toList = cs)

instance : Field ColumnDefault where
  write
    | .now => "now".toList
    | .flag b => Field.write b
  read? cs :=
    if cs = "now".toList then some .now else (Field.read? cs).map ColumnDefault.flag

instance : Field DeleteRule where
  write r := r.word.toList
  read? cs := [DeleteRule.noAction, .cascade].find? (·.word.toList = cs)

/-! ## Records -/

/-- The fields of a line. -/
abbrev Record := List (List Char)

/-- The word that opens each record of a kind. -/
def word (s : String) : List Char := s.toList

/-- What a table is made of follows its name. -/
def ofDefinition (d : Table.Definition) : List Record :=
  [[word "table", Field.write d.table]]
    ++ d.columns.map (fun c => [word "column", Field.write d.table, Field.write c.name,
      Field.write c.type, Field.write c.notNull, Field.write c.default?, Field.write c.primaryKey,
      Field.write c.autoIncrement])
    ++ d.uniqueKeys.map (fun k => word "unique" :: Field.write d.table :: Field.write k.name ::
      k.columns.map Field.write)
    ++ d.foreignKeys.map (fun k => [word "reference", Field.write d.table, Field.write k.name,
      Field.write k.column, Field.write k.parent, Field.write k.parentColumn,
      Field.write k.onDelete])

def ofIndex (i : Index) : Record :=
  word "index" :: Field.write i.name :: Field.write i.table :: i.columns.map Field.write

def ofTrigger : Trigger → Record
  | .refuse t c m => [word "refuse", Field.write t, Field.write c, Field.write m]
  | .vanish t => [word "vanish", Field.write t]

def ofUser (u : User) : Record :=
  [word "user", Field.write u.instanceId, Field.write u.id, Field.write u.email,
    Field.write u.lastSignInAt, Field.write u.createdAt, Field.write u.updatedAt]

def ofProvider (p : SsoProvider) : Record :=
  [word "provider", Field.write p.id, Field.write p.resourceId, Field.write p.createdAt,
    Field.write p.updatedAt]

def ofSession (s : SsoSession) : Record :=
  [word "session", Field.write s.id, Field.write s.userId, Field.write s.providerId,
    Field.write s.notBefore, Field.write s.notAfter, Field.write s.idpInitiated,
    Field.write s.createdAt, Field.write s.updatedAt]

def ofToken (t : RefreshToken) : Record :=
  [word "token", Field.write t.instanceId, Field.write t.id, Field.write t.token,
    Field.write t.parent, Field.write t.userId, Field.write t.ssoSessionId, Field.write t.revoked,
    Field.write t.createdAt, Field.write t.updatedAt]

def ofEntry (e : AuditEntry) : Record :=
  [word "audit", Field.write e.instanceId, Field.write e.userId, Field.write e.actorEmail,
    Field.write e.action, Field.write e.detail, Field.write e.createdAt]

/-- The records of a database, in an order in which they can be read back. -/
def ofDatabase (db : Database) : List Record :=
  db.schema.definitions.flatMap ofDefinition ++ db.schema.indexes.map ofIndex
    ++ db.schema.triggers.map ofTrigger ++ db.users.map ofUser ++ db.providers.map ofProvider
    ++ db.sessions.map ofSession ++ db.tokens.map ofToken ++ db.audit.map ofEntry
    ++ db.migrations.map (fun v => [word "migration", Field.write v])
    ++ [[word "last", Field.write db.lastTokenId]]

/-- Adds to what a table is made of. -/
def define (db : Database) (t : Table) (f : Table.Definition → Table.Definition) : Database :=
  { db with schema.definitions :=
    db.schema.definitions.map fun d => if d.table = t then f d else d }

def addTrigger (db : Database) (t : Trigger) : Database :=
  { db with schema.triggers := db.schema.triggers ++ [t] }

/-- Adds what a record of the given kind says. -/
def addFields? (db : Database) (kind : String) (fields : Record) : Option Database := do
  match kind, fields with
  | "table", [t] =>
    return { db with
      schema.definitions := db.schema.definitions ++ [⟨← Field.read? t, [], [], []⟩] }
  | "column", [t, name, type, notNull, default, primary, auto] =>
    let c : Column := ⟨← Field.read? name, ← Field.read? type, ← Field.read? notNull,
      ← Field.read? default, ← Field.read? primary, ← Field.read? auto⟩
    return define db (← Field.read? t) fun d => { d with columns := d.columns ++ [c] }
  | "unique", t :: name :: columns =>
    let k : UniqueKey := ⟨← Field.read? name, ← columns.mapM Field.read?⟩
    return define db (← Field.read? t) fun d => { d with uniqueKeys := d.uniqueKeys ++ [k] }
  | "reference", [t, name, column, parent, parentColumn, rule] =>
    let k : ForeignKey := ⟨← Field.read? name, ← Field.read? column, ← Field.read? parent,
      ← Field.read? parentColumn, ← Field.read? rule⟩
    return define db (← Field.read? t) fun d => { d with foreignKeys := d.foreignKeys ++ [k] }
  | "index", name :: t :: columns =>
    let i : Index := ⟨← Field.read? name, ← Field.read? t, ← columns.mapM Field.read?⟩
    return { db with schema.indexes := db.schema.indexes ++ [i] }
  | "refuse", [t, c, m] =>
    return addTrigger db (.refuse (← Field.read? t) (← Field.read? c) (← Field.read? m))
  | "vanish", [t] => return addTrigger db (.vanish (← Field.read? t))
  | "user", [instanceId, id, email, signIn, created, updated] =>
    return { db with users := db.users ++
      [⟨← Field.read? instanceId, ← Field.read? id, ← Field.read? email, ← Field.read? signIn,
        ← Field.read? created, ← Field.read? updated⟩] }
  | "provider", [id, resource, created, updated] =>
    return { db with providers := db.providers ++
      [⟨← Field.read? id, ← Field.read? resource, ← Field.read? created, ← Field.read? updated⟩] }
  | "session", [id, user, provider, notBefore, notAfter, idp, created, updated] =>
    return { db with sessions := db.sessions ++
      [⟨← Field.read? id, ← Field.read? user, ← Field.read? provider, ← Field.read? notBefore,
        ← Field.read? notAfter, ← Field.read? idp, ← Field.read? created, ← Field.read? updated⟩] }
  | "token", [instanceId, id, token, parent, user, session, revoked, created, updated] =>
    return { db with tokens := db.tokens ++
      [⟨← Field.read? instanceId, ← Field.read? id, ← Field.read? token, ← Field.read? parent,
        ← Field.read? user, ← Field.read? session, ← Field.read? revoked, ← Field.read? created,
        ← Field.read? updated⟩] }
  | "audit", [instanceId, user, email, action, detail, created] =>
    return { db with audit := db.audit ++
      [⟨← Field.read? instanceId, ← Field.read? user, ← Field.read? email, ← Field.read? action,
        ← Field.read? detail, ← Field.read? created⟩] }
  | "migration", [v] => return { db with migrations := db.migrations ++ [← Field.read? v] }
  | "last", [i] => return { db with lastTokenId := ← Field.read? i }
  | _, _ => none

/-- Adds what a record says. -/
def addRecord? (db : Database) : Record → Option Database
  | [] => none
  | kind :: fields => addFields? db (String.ofList kind) fields

end Archive

/-! ## Whole databases -/

namespace Database

def toArchive (db : Database) : String :=
  String.ofList <| (Archive.ofDatabase db).flatMap fun r => ['\t'].intercalate r ++ ['\n']

/-- Reads an archive; an empty text is one of an empty database. -/
def ofArchive? (s : String) : Option Database :=
  let lines := (s.splitOn "\n").filter (!·.isEmpty)
  lines.foldlM (fun db l => Archive.addRecord? db ((l.splitOn "\t").map String.toList)) .empty

end Database

end RefreshChain
