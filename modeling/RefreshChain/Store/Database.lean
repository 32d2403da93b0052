import RefreshChain.Store.Row
import RefreshChain.Store.Schema

/-!
# Database

The contents of a store: its schema and the rows of its tables. Tokens are in the order of their
ids, all other rows in the order in which they were inserted. A table that does not exist has no
rows.

* `Reference`: how a row names a row of another table; `Database.dangles` says that there is none.
-/

namespace RefreshChain

/-- The key of a row of another table, as it stands in a row. -/
structure Reference where
  parent : Table
  key : Uuid
  deriving DecidableEq, Repr

/-- The references of a session, in the order in which they are checked. -/
def SsoSession.references (s : SsoSession) : List Reference :=
  [⟨.ssoProviders, s.providerId⟩, ⟨.users, s.userId⟩]

/-- The references of a token, in the order in which they are checked. -/
def RefreshToken.references (t : RefreshToken) : List Reference :=
  (t.ssoSessionId.map (Reference.mk .ssoSessions)).toList ++ [⟨.users, t.userId⟩]

structure Database where
  schema : Schema := {}
  users : List User := []
  providers : List SsoProvider := []
  sessions : List SsoSession := []
  tokens : List RefreshToken := []
  audit : List AuditEntry := []
  /-- The versions of the applied migrations. -/
  migrations : List String := []
  /-- The highest id that a token ever had; a new token gets a higher one. -/
  lastTokenId : Int := 0
  deriving DecidableEq, Repr

namespace Database

/-- A store without any table. -/
def empty : Database := {}

instance : Inhabited Database := ⟨empty⟩

def user? (db : Database) (id : Uuid) : Option User := db.users.find? (·.id = id)

def provider? (db : Database) (id : Uuid) : Option SsoProvider := db.providers.find? (·.id = id)

def session? (db : Database) (id : Uuid) : Option SsoSession := db.sessions.find? (·.id = id)

def token? (db : Database) (token : String) : Option RefreshToken :=
  db.tokens.find? (·.token = token)

def tokenById? (db : Database) (id : Int) : Option RefreshToken := db.tokens.find? (·.id = id)

def hasTable (db : Database) (t : Table) : Bool := db.schema.tables.contains t

/-! ## References -/

/-- Whether no row has the key that the reference gives. -/
def dangles (db : Database) (r : Reference) : Bool :=
  match r.parent with
  | .users => (db.user? r.key).isNone
  | .ssoProviders => (db.provider? r.key).isNone
  | .ssoSessions => (db.session? r.key).isNone
  | _ => false

/-- How many rows of a table have the given reference. -/
def referring (db : Database) (r : Reference) : Table → Nat
  | .ssoSessions => db.sessions.countP (·.references.contains r)
  | .refreshTokens => db.tokens.countP (·.references.contains r)
  | _ => 0

/-! ## Order and ids of tokens -/

/-- Puts a token at the place of its id. -/
def insertById (t : RefreshToken) : List RefreshToken → List RefreshToken
  | [] => [t]
  | u :: us => if t.id < u.id then t :: u :: us else u :: insertById t us

/-- The largest id of a token present, or 0. -/
def maxTokenId (db : Database) : Int := db.tokens.foldl (fun m t => max m t.id) 0

end Database

end RefreshChain
