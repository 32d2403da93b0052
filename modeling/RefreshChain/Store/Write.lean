import RefreshChain.Store.Removal

/-!
# Row statements

Insertion, change and deletion of rows.

* `Statement.insertToken`: assigns an id above all earlier ones unless one is given.
* `Statement.updateTokens`, `Statement.updateUsers`: change all rows that fit a condition.
* `TokenChange`, `UserChange`: new values for some columns of a row.
* `Statement.deleteTokens` and its kin: delete all rows that fit a condition, and the rows below.

The answer of the last two kinds is the number of rows that fit.
-/

namespace RefreshChain

namespace Work

/-- What is checked before a row is put into `t`. -/
def prepareInsert (w : Work) (t : Table) : Except Refusal Unit := do
  w.needTable t
  w.needParents t
  if w.data.schema.vanishes t then w.needForDeletion t
  w.refuseOn t .insert 1

/-- Whether the references around a new row of `t` are counted. They are where more may happen
before they are looked at: at the end of the transaction, or of what triggers do. -/
def countsOnInsert (w : Work) (t : Table) : Bool :=
  w.tolerant || w.data.schema.watchesInserts t

/-- Lets in a new row of `t` with the given references. Where they are not counted, none of them may
dangle. -/
def accept (w : Work) (t : Table) (rs : List Reference) : Except Refusal Work :=
  if w.countsOnInsert t then .ok (w.owe (w.dangling rs))
  else if w.enforced && w.dangling rs ≠ 0 then .error .foreignKey
  else .ok w

/-- A new row ends the references to it that dangled until now. That matters only where references
are counted. -/
def welcome (w : Work) (r : Reference) : Work :=
  if w.countsOnInsert r.parent then
    (w.data.schema.childrenOf r.parent).foldl (fun w t => w.offset (w.data.referring r t)) w
  else w

/-- Takes the new row out again if new rows of `t` vanish. -/
def keepOr (w : Work) (t : Table) (remove : Work → Except Refusal Work) : Except Refusal Work :=
  if w.data.schema.vanishes t then remove w else .ok w

/-- The largest id that a token can have: the largest number of 64 bits with a sign. -/
def maxId : Int := 9223372036854775807

/-- The id of a new token: the given one, or the next above all that there ever were. -/
def newTokenId (w : Work) : Option Int → Except Refusal Int
  | some id => .ok id
  | none =>
    let last := max w.data.lastTokenId w.data.maxTokenId
    if last < maxId then .ok (last + 1)
    else .error (.full (!w.data.schema.watchesInserts .refreshTokens))

/-- Counts anew for the references among the changed columns of each of the given tokens: those that
dangled before, then those that do after the change. -/
def recount (touched : List ForeignKey) (f : RefreshToken → RefreshToken) (w : Work)
    (t : RefreshToken) : Work :=
  let among (rs : List Reference) : List Reference :=
    rs.filter fun r => touched.any (·.parent = r.parent)
  let w := w.forget (among t.references)
  w.owe (w.dangling (among (f t).references))

end Work

namespace Statement

/-! ## Insertion -/

def insertUser (u : User) : Statement Unit where
  purpose := .insertion { table := .users }
  run w := do
    w.prepareInsert .users
    if (w.data.user? u.id).isSome then throw (.duplicateKey .users)
    let w := w.welcome ⟨.users, u.id⟩
    let w := { w with data.users := w.data.users ++ [u] }
    return ((), ← w.keepOr .users (·.removeUsers (·.id = u.id)))

def insertProvider (p : SsoProvider) : Statement Unit where
  purpose := .insertion { table := .ssoProviders }
  run w := do
    w.prepareInsert .ssoProviders
    if (w.data.provider? p.id).isSome then throw (.duplicateKey .ssoProviders)
    let w := w.welcome ⟨.ssoProviders, p.id⟩
    let w := { w with data.providers := w.data.providers ++ [p] }
    return ((), ← w.keepOr .ssoProviders (·.removeProviders (·.id = p.id)))

def insertSession (s : SsoSession) : Statement Unit where
  purpose := .insertion { table := .ssoSessions }
  run w := do
    w.prepareInsert .ssoSessions
    if (w.data.session? s.id).isSome then throw (.duplicateKey .ssoSessions)
    let w ← w.accept .ssoSessions s.references
    let w := w.welcome ⟨.ssoSessions, s.id⟩
    let w := { w with data.sessions := w.data.sessions ++ [s] }
    return ((), ← w.keepOr .ssoSessions (·.removeSessions (·.id = s.id)))

/-- Inserts a token under the given id, or under a new one; the answer is the id. The id that the
row comes with does not count. -/
def insertToken (t : RefreshToken) (id? : Option Int) : Statement Int where
  purpose := .insertion ⟨.refreshTokens, id?.isSome⟩
  run w := do
    w.prepareInsert .refreshTokens
    let id ← w.newTokenId id?
    if (w.data.tokenById? id).isSome then throw (.duplicateKey .refreshTokens)
    if (w.data.token? t.token).isSome then throw .duplicateToken
    let t := { t with id }
    let w ← w.accept .refreshTokens t.references
    let w := { w with
      data.tokens := Database.insertById t w.data.tokens
      data.lastTokenId := max w.data.lastTokenId id }
    return (id, ← w.keepOr .refreshTokens (·.removeTokens (·.id = id)))

/-- Adds an entry to the audit log; the answer is whether it is still there afterwards. -/
def insertAuditEntry (e : AuditEntry) : Statement Bool where
  purpose := .insertion { table := .auditLogEntries }
  run w := do
    w.prepareInsert .auditLogEntries
    if w.data.schema.vanishes .auditLogEntries then
      w.refuseOn .auditLogEntries .delete 1
      return (false, w)
    return (true, { w with data.audit := w.data.audit ++ [e] })

/-! ## Change -/

def updateUsers (p : User → Bool) (f : User → User) : Statement Nat where
  run w := do
    w.needTable .users
    let n := w.data.users.countP p
    w.refuseOn .users .update n
    return (n, { w with data.users := w.data.users.map fun u => if p u then f u else u })

/-- Changes the tokens that fit; `touched` are the references among the changed columns. -/
def updateTokens (touched : List ForeignKey) (p : RefreshToken → Bool)
    (f : RefreshToken → RefreshToken) : Statement Nat where
  run w := do
    w.needTable .refreshTokens
    w.needParentsOf touched
    let n := w.data.tokens.countP p
    w.refuseOn .refreshTokens .update n
    let w := (w.data.tokens.filter p).foldl (Work.recount touched f) w
    return (n, { w with data.tokens := w.data.tokens.map fun t => if p t then f t else t })

end Statement

/-- New values for some of a token's columns; the parent and the session may also be cleared. -/
structure TokenChange where
  revoked : Option Bool := none
  parent : Option (Option String) := none
  ssoSessionId : Option (Option Uuid) := none
  instanceId : Option Uuid := none
  userId : Option Uuid := none
  deriving DecidableEq, Repr

namespace TokenChange

def apply (c : TokenChange) (t : RefreshToken) : RefreshToken :=
  { t with
    revoked := c.revoked.getD t.revoked
    parent := c.parent.getD t.parent
    ssoSessionId := c.ssoSessionId.getD t.ssoSessionId
    instanceId := c.instanceId.getD t.instanceId
    userId := c.userId.getD t.userId }

/-- The references that get new values. -/
def touched (c : TokenChange) : List ForeignKey :=
  (if c.ssoSessionId.isSome then [.tokenSession] else [])
    ++ (if c.userId.isSome then [.tokenUser] else [])

end TokenChange

/-- New values for some of a user's columns. -/
structure UserChange where
  email : Option String := none
  instanceId : Option Uuid := none
  deriving DecidableEq, Repr

def UserChange.apply (c : UserChange) (u : User) : User :=
  { u with email := c.email.getD u.email, instanceId := c.instanceId.getD u.instanceId }

namespace Statement

/-- Gives the token with the given string new values. -/
def amendToken (token : String) (c : TokenChange) : Statement Nat :=
  updateTokens c.touched (·.token = token) c.apply

/-- Gives the user with the given id new values. -/
def amendUser (id : Uuid) (c : UserChange) : Statement Nat :=
  updateUsers (·.id = id) c.apply

/-! ## Deletion -/

def deleteUsers (p : User → Bool) : Statement Nat where
  run w := do
    w.needTable .users
    w.needForDeletion .users
    return (w.data.users.countP p, ← w.removeUsers p)

def deleteProviders (p : SsoProvider → Bool) : Statement Nat where
  run w := do
    w.needTable .ssoProviders
    w.needForDeletion .ssoProviders
    return (w.data.providers.countP p, ← w.removeProviders p)

def deleteSessions (p : SsoSession → Bool) : Statement Nat where
  run w := do
    w.needTable .ssoSessions
    w.needForDeletion .ssoSessions
    return (w.data.sessions.countP p, ← w.removeSessions p)

def deleteTokens (p : RefreshToken → Bool) : Statement Nat where
  run w := do
    w.needTable .refreshTokens
    w.needForDeletion .refreshTokens
    return (w.data.tokens.countP p, ← w.removeTokens p)

/-! ## Records of migrations -/

/-- Records that a migration has been applied. -/
def recordMigration (version : String) : Statement Unit where
  purpose := .insertion { table := .migrations }
  run w := do
    w.prepareInsert .migrations
    if version ∈ w.data.migrations then throw (.duplicateKey .migrations)
    if w.data.schema.vanishes .migrations then
      w.refuseOn .migrations .delete 1
      return ((), w)
    return ((), { w with data.migrations := w.data.migrations ++ [version] })

/-- Deletes the records of migrations that fit. -/
def deleteMigrations (p : String → Bool) : Statement Unit where
  run w := do
    w.needTable .migrations
    w.refuseOn .migrations .delete (w.data.migrations.countP p)
    return ((), { w with data.migrations := w.data.migrations.filter (!p ·) })

end Statement

end RefreshChain
