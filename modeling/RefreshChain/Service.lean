import RefreshChain.Config
import RefreshChain.TokenGenerator
import RefreshChain.Tokens

/-!
# Service

Issues and rotates refresh tokens.

* `Service.grant`: the first token of a chain, at a sign-in.
* `Service.swap`: a token for a given one, which is revoked.
* `Service.exchange`: a token for a presented token string. A revoked token that is presented costs
  its family.

Each of them works in one transaction and leaves no trace if it fails, except that a revoked token
that was presented is dealt with outside of the transaction, once that has been rolled back.
-/

namespace RefreshChain

structure Service (σ : Type) where
  config : Config := {}
  generate : TokenGenerator σ
  /-- The source of the ids of new sessions. -/
  freshId : σ → Uuid × σ
  audit : AuditLog σ := AuditLog.table
  users : UserDirectory σ := UserDirectory.table

/-- A new token as stored, with the session that its chain is bound to. -/
structure IssuedToken where
  token : RefreshToken
  sso : Option SsoBinding
  deriving DecidableEq, Repr

/-- What a new token comes from. -/
inductive Origin where
  | signIn (conditions : Option Conditions)
  | rotation (old : RefreshToken)
  deriving DecidableEq, Repr

/-- The token string that a new token names as its parent. -/
def Origin.parent? : Origin → Option String
  | .signIn _ => none
  | .rotation old => some old.token

/-- What became of a presented token. -/
inductive Presented where
  | issued (t : IssuedToken)
  | reused (t : RefreshToken)
  deriving DecidableEq, Repr

namespace Service

variable {σ : Type}

/-- The session of a new token: a sign-in with conditions opens one, a rotation keeps the old
token's. Its window is not looked at again. -/
def sessionFor (s : Service σ) (now : Instant) (user : User) :
    Origin → Action σ Error (Option Uuid)
  | .rotation old => return old.ssoSessionId
  | .signIn none => return none
  | .signIn (some c) => return some (← createSession s.freshId now user c).id

/-- The session that a token is bound to, if it is. -/
def bindingOf (t : RefreshToken) : Action σ Error (Option SsoBinding) :=
  match t.ssoSessionId with
  | none => return none
  | some id => return some (← loadBinding id)

/-- Stores a new token for a user and notes the sign-in. -/
def issue (s : Service σ) (now : Instant) (user : User) (origin : Origin) :
    Action σ Error IssuedToken := do
  let ssoSessionId ← s.sessionFor now user origin
  let token ← Action.draw s.generate
  let id ← createToken
    { instanceId := user.instanceId, id := 0, token, parent := origin.parent?, userId := user.id,
      ssoSessionId, createdAt := now, updatedAt := now }
  let stored ← loadToken id
  let sso ← bindingOf stored
  (s.users now user).during "error updating user's last_sign_in_at"
  return ⟨stored, sso⟩

/-- Notes that a token of the user is revoked. -/
def recordRevocation (s : Service σ) (now : Instant) (user : User) : Action σ Error Unit :=
  (s.audit now user.instanceId user .tokenRevoked none).during "error creating audit log entry"

/-- The work of `swap`. The old token must still be there, or its child would hang in the air. -/
def swapWork (s : Service σ) (now : Instant) (user : User) (old : RefreshToken) :
    Action σ Error IssuedToken := do
  s.recordRevocation now user
  if (← markRevoked now old) = 0 then Action.fail .tokenNotFound
  else s.issue now user (.rotation old)

/-- The work of `exchange`. A token that is revoked, or is no longer valid when it is to be revoked
here, has been used before. -/
def exchangeWork (s : Service σ) (now : Instant) (token : String) : Action σ Error Presented := do
  let (user, old) ← findUserWithToken token
  if old.revoked then return .reused old
  else
    s.recordRevocation now user
    if (← revokeIfValid now old) = 0 then return .reused (← findToken old.token)
    else return .issued (← s.issue now user (.rotation old))

/-- Issues the first token of a chain to a user who signs in. -/
def grant (s : Service σ) (now : Instant) (user : User) (conditions : Option Conditions) :
    Action σ Error IssuedToken :=
  Action.transaction (s.issue now user (.signIn conditions))

/-- Revokes a token and issues its child to a user. -/
def swap (s : Service σ) (now : Instant) (user : User) (old : RefreshToken) :
    Action σ Error IssuedToken :=
  Action.transaction (s.swapWork now user old)

/-- What follows when a token was used before. -/
def punish (s : Service σ) (now : Instant) (token : RefreshToken) : Action σ Error IssuedToken := do
  Action.rollback.during "error rolling back transaction"
  if s.config.rotationEnabled then revokeFamily now token
  Action.fail .tokenReused

/-- Revokes the token with the given string and issues its child to its owner. -/
def exchange (s : Service σ) (now : Instant) (token : String) : Action σ Error IssuedToken := do
  Action.begin.during "error starting transaction"
  match ← (s.exchangeWork now token).attempt with
  | .ok (.issued t) => Action.finish (.ok t)
  | .ok (.reused t) => s.punish now t
  | .error e => Action.finish (.error e)

end Service

end RefreshChain
