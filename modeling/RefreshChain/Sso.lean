import RefreshChain.Action

/-!
# Single sign-on

A sign-in through an identity provider opens a session, and the token chain that starts with it is
bound to that session for good.

* `createSession`: opens the session that the conditions of a sign-in describe.
* `loadBinding`: a session together with its provider.
-/

namespace RefreshChain

/-- What an identity provider says about a sign-in. -/
structure Conditions where
  providerId : Uuid
  notBefore : ZonedTime
  notAfter : ZonedTime
  initiatedByProvider : Bool
  deriving DecidableEq, Repr

/-- A session with its provider. -/
structure SsoBinding where
  session : SsoSession
  provider : SsoProvider
  deriving DecidableEq, Repr

/-- The session that a sign-in of a user opens. The window is kept as the instants that the texts of
its ends name. -/
def Conditions.session (c : Conditions) (id : Uuid) (user : User) (now : Instant) : SsoSession where
  id := id
  userId := user.id
  providerId := c.providerId
  notBefore := c.notBefore.kept
  notAfter := c.notAfter.kept
  idpInitiated := c.initiatedByProvider
  createdAt := now
  updatedAt := now

variable {σ : Type}

/-- A row that was just inserted must be there when it is read back. -/
def insertedMissing : StoreError := .recordNotFound "Failed to find inserted item"

/-- Inserts a session and reads it back. -/
def insertSession (s : SsoSession) : Action σ StoreError SsoSession := do
  Action.write (.insertSession s)
  let found ← Action.read [.ssoSessions] (·.session? s.id)
  Action.orFail insertedMissing found

/-- Opens the session of a sign-in under an id drawn from the given source. -/
def createSession (freshId : σ → Uuid × σ) (now : Instant) (user : User) (c : Conditions) :
    Action σ Error SsoSession := do
  let id ← Action.draw freshId
  (insertSession (c.session id user now)).during "error creating SSO session for refresh token"

/-- The session with the given id, and its provider. -/
def loadBinding (id : Uuid) : Action σ Error SsoBinding := do
  let context := "error loading SSO session for refresh token after create"
  let found ← (Action.read [.ssoSessions, .ssoProviders] fun db =>
    (db.session? id).map fun s => (s, db.provider? s.providerId)).during context
  let (session, provider?) ←
    Action.orFail (.missingRow context ("sso session " ++ toString id)) found
  let provider ← Action.orFail
    (.missingRow "error loading SSO provider for refresh token after create"
      ("sso provider " ++ toString session.providerId)) provider?
  return ⟨session, provider⟩

end RefreshChain
