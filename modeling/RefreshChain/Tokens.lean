import RefreshChain.Family

/-!
# Tokens in the store

Single tokens are looked up, inserted, revoked and deleted here. Nothing here begins a transaction.

* `findToken`, `findUserWithToken`: from a presented token string to its row and owner.
* `revokeIfValid`: at most one of several attempts to revoke a token has an effect.
* `logout`: deletes the tokens of a user for good.
-/

namespace RefreshChain

variable {σ : Type}

/-- The token with the given string. -/
def findToken (token : String) : Action σ Error RefreshToken := do
  let found ← (Action.read [.refreshTokens] (·.token? token)).during "error finding refresh token"
  Action.orFail .tokenNotFound found

/-- The token with the given string, and its owner. -/
def findUserWithToken (token : String) : Action σ Error (User × RefreshToken) := do
  let t ← findToken token
  let owner ← (Action.read [.users] (·.user? t.userId)).during
    "error finding user for refresh token"
  return (← Action.orFail .tokenNotFound owner, t)

/-- Inserts a token under a new id, which is the answer. -/
def createToken (t : RefreshToken) : Action σ Error Int :=
  (Action.write (.insertToken t none)).during "error creating refresh token"

/-- The token that was inserted under the given id. -/
def loadToken (id : Int) : Action σ Error RefreshToken := do
  let context := "error loading refresh token after create"
  let found ← (Action.read [.refreshTokens] (·.tokenById? id)).during context
  Action.orFail (.missingRow context ("refresh token " ++ toString id)) found

/-- Revokes a token, valid or not. The answer is the number of rows that have its id. -/
def markRevoked (now : Instant) (t : RefreshToken) : Action σ Error Nat :=
  (Action.write (.updateTokens [] (·.id = t.id) (·.revokedAt now))).during
    "error revoking refresh token"

/-- Revokes a token that is still valid. The answer is 0 if it is not, or is gone. -/
def revokeIfValid (now : Instant) (t : RefreshToken) : Action σ Error Nat :=
  (Action.write (.updateTokens [] (fun r => r.id = t.id && !r.revoked) (·.revokedAt now))).during
    "error revoking refresh token"

/-- Deletes all tokens of a user within an instance. -/
def logout (instanceId userId : Uuid) : Action σ Error Unit := do
  let _ ← (Action.write (.deleteTokens fun t => t.instanceId = instanceId && t.userId = userId)).during
    "error deleting refresh tokens"

end RefreshChain
