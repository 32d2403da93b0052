import RefreshChain.Action

/-!
# Families

The family of a token is what was issued after it: its children, their children, and so on.

* `InFamily`: the least set with these members.
* `family`: the members, found generation by generation.
* `revokeFamily`: revokes all members in one statement; the token itself is left as it is.
* `findValidChild`: the child that is still valid, which proves that the token was rotated.

The children of the token itself are looked for in its own instance. Further down, the links alone
count.
-/

namespace RefreshChain

namespace RefreshToken

/-- Whether `t` names `p` as its parent. -/
def isChildOf (t p : RefreshToken) : Bool := t.parent = some p.token

/-- Whether `t` names `p` as its parent and belongs to the same instance. -/
def isNearChildOf (t p : RefreshToken) : Bool := t.isChildOf p && t.instanceId = p.instanceId

/-- The token after its revocation at the given time. -/
def revokedAt (now : Instant) (t : RefreshToken) : RefreshToken :=
  { t with revoked := true, updatedAt := now }

end RefreshToken

/-- Membership in the family of `start` among the given tokens. -/
inductive InFamily (tokens : List RefreshToken) (start : RefreshToken) : RefreshToken → Prop where
  | child {t : RefreshToken} (mem : t ∈ tokens) (link : t.isNearChildOf start) :
      InFamily tokens start t
  | further {p t : RefreshToken} (above : InFamily tokens start p) (mem : t ∈ tokens)
      (link : t.isChildOf p) : InFamily tokens start t

/-- The generations below `above` among the tokens of `rest`, at most `n` of them. -/
def generations : Nat → List RefreshToken → List RefreshToken → List RefreshToken
  | 0, _, _ => []
  | n + 1, above, rest =>
    match rest.filter fun t => above.any t.isChildOf with
    | [] => []
    | next => next ++ generations n next (rest.filter fun t => !above.any t.isChildOf)

/-- The family of `start` among the given tokens. No generation is empty and no token is in two of
them, so there are no more generations than tokens. -/
def family (tokens : List RefreshToken) (start : RefreshToken) : List RefreshToken :=
  let children := tokens.filter (·.isNearChildOf start)
  children ++ generations tokens.length children (tokens.filter (!·.isNearChildOf start))

namespace Statement

/-- Revokes the family of a token. -/
def revokeFamily (now : Instant) (start : RefreshToken) : Statement Nat where
  run w :=
    let ids := (family w.data.tokens start).map (·.id)
    (updateTokens [] (fun t => ids.contains t.id) (·.revokedAt now)).run w

end Statement

variable {σ : Type}

/-- What a failure to revoke a family is reported under. -/
def familyContext : String := "error revoking refresh token family"

/-- Revokes everything that was issued after a token. -/
def revokeFamily (now : Instant) (token : RefreshToken) : Action σ Error Unit := do
  let _ ← (Action.write (Statement.revokeFamily now token)).during familyContext

/-- The valid child of a token with the least id. -/
def Database.validChild? (db : Database) (token : RefreshToken) : Option RefreshToken :=
  (db.tokens.filter fun t => t.isNearChildOf token && !t.revoked).minOn? (·.id)

def findValidChild (token : RefreshToken) : Action σ Error (Option RefreshToken) :=
  (Action.read [.refreshTokens] (·.validChild? token)).during "error finding valid child token"

/-- The valid child of a token, which must have one. -/
def getValidChild (token : RefreshToken) : Action σ Error RefreshToken := do
  Action.orFail .tokenNotFound (← findValidChild token)

end RefreshChain
