import RefreshChain.Instant
import RefreshChain.Uuid

/-!
# Rows

What the store keeps: users, identity providers, single sign-on sessions, refresh tokens and the
entries of the audit log.
-/

namespace RefreshChain

/-- A user of one instance, the tenant that the user belongs to. -/
structure User where
  instanceId : Uuid
  id : Uuid
  email : String
  lastSignInAt : Option Instant := none
  createdAt : Instant
  updatedAt : Instant
  deriving DecidableEq, Repr

/-- An identity provider that users sign in with. -/
structure SsoProvider where
  id : Uuid
  resourceId : Option String := none
  createdAt : Instant
  updatedAt : Instant
  deriving DecidableEq, Repr

/-- A sign-in of a user with a provider. The window says when the provider vouches for it. -/
structure SsoSession where
  id : Uuid
  userId : Uuid
  providerId : Uuid
  notBefore : Instant
  notAfter : Instant
  /-- Whether the provider, and not the user, began the sign-in. -/
  idpInitiated : Bool := false
  createdAt : Instant
  updatedAt : Instant
  deriving DecidableEq, Repr

/-- A refresh token. One that replaced another names it as its parent, by its token string. -/
structure RefreshToken where
  instanceId : Uuid
  id : Int
  token : String
  parent : Option String := none
  userId : Uuid
  ssoSessionId : Option Uuid := none
  revoked : Bool := false
  createdAt : Instant
  updatedAt : Instant
  deriving DecidableEq, Repr

/-- An entry of the audit log. Its detail is the text of a JSON value. -/
structure AuditEntry where
  instanceId : Uuid
  userId : Option Uuid
  actorEmail : Option String
  action : String
  detail : Option String := none
  createdAt : Instant
  deriving DecidableEq, Repr

/-- A token without a parent starts a chain; an empty parent counts as none. -/
def RefreshToken.isRoot (t : RefreshToken) : Bool :=
  match t.parent with
  | none => true
  | some p => p = ""

end RefreshChain
