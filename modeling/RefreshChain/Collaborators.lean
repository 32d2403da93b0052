import RefreshChain.Sso

/-!
# Collaborators

The parts that a service works with and that may be replaced: where audit entries go, where
sign-ins are noted, and where token strings come from.

* `AuditLog`, `UserDirectory`: act on the connection within the service's transaction, so that what
  they write is kept or undone together with the token that it is about. `AuditLog.table` and
  `UserDirectory.table` use the store's own tables.
* `TokenGenerator`: a source of token strings; `TokenGenerator.secure` encodes random bytes.
-/

namespace RefreshChain

/-- What an audit entry tells. -/
inductive AuditAction where
  | tokenRevoked
  deriving DecidableEq, Repr

/-- The word that stands for the action in the log. -/
def AuditAction.word : AuditAction → String
  | .tokenRevoked => "token_revoked"

/-- Notes at a time, for an instance and a user, what happened, perhaps with a detail. -/
def AuditLog (σ : Type) : Type :=
  Instant → Uuid → User → AuditAction → Option String → Action σ StoreError Unit

/-- Notes at a time that a user signed in. -/
def UserDirectory (σ : Type) : Type := Instant → User → Action σ StoreError Unit

/-- A source of token strings. -/
def TokenGenerator (σ : Type) : Type := σ → String × σ

variable {σ : Type}

/-- The user after a sign-in at the given time. -/
def User.signedInAt (now : Instant) (u : User) : User :=
  { u with lastSignInAt := some now, updatedAt := now }

/-- Adds an entry to the audit table and reads it back. -/
def AuditLog.table : AuditLog σ := fun now instanceId user action detail => do
  let kept ← Action.write (.insertAuditEntry
    ⟨instanceId, some user.id, some user.email, action.word, detail, now⟩)
  if kept then return () else Action.fail insertedMissing

/-- Sets the time of the last sign-in in the users table; a user that is not there is no failure. -/
def UserDirectory.table : UserDirectory σ := fun now user => do
  let _ ← Action.write (.updateUsers (·.id = user.id) (·.signedInAt now))

end RefreshChain
