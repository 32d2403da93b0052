import RefreshChain.Store.Statement

/-!
# Removal of rows

Rows are removed together with the rows that refer to them: users with their tokens and sessions,
providers with their sessions, sessions with their tokens. With checks off, only the rows
themselves go.

* `Work.removeTokens`, `Work.removeSessions`, `Work.removeProviders`, `Work.removeUsers`: remove all
  rows that fit a condition, unless a trigger refuses.
* `Work.dropSession` and its kin: remove one row, without the triggers of its own table.

Rows go one after the other, each with all that is below it. The references that a removal leaves
dangling are counted, and what is counted for the rows below is taken back when they go.
-/

namespace RefreshChain.Work

/-- Carries out a removal for one row after the other. -/
def removeEach {α : Type} (remove : Work → α → Except Refusal Work) :
    List α → Work → Except Refusal Work
  | [], w => .ok w
  | a :: as, w => do removeEach remove as (← remove w a)

/-- A removal that a trigger on the table may refuse. -/
def unlessRefused {α : Type} (t : Table) (drop : Work → α → Except Refusal Work) (w : Work) (a : α) :
    Except Refusal Work := do
  w.refuseOn t .delete 1
  drop w a

/-! ## Tokens -/

/-- Takes the tokens that fit out of the table. No row refers to a token. -/
def dropTokens (w : Work) (p : RefreshToken → Bool) : Work :=
  { w.forget ((w.data.tokens.filter p).flatMap RefreshToken.references) with
    data.tokens := w.data.tokens.filter (!p ·) }

def removeTokens (w : Work) (p : RefreshToken → Bool) : Except Refusal Work := do
  w.refuseOn .refreshTokens .delete (w.data.tokens.countP p)
  return w.dropTokens p

/-! ## Sessions -/

/-- Takes a session out of its table and its tokens out of theirs. -/
def dropSession (w : Work) (s : SsoSession) : Except Refusal Work :=
  let r : Reference := ⟨.ssoSessions, s.id⟩
  let w := (w.forget s.references).owe (w.data.referring r .refreshTokens)
  let w := { w with data.sessions := w.data.sessions.filter (·.id ≠ s.id) }
  if w.enforced then w.removeTokens (·.references.contains r) else .ok w

def removeSessions (w : Work) (p : SsoSession → Bool) : Except Refusal Work :=
  removeEach (unlessRefused .ssoSessions dropSession) (w.data.sessions.filter p) w

/-! ## Users and providers -/

/-- Removes the rows of a table that have the given reference. -/
def removeReferring (r : Reference) (w : Work) (t : Table) : Except Refusal Work :=
  match t with
  | .ssoSessions => w.removeSessions (·.references.contains r)
  | .refreshTokens => w.removeTokens (·.references.contains r)
  | _ => .ok w

/-- Counts the rows that refer to a row that has just gone, and removes them. -/
def passOn (w : Work) (r : Reference) : Except Refusal Work :=
  let children := w.data.schema.childrenOf r.parent
  let w := children.foldl (fun w t => w.owe (w.data.referring r t)) w
  if w.enforced then removeEach (removeReferring r) children w else .ok w

/-- Takes a provider out of its table and its sessions out of theirs. -/
def dropProvider (w : Work) (p : SsoProvider) : Except Refusal Work :=
  { w with data.providers := w.data.providers.filter (·.id ≠ p.id) }.passOn ⟨.ssoProviders, p.id⟩

def removeProviders (w : Work) (p : SsoProvider → Bool) : Except Refusal Work :=
  removeEach (unlessRefused .ssoProviders dropProvider) (w.data.providers.filter p) w

/-- Takes a user out of its table and the user's tokens and sessions out of theirs. -/
def dropUser (w : Work) (u : User) : Except Refusal Work :=
  { w with data.users := w.data.users.filter (·.id ≠ u.id) }.passOn ⟨.users, u.id⟩

def removeUsers (w : Work) (p : User → Bool) : Except Refusal Work :=
  removeEach (unlessRefused .users dropUser) (w.data.users.filter p) w

end RefreshChain.Work
