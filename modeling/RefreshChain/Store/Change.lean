import RefreshChain.Store.Write

/-!
# Changes of whole rows

What those may do who work on the tables themselves: give the rows that fit new values in all of
their columns, keys included, and clear the audit log.

* `Kind`: what tells the tables of rows apart, as far as a change of rows goes.
* `Statement.change`: a change of all columns of the rows that fit. Keys are not passed on to the
  rows that refer to them.

Rows are changed one after the other. None may come to agree with another of its table in what has
to be unique, as the rows are at that time; references may dangle until the statement ends.
-/

namespace RefreshChain

/-- A kind of rows. -/
structure Kind (α : Type) where
  table : Table
  rows : Database → List α
  /-- Replaces the rows of the kind. -/
  put : List α → Database → Database
  /-- What two rows may not have in common, in the order of the checks. -/
  unique : List (Refusal × (α → α → Bool)) := []
  /-- How rows of other tables name a row. -/
  named : α → Option Reference := fun _ => none
  references : α → List Reference := fun _ => []

namespace Kind

def users : Kind User where
  table := .users
  rows := (·.users)
  put rows db := { db with users := rows }
  unique := [(.duplicateKey .users, fun u v => u.id = v.id)]
  named u := some ⟨.users, u.id⟩

def providers : Kind SsoProvider where
  table := .ssoProviders
  rows := (·.providers)
  put rows db := { db with providers := rows }
  unique := [(.duplicateKey .ssoProviders, fun p q => p.id = q.id)]
  named p := some ⟨.ssoProviders, p.id⟩

def sessions : Kind SsoSession where
  table := .ssoSessions
  rows := (·.sessions)
  put rows db := { db with sessions := rows }
  unique := [(.duplicateKey .ssoSessions, fun s t => s.id = t.id)]
  named s := some ⟨.ssoSessions, s.id⟩
  references := SsoSession.references

def tokens : Kind RefreshToken where
  table := .refreshTokens
  rows := (·.tokens)
  put rows db := { db with tokens := rows.foldr Database.insertById [] }
  unique := [(.duplicateKey .refreshTokens, fun t u => t.id = u.id),
    (.duplicateToken, fun t u => t.token = u.token)]
  references := RefreshToken.references

/-- The entries of the audit log have no keys that matter here. -/
def audit : Kind AuditEntry where
  table := .auditLogEntries
  rows := (·.audit)
  put rows db := { db with audit := rows }

variable {α : Type}

/-- Why a row may not stand beside the given ones. -/
def clash? (k : Kind α) (row : α) (others : List α) : Option Refusal :=
  k.unique.findSome? fun (r, same) => if others.any (same row) then some r else none

end Kind

namespace Work

variable {α : Type}

/-- Counts the rows that name one that goes. -/
def orphan (w : Work) : Option Reference → Work
  | none => w
  | some r => (w.data.schema.childrenOf r.parent).foldl (fun w t => w.owe (w.data.referring r t)) w

/-- Counts the rows less that name one that comes. -/
def adopt (w : Work) : Option Reference → Work
  | none => w
  | some r =>
    (w.data.schema.childrenOf r.parent).foldl (fun w t => w.offset (w.data.referring r t)) w

/-- Takes a row out that stands among the given ones. -/
def takeOut (k : Kind α) (row : α) (before after : List α) (w : Work) : Work :=
  let w := (w.forget (k.references row)).orphan (k.named row)
  { w with data := k.put (before ++ after) w.data }

/-- Puts a row in among the given ones. -/
def putIn (k : Kind α) (row : α) (before after : List α) (w : Work) : Work :=
  let w := (w.owe (w.dangling (k.references row))).adopt (k.named row)
  { w with data := k.put (before ++ row :: after) w.data }

/-- Changes a row that stands among the given ones. -/
def changeRow (k : Kind α) (old new : α) (before after : List α) (w : Work) :
    Except Refusal Work :=
  match k.clash? new (before ++ after) with
  | some r => .error r
  | none => .ok ((w.takeOut k old before after).putIn k new before after)

/-- Changes the rows that fit among those still to be looked at. -/
def changeRows (k : Kind α) (p : α → Bool) (f : α → α) :
    List α → List α → Work → Except Refusal Work
  | _, [], w => .ok w
  | before, row :: after, w =>
    if p row then do
      let w ← w.changeRow k row (f row) before after
      changeRows k p f (before ++ [f row]) after w
    else changeRows k p f (before ++ [row]) after w

end Work

namespace Statement

variable {α : Type}

/-- Gives the rows that fit new values in all columns. -/
def change (k : Kind α) (p : α → Bool) (f : α → α) : Statement Nat where
  run w := do
    w.needTable k.table
    w.needParents k.table
    let n := (k.rows w.data).countP p
    w.refuseOn k.table .update n
    return (n, ← Work.changeRows k p f [] (k.rows w.data) w)

/-- Deletes the entries of the audit log that fit. -/
def deleteAuditEntries (p : AuditEntry → Bool) : Statement Nat where
  run w := do
    w.needTable .auditLogEntries
    let n := w.data.audit.countP p
    w.refuseOn .auditLogEntries .delete n
    return (n, { w with data.audit := w.data.audit.filter (!p ·) })

end Statement

end RefreshChain
