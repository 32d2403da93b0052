import RefreshChain.Store.Database
import RefreshChain.Store.Error

/-!
# Statements

A statement changes the contents of a store as a whole or is refused.

* `Work`: a statement under way, with the count of references that dangle.
* `Statement`: what turns the work before into an answer and the work after.
* `Work.owe`, `Work.settle`, `Work.offset`: the ways in which a row change moves the count. Rows
  refer to each other, so a statement may pass through states in which references dangle; what
  matters is the count at its end.

The count is of changes and not of references: one that dangled before anything was counted is
taken off as well when it goes, unless the count is just zero. So a count may even be negative, and
then it hides as many references that dangle.
-/

namespace RefreshChain

/-- A statement under way. -/
structure Work where
  data : Database
  /-- Whether references are checked and deletions are passed on. -/
  enforced : Bool
  /-- Whether dangling references are tolerated until the transaction ends. -/
  deferred : Bool
  /-- Whether a new row may dangle until the statement ends. -/
  tolerant : Bool
  /-- How many references dangle because of what was done. -/
  violations : Int
  deriving DecidableEq, Repr

/-- The wording of an insertion: its table, and whether the id of a new token is given. -/
structure Insertion where
  table : Table
  givenId : Bool := false
  deriving DecidableEq, Repr

/-- What a statement is for. -/
inductive Purpose where
  | definition
  | insertion (i : Insertion)
  | change
  deriving DecidableEq, Repr

/-- Whether a statement that is refused at its end leaves the new row behind in an open transaction.
An insertion that counts references keeps no note of how to undo it, unless triggers act. -/
def Purpose.leavesRow (p : Purpose) (s : Schema) : Bool :=
  match p with
  | .insertion i => !s.watchesInserts i.table
  | _ => false

/-- A statement with an answer of type `α`. -/
structure Statement (α : Type) where
  purpose : Purpose := .change
  run : Work → Except Refusal (α × Work)

namespace Work

/-! ## What must exist -/

/-- The table that a statement works on. -/
def needTable (w : Work) (t : Table) : Except Refusal Unit :=
  if w.data.hasTable t then .ok () else .error (.noSuchTable t)

/-- A table that is consulted while references are checked. -/
def needParent (w : Work) (t : Table) : Except Refusal Unit :=
  if !w.enforced || w.data.hasTable t then .ok () else .error (.noSuchParent t)

/-- The tables that the given references lead to. -/
def needParentsOf (w : Work) : List ForeignKey → Except Refusal Unit
  | [] => .ok ()
  | k :: ks => do w.needParent k.parent; w.needParentsOf ks

/-- The tables that the references of a table's rows lead to. -/
def needParents (w : Work) (t : Table) : Except Refusal Unit := w.needParentsOf t.foreignKeys

/-- What must hold of each of several tables. -/
def forEach (check : Table → Except Refusal Unit) : List Table → Except Refusal Unit
  | [] => .ok ()
  | t :: ts => do check t; forEach check ts

/-- The tables consulted when sessions are deleted, and with them their tokens. -/
def needForSessions (w : Work) : Except Refusal Unit := do
  w.needParents .ssoSessions
  forEach w.needParents (w.data.schema.childrenOf .ssoSessions)

/-- The tables consulted when rows of `t` are deleted because of what they refer to. -/
def needForChild (w : Work) (t : Table) : Except Refusal Unit :=
  if t = .ssoSessions then w.needForSessions else w.needParents t

/-- The tables consulted when the rows that refer to rows of `t` are deleted. -/
def needForChildren (w : Work) (t : Table) : Except Refusal Unit :=
  forEach w.needForChild (w.data.schema.childrenOf t)

/-- The tables consulted when rows of `t` are deleted, and with them the rows that refer to them. -/
def needForDeletion (w : Work) (t : Table) : Except Refusal Unit := do
  w.needParents t
  w.needForChildren t

/-- A trigger may refuse the change of `n` rows; no rows, no refusal. -/
def refuseOn (w : Work) (t : Table) (c : RowChange) (n : Nat) : Except Refusal Unit :=
  match n, w.data.schema.refusal? t c with
  | 0, _ => .ok ()
  | _ + 1, none => .ok ()
  | _ + 1, some m => .error (.trigger m)

/-! ## Dangling references -/

/-- Counts `n` more dangling references. -/
def owe (w : Work) (n : Int) : Work :=
  if w.enforced then { w with violations := w.violations + n } else w

/-- Counts a dangling reference less, unless none is counted. -/
def settle (w : Work) : Work := if w.violations = 0 then w else w.owe (-1)

/-- Counts `n` dangling references less, unless none is counted. -/
def offset (w : Work) (n : Nat) : Work := if w.violations = 0 then w else w.owe (-n)

/-- Counts what changes as a row with the given references goes. A reference to a table that does
not exist, which only the removal of a table comes across, counts as one that dangles. -/
def forget (w : Work) : List Reference → Work
  | [] => w
  | r :: rs =>
    if !w.data.hasTable r.parent then (w.owe (-1)).forget rs
    else if w.data.dangles r then w.settle.forget rs
    else w.forget rs

/-- How many of the given references dangle. -/
def dangling (w : Work) (rs : List Reference) : Nat := rs.countP w.data.dangles

end Work

end RefreshChain
