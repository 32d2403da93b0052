import RefreshChain.Store.Definition

/-!
# Connections

A connection to a store, with the transactions that are open on it. Transactions nest; only the
end of the outermost one makes changes last.

* `Connection.execute`: runs one statement; a statement that is refused changes nothing, but for
  one case that `Purpose.leavesRow` names.
* `Connection.begin`, `Connection.commit`, `Connection.rollback`: rolling back gives the contents
  at the begin. A commit that is refused rolls back.
* `Connection.abandon`: the store itself ends all transactions and drops their changes.

Those who opened transactions do not learn that the store has ended them: `depth` counts what they
believe to be open, `checkpoints` holds what is. An attempt to end what is open no more fails and
leaves the depth as it was, and what is begun at a depth above zero is a nested transaction even if
nothing is open around it. Such an outermost one stays open when it is rolled back.
-/

namespace RefreshChain

/-- What a transaction goes back to. A transaction begun at depth 0 has level 0. -/
structure Checkpoint where
  level : Nat
  saved : Database
  violations : Int
  deriving DecidableEq, Repr

structure Connection where
  /-- The contents as seen by the innermost open transaction. -/
  data : Database
  /-- Whether references are checked and deletions are passed on. -/
  enforced : Bool := true
  /-- Whether dangling references are tolerated until the outermost transaction commits. -/
  deferred : Bool := false
  /-- The dangling references that are tolerated at the moment. -/
  violations : Int := 0
  /-- The open transactions, innermost first. -/
  checkpoints : List Checkpoint := []
  /-- How many transactions are believed to be open. -/
  depth : Nat := 0
  /-- The insertions that were prepared while dangling references were tolerated. They are kept in
  this form for later use. -/
  tolerant : List Insertion := []
  /-- Whether the store may only be read. -/
  readOnly : Bool := false
  closed : Bool := false
  deriving DecidableEq, Repr

namespace Connection

/-- A new connection to a store with the given contents. -/
def connect (db : Database) : Connection := { data := db }

def inTransaction (c : Connection) : Bool := !c.checkpoints.isEmpty

/-- The contents as others see them. -/
def committed (c : Connection) : Database :=
  match c.checkpoints.getLast? with
  | none => c.data
  | some k => k.saved

/-- Outside of transactions, dangling references are tolerated only until a statement ends. -/
def lapse (c : Connection) : Connection :=
  if c.inTransaction then c else { c with deferred := false, violations := 0 }

/-- Replaces the contents. If the schema changes, insertions have to be prepared anew. -/
def withData (c : Connection) (db : Database) : Connection :=
  { c with data := db, tolerant := if db.schema = c.data.schema then c.tolerant else [] }

/-! ## Transactions -/

def begin (c : Connection) : Connection :=
  { c with checkpoints := ⟨c.depth, c.data, c.violations⟩ :: c.checkpoints, depth := c.depth + 1 }

/-- What a transaction of the given level goes back to, and the transactions outside it. Level 0
stands for all that is open. -/
def outTo : Nat → List Checkpoint → Option (Checkpoint × List Checkpoint)
  | 0, ks => ks.getLast?.map (·, [])
  | _ + 1, [] => none
  | level + 1, k :: ks => if k.level = level + 1 then some (k, ks) else outTo (level + 1) ks

/-- The connection after the transaction of the given level has been rolled back. -/
def undone (c : Connection) (level : Nat) (k : Checkpoint) (outer : List Checkpoint) : Connection :=
  { c.withData k.saved with
    violations := k.violations
    checkpoints := if level = 0 ∨ outer ≠ [] then outer else [k]
    depth := level }.lapse

/-- The refusal to end a transaction that is open no more. -/
def lost (level : Nat) (outermost : Refusal) : Refusal :=
  if level = 0 then outermost else .noSuchSavepoint level

def commit (c : Connection) : Except Refusal Unit × Connection :=
  match c.depth with
  | 0 => (.ok (), c)
  | level + 1 =>
    match outTo level c.checkpoints with
    | none => (.error (lost level .nothingToCommit), c.lapse)
    | some (k, outer) =>
      if outer.isEmpty ∧ 0 < c.violations then (.error .foreignKey, c.undone level k outer)
      else (.ok (), { c with checkpoints := outer, depth := level }.lapse)

def rollback (c : Connection) : Except Refusal Unit × Connection :=
  match c.depth with
  | 0 => (.ok (), c)
  | level + 1 =>
    match outTo level c.checkpoints with
    | none => (.error (lost level .nothingToRollBack), c.lapse)
    | some (k, outer) => (.ok (), c.undone level k outer)

/-- A transaction that has just begun can be rolled back, which gives the contents at its begin. -/
theorem rollback_begin (c : Connection) (h : c.depth = 0 → c.checkpoints = []) :
    ∃ c', c.begin.rollback = (.ok (), c') ∧ c'.data = c.data ∧ c'.depth = c.depth := by
  rcases hd : c.depth with _ | level
  · simp [begin, rollback, outTo, undone, lapse, withData, hd, h hd, inTransaction]
  · simp [begin, rollback, outTo, undone, lapse, withData, hd, inTransaction]
    split <;> simp

/-- Ends all transactions and drops what was changed in them. -/
def abandoned (c : Connection) : Connection :=
  { c.withData c.committed with checkpoints := [] }.lapse

def abandon (c : Connection) : Except Refusal Unit × Connection :=
  if c.inTransaction then (.ok (), c.abandoned) else (.error .nothingToRollBack, c.lapse)

/-! ## Statements -/

/-- The work of a statement at its begin. -/
def work (c : Connection) (p : Purpose) : Work where
  data := c.data
  enforced := c.enforced
  deferred := c.deferred
  tolerant := c.deferred || c.tolerant.any (p = .insertion ·)
  violations := c.violations

/-- The connection after a statement has been prepared. -/
def prepared (c : Connection) (p : Purpose) : Connection :=
  match p with
  | .insertion i => if c.deferred then { c with tolerant := c.tolerant.insert i } else c
  | _ => c

/-- The outcome of a statement that is refused: some refusals end the transactions. -/
def refuse {α : Type} (c : Connection) (p : Purpose) (r : Refusal) :
    Except Refusal α × Connection :=
  (.error r,
    if r.atPreparation then c
    else if r = .full true then (c.prepared p).abandoned
    else (c.prepared p).lapse)

/-- The outcome of a statement that was carried out. Unless dangling references are tolerated, it is
refused after all if some dangle. -/
def settle {α : Type} (c : Connection) (p : Purpose) (a : α) (w : Work) :
    Except Refusal α × Connection :=
  let after := (c.prepared p).withData w.data
  if c.inTransaction && c.deferred then (.ok a, { after with violations := w.violations })
  else if w.violations ≤ 0 then (.ok a, after.lapse)
  else if c.inTransaction && p.leavesRow c.data.schema then (.error .foreignKey, after)
  else c.refuse p .foreignKey

def execute {α : Type} (s : Statement α) (c : Connection) : Except Refusal α × Connection :=
  match s.run (c.work s.purpose) with
  | .error r => c.refuse s.purpose (if c.readOnly && !r.atPreparation then .readOnly else r)
  | .ok (a, w) =>
    if c.readOnly && (s.purpose ≠ .definition || w.data ≠ c.data) then c.refuse s.purpose .readOnly
    else c.settle s.purpose a w

/-- Looks into the given tables, in their order. -/
def look {α : Type} (tables : List Table) (f : Database → α) (c : Connection) :
    Except Refusal α × Connection :=
  match tables.find? fun t => !c.data.hasTable t with
  | some t => (.error (.noSuchTable t), c)
  | none => (.ok (f c.data), c.lapse)

/-! ## Settings

A change of a setting makes all statements be prepared anew, even if it has no effect. -/

/-- Switches the checks on or off; without effect while a transaction is open. -/
def enforce (c : Connection) (on : Bool) : Connection :=
  { c with enforced := if c.inTransaction then c.enforced else on, tolerant := [] }

/-- Tolerates dangling references until the outermost transaction commits, or else until the next
statement ends. -/
def defer (c : Connection) : Connection := { c with deferred := true, tolerant := [] }

/-- Closes the connection, which ends what is open on it. -/
def close (c : Connection) : Connection := { c.abandoned with closed := true }

end Connection

end RefreshChain
