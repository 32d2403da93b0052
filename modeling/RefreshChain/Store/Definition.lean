import RefreshChain.Store.Write

/-!
# Schema statements

Creation and removal of tables, indexes and triggers. Tables and indexes are created unless they
are there; a removal needs something to remove.

* `Statement.dropTable`: the rows that refer to the table's rows go with it, and ids start anew.
-/

namespace RefreshChain

namespace Work

/-- Takes all rows of a table away. -/
def clear (w : Work) : Table → Work
  | .users => { w with data.users := [] }
  | .ssoProviders => { w with data.providers := [] }
  | .ssoSessions => { w with data.sessions := [] }
  | .refreshTokens => { w with data.tokens := [], data.lastTokenId := 0 }
  | .auditLogEntries => { w with data.audit := [] }
  | .migrations => { w with data.migrations := [] }

/-- Removes the rows of a table and the rows below them. Triggers of the table itself do not act. -/
def empty (w : Work) : Table → Except Refusal Work
  | .users => removeEach dropUser w.data.users w
  | .ssoProviders => removeEach dropProvider w.data.providers w
  | .ssoSessions => removeEach dropSession w.data.sessions w
  | .refreshTokens => .ok (w.dropTokens fun _ => true)
  | .auditLogEntries => .ok (w.clear .auditLogEntries)
  | .migrations => .ok (w.clear .migrations)

/-- Removes the rows of a table after the tables consulted for it have been found. The references of
the table itself may lead nowhere. -/
def emptyFully (w : Work) (t : Table) : Except Refusal Work := do
  w.needForChildren t
  w.empty t

/-- Whether the rows of a table have to be removed one by one before the table goes: when rows of
another table may refer to them, or when their own references may be among those counted. -/
def mustEmpty (w : Work) (t : Table) : Bool :=
  w.enforced && (w.data.schema.childrenOf t ≠ []
    || (w.deferred && w.violations ≠ 0 && t.foreignKeys ≠ []))

end Work

namespace Statement

def createTable (d : Table.Definition) : Statement Unit where
  purpose := .definition
  run w := .ok ((), { w with data.schema := w.data.schema.addTable d })

def createIndex (i : Index) : Statement Unit where
  purpose := .definition
  run w := do
    if !w.data.hasTable i.table then throw (.noSuchParent i.table)
    return ((), { w with data.schema := w.data.schema.addIndex i })

/-- Removes the index of the given name. -/
def dropIndex (name : String) : Statement Unit where
  purpose := .definition
  run w := do
    if name ∉ w.data.schema.indexNames then throw (.noSuchIndex name)
    return ((), { w with data.schema := w.data.schema.dropIndex name })

/-- Removes a table. Unless dangling references are tolerated, none may have come or gone with it
that was not made up for. -/
def dropTable (t : Table) : Statement Unit where
  purpose := .definition
  run w := do
    w.needTable t
    let w ← if w.mustEmpty t then w.emptyFully t else pure w
    if !w.deferred && w.violations ≠ 0 then throw .foreignKey
    let w := w.clear t
    return ((), { w with data.schema := w.data.schema.dropTable t })

/-- Sets up a trigger, in place of the one of its name. -/
def createTrigger (t : Trigger) : Statement Unit where
  purpose := .definition
  run w := do
    if !w.data.hasTable t.table then throw (.noSuchParent t.table)
    return ((), { w with data.schema := w.data.schema.addTrigger t })

/-- Removes the trigger of the given name, if there is one. -/
def dropTrigger (name : String) : Statement Unit where
  purpose := .definition
  run w := .ok ((), { w with data.schema := w.data.schema.dropTrigger name })

end Statement

end RefreshChain
