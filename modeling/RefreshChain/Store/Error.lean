import RefreshChain.Store.Schema

/-!
# Errors of the store

* `Refusal`: why the store refuses a statement, with the store's own code and text.
* `StoreError`: a refusal, as met by a read or by a write, or another failure at the store.
-/

namespace RefreshChain

/-- Why the store refuses a statement. -/
inductive Refusal where
  /-- The table that a statement works on does not exist. -/
  | noSuchTable (table : Table)
  /-- A table that has to be consulted besides does not exist. -/
  | noSuchParent (table : Table)
  | noSuchIndex (name : String)
  /-- Two rows would have the same primary key. -/
  | duplicateKey (table : Table)
  /-- Two tokens would have the same token string. -/
  | duplicateToken
  | foreignKey
  /-- A trigger refuses the change. -/
  | trigger (message : String)
  /-- No id is left for a new token. `ends` says whether the transaction ends with it. -/
  | full (ends : Bool)
  | nothingToCommit
  | nothingToRollBack
  /-- The nested transaction of the given level does not exist. -/
  | noSuchSavepoint (level : Nat)
  /-- The store may only be read. -/
  | readOnly
  deriving DecidableEq, Repr

namespace Refusal

/-- The number by which the store names the kind of refusal. -/
def code : Refusal → Nat
  | .duplicateKey _ => 1555
  | .duplicateToken => 2067
  | .foreignKey => 787
  | .trigger _ => 1811
  | .full _ => 13
  | .readOnly => 8
  | _ => 1

def text : Refusal → String
  | .noSuchTable t => "no such table: " ++ t.name
  | .noSuchParent t => "no such table: main." ++ t.name
  | .noSuchIndex n => "no such index: " ++ n
  | .duplicateKey t => "UNIQUE constraint failed: " ++ t.name ++ "." ++ t.key
  | .duplicateToken => "UNIQUE constraint failed: refresh_tokens.token"
  | .foreignKey => "FOREIGN KEY constraint failed"
  | .trigger m => m
  | .full _ => "database or disk is full"
  | .nothingToCommit => "cannot commit - no transaction is active"
  | .nothingToRollBack => "cannot rollback - no transaction is active"
  | .noSuchSavepoint n => "no such savepoint: _sqlx_savepoint_" ++ toString n
  | .readOnly => "attempt to write a readonly database"

/-- Whether a statement is refused before the store sets about it: it names what does not exist. -/
def atPreparation : Refusal → Bool
  | .noSuchTable _ => true
  | .noSuchParent _ => true
  | .noSuchIndex _ => true
  | _ => false

def message (r : Refusal) : String :=
  "error returned from database: (code: " ++ toString r.code ++ ") " ++ r.text

end Refusal

/-- What went wrong while a statement was carried out. -/
inductive Fault where
  | refused (refusal : Refusal)
  | other (text : String)
  deriving DecidableEq, Repr

def Fault.message : Fault → String
  | .refused r => r.message
  | .other s => s

/-- A failure at the store. -/
inductive StoreError where
  | custom (text : String)
  | recordNotFound (what : String)
  | connection (text : String)
  /-- A write failed. -/
  | execution (fault : Fault)
  /-- A read, or the begin or end of a transaction, failed. -/
  | query (fault : Fault)
  | migration (text : String)
  | recordNotInserted
  | recordNotUpdated
  /-- The connection was closed. -/
  | closed
  deriving DecidableEq, Repr

def StoreError.message : StoreError → String
  | .custom s => "Custom Error: " ++ s
  | .recordNotFound s => "RecordNotFound Error: " ++ s
  | .connection s => "Connection Error: " ++ s
  | .execution f => "Execution Error: " ++ f.message
  | .query f => "Query Error: " ++ f.message
  | .migration s => "Migration Error: " ++ s
  | .recordNotInserted => "None of the records are inserted"
  | .recordNotUpdated => "None of the records are updated"
  | .closed => "Failed to acquire connection from pool: Connection closed"

end RefreshChain
