import RefreshChain.Store.Error

/-!
# Where a database is kept

A target is a file, or memory that lasts as long as the program runs.
-/

namespace RefreshChain

structure Target where
  /-- The file, unless the database is kept in memory. -/
  path : Option String
  /-- Whether the file may be a new one. -/
  create : Bool := false
  /-- Whether the database may only be read. -/
  readOnly : Bool := false
  deriving DecidableEq, Repr

/-- The failure to make use of a database. -/
def StoreError.unusable (code : Nat) (text : String) : StoreError :=
  .connection ("error returned from database: (code: " ++ toString code ++ ") " ++ text)

namespace Target

/-- The failure to open a file that does not exist. -/
def cannotOpen : StoreError := .unusable 14 "unable to open database file"

/-- The failure to open a file that holds something else. -/
def notADatabase : StoreError := .unusable 26 "file is not a database"

end Target

end RefreshChain
