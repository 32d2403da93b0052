import RefreshChain.Family

/-!
# The query that revokes a family

The text and the values of the one statement with which a database server revokes a family. The
recursion collects without duplicates, so it ends even where the links run in a circle.
-/

namespace RefreshChain

/-- The dialects differ in how the text refers to a value. -/
inductive Dialect where
  | postgres
  | mySql
  | sqlite
  deriving DecidableEq, Repr

/-- How a text refers to its `n`-th value, counted from 1. -/
def Dialect.placeholder (d : Dialect) (n : Nat) : String :=
  match d with
  | .postgres => "$" ++ toString n
  | _ => "?"

/-- A value that is bound to a query. -/
inductive QueryValue where
  | text (s : String)
  | uuid (u : Uuid)
  | flag (b : Bool)
  | time (t : Instant)
  deriving DecidableEq, Repr

structure Query where
  text : String
  values : List QueryValue
  deriving DecidableEq, Repr

/-- The query that revokes the family of a token. -/
def familyQuery (d : Dialect) (now : Instant) (token : RefreshToken) : Query where
  text :=
    let table := Table.refreshTokens.name
    "WITH RECURSIVE token_family AS ( SELECT id, token FROM " ++ table
      ++ " WHERE parent = " ++ d.placeholder 1 ++ " AND instance_id = " ++ d.placeholder 2
      ++ " UNION SELECT r.id, r.token FROM " ++ table
      ++ " r INNER JOIN token_family t ON t.token = r.parent ) UPDATE " ++ table
      ++ " SET revoked = " ++ d.placeholder 3 ++ ", updated_at = " ++ d.placeholder 4
      ++ " WHERE id IN (SELECT id FROM token_family)"
  values := [.text token.token, .uuid token.instanceId, .flag true, .time now]

/-- Revokes a family through a server that is given the query. -/
def sendFamilyQuery {m : Type → Type} [Monad m] (send : Query → m (Except StoreError Unit))
    (d : Dialect) (now : Instant) (token : RefreshToken) : m (Except Error Unit) := do
  match ← send (familyQuery d now token) with
  | .ok () => return .ok ()
  | .error e => return .error (.persistence familyContext e)

end RefreshChain
