import RefreshChain.Store.Error

/-!
# Errors of token operations

* `Error.message`: the text for people.
* `Error.isNotFound`, `Error.isAuthFailure`, `Error.isPersistence`: what a caller may do about it.
-/

namespace RefreshChain

inductive Error where
  /-- No token fits. -/
  | tokenNotFound
  /-- A revoked token was presented. -/
  | tokenReused
  /-- The store failed during the step that `context` describes. -/
  | persistence (context : String) (source : StoreError)
  deriving DecidableEq, Repr

namespace Error

def message : Error → String
  | .tokenNotFound => "refresh token not found"
  | .tokenReused => "refresh token already used"
  | .persistence context source => context ++ ": " ++ source.message

def isNotFound : Error → Bool
  | .tokenNotFound => true
  | _ => false

/-- Whether the user should sign in again. -/
def isAuthFailure : Error → Bool
  | .tokenNotFound => true
  | .tokenReused => true
  | .persistence _ _ => false

/-- Whether the store failed, so that another attempt may succeed. -/
def isPersistence : Error → Bool
  | .persistence _ _ => true
  | _ => false

/-- The failure at the store behind the error. -/
def source? : Error → Option StoreError
  | .persistence _ source => some source
  | _ => none

/-- A row that was expected during a step is missing. -/
def missingRow (context what : String) : Error := .persistence context (.recordNotFound what)

end Error

end RefreshChain
