import RefreshChain.Text.Blank

/-!
# Configuration

How the service issues tokens, as read from two variables of the environment.

* `Config.ofEnvironment`, `Config.ofVariables`: a variable that is not set, is no text, or has no
  meaning, leaves the default.
* `readFlag?`: a truth value, in any of four spellings for each.
* `readSize?`: a number that fits into 64 bits.
-/

namespace RefreshChain

structure Config where
  /-- Whether a revoked token that is presented again costs its whole family. -/
  rotationEnabled : Bool := true
  /-- Random bytes in a token, before encoding. -/
  tokenBytes : Nat := 16
  deriving DecidableEq, Repr, Inhabited

namespace Config

/-- Fewer random bytes than this could be guessed. -/
def minTokenBytes : Nat := 16

def maxTokenBytes : Nat := 64

/-- The variable that says whether families are revoked. -/
def rotationVariable : String := "LINEAGE_REFRESH_TOKEN_ROTATION_ENABLED"

/-- The variable that holds the size of a token. -/
def tokenBytesVariable : String := "LINEAGE_REFRESH_TOKEN_BYTES"

/-- The spellings of yes, in lower case. -/
def trueWords : List (List Char) := [['1'], ['t', 'r', 'u', 'e'], ['y', 'e', 's'], ['o', 'n']]

/-- The spellings of no, in lower case. -/
def falseWords : List (List Char) := [['0'], ['f', 'a', 'l', 's', 'e'], ['n', 'o'], ['o', 'f', 'f']]

/-- Reads a truth value; blanks around it and the case of ASCII letters do not matter. -/
def readFlag? (s : String) : Option Bool :=
  let word := (Text.trim s.toList).map Char.toLower
  if word ∈ trueWords then some true else if word ∈ falseWords then some false else none

/-- The number that a row of ASCII digits writes. -/
def digitsValue? : List Char → Nat → Option Nat
  | [], acc => some acc
  | c :: cs, acc => if c.isDigit then digitsValue? cs (10 * acc + (c.toNat - 48)) else none

/-- Drops one plus sign from the front. -/
def dropPlus : List Char → List Char
  | '+' :: cs => cs
  | cs => cs

/-- Reads a number of 64 bits: blanks around it do not matter, one plus sign may precede the
digits, and at least one digit is needed. -/
def readSize? (s : String) : Option Nat :=
  let digits := dropPlus (Text.trim s.toList)
  if digits = [] then none
  else (digitsValue? digits 0).bind fun n => if n < UInt64.size then some n else none

/-- Sizes outside the permitted range are moved to its nearer end. -/
def clampTokenBytes (n : Nat) : Nat := min maxTokenBytes (max minTokenBytes n)

/-- Reads the configuration from the values of its two variables. -/
def ofVariables (rotation tokenBytes : Option String) : Config where
  rotationEnabled := (rotation.bind readFlag?).getD true
  tokenBytes := clampTokenBytes ((tokenBytes.bind readSize?).getD minTokenBytes)

/-- The text of a variable, if it is set and its bytes are UTF-8. -/
def text? (environment : String → Option ByteArray) (name : String) : Option String :=
  (environment name).bind String.fromUTF8?

/-- Reads the configuration from the environment, which has bytes for each variable that is set. -/
def ofEnvironment (environment : String → Option ByteArray) : Config :=
  ofVariables (text? environment rotationVariable) (text? environment tokenBytesVariable)

end Config

end RefreshChain
