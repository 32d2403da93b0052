import RefreshChain.Address.Host

/-!
# Addresses

An address is a scheme, a colon, and a rest: perhaps two slashes, a user, a host and the number of a
service there, then a path, a query behind a question mark and a fragment behind a number sign.

* `Address.parse?`: takes a text apart. Spaces and control characters around it do not matter, and
  tabs and line ends nowhere do.
* `Address.Kind`: addresses of the web must have a host, and take backslashes for slashes; those of
  files may have one.

Only what comes before the path can be malformed.
-/

namespace RefreshChain

structure Address where
  /-- In lower case. -/
  scheme : String
  user : List Char := []
  password : List Char := []
  host : List Char := []
  path : List Char := []
  query : List Char := []
  deriving DecidableEq, Repr

namespace Address

inductive Kind where
  | web
  | file
  | other
  deriving DecidableEq, Repr

def Kind.ofScheme (scheme : String) : Kind :=
  if scheme = "file" then .file
  else if ["http", "https", "ws", "wss", "ftp"].contains scheme then .web
  else .other

/-! ## Characters -/

/-- Spaces and control characters around an address. -/
def isPadding (c : Char) : Bool := c.toNat ≤ 0x20

/-- Tabs and the ends of lines. -/
def isBreak (c : Char) : Bool := c = '\t' || c = '\n' || c = '\r'

/-- The text of an address without what does not matter. -/
def clean (s : String) : List Char :=
  let front := s.toList.dropWhile isPadding
  (front.reverse.dropWhile isPadding).reverse.filter (!isBreak ·)

/-- The characters that may follow the first letter of a scheme. -/
def isSchemeChar (c : Char) : Bool := c.isAlphanum || ['+', '-', '.'].contains c

/-- A slash, or what is taken for one. -/
def isSlash (kind : Kind) (c : Char) : Bool := c = '/' || (kind ≠ .other && c = '\\')

/-- Whether the host has ended, and everything about it. -/
def endsHost (kind : Kind) (c : Char) : Bool := isSlash kind c || c = '?' || c = '#'

/-! ## User and host -/

/-- Cuts at the last `@`, if there is one. -/
def splitUser (cs : List Char) : Option (List Char) × List Char :=
  if cs.contains '@' then
    let back := (cs.reverse.takeWhile (· ≠ '@')).reverse
    (some (cs.take (cs.length - back.length - 1)), back)
  else (none, cs)

/-- Cuts in front of the first colon outside of brackets. -/
def splitHost : Bool → List Char → List Char × List Char
  | _, [] => ([], [])
  | inside, c :: cs =>
    if c = ':' && !inside then ([], c :: cs)
    else
      let (host, rest) := splitHost (if c = '[' then true else if c = ']' then false else inside) cs
      (c :: host, rest)

/-- What may follow a host: nothing, or a colon and a number of 16 bits, which may be left out. -/
def isService : List Char → Bool
  | [] => true
  | _ :: cs =>
    match Ip.digits? 10 0 (cs.takeWhile (· ≠ '\\')) with
    | some n => n < UInt16.size
    | none => false

/-- Whether the host of an address is well formed, and so may be followed by `service`. -/
def isHost (kind : Kind) (host service : List Char) : Bool :=
  match kind with
  | .other => Host.isOpaque host && (host ≠ [] || service = [])
  | _ => host ≠ [] && Host.isDomain host

/-- Reads what stands between the slashes and the path; `ended` says whether the address ends with
it. A user needs a host. -/
def authority? (kind : Kind) (scheme : String) (ended : Bool) (cs : List Char) :
    Option Address :=
  let (user?, cs) := splitUser cs
  let (host, service) := splitHost false cs
  let user := user?.getD []
  let name := user.takeWhile (· ≠ ':')
  let password := (user.dropWhile (· ≠ ':')).drop 1
  if !isHost kind host service || !isService service then none
  else if host = [] && (name ≠ [] || password ≠ [] || (user? = some [] && !ended)) then none
  else some { scheme, user := name, password, host }

/-! ## The whole -/

/-- Adds the path and the query; a fragment is left out. -/
def withRest (a : Address) (cs : List Char) : Address :=
  let cs := cs.takeWhile (· ≠ '#')
  { a with path := cs.takeWhile (· ≠ '?'), query := (cs.dropWhile (· ≠ '?')).drop 1 }

/-- Reads an address with a host. -/
def withHost? (kind : Kind) (scheme : String) (cs : List Char) : Option Address := do
  let rest := cs.dropWhile (!endsHost kind ·)
  return (← authority? kind scheme rest.isEmpty (cs.takeWhile (!endsHost kind ·))).withRest rest

/-- Whether a text is the letter of a drive, which is no host. -/
def isDrive : List Char → Bool
  | [c, d] => c.isAlpha && (d = ':' || d = '|')
  | _ => false

/-- Reads the address of a file, whose host may be left out. -/
def withFile? (scheme : String) (cs : List Char) : Option Address :=
  let host := cs.takeWhile (!endsHost .file ·)
  if host = [] || isDrive host then some (Address.withRest { scheme } cs)
  else if Host.isDomain host then
    some (Address.withRest { scheme, host } (cs.dropWhile (!endsHost .file ·)))
  else none

/-- Reads what follows the scheme and the colon. -/
def rest? (scheme : String) (cs : List Char) : Option Address :=
  let kind := Kind.ofScheme scheme
  match kind with
  | .web => withHost? kind scheme (cs.dropWhile (isSlash kind))
  | .file =>
    if (cs.take 2).length = 2 && (cs.take 2).all (isSlash kind) then withFile? scheme (cs.drop 2)
    else some (Address.withRest { scheme } cs)
  | .other =>
    match cs with
    | '/' :: '/' :: cs => withHost? kind scheme cs
    | cs => some (Address.withRest { scheme } cs)

def parse? (s : String) : Option Address :=
  match (clean s).takeWhile (· ≠ ':'), (clean s).dropWhile (· ≠ ':') with
  | c :: cs, _ :: rest =>
    if c.isAlpha && cs.all isSchemeChar then
      rest? (String.ofList ((c :: cs).map Char.toLower)) rest
    else none
  | _, _ => none

end Address

end RefreshChain
