import RefreshChain.Admin.Target
import RefreshChain.Text.Percent
import RefreshChain.Text.Quoted

/-!
# How a database file is opened

* `Opening`: the name of a file with the settings under which it is opened.
* `Opening.ofUrl`: reads the address of a file. The name stands in front of a question mark, the
  settings behind it.
* `Opening.target`: what is opened. A name of the form `file:` is an address once more, with
  settings of its own, unless the first ones already make the name part of such an address.
-/

namespace RefreshChain

/-- What may be done with a database: read it, write it, or set it up as well. -/
inductive Access where
  | read
  | write
  | create
  deriving DecidableEq, Repr

/-- The kinds of access, each including those before it. -/
def Access.rank : Access → Nat
  | .read => 1
  | .write => 2
  | .create => 6

structure Opening where
  name : String
  readOnly : Bool := false
  create : Bool := false
  memory : Bool := false
  immutable : Bool := false
  /-- The named way to get at files, if it is not the usual one. -/
  vfs : Option String := none
  deriving DecidableEq, Repr

/-- A fault of the settings. -/
def StoreError.misconfigured (text : String) : StoreError :=
  .connection ("error with configuration: " ++ text)

/-- The complaint about a value of a setting. -/
def StoreError.unknownValue (value setting : String) : StoreError :=
  .misconfigured ("unknown value " ++ Text.quote value ++ " for `" ++ setting ++ "`")

namespace Opening

/-! ## Addresses of files -/

/-- Drops a text from the front as often as it stands there. -/
def dropAll (c : Char) (more : List Char) (cs : List Char) : List Char :=
  match cs with
  | [] => []
  | d :: ds => if c = d && more.isPrefixOf ds then dropAll c more (ds.drop more.length) else d :: ds
termination_by cs.length
decreasing_by simp only [List.length_cons, List.length_drop]; omega

/-- What follows the scheme, which may be repeated. -/
def withoutScheme (url : String) : List Char :=
  dropAll 's' "qlite:".toList (dropAll 's' "qlite://".toList url.toList)

/-- Applies a setting of the address. -/
def set (o : Opening) (key value : String) : Except StoreError Opening :=
  match key, value with
  | "mode", "ro" => .ok { o with readOnly := true }
  | "mode", "rw" => .ok o
  | "mode", "rwc" => .ok { o with create := true }
  | "mode", "memory" => .ok { o with memory := true }
  | "cache", "private" => .ok o
  | "cache", "shared" => .ok o
  | "immutable", "true" => .ok { o with immutable := true }
  | "immutable", "1" => .ok { o with immutable := true }
  | "immutable", "false" => .ok { o with immutable := false }
  | "immutable", "0" => .ok { o with immutable := false }
  | "vfs", value => .ok { o with vfs := some value }
  | key, value =>
    if key = "mode" ∨ key = "cache" ∨ key = "immutable" then .error (.unknownValue value key)
    else .error (.misconfigured
      ("unknown query parameter `" ++ key ++ "` while parsing connection URL"))

/-- The name in an address. One that is written out as memory is taken as it stands. -/
def named (cs : List Char) : Except StoreError Opening :=
  let name := String.ofList cs
  if name = ":memory:" then .ok { name, memory := true }
  else
    match Utf8.decode? (Percent.bytes name) with
    | .ok name => .ok { name }
    | .error f => .error (.misconfigured f.message)

def ofUrl (url : String) : Except StoreError Opening := do
  let cs := withoutScheme url
  let settings := Form.pairs (String.ofList ((cs.dropWhile (· ≠ '?')).drop 1))
  settings.foldlM (fun o s => o.set s.1 s.2) (← named (cs.takeWhile (· ≠ '?')))

/-! ## Names that are addresses -/

/-- Reads the part of a name that is an address; a zero byte ends it. -/
def part (cs : List Char) : String :=
  String.ofList ((Utf8.decodeLossy (Percent.bytes (String.ofList cs))).toList.takeWhile (· ≠ '\x00'))

/-- A setting in a name, which may narrow what the address grants. -/
def narrow (granted : Access) (value : String) (o : Opening) : Except StoreError Opening :=
  let grant (a : Access) (o : Opening) : Except StoreError Opening :=
    if o.memory || a.rank ≤ granted.rank then .ok o
    else .error (.unusable 3 ("access mode not allowed: " ++ value))
  match value with
  | "ro" => grant .read { o with readOnly := true, create := false }
  | "rw" => grant .write { o with readOnly := false, create := false }
  | "rwc" => grant .create { o with readOnly := false, create := true }
  | "memory" => .ok { o with readOnly := false, create := false, memory := true }
  | _ => .error (.unusable 1 ("no such access mode: " ++ value))

/-- Applies a setting that stands in a name. Others than these have no effect. -/
def setInName (granted : Access) (o : Opening) (key value : String) : Except StoreError Opening :=
  match key with
  | "mode" => narrow granted value o
  | "cache" =>
    if value = "shared" ∨ value = "private" then .ok o
    else .error (.unusable 1 ("no such cache mode: " ++ value))
  | "immutable" =>
    .ok { o with immutable := ["1", "true", "yes", "on"].contains (value.map Char.toLower) }
  | "vfs" => .ok { o with vfs := some value }
  | _ => .ok o

/-- The pairs of name and value that stand behind the question mark. -/
def settingsOf (cs : List Char) : List (String × String) :=
  (((String.ofList cs).splitOn "&").map fun p =>
    (part (p.toList.takeWhile (· ≠ '=')), part ((p.toList.dropWhile (· ≠ '=')).drop 1))).filter
      (!·.1.isEmpty)

/-- The path in an address, behind a host that can only be this machine. -/
def pathOf (cs : List Char) : Except StoreError (List Char) :=
  match cs with
  | '/' :: '/' :: cs =>
    let host := String.ofList (cs.takeWhile (· ≠ '/'))
    if host = "" ∨ host = "localhost" then .ok (cs.dropWhile (· ≠ '/'))
    else .error (.unusable 1 ("invalid uri authority: " ++ host))
  | cs => .ok cs

/-- Opens what the rest of a name behind `file:` says. -/
def resolve (o : Opening) (cs : List Char) : Except StoreError Opening := do
  let cs := (← pathOf cs).takeWhile (· ≠ '#')
  let granted : Access := if o.readOnly then .read else if o.create then .create else .write
  (settingsOf ((cs.dropWhile (· ≠ '?')).drop 1)).foldlM (fun o s => o.setInName granted s.1 s.2)
    { o with name := part (cs.takeWhile (· ≠ '?')) }

/-! ## What is opened -/

/-- The ways to get at files that there are; the last one keeps them in memory. -/
def knownVfs : List String := ["unix", "unix-none", "unix-dotfile", "unix-excl", "memdb"]

/-- Checks that there is such a way to get at files. -/
def checkVfs (o : Opening) : Except StoreError Unit :=
  match o.vfs with
  | none => .ok ()
  | some v => if knownVfs.contains v then .ok () else .error (.unusable 1 ("no such vfs: " ++ v))

/-- The name as the store gets it. -/
def resolved (o : Opening) : Except StoreError Opening :=
  let special := o.immutable || o.vfs.isSome
  let shown := if special then o.vfs.getD "" else o.name
  if shown.toList.contains '\x00' then
    .error (.connection
      "error communicating with database: filename passed to SQLite must not contain nul bytes")
  else if special then .ok { o with name := String.ofList (o.name.toList.takeWhile (· ≠ '\x00')) }
  else
    match o.name.toList with
    | 'f' :: 'i' :: 'l' :: 'e' :: ':' :: cs => o.resolve cs
    | _ => .ok o

/-- Whether the database lasts only as long as the program. -/
def isTransient (o : Opening) : Bool :=
  o.memory || o.name = "" || o.name = ":memory:" || o.vfs = some "memdb"

def target (o : Opening) : Except StoreError Target := do
  let o ← o.resolved
  o.checkVfs
  if o.isTransient then return { path := none, readOnly := o.readOnly }
  else
    return { path := o.name, create := o.create && !o.readOnly, readOnly := o.readOnly || o.immutable }

end Opening

end RefreshChain
