import RefreshChain.Admin.Run
import RefreshChain.Store.Archive
import Std.Time.DateTime.Timestamp

/-!
# The program

Fetches the arguments, the environment, the clock, random bytes and the database file, runs
`Admin.run`, stores the database and prints the outcome. A database file holds an archive.
-/

namespace RefreshChain

/-- Random bytes that were drawn before they are needed. -/
abbrev Pool := List UInt8

namespace Pool

def take : RandomBytes Pool := fun n pool => (List.take n pool, List.drop n pool)

/-- An identifier of 16 random bytes. -/
def freshId (pool : Pool) : Uuid × Pool :=
  let n := (List.take 16 pool).foldl (fun acc b => 256 * acc + b.toNat) 0
  (.ofNat n, List.drop 16 pool)

end Pool

namespace Main

/-- Bytes enough for a session's id and a token of any permitted size. -/
def poolSize : USize := 256

def service (config : Config) : Service Pool where
  config := config
  generate := .secure Pool.take config.tokenBytes
  freshId := Pool.freshId

def now : IO Instant := do
  let t ← Std.Time.Timestamp.now
  return ⟨t.toNanosecondsSinceUnixEpoch.val / ZonedTime.second,
    (t.toNanosecondsSinceUnixEpoch.val % ZonedTime.second).toNat⟩

def environment : IO Admin.Environment := do
  return {
    databaseUrl := ← IO.getEnv "DATABASE_URL"
    rotation := ← IO.getEnv Config.rotationVariable
    tokenBytes := ← IO.getEnv Config.tokenBytesVariable
    logFilter := ← IO.getEnv Admin.logFilterVariable }

/-- No log is kept, whatever the filter. -/
def log (_ : Option String) : Admin.Log := {}

/-- The text of a file, if it can be read; that of a new file, which is empty, if it may be one. -/
def readFile? (path : String) (create : Bool) : IO (Option String) := do
  try return some (← IO.FS.readFile path)
  catch _ =>
    if !create then return none
    try
      IO.FS.withFile path .append fun _ => return some ""
    catch _ => return none

/-- The database behind an address. -/
def contents (target : Target) (text : Option String) : Except StoreError Database :=
  match target.path, text with
  | none, _ => .ok .empty
  | some _, none => .error Target.cannotOpen
  | some _, some s =>
    match Database.ofArchive? s with
    | some db => .ok db
    | none => .error Target.notADatabase

/-- The text of the file that the arguments name, if they name one that can be read. -/
def archive? (environment : Admin.Environment) (args : List String) : IO (Option String) :=
  match CommandLine.parse environment.databaseUrl args with
  | .error _ => return none
  | .ok invocation =>
    match Target.ofUrl invocation.databaseUrl with
    | .ok { path := some path, create, .. } => readFile? path create
    | _ => return none

end Main

end RefreshChain

open RefreshChain in
/-- The administration program. -/
def main (args : List String) : IO UInt32 := do
  let environment ← Main.environment
  let text ← Main.archive? environment args
  let pool := (← IO.getRandomBytes Main.poolSize).toList
  let (outcome, kept, _) :=
    Admin.run Main.log (Main.contents · text) Main.service (← Main.now) environment args pool
  if let some ({ path := some path, readOnly := false, .. }, db) := kept then
    IO.FS.writeFile path db.toArchive
  outcome.stdout.forM IO.println
  outcome.stderr.forM IO.eprintln
  return outcome.exitCode.toUInt32
