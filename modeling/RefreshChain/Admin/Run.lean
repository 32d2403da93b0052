import RefreshChain.Admin.CommandLine
import RefreshChain.Admin.Server
import RefreshChain.Migration
import RefreshChain.Service

/-!
# The administration program

* `Target.ofUrl`: finds a database by its address.
* `Command.perform`: applies the pending migrations, then carries out a command.
* `Admin.Log`: what the log of the program has to say, which depends on a filter.
* `Admin.run`: the whole program, from its arguments and environment to its outcome.
-/

namespace RefreshChain

/-- Reads the address of a database. -/
def Target.ofUrl (url : String) : Except StoreError Target :=
  let complaint (what : String) : StoreError :=
    .connection ("The connection string '" ++ url ++ "' " ++ what)
  match Address.parse? url with
  | none => .error (complaint "cannot be parsed.")
  | some a =>
    match a.scheme with
    | "sqlite" => do (← Opening.ofUrl url).target
    | "postgres" => .error (Server.failure a)
    | "postgresql" => .error (Server.failure a)
    | _ => .error (complaint "has no supporting driver.")

/-- Why a command fails. -/
inductive CommandError where
  | store (e : StoreError)
  | operation (e : Error)
  deriving DecidableEq, Repr

def CommandError.message : CommandError → String
  | .store e => e.message
  | .operation e => e.message

namespace Command

variable {σ : Type}

/-- The work of a command on a store whose schema is complete; the answer is what to print. -/
def work (s : Service σ) (now : Instant) : Command → Action σ Error (Option String)
  | .migrate => return none
  | .exchange token => return some (← s.exchange now token).token.token
  | .revokeFamily token => do
    RefreshChain.revokeFamily now (← findToken token)
    return none
  | .logout instanceId userId => do
    RefreshChain.logout instanceId userId
    return none

/-- Applies the pending migrations, then carries out a command. -/
def perform (s : Service σ) (now : Instant) (c : Command) :
    Action σ CommandError (Option String) := do
  (Migrations.up none).mapError .store
  (c.work s now).mapError .operation

end Command

namespace Admin

/-- The variables of the environment that the program reads. -/
structure Environment where
  databaseUrl : Option String := none
  rotation : Option String := none
  tokenBytes : Option String := none
  /-- Which events the log has lines for. -/
  logFilter : Option String := none
  deriving DecidableEq, Repr

/-- The variable that holds the filter of the log. -/
def logFilterVariable : String := "RUST_LOG"

/-- The lines that the log writes. It is set up first of all, and complains about a filter of which
it makes no sense; its lines about events go to where the program prints its answer. -/
structure Log where
  /-- On standard error, before anything else. -/
  complaints : List String := []
  /-- On standard output, before the answer. -/
  before : List String := []
  /-- On standard output, after the answer. -/
  after : List String := []
  deriving DecidableEq, Repr

/-- What the program prints, and the code with which it ends. -/
structure Outcome where
  exitCode : Nat
  out : Option String := none
  err : Option String := none
  log : Log := {}
  deriving DecidableEq, Repr

namespace Outcome

/-- All that is printed on standard output. -/
def stdout (o : Outcome) : List String := o.log.before ++ o.out.toList ++ o.log.after

/-- All that is printed on standard error. -/
def stderr (o : Outcome) : List String := o.log.complaints ++ o.err.toList

def logging (o : Outcome) (log : Log) : Outcome := { o with log }

end Outcome

/-- Help and version are answers; all else ends the program with a complaint. -/
def Outcome.ofNotice : Notice → Outcome
  | .help none => { exitCode := 0, out := CommandLine.aboutProgram }
  | .help (some c) => { exitCode := 0, out := c.about }
  | .version => { exitCode := 0, out := CommandLine.versionText }
  | .misuse m => { exitCode := 2, err := m.message }
  | .nothingAsked => { exitCode := 2, err := CommandLine.aboutProgram }

def Outcome.failure (message : String) : Outcome := { exitCode := 1, err := "Error: " ++ message }

def Outcome.ofResult : Except CommandError (Option String) → Outcome
  | .ok out => { exitCode := 0, out }
  | .error e => .failure e.message

variable {σ : Type}

/-- Finds the database at an address. `contents` tells what is kept where. -/
def locate (contents : Target → Except StoreError Database) (url : String) :
    Except StoreError (Target × Database) := do
  let target ← Target.ofUrl url
  return (target, ← contents target)

/-- Runs the program. The second part of the answer is what is to be kept afterwards, and where. The
service is made for the configuration read from the environment. `log` are the lines of the log for
each filter; arguments that ask for no command are answered before there is any event. -/
def run (log : Option String → Log) (contents : Target → Except StoreError Database)
    (service : Config → Service σ) (now : Instant) (environment : Environment) (args : List String)
    (outside : σ) : Outcome × Option (Target × Database) × σ :=
  let log := log environment.logFilter
  match CommandLine.parse environment.databaseUrl args with
  | .error notice =>
    ((Outcome.ofNotice notice).logging { complaints := log.complaints }, none, outside)
  | .ok invocation =>
    match locate contents invocation.databaseUrl with
    | .error e => ((Outcome.failure e.message).logging log, none, outside)
    | .ok (target, db) =>
      let s := service (.ofVariables environment.rotation environment.tokenBytes)
      let connection : Connection := { data := db, readOnly := target.readOnly }
      let (result, host) := invocation.command.perform s now ⟨connection, outside⟩
      ((Outcome.ofResult result).logging log, some (target, host.connection.committed),
        host.outside)

end Admin

end RefreshChain
