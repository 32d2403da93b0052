import RefreshChain.Uuid

/-!
# Command line

The grammar of the administration program's arguments.

* `Command`, `Invocation`: what can be asked of the program.
* `CommandLine.parse`: reads the arguments; the database is named by an option, or else by the
  environment.
* `Notice`: what is printed instead of running a command: help, the version, or what is wrong.

Arguments are read from left to right. A value is looked at only when the next one arrives, so a
complaint about an argument that is not expected comes before one about the value in front of it.
Behind `--` everything is a value.
-/

namespace RefreshChain

/-- What the program can be asked to do. -/
inductive Command where
  | migrate
  | exchange (token : String)
  | revokeFamily (token : String)
  | logout (instanceId userId : Uuid)
  deriving DecidableEq, Repr

/-- A command, and the database that it is about. -/
structure Invocation where
  databaseUrl : String
  command : Command
  deriving DecidableEq, Repr

/-- What is wrong with the arguments. -/
inductive Misuse where
  | unexpectedArgument (arg : String)
  | unrecognizedCommand (arg : String)
  | missingCommand
  | missingArguments
  | missingValue
  | repeatedOption
  | invalidValue (value place : String)
  | unexpectedValue (value flag : String)
  deriving DecidableEq, Repr

/-- The names that may stand where a command is expected. -/
inductive CommandName where
  | migrate
  | exchange
  | revokeFamily
  | logout
  | help
  deriving DecidableEq, Repr

/-- What is printed instead of running a command. -/
inductive Notice where
  /-- The description of the program, or of a command. -/
  | help (command : Option CommandName)
  | version
  | misuse (m : Misuse)
  /-- Nothing was asked, so the description is printed as a complaint. -/
  | nothingAsked
  deriving DecidableEq, Repr

/-! ## Texts -/

namespace CommandLine

def programName : String := "lineage-admin"

def versionText : String := programName ++ " 0.1.0"

def aboutProgram : String := "Maintenance commands for refresh token chains"

/-- The option that names the database, as shown in complaints. -/
def optionText : String := "--database-url <DATABASE_URL>"

end CommandLine

namespace CommandName

def all : List CommandName := [.migrate, .exchange, .revokeFamily, .logout, .help]

def name : CommandName → String
  | .migrate => "migrate"
  | .exchange => "exchange"
  | .revokeFamily => "revoke-family"
  | .logout => "logout"
  | .help => "help"

def ofName? (s : String) : Option CommandName := all.find? (·.name = s)

def about : CommandName → String
  | .migrate => "Apply pending schema migrations and exit"
  | .exchange => "Rotate a refresh token and print its replacement"
  | .revokeFamily => "Revoke every token issued after the given one in its chain"
  | .logout => "Delete all refresh tokens of a user"
  | .help => "Print this message or the help of the given subcommand(s)"

end CommandName

namespace Misuse

def text : Misuse → String
  | .unexpectedArgument a => "unexpected argument '" ++ a ++ "' found"
  | .unrecognizedCommand a => "unrecognized subcommand '" ++ a ++ "'"
  | .missingCommand =>
    "'" ++ CommandLine.programName ++ "' requires a subcommand but one was not provided"
  | .missingArguments => "the following required arguments were not provided:"
  | .missingValue =>
    "a value is required for '" ++ CommandLine.optionText ++ "' but none was supplied"
  | .repeatedOption =>
    "the argument '" ++ CommandLine.optionText ++ "' cannot be used multiple times"
  | .invalidValue v p => "invalid value '" ++ v ++ "' for '<" ++ p ++ ">'"
  | .unexpectedValue v f =>
    "unexpected value '" ++ v ++ "' for '" ++ f ++ "' found; no more were expected"

def message (m : Misuse) : String := "error: " ++ m.text

end Misuse

/-! ## Shapes of arguments -/

namespace CommandLine

/-- What an argument looks like before `--`. -/
inductive Shape where
  /-- `--` itself. -/
  | escape
  /-- `--name` or `--name=value`. -/
  | long (name : String) (value : Option String)
  /-- `-abc`, of at least one letter. -/
  | short (first : Char)
  | plain
  deriving DecidableEq, Repr

/-- Cuts a long option at its first equals sign. -/
def splitOption (cs : List Char) : Shape :=
  .long (String.ofList (cs.takeWhile (· ≠ '=')))
    (match cs.dropWhile (· ≠ '=') with
      | _ :: value => some (String.ofList value)
      | [] => none)

def Shape.of (arg : String) : Shape :=
  match arg.toList with
  | ['-', '-'] => .escape
  | '-' :: '-' :: cs => splitOption cs
  | '-' :: c :: _ => .short c
  | _ => .plain

/-- The complaint about a short option that does not exist. -/
def unexpectedShort (c : Char) : Misuse := .unexpectedArgument (String.ofList ['-', c])

/-- The complaint about a long option that does not exist. -/
def unexpectedLong (name : String) : Misuse := .unexpectedArgument ("--" ++ name)

/-! ## Arguments of a command -/

/-- A value of a command, with the rule that it must follow. -/
structure Place where
  name : String
  accepts : String → Bool := fun _ => true

/-- The values that each command takes. -/
def places : CommandName → List Place
  | .exchange => [{ name := "TOKEN" }]
  | .revokeFamily => [{ name := "TOKEN" }]
  | .logout =>
    [⟨"INSTANCE_ID", fun s => (Uuid.parse? s).isSome⟩, ⟨"USER_ID", fun s => (Uuid.parse? s).isSome⟩]
  | .migrate => []
  | .help => []

/-- A value that has arrived and not been looked at, with the place it is for. -/
abbrev Waiting := Option (Place × String)

/-- Looks at the value that waits. -/
def settle : Waiting → Except Notice Unit
  | none => .ok ()
  | some (p, v) => if p.accepts v then .ok () else .error (.misuse (.invalidValue v p.name))

/-- Puts a value at the next place. -/
def place (waiting : Waiting) (value : String) (next : List Place)
    (go : Place → List Place → Except Notice (List String)) : Except Notice (List String) :=
  match next with
  | [] => .error (.misuse (.unexpectedArgument value))
  | p :: ps => do
    settle waiting
    return value :: (← go p ps)

/-- Reads the values of a command; `next` are the places that are still free. -/
def values (command : CommandName) (escaped : Bool) (waiting : Waiting) (next : List Place) :
    List String → Except Notice (List String)
  | [] => do
    settle waiting
    if next.isEmpty then return [] else .error (.misuse .missingArguments)
  | arg :: args =>
    let put := place waiting arg next fun p ps => values command escaped (some (p, arg)) ps args
    if escaped then put
    else
      match Shape.of arg with
      | .escape => values command true waiting next args
      | .plain => put
      | .short 'h' => do
        settle waiting
        .error (.help command)
      | .short c => .error (.misuse (unexpectedShort c))
      | .long "help" none => do
        settle waiting
        .error (.help command)
      | .long "help" (some v) => .error (.misuse (.unexpectedValue v "--help"))
      | .long name _ => .error (.misuse (unexpectedLong name))

/-- The command with the given values, which fit its places. -/
def Command.ofValues? : CommandName → List String → Option Command
  | .migrate, [] => some .migrate
  | .exchange, [token] => some (.exchange token)
  | .revokeFamily, [token] => some (.revokeFamily token)
  | .logout, [instanceId, userId] => do
    return .logout (← Uuid.parse? instanceId) (← Uuid.parse? userId)
  | _, _ => none

/-- Reads the arguments of a command. -/
def command (name : CommandName) (args : List String) : Except Notice Command := do
  let vs ← values name false none (places name) args
  match Command.ofValues? name vs with
  | some c => return c
  | none => .error (.misuse .missingArguments)

/-- Reads what help is asked for: nothing, or the name of a command. -/
def helpFor : List String → Notice
  | [] => .help none
  | arg :: args =>
    match CommandName.ofName? arg, args with
    | none, _ => .misuse (.unrecognizedCommand arg)
    | some name, [] => .help (some name)
    | some _, more :: _ => .misuse (.unrecognizedCommand more)

/-! ## Arguments of the program -/

/-- The option that names the database, as far as it has been read. -/
structure Url where
  /-- The value that was looked at. -/
  taken : Option String := none
  /-- The option without its value, or with a value that was not looked at. -/
  waiting : Option (Option String) := none
  deriving DecidableEq, Repr

namespace Url

/-- Looks at the option that waits. -/
def settle (u : Url) : Except Notice Url :=
  match u.waiting with
  | none => .ok u
  | some none => .error (.misuse .missingValue)
  | some (some v) =>
    if u.taken.isSome then .error (.misuse .repeatedOption) else .ok { taken := some v }

/-- Whether the next argument is the value of the option. -/
def wantsValue (u : Url) : Bool := u.waiting = some none

end Url

/-- The complaint about a value where a command is expected. -/
def notACommand (escaped : Bool) (arg : String) : Misuse :=
  if escaped && (CommandName.ofName? arg).isSome then .unexpectedArgument arg
  else .unrecognizedCommand arg

/-- Checks, after the command, that the database is named. -/
def complete (environment : Option String) (url : Url) (c : Command) : Except Notice Invocation := do
  let url ← url.settle
  match url.taken, environment with
  | some u, _ => return ⟨u, c⟩
  | none, some u => return ⟨u, c⟩
  | none, none => .error (.misuse .missingArguments)

/-- What is missing when the arguments end without a command. -/
def incomplete (environment : Option String) (url : Url) : Except Notice Invocation := do
  let url ← url.settle
  if url.taken.isNone && environment.isNone then .error .nothingAsked
  else .error (.misuse .missingCommand)

/-- Reads the arguments up to the command. -/
def program (environment : Option String) (escaped : Bool) (url : Url) :
    List String → Except Notice Invocation
  | [] => incomplete environment url
  | arg :: args =>
    let name? := if escaped || url.wantsValue then none else CommandName.ofName? arg
    match name? with
    | some .help => .error (helpFor args)
    | some name => do complete environment url (← command name args)
    | none =>
      if escaped then .error (.misuse (notACommand true arg))
      else
        match Shape.of arg with
        | .escape => program environment true url args
        | .plain =>
          if url.wantsValue then
            program environment false { url with waiting := some (some arg) } args
          else .error (.misuse (notACommand false arg))
        | .short 'h' => do
          let _ ← url.settle
          .error (.help none)
        | .short 'V' => do
          let _ ← url.settle
          .error .version
        | .short c => .error (.misuse (unexpectedShort c))
        | .long "help" none => do
          let _ ← url.settle
          .error (.help none)
        | .long "version" none => do
          let _ ← url.settle
          .error .version
        | .long "help" (some v) => .error (.misuse (.unexpectedValue v "--help"))
        | .long "version" (some v) => .error (.misuse (.unexpectedValue v "--version"))
        | .long "database-url" none => do
          let url ← url.settle
          program environment false { url with waiting := some none } args
        | .long "database-url" (some v) => do
          let url ← url.settle
          let url ← { url with waiting := some (some v) : Url }.settle
          program environment false url args
        | .long name _ => .error (.misuse (unexpectedLong name))

/-- Reads the arguments; `environment` names the database if no option does. -/
def parse (environment : Option String) (args : List String) : Except Notice Invocation :=
  program environment false {} args

end CommandLine

end RefreshChain
