import RefreshChain.Address
import RefreshChain.Admin.Opening

/-!
# Database servers

The program can name a database server, but none can be reached from it. `Server.failure` tells why
an address is of no use: a fault of the address or, if it has none, that nobody answers.
-/

namespace RefreshChain.Server

/-- The text that a part of an address stands for. -/
def text (cs : List Char) : Except StoreError String :=
  match Utf8.decode? (Percent.bytes (String.ofList cs)) with
  | .ok s => .ok s
  | .error f => .error (.misconfigured f.message)

/-- A number below a bound; one plus sign may precede the digits. -/
def number (bound : Nat) (value : String) : Except StoreError Unit :=
  let digits := match value.toList with
    | ['+'] => ['+']
    | '+' :: cs => cs
    | cs => cs
  if digits = [] then .error (.misconfigured "cannot parse integer from empty string")
  else
    match Ip.digits? 10 0 digits with
    | none => .error (.misconfigured "invalid digit found in string")
    | some n =>
      if n < bound then .ok ()
      else .error (.misconfigured "number too large to fit in target type")

/-- The ways in which a connection may be secured. -/
def securities : List String :=
  ["disable", "allow", "prefer", "require", "verify-ca", "verify-full"]

/-- Checks the value of a setting; settings that are not known have no effect. -/
def check (key value : String) : Except StoreError Unit :=
  match key with
  | "sslmode" => security value
  | "ssl-mode" => security value
  | "statement-cache-capacity" => number UInt64.size value
  | "port" => number UInt16.size value
  | "hostaddr" =>
    if Ip.isPlainV4 value.toList || Ip.isV6 value.toList then .ok ()
    else .error (.misconfigured "invalid IP address syntax")
  | _ => .ok ()
where
  security (value : String) : Except StoreError Unit :=
    if securities.contains (value.map Char.toLower) then .ok ()
    else .error (.misconfigured ("error with configuration: unknown value " ++ Text.quote value
      ++ " for `ssl_mode`"))

/-- Checks the settings of an address in their order. -/
def checkAll : List (String × String) → Except StoreError Unit
  | [] => .ok ()
  | (key, value) :: rest => do
    check key value
    checkAll rest

/-- Checks the parts of an address. A host is only looked at if it is the name of a file. -/
def checkAddress (a : Address) : Except StoreError Unit := do
  if (Percent.bytes (String.ofList a.host)).head? = some 0x2F then
    let _ ← text a.host
  let _ ← text a.user
  let _ ← text a.password
  let _ ← text a.path
  checkAll (Form.pairs (String.ofList a.query))

def failure (a : Address) : StoreError :=
  match checkAddress a with
  | .error e => e
  | .ok () => .connection "pool timed out while waiting for an open connection"

end RefreshChain.Server
