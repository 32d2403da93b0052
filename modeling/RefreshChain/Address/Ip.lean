/-!
# Numeric hosts

* `Ip.isV4`: up to four numbers between points, each decimal, octal or hexadecimal. The last one
  fills the bytes that are left.
* `Ip.isV6`: eight groups of hex digits between colons, of which two colons in a row leave out one
  or more, and four decimal numbers may stand for the last two.
* `Ip.isPlainV4`: four decimal numbers.
-/

namespace RefreshChain.Ip

/-- Cuts at each separator. -/
def fields (separator : String) (cs : List Char) : List (List Char) :=
  ((String.ofList cs).splitOn separator).map String.toList

/-! ## Numbers -/

/-- The value of a hex digit of either case. -/
def digit? (c : Char) : Option Nat :=
  if '0' ≤ c ∧ c ≤ '9' then some (c.toNat - 48)
  else if 'a' ≤ c ∧ c ≤ 'f' then some (c.toNat - 87)
  else if 'A' ≤ c ∧ c ≤ 'F' then some (c.toNat - 55)
  else none

/-- The number that a row of digits writes in the given base, on top of what came before. -/
def digits? (base : Nat) : Nat → List Char → Option Nat
  | n, [] => some n
  | n, c :: cs => do
    let d ← digit? c
    if d < base then digits? base (base * n + d) cs else none

/-- Reads a number whose beginning tells its base. No digits behind `0x` are zero. -/
def number? : List Char → Option Nat
  | [] => none
  | '0' :: 'x' :: cs => digits? 16 0 cs
  | '0' :: 'X' :: cs => digits? 16 0 cs
  | '0' :: c :: cs => digits? 8 0 (c :: cs)
  | cs => digits? 10 0 cs

/-! ## Four bytes -/

/-- What the last of `count` numbers stays below. -/
def lastBound (count : Nat) : Nat :=
  match count with
  | 1 => 4294967296
  | 2 => 16777216
  | 3 => 65536
  | _ => 256

/-- The parts between points; an empty one at the end does not count. -/
def parts (cs : List Char) : List (List Char) :=
  let ps := fields "." cs
  if ps.getLast? = some [] then ps.dropLast else ps

/-- Whether a host has to be read as numbers: its last part is one, well formed or not. -/
def endsInNumber (cs : List Char) : Bool :=
  match (parts cs).getLast? with
  | none => false
  | some p => (p ≠ [] && p.all Char.isDigit) || (number? p).isSome

def isV4 (cs : List Char) : Bool :=
  let numbers := (parts cs).map number?
  let fits (bound : Nat) (n : Option Nat) : Bool := n.any (· < bound)
  1 ≤ numbers.length && numbers.length ≤ 4 && numbers.dropLast.all (fits 256)
    && numbers.getLast?.any (fits (lastBound numbers.length))

/-- A decimal number of one byte, without zeros in front. -/
def isByte (cs : List Char) : Bool :=
  cs.all Char.isDigit && (cs = ['0'] || cs.head?.any (· ≠ '0')) && (digits? 10 0 cs).any (· < 256)

def isPlainV4 (cs : List Char) : Bool :=
  let ps := fields "." cs
  ps.length = 4 && ps.all isByte

/-! ## Sixteen bytes -/

/-- One to four hex digits. -/
def isGroup (cs : List Char) : Bool :=
  1 ≤ cs.length && cs.length ≤ 4 && cs.all fun c => (digit? c).isSome

/-- How many groups a text between colons stands for; none where one is malformed. Four decimal
numbers may come last. -/
def groups? (allowV4 : Bool) (cs : List Char) : Option Nat :=
  if cs = [] then some 0
  else
    let gs := fields ":" cs
    if gs.all isGroup then some gs.length
    else if allowV4 && gs.dropLast.all isGroup && gs.getLast?.any isPlainV4 then some (gs.length + 1)
    else none

def isV6 (cs : List Char) : Bool :=
  match (String.ofList cs).splitOn "::" with
  | [whole] => groups? true whole.toList = some 8
  | [front, back] =>
    match groups? false front.toList, groups? true back.toList with
    | some m, some n => m + n < 8
    | _, _ => false
  | _ => false

end RefreshChain.Ip
