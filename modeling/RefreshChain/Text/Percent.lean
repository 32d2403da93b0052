import RefreshChain.Text.Utf8

/-!
# Percent signs in addresses

* `Percent.decode`: puts a byte in place of each percent sign that two hex digits follow.
* `Form.pairs`: the names and values of a form, as they stand behind the question mark of an
  address.
-/

namespace RefreshChain

namespace Percent

/-- The value of a hex digit. -/
def hexValue? (b : UInt8) : Option UInt8 :=
  if 0x30 ≤ b ∧ b ≤ 0x39 then some (b - 0x30)
  else if 0x41 ≤ b ∧ b ≤ 0x46 then some (b - 0x37)
  else if 0x61 ≤ b ∧ b ≤ 0x66 then some (b - 0x57)
  else none

/-- The byte that two hex digits write. -/
def byte? (high low : UInt8) : Option UInt8 := do
  return 16 * (← hexValue? high) + (← hexValue? low)

/-- Other percent signs stand for themselves. -/
def decode : List UInt8 → List UInt8
  | [] => []
  | [b] => [b]
  | [b, c] => [b, c]
  | b :: c :: d :: bs =>
    match if b = 0x25 then byte? c d else none with
    | some x => x :: decode bs
    | none => b :: decode (c :: d :: bs)

/-- The bytes that a text stands for. -/
def bytes (s : String) : List UInt8 := decode (Utf8.encode s)

end Percent

namespace Form

/-- A name or a value. A plus sign stands for a space. -/
def decode (cs : List Char) : String :=
  Utf8.decodeLossy (Percent.bytes (String.ofList (cs.map fun c => if c = '+' then ' ' else c)))

/-- Reads a name, and the value behind the first equals sign. -/
def pair (cs : List Char) : String × String :=
  (decode (cs.takeWhile (· ≠ '=')), decode ((cs.dropWhile (· ≠ '=')).drop 1))

/-- The pairs are separated by ampersands; empty ones are left out. -/
def pairs (s : String) : List (String × String) :=
  ((s.splitOn "&").filter (!·.isEmpty)).map fun p => pair p.toList

end Form

end RefreshChain
