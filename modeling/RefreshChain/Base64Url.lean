/-!
# Base64 for URLs

Bytes written with 64 characters that need no escape in a URL, without padding.

* `encode`: three bytes become four characters; one byte left over becomes two characters, two
  become three. The bits that are left over in the last character are zero.
* `decode?`: reads exactly what `encode` writes.
-/

namespace RefreshChain.Base64Url

/-- The 64 characters, in the order of their values. -/
def alphabet : List Char :=
  "ABCDEFGHIJKLMNOPQRSTUVWXYZabcdefghijklmnopqrstuvwxyz0123456789-_".toList

/-- The character of the value `n`, for `n < 64`. -/
def symbol (n : Nat) : Char :=
  if n < 26 then Char.ofNat (65 + n)
  else if n < 52 then Char.ofNat (71 + n)
  else if n < 62 then Char.ofNat (n - 4)
  else if n = 62 then '-'
  else '_'

/-- The value of a character of the alphabet. -/
def value? (c : Char) : Option Nat :=
  if 'A' ≤ c ∧ c ≤ 'Z' then some (c.toNat - 65)
  else if 'a' ≤ c ∧ c ≤ 'z' then some (c.toNat - 71)
  else if '0' ≤ c ∧ c ≤ '9' then some (c.toNat + 4)
  else if c = '-' then some 62
  else if c = '_' then some 63
  else none

/-- Whether a character belongs to the alphabet. -/
def isSymbol (c : Char) : Bool := (value? c).isSome

def encode : List UInt8 → List Char
  | a :: b :: c :: rest =>
    symbol (a.toNat / 4) :: symbol (a.toNat % 4 * 16 + b.toNat / 16)
      :: symbol (b.toNat % 16 * 4 + c.toNat / 64) :: symbol (c.toNat % 64) :: encode rest
  | [a, b] =>
    [symbol (a.toNat / 4), symbol (a.toNat % 4 * 16 + b.toNat / 16), symbol (b.toNat % 16 * 4)]
  | [a] => [symbol (a.toNat / 4), symbol (a.toNat % 4 * 16)]
  | [] => []

/-- Refuses foreign characters, a single character left over, and leftover bits that are not zero. -/
def decode? : List Char → Option (List UInt8)
  | p :: q :: r :: s :: rest => do
    let p ← value? p
    let q ← value? q
    let r ← value? r
    let s ← value? s
    let bytes ← decode? rest
    return UInt8.ofNat (p * 4 + q / 16) :: UInt8.ofNat (q % 16 * 16 + r / 4)
      :: UInt8.ofNat (r % 4 * 64 + s) :: bytes
  | [p, q, r] => do
    let p ← value? p
    let q ← value? q
    let r ← value? r
    if r % 4 = 0 then
      return [UInt8.ofNat (p * 4 + q / 16), UInt8.ofNat (q % 16 * 16 + r / 4)]
    else none
  | [p, q] => do
    let p ← value? p
    let q ← value? q
    if q % 16 = 0 then return [UInt8.ofNat (p * 4 + q / 16)] else none
  | [_] => none
  | [] => some []

end RefreshChain.Base64Url
