/-!
# Identifiers

128-bit identifiers of users, instances, providers and sessions.

* `Uuid.toString`: the usual written form, 32 lower-case hex digits in groups of 8, 4, 4, 4 and 12.
* `Uuid.parse?`: reads the grouped form, the plain 32 digits, the grouped form in braces, and the
  grouped form behind `urn:uuid:`. Hex digits and the scheme may be of either case.
-/

namespace RefreshChain

/-- A 128-bit identifier. -/
structure Uuid where
  bits : BitVec 128
  deriving DecidableEq, Repr

namespace Uuid

/-- The identifier of all zero bits. -/
def nil : Uuid := ⟨0⟩

instance : Inhabited Uuid := ⟨nil⟩

/-- The identifier with the given number, modulo `2 ^ 128`. -/
def ofNat (n : Nat) : Uuid := ⟨BitVec.ofNat 128 n⟩

/-! ## Writing -/

/-- The lower-case hex digit of `n`, for `n < 16`. -/
def hexDigit (n : Nat) : Char :=
  if n < 10 then Char.ofNat (48 + n) else Char.ofNat (87 + n)

/-- The `width` last hex digits of `n`, zeros included. -/
def hexDigitsOf : Nat → Nat → List Char
  | 0, _ => []
  | width + 1, n => hexDigitsOf width (n / 16) ++ [hexDigit (n % 16)]

/-- The 32 hex digits, most significant first. -/
def hexDigits (u : Uuid) : List Char := hexDigitsOf 32 u.bits.toNat

/-- The sizes of the groups of the written form. -/
def groupSizes : List Nat := [8, 4, 4, 4, 12]

/-- Cuts `cs` into groups of the given sizes with a hyphen between two of them. -/
def hyphenate : List Nat → List Char → List Char
  | [], _ => []
  | [n], cs => cs.take n
  | n :: ns, cs => cs.take n ++ '-' :: hyphenate ns (cs.drop n)

protected def toString (u : Uuid) : String :=
  String.ofList (hyphenate groupSizes u.hexDigits)

instance : ToString Uuid := ⟨Uuid.toString⟩

/-! ## Reading -/

/-- The value of a hex digit of either case. -/
def hexValue? (c : Char) : Option Nat :=
  if '0' ≤ c ∧ c ≤ '9' then some (c.toNat - 48)
  else if 'a' ≤ c ∧ c ≤ 'f' then some (c.toNat - 87)
  else if 'A' ≤ c ∧ c ≤ 'F' then some (c.toNat - 55)
  else none

/-- The number that a row of hex digits writes. -/
def hexNumber? (cs : List Char) : Option Nat :=
  cs.foldl (fun acc c => do return 16 * (← acc) + (← hexValue? c)) (some 0)

/-- Reads exactly 32 hex digits. -/
def ofDigits? (cs : List Char) : Option Uuid :=
  if cs.length = 32 then (hexNumber? cs).map ofNat else none

/-- Takes groups of the given sizes apart; one hyphen stands between two groups. -/
def unhyphenate? : List Nat → List Char → Option (List Char)
  | [], cs => if cs = [] then some [] else none
  | [n], cs => if cs.length = n then some cs else none
  | n :: ns, cs =>
    match cs.drop n with
    | '-' :: rest => (unhyphenate? ns rest).map (cs.take n ++ ·)
    | _ => none

/-- Reads the grouped form. -/
def ofGroups? (cs : List Char) : Option Uuid :=
  (unhyphenate? groupSizes cs).bind ofDigits?

/-- The scheme in front of an identifier that is written as a name. -/
def urnScheme : List Char := "urn:uuid:".toList

/-- Reads any of the written forms. -/
def parse? (s : String) : Option Uuid :=
  let cs := s.toList
  match cs.length with
  | 32 => ofDigits? cs
  | 36 => ofGroups? cs
  | 38 => if cs.head? = some '{' ∧ cs.getLast? = some '}' then ofGroups? (cs.drop 1).dropLast else none
  | 45 => if (cs.take 9).map Char.toLower = urnScheme then ofGroups? (cs.drop 9) else none
  | _ => none

end Uuid

end RefreshChain
