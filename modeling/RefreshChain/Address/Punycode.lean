/-!
# Names in ASCII

`Punycode.decode?` reads the form in which a part of a host name with other characters is written in
ASCII: the ASCII characters, a hyphen, and for each further character, in the order of their code
points, a number that says which one it is and where it is to be put. The digits of a number are
the 26 letters and the 10 digits. Bounds that adapt to the numbers read so far tell which digit is
the last one.
-/

namespace RefreshChain.Punycode

/-- The value of a digit. -/
def digit? (c : Char) : Option Nat :=
  if 'a' ≤ c ∧ c ≤ 'z' then some (c.toNat - 97)
  else if 'A' ≤ c ∧ c ≤ 'Z' then some (c.toNat - 65)
  else if '0' ≤ c ∧ c ≤ '9' then some (c.toNat - 22)
  else none

/-- What the last digit of a number stays below; `place` is 36 for the first digit and 36 more for
each further one. -/
def bound (bias place : Nat) : Nat :=
  if place ≤ bias then 1 else if bias + 26 ≤ place then 26 else place - bias

/-- Reads a number and adds it to `sum`. -/
def number? (bias : Nat) : Nat → Nat → Nat → List Char → Option (Nat × List Char)
  | _, _, _, [] => none
  | place, weight, sum, c :: cs => do
    let d ← digit? c
    let b := bound bias place
    let sum := sum + d * weight
    if d < b then some (sum, cs) else number? bias (place + 36) (weight * (36 - b)) sum cs

/-- Divides by 35 until no more than 455 is left; the number of times counts 36 each. -/
def scale (delta : Nat) : Nat × Nat :=
  if 455 < delta then
    let (rest, k) := scale (delta / 35)
    (rest, k + 36)
  else (delta, 0)
termination_by delta
decreasing_by omega

/-- The bias after a number has been read that puts the `count`-th character into its place. -/
def adapt (delta count : Nat) (first : Bool) : Nat :=
  let delta := if first then delta / 700 else delta / 2
  let (rest, k) := scale (delta + delta / count)
  k + 36 * rest / (rest + 38)

/-- Puts in the characters that the numbers describe, from the code point and the place where the
last one was put. Each number takes a digit, so `fuel` is enough if it is the count of the digits. -/
def insertAll? : Nat → Nat → Nat → Nat → List Char → List Char → Option (List Char)
  | _, _, _, _, out, [] => some out
  | 0, _, _, _, _, _ => none
  | fuel + 1, bias, point, place, out, cs => do
    let (i, rest) ← number? bias 36 1 place cs
    let count := out.length + 1
    let point := point + i / count
    if ¬point.isValidChar then none
    else
      insertAll? fuel (adapt (i - place) count (place = 0)) point (i % count + 1)
        (out.insertIdx (i % count) (Char.ofNat point)) rest

/-- What stands in front of the last hyphen, and what behind it; all of it if there is none. -/
def split (cs : List Char) : List Char × List Char :=
  let back := (cs.reverse.takeWhile (· ≠ '-')).reverse
  (cs.take (cs.length - back.length - 1), back)

def decode? (cs : List Char) : Option (List Char) :=
  let (out, numbers) := split cs
  insertAll? numbers.length 72 128 0 out numbers

end RefreshChain.Punycode
