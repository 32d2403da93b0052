/-!
# Instants and their written form

* `Instant`: a point in time. A leap second prolongs the second before it.
* `ZonedTime`: an instant with the offset of the clock that read it.
* `ZonedTime.parse?`, `ZonedTime.render`: the form of RFC 3339, `2026-01-01T08:00:00.5+05:30`. A
  fraction is written with 3, 6 or 9 digits, the fewest that lose nothing, or left out.
* `ZonedTime.read?`: how the store reads the texts of times that it holds.
* `ZonedTime.kept`: the instant that is left of a time once it has been stored.

Dates are of the Gregorian calendar, extended to all years. Any minute may have a 61st second, since
which ones have it is not known in advance. An offset is written in minutes although it is one in
seconds, so a text may name another instant than the time that was written.
-/

namespace RefreshChain

/-- A point in time: the full seconds since 1970-01-01T00:00:00Z, and the nanoseconds since then.
From 1000000000 nanoseconds on it lies in the leap second that follows. -/
structure Instant where
  seconds : Int
  nanos : Nat := 0
  deriving DecidableEq, Repr, Inhabited

/-- An instant together with the offset, in seconds east, of the clock that read it. -/
structure ZonedTime where
  instant : Instant
  offset : Int := 0
  deriving DecidableEq, Repr, Inhabited

/-! ## The calendar -/

namespace Calendar

/-- Days from 1970-01-01 to the given date. The year is counted from March, so that the day that
a leap year adds is its last one. -/
def daysOfDate (year month day : Int) : Int :=
  let y := if month ≤ 2 then year - 1 else year
  let era := y / 400
  let yearOfEra := y - era * 400
  let dayOfYear := (153 * ((month + 9) % 12) + 2) / 5 + day - 1
  let dayOfEra := yearOfEra * 365 + yearOfEra / 4 - yearOfEra / 100 + dayOfYear
  era * 146097 + dayOfEra - 719468

/-- The year, month and day that lie the given number of days after 1970-01-01. -/
def dateOfDays (days : Int) : Int × Int × Int :=
  let z := days + 719468
  let era := z / 146097
  let dayOfEra := z - era * 146097
  let yearOfEra := (dayOfEra - dayOfEra / 1460 + dayOfEra / 36524 - dayOfEra / 146096) / 365
  let dayOfYear := dayOfEra - (365 * yearOfEra + yearOfEra / 4 - yearOfEra / 100)
  let m := (5 * dayOfYear + 2) / 153
  let day := dayOfYear - (153 * m + 2) / 5 + 1
  let month := if m < 10 then m + 3 else m - 9
  let year := yearOfEra + era * 400
  (if month ≤ 2 then year + 1 else year, month, day)

/-- Every fourth year has a leap day, but of the full centuries only every fourth. -/
def isLeap (year : Int) : Bool :=
  year % 4 = 0 && (year % 100 ≠ 0 || year % 400 = 0)

def daysInMonth (year month : Int) : Int :=
  if month = 2 then (if isLeap year then 29 else 28)
  else if month = 4 ∨ month = 6 ∨ month = 9 ∨ month = 11 then 30
  else 31

end Calendar

/-! ## Writing -/

namespace Digits

/-- The `width` last decimal digits of `n`, zeros included. -/
def ofNat : Nat → Nat → List Char
  | 0, _ => []
  | width + 1, n => ofNat width (n / 10) ++ [Char.ofNat (48 + n % 10)]

/-- The number that a row of decimal digits writes. -/
def toNat? (cs : List Char) : Option Nat :=
  cs.foldl (fun acc c => do
    if '0' ≤ c ∧ c ≤ '9' then return 10 * (← acc) + (c.toNat - 48) else none) (some 0)

end Digits

namespace ZonedTime

/-- Nanoseconds in a second. -/
def second : Nat := 1000000000

/-- Years have four digits; one that needs more, or lies before the year 0, is signed. -/
def renderYear (year : Int) : List Char :=
  let digits := if year.natAbs ≤ 9999 then Digits.ofNat 4 year.natAbs
    else (toString year.natAbs).toList
  if year < 0 then '-' :: digits else if 9999 < year then '+' :: digits else digits

/-- The fewest of 0, 3, 6 and 9 digits that lose nothing. -/
def renderFraction (nanos : Nat) : List Char :=
  if nanos = 0 then []
  else if nanos % 1000000 = 0 then '.' :: Digits.ofNat 3 (nanos / 1000000)
  else if nanos % 1000 = 0 then '.' :: Digits.ofNat 6 (nanos / 1000)
  else '.' :: Digits.ofNat 9 nanos

/-- The size of an offset in minutes. Half a minute and more counts as one. -/
def roundedMinutes (offset : Int) : Nat := (offset.natAbs + 30) / 60

def renderOffset (offset : Int) : List Char :=
  (if offset < 0 then '-' else '+') ::
    (Digits.ofNat 2 (roundedMinutes offset / 60) ++
      ':' :: Digits.ofNat 2 (roundedMinutes offset % 60))

/-- The seconds on the clock that read the time, as if it stood at Greenwich. -/
def onClock (t : ZonedTime) : Int := t.instant.seconds + t.offset

/-- The local date and time, then the offset. -/
def render (t : ZonedTime) : String :=
  let (year, month, day) := Calendar.dateOfDays (t.onClock / 86400)
  let ofDay := (t.onClock % 86400).toNat
  String.ofList <|
    renderYear year ++ '-' :: Digits.ofNat 2 month.toNat ++ '-' :: Digits.ofNat 2 day.toNat
      ++ 'T' :: Digits.ofNat 2 (ofDay / 3600) ++ ':' :: Digits.ofNat 2 (ofDay / 60 % 60)
      ++ ':' :: Digits.ofNat 2 (ofDay % 60 + t.instant.nanos / second)
      ++ renderFraction (t.instant.nanos % second)
      ++ renderOffset t.offset

/-! ## Reading -/

/-- Reads a number of exactly `n` digits. -/
def number? (n : Nat) (cs : List Char) : Option (Nat × List Char) :=
  if (cs.take n).length = n then (Digits.toNat? (cs.take n)).map (·, cs.drop n) else none

/-- Reads one of the given characters. -/
def mark? (marks : List Char) : List Char → Option (List Char)
  | c :: rest => if c ∈ marks then some rest else none
  | [] => none

/-- Reads a fraction of a second in nanoseconds; digits after the ninth are dropped. -/
def fraction? : List Char → Option (Nat × List Char)
  | '.' :: cs =>
    let digits := cs.takeWhile Char.isDigit
    if digits = [] then none
    else (Digits.toNat? ((digits ++ List.replicate 9 '0').take 9)).map (·, cs.dropWhile Char.isDigit)
  | cs => some (0, cs)

/-- The number that a sign makes of a size. The minus sign may be a hyphen or a sign of its own. -/
def signed? (sign : Char) (size : Int) : Option Int :=
  if sign = '+' then some size
  else if sign = '-' ∨ sign = '\u2212' then some (-size)
  else none

/-- Reads a year of four digits. -/
def fourDigits? (cs : List Char) : Option (Int × List Char) :=
  (number? 4 cs).map fun y => (y.1, y.2)

/-- Reads a year of at least one digit, and all digits that there are. -/
def anyDigits? (cs : List Char) : Option (Int × List Char) :=
  let digits := cs.takeWhile Char.isDigit
  if digits = [] then none
  else (Digits.toNat? digits).map fun n : Nat => (n, cs.dropWhile Char.isDigit)

/-- Reads a year of four digits, or one of any length behind a sign. -/
def year? : List Char → Option (Int × List Char)
  | '+' :: cs => anyDigits? cs
  | '-' :: cs => (anyDigits? cs).map fun y => (-y.1, y.2)
  | cs => fourDigits? cs

/-- Reads `Z`, or a sign, fewer hours than the given number, and minutes, as minutes east. -/
def offset? (limit : Nat) : List Char → Option Int
  | ['Z'] => some 0
  | ['z'] => some 0
  | sign :: cs => do
    let (hours, cs) ← number? 2 cs
    let cs ← mark? [':'] cs
    let (minutes, cs) ← number? 2 cs
    if cs ≠ [] ∨ limit ≤ hours ∨ 60 ≤ minutes then none
    signed? sign (hours * 60 + minutes)
  | [] => none

/-- What a text says of a time: the seconds on the clock, the nanoseconds, and the minutes east. -/
structure Reading where
  onClock : Int
  nanos : Nat
  minutes : Int
  deriving DecidableEq, Repr

/-- Reads a date, a time of day and an offset. A second 60 is the leap second after second 59. -/
def reading? (year? : List Char → Option (Int × List Char)) (limit : Nat) (s : String) :
    Option Reading := do
  let (year, cs) ← year? s.toList
  let cs ← mark? ['-'] cs
  let (month, cs) ← number? 2 cs
  let cs ← mark? ['-'] cs
  let (day, cs) ← number? 2 cs
  let cs ← mark? ['T', 't', ' '] cs
  let (hour, cs) ← number? 2 cs
  let cs ← mark? [':'] cs
  let (minute, cs) ← number? 2 cs
  let cs ← mark? [':'] cs
  let (sec, cs) ← number? 2 cs
  let (fraction, cs) ← fraction? cs
  let minutes ← offset? limit cs
  if month < 1 ∨ 12 < month ∨ day < 1 ∨ Calendar.daysInMonth year month < day
      ∨ 24 ≤ hour ∨ 60 ≤ minute ∨ 60 < sec then none
  let leap : Nat := if sec = 60 then 1 else 0
  let onClock := Calendar.daysOfDate year month day * 86400 + hour * 3600 + minute * 60 + sec - leap
  some ⟨onClock, fraction + leap * second, minutes⟩

/-- Reads a time in the form of RFC 3339. -/
def parse? (s : String) : Option ZonedTime :=
  (reading? fourDigits? 24 s).map fun r =>
    ⟨⟨r.onClock - r.minutes * 60, r.nanos⟩, r.minutes * 60⟩

/-! ## Storing -/

/-- Reads the text of a time from the store, which is content with other years and offsets, too: an
offset of a whole day or more is passed over. -/
def read? (s : String) : Option Instant :=
  (reading? year? 100 s).map fun r =>
    ⟨if r.minutes.natAbs < 24 * 60 then r.onClock - r.minutes * 60 else r.onClock, r.nanos⟩

/-- By how many seconds a time moves when it is stored: by what its offset loses. -/
def drift (t : ZonedTime) : Int :=
  let minutes := roundedMinutes t.offset
  if minutes < 24 * 60 then
    if t.offset < 0 then t.offset + minutes * 60 else t.offset - minutes * 60
  else t.offset

/-- The nanoseconds that count as a full second. There is a leap second only where the clock that
read the time shows second 59. -/
def carry (t : ZonedTime) : Nat := if t.onClock % 60 = 59 then 0 else t.instant.nanos / second

/-- The instant that a time is kept as. -/
def kept (t : ZonedTime) : Instant :=
  ⟨t.instant.seconds + t.drift + t.carry, t.instant.nanos - t.carry * second⟩

end ZonedTime

end RefreshChain
