import Mathlib.Data.List.Induction
import Mathlib.Data.Nat.Digits.Defs
import RefreshChain.Proofs.Calendar

/-!
# Written times are read back

* `ZonedTime.OfClock`: a time that a clock can show.
* `ZonedTime.read?_render`: from the text of such a time the store reads the instant that the time
  is kept as.
* `ZonedTime.kept_eq`, `ZonedTime.kept_near`: this is the time's own instant if its offset is in
  whole minutes, and else lies at most half a minute away.
* `ZonedTime.KeptAs`: all that is known of the instant that a time is kept as.
-/

namespace RefreshChain

namespace Digits

theorem digit_bounds : ∀ d < 10, ('0' ≤ Char.ofNat (48 + d) ∧ Char.ofNat (48 + d) ≤ '9') ∧
    (Char.ofNat (48 + d)).toNat - 48 = d ∧ (Char.ofNat (48 + d)).isDigit = true := by
  decide

@[simp] theorem length_ofNat (width n : Nat) : (ofNat width n).length = width := by
  induction width generalizing n with
  | zero => rfl
  | succ width ih => simp [ofNat, ih]

theorem isDigit_of_mem {width n : Nat} {c : Char} (h : c ∈ ofNat width n) : c.isDigit = true := by
  induction width generalizing n with
  | zero => simp [ofNat] at h
  | succ width ih =>
    rw [ofNat, List.mem_append, List.mem_singleton] at h
    rcases h with h | rfl
    · exact ih h
    · exact (digit_bounds _ (Nat.mod_lt _ (by omega))).2.2

theorem toNat?_append_digit (cs : List Char) {d : Nat} (hd : d < 10) :
    toNat? (cs ++ [Char.ofNat (48 + d)]) = (toNat? cs).map fun n => 10 * n + d := by
  obtain ⟨hc, hval, -⟩ := digit_bounds d hd
  rw [toNat?, List.foldl_append, ← toNat?]
  simp only [List.foldl_cons, List.foldl_nil, if_pos hc, hval]
  cases toNat? cs <;> rfl

/-- The last digits of a number write it, but for the multiples of a power of ten. -/
theorem toNat?_ofNat (width n : Nat) : toNat? (ofNat width n) = some (n % 10 ^ width) := by
  induction width generalizing n with
  | zero => simp [ofNat, toNat?, Nat.mod_one]
  | succ width ih =>
    rw [ofNat, toNat?_append_digit _ (Nat.mod_lt _ (by omega)), ih, Option.map_some, Nat.pow_succ',
      Nat.mod_mul]
    congr 1
    omega

/-- Zeros at the end are factors. -/
theorem toNat?_append_zeros (cs : List Char) (m : Nat) :
    toNat? (cs ++ List.replicate m '0') = (toNat? cs).map (· * 10 ^ m) := by
  induction m with
  | zero => simp
  | succ m ih =>
    have hzero := toNat?_append_digit (cs ++ List.replicate m '0') (d := 0) (by omega)
    rw [List.replicate_succ', ← List.append_assoc]
    refine hzero.trans ?_
    rw [ih, Option.map_map]
    congr 1
    funext n
    simp [Nat.pow_succ]
    ring

/-- A row of digits is read as core reads it. -/
theorem toNat?_of_isDigit {cs : List Char} (h : ∀ c ∈ cs, c.isDigit = true) :
    toNat? cs = some (Nat.ofDigitChars 10 cs 0) := by
  induction cs using List.reverseRecOn with
  | nil => rfl
  | append_singleton cs c ih =>
    have hc : '0' ≤ c ∧ c ≤ '9' := by
      simpa [Char.isDigit, UInt32.le_iff_toNat_le, Char.le_def] using h c (by simp)
    rw [toNat?, List.foldl_append, ← toNat?, ih fun d hd => h d (by simp [hd])]
    simp only [List.foldl_cons, List.foldl_nil, if_pos hc]
    simp [Nat.ofDigitChars]

theorem toNat?_toString (n : Nat) : toNat? (toString n).toList = some n := by
  rw [Nat.toString_eq_ofList_toDigits, String.toList_ofList, toNat?_of_isDigit,
    Nat.ofDigitChars_ten_toDigits]
  exact fun _ => Nat.isDigit_of_mem_toDigits (by decide) (by decide)

end Digits

namespace ZonedTime

open Digits (ofNat)

/-! ## What was written -/

theorem number?_ofNat {width n : Nat} (h : n < 10 ^ width) (rest : List Char) :
    number? width (ofNat width n ++ rest) = some (n, rest) := by
  have hlen := Digits.length_ofNat width n
  have htake : (ofNat width n ++ rest).take width = ofNat width n := List.take_left' hlen
  have hdrop : (ofNat width n ++ rest).drop width = rest := List.drop_left' hlen
  rw [number?, htake, hdrop, if_pos hlen, Digits.toNat?_ofNat, Nat.mod_eq_of_lt h]
  rfl

section

variable {c : Char} {rest : List Char} (hc : c.isDigit = false)

include hc

/-- Digits end where something else follows them. -/
theorem takeWhile_digits {digits : List Char} (hall : ∀ d ∈ digits, d.isDigit = true)
    (rest : List Char) :
    (digits ++ c :: rest).takeWhile Char.isDigit = digits ∧
      (digits ++ c :: rest).dropWhile Char.isDigit = c :: rest := by
  rw [List.takeWhile_append_of_pos hall, List.dropWhile_append_of_pos hall]
  simp [hc]

theorem fraction?_ofNat {width n : Nat} (h₀ : 0 < width) (h₉ : width ≤ 9) (h : n < 10 ^ width) :
    fraction? ('.' :: (ofNat width n ++ c :: rest)) = some (n * 10 ^ (9 - width), c :: rest) := by
  have hall : ∀ d ∈ ofNat width n, d.isDigit = true := fun d => Digits.isDigit_of_mem
  obtain ⟨hdigits, hleft⟩ := takeWhile_digits hc hall rest
  have hne : ofNat width n ≠ [] := List.ne_nil_of_length_pos (by rw [Digits.length_ofNat]; exact h₀)
  have hnine : (ofNat width n ++ List.replicate 9 '0').take 9 =
      ofNat width n ++ List.replicate (9 - width) '0' := by
    rw [List.take_append, List.take_of_length_le (by simpa using h₉), List.take_replicate]
    simp
  simp only [fraction?, hdigits, hleft, if_neg hne, hnine, Digits.toNat?_append_zeros,
    Digits.toNat?_ofNat, Nat.mod_eq_of_lt h, Option.map_some]

/-- A fraction that something else follows is read as it was written. -/
theorem fraction?_renderFraction {nanos : Nat} (h : nanos < second) (hdot : c ≠ '.') :
    fraction? (renderFraction nanos ++ c :: rest) = some (nanos, c :: rest) := by
  unfold second at h
  unfold renderFraction
  split
  · subst_vars
    simp [fraction?, hdot]
  split
  · rw [List.cons_append, fraction?_ofNat hc (by omega) (by omega) (by omega)]
    simp
    omega
  split
  · rw [List.cons_append, fraction?_ofNat hc (by omega) (by omega) (by omega)]
    simp
    omega
  · rw [List.cons_append, fraction?_ofNat hc (by omega) (by omega) (by omega)]
    simp

end

theorem offset?_cons {limit : Nat} {sign : Char} (hsign : sign ≠ 'Z' ∧ sign ≠ 'z')
    {hours minutes : Nat} (hlimit : limit ≤ 100) (hh : hours < limit) (hm : minutes < 60) :
    offset? limit (sign :: (ofNat 2 hours ++ ':' :: ofNat 2 minutes)) =
      signed? sign (hours * 60 + minutes) := by
  have hhours := number?_ofNat (by omega : hours < 10 ^ 2) (':' :: ofNat 2 minutes)
  have hminutes := number?_ofNat (by omega : minutes < 10 ^ 2) []
  rw [List.append_nil] at hminutes
  have hno : ¬ (([] : List Char) ≠ [] ∨ limit ≤ hours ∨ 60 ≤ minutes) := by simp; omega
  unfold offset?
  split
  · simp_all
  · simp_all
  · rename_i hcons
    cases hcons
    rw [hhours]
    simp only [Option.bind_eq_bind, Option.bind_some, mark?, List.mem_singleton, if_true, hminutes,
      if_neg hno]
  · simp_all

/-- The offset as it is written, in minutes east. -/
def writtenMinutes (offset : Int) : Int :=
  if offset < 0 then -roundedMinutes offset else roundedMinutes offset

theorem offset?_renderOffset {limit : Nat} {offset : Int} (hlimit : limit ≤ 100)
    (h : roundedMinutes offset < limit * 60) :
    offset? limit (renderOffset offset) = some (writtenMinutes offset) := by
  have hsize : ((roundedMinutes offset / 60 : Nat) : Int) * 60 +
      (roundedMinutes offset % 60 : Nat) = roundedMinutes offset := by omega
  unfold renderOffset writtenMinutes
  split
  · rw [offset?_cons (by decide) hlimit (by omega) (by omega), hsize, signed?, if_neg (by decide),
      if_pos (by decide)]
  · rw [offset?_cons (by decide) hlimit (by omega) (by omega), hsize, signed?, if_pos rfl]

/-- What the number of a year is written as is digits throughout, and tells the number. -/
theorem digits_of_year {n : Nat} {digits : List Char}
    (h : digits = if n ≤ 9999 then ofNat 4 n else (toString n).toList) :
    (∀ c ∈ digits, c.isDigit = true) ∧ digits ≠ [] ∧ Digits.toNat? digits = some n := by
  split at h <;> subst h
  · refine ⟨fun c => Digits.isDigit_of_mem, List.ne_nil_of_length_pos ?_, ?_⟩
    · rw [Digits.length_ofNat]
      decide
    · rw [Digits.toNat?_ofNat, Nat.mod_eq_of_lt (by omega)]
  · refine ⟨?_, ?_, Digits.toNat?_toString _⟩
    · rw [Nat.toString_eq_ofList_toDigits, String.toList_ofList]
      exact fun _ => Nat.isDigit_of_mem_toDigits (by decide) (by decide)
    · rw [Nat.toString_eq_ofList_toDigits, String.toList_ofList]
      exact Nat.toDigits_ne_nil

/-- Digits are read up to what follows them. -/
theorem anyDigits?_append {digits rest : List Char} {c : Char} {n : Nat}
    (hall : ∀ c ∈ digits, c.isDigit = true) (hne : digits ≠ [])
    (hvalue : Digits.toNat? digits = some n) (hc : c.isDigit = false) :
    anyDigits? (digits ++ c :: rest) = some ((n : Int), c :: rest) := by
  obtain ⟨htake, hdrop⟩ := takeWhile_digits hc hall rest
  simp only [anyDigits?, htake, hdrop, if_neg hne, hvalue, Option.map_some]

/-- A year that the rest of a date follows is read as it was written. -/
theorem year?_renderYear (year : Int) (rest : List Char) :
    year? (renderYear year ++ '-' :: rest) = some (year, '-' :: rest) := by
  obtain ⟨digits, hdigits⟩ : ∃ digits, digits = if year.natAbs ≤ 9999 then ofNat 4 year.natAbs
    else (toString year.natAbs).toList := ⟨_, rfl⟩
  obtain ⟨hall, hne, hvalue⟩ := digits_of_year hdigits
  have hlong : anyDigits? (digits ++ '-' :: rest) = some ((year.natAbs : Int), '-' :: rest) :=
    anyDigits?_append hall hne hvalue (by decide)
  rw [renderYear, ← hdigits]
  split
  · rw [List.cons_append, year?, hlong, Option.map_some]
    congr 2
    omega
  split
  · rw [List.cons_append, year?, hlong]
    congr 2
    omega
  · have hfour : digits = ofNat 4 year.natAbs := by rw [hdigits, if_pos (by omega)]
    have hshort : fourDigits? (digits ++ '-' :: rest) = some (year, '-' :: rest) := by
      rw [fourDigits?, hfour, number?_ofNat (by omega), Option.map_some]
      congr 2
      omega
    obtain ⟨c, cs, rfl⟩ := List.exists_cons_of_ne_nil hne
    have hc : c.isDigit = true := hall c (.head _)
    rw [List.cons_append] at hshort ⊢
    unfold year?
    split
    · rename_i hsign
      cases hsign
      cases hc
    · rename_i hsign
      cases hsign
      cases hc
    · exact hshort

theorem fraction?_before_offset {nanos : Nat} (h : nanos < second) (offset : Int) :
    fraction? (renderFraction nanos ++ renderOffset offset) =
      some (nanos, renderOffset offset) := by
  unfold renderOffset
  split
  · exact fraction?_renderFraction (by decide) h (by decide)
  · exact fraction?_renderFraction (by decide) h (by decide)

/-- A date and a time of day are read field by field. -/
theorem reading?_fields {year? : List Char → Option (Int × List Char)} {limit : Nat} {year : Int}
    {written : List Char}
    (hyear : ∀ rest, year? (written ++ '-' :: rest) = some (year, '-' :: rest))
    {month day hour minute sec nanos : Nat} {offset : Int}
    (hdate : Calendar.Valid year month day) (hhour : hour < 24) (hminute : minute < 60)
    (hsec : sec ≤ 60) (hnanos : nanos < second) (hlimit : limit ≤ 100)
    (hoffset : roundedMinutes offset < limit * 60) :
    reading? year? limit (String.ofList (written ++ '-' :: ofNat 2 month ++ '-' :: ofNat 2 day
      ++ 'T' :: ofNat 2 hour ++ ':' :: ofNat 2 minute ++ ':' :: ofNat 2 sec
      ++ renderFraction nanos ++ renderOffset offset)) =
    some ⟨Calendar.daysOfDate year month day * 86400 + hour * 3600 + minute * 60 + sec -
        ((if sec = 60 then 1 else 0 : Nat) : Int),
      nanos + (if sec = 60 then 1 else 0) * second, writtenMinutes offset⟩ := by
  obtain ⟨hm₁, hm₁₂⟩ := hdate.inYear
  obtain ⟨hd₁, hdays⟩ := hdate.inMonth
  have hday : day ≤ 31 := by
    have : Calendar.daysInMonth year month ≤ 31 := by
      unfold Calendar.daysInMonth
      split
      · split <;> omega
      · split <;> omega
    omega
  simp only [List.append_assoc, List.cons_append]
  unfold reading?
  rw [String.toList_ofList]
  refine Option.bind_eq_some_iff.mpr ⟨_, hyear _, ?_⟩
  refine Option.bind_eq_some_iff.mpr ⟨_, rfl, ?_⟩
  refine Option.bind_eq_some_iff.mpr ⟨_, number?_ofNat (n := month) (by omega) _, ?_⟩
  refine Option.bind_eq_some_iff.mpr ⟨_, rfl, ?_⟩
  refine Option.bind_eq_some_iff.mpr ⟨_, number?_ofNat (n := day) (by omega) _, ?_⟩
  refine Option.bind_eq_some_iff.mpr ⟨_, rfl, ?_⟩
  refine Option.bind_eq_some_iff.mpr ⟨_, number?_ofNat (n := hour) (by omega) _, ?_⟩
  refine Option.bind_eq_some_iff.mpr ⟨_, rfl, ?_⟩
  refine Option.bind_eq_some_iff.mpr ⟨_, number?_ofNat (n := minute) (by omega) _, ?_⟩
  refine Option.bind_eq_some_iff.mpr ⟨_, rfl, ?_⟩
  refine Option.bind_eq_some_iff.mpr ⟨_, number?_ofNat (n := sec) (by omega) _, ?_⟩
  refine Option.bind_eq_some_iff.mpr ⟨_, fraction?_before_offset hnanos offset, ?_⟩
  refine Option.bind_eq_some_iff.mpr ⟨_, offset?_renderOffset hlimit hoffset, ?_⟩
  exact if_neg (by omega)

/-! ## Times -/

/-- A clock can show the time: its offset is less than a day, and a leap second lasts one second. -/
structure OfClock (t : ZonedTime) : Prop where
  offset : t.offset.natAbs < 86400
  nanos : t.instant.nanos < 2 * second

variable {t : ZonedTime}

/-- What the text of a time says. -/
theorem reading?_render (h : t.OfClock) :
    reading? year? 100 t.render =
      some ⟨t.onClock + t.carry, t.instant.nanos - t.carry * second, writtenMinutes t.offset⟩ := by
  obtain ⟨hoffset, hnanos⟩ := h
  rcases hdate : Calendar.dateOfDays (t.onClock / 86400) with ⟨year, month, day⟩
  obtain ⟨hdays, hvalid⟩ := Calendar.daysOfDate_dateOfDays hdate
  obtain ⟨m, rfl⟩ := Int.eq_ofNat_of_zero_le (show 0 ≤ month by have := hvalid.inYear; omega)
  obtain ⟨d, rfl⟩ := Int.eq_ofNat_of_zero_le (show 0 ≤ day by have := hvalid.inMonth; omega)
  obtain ⟨ofDay, hofDay⟩ : ∃ ofDay, ofDay = (t.onClock % 86400).toNat := ⟨_, rfl⟩
  have hrender : t.render = String.ofList (renderYear year ++ '-' :: ofNat 2 m ++ '-' :: ofNat 2 d
      ++ 'T' :: ofNat 2 (ofDay / 3600) ++ ':' :: ofNat 2 (ofDay / 60 % 60)
      ++ ':' :: ofNat 2 (ofDay % 60 + t.instant.nanos / second)
      ++ renderFraction (t.instant.nanos % second) ++ renderOffset t.offset) := by
    unfold render
    rw [hofDay, hdate]
    rfl
  have hover : t.instant.nanos / second ≤ 1 := by
    unfold second at hnanos ⊢
    omega
  have hminutes : roundedMinutes t.offset < 100 * 60 := by
    unfold roundedMinutes
    omega
  rw [hrender, reading?_fields (year?_renderYear year) hvalid (by omega) (by omega) (by omega)
    (Nat.mod_lt _ (by decide)) (by decide) hminutes, hdays]
  -- The leap second is second 60. Any other second that is prolonged is the next one.
  have hsixty : (if ofDay % 60 + t.instant.nanos / second = 60 then 1 else 0) + t.carry =
      t.instant.nanos / second := by
    unfold carry
    generalize t.instant.nanos / second = extra at hover
    split <;> split <;> omega
  have hnanos' : t.instant.nanos % second +
      (if ofDay % 60 + t.instant.nanos / second = 60 then 1 else 0) * second =
      t.instant.nanos - t.carry * second := by
    have hwhole := Nat.div_add_mod t.instant.nanos second
    rw [← hsixty, Nat.mul_comm, Nat.add_mul] at hwhole
    omega
  rw [hnanos']
  congr 2
  omega

/-- From the text of a time the store reads the instant that it is kept as. -/
theorem read?_render (h : t.OfClock) : read? t.render = some t.kept := by
  rw [read?, reading?_render h, Option.map_some, kept, drift, writtenMinutes, onClock]
  congr 2
  dsimp only
  split <;> split <;> split <;> omega

/-- A time is kept as it is if its offset is in whole minutes. -/
theorem kept_eq (h : t.OfClock) (hminutes : t.offset % 60 = 0)
    (hleap : second ≤ t.instant.nanos → t.instant.seconds % 60 = 59) : t.kept = t.instant := by
  have hoffset := h.offset
  have hdrift : t.drift = 0 := by
    unfold drift roundedMinutes
    dsimp only
    split
    · split <;> omega
    · omega
  have hcarry : t.carry = 0 := by
    unfold carry onClock
    split
    · rfl
    · rename_i hclock
      by_cases hlong : second ≤ t.instant.nanos
      · have := hleap hlong
        omega
      · exact Nat.div_eq_of_lt (Nat.not_le.mp hlong)
  simp [kept, hdrift, hcarry]

/-- A time moves by at most half a minute when it is stored, but for offsets that come to a day. -/
theorem kept_near (hday : t.offset.natAbs < 86370) :
    (t.kept.seconds * second + t.kept.nanos -
      (t.instant.seconds * second + t.instant.nanos)).natAbs ≤ 30 * second := by
  have hdrift : t.drift.natAbs ≤ 30 := by
    unfold drift roundedMinutes
    dsimp only
    split
    · split <;> omega
    · omega
  have hcarry : t.carry * second ≤ t.instant.nanos := by
    unfold carry
    split
    · omega
    · exact Nat.div_mul_le_self _ _
  unfold kept
  dsimp only
  rw [Int.add_mul, Int.add_mul]
  unfold second at *
  omega

/-- What is known of the instant that a time is kept as. -/
structure KeptAs (t : ZonedTime) (i : Instant) : Prop where
  read : read? t.render = some i
  same : t.offset % 60 = 0 → (second ≤ t.instant.nanos → t.instant.seconds % 60 = 59) →
    i = t.instant
  near : t.offset.natAbs < 86370 →
    (i.seconds * second + i.nanos - (t.instant.seconds * second + t.instant.nanos)).natAbs ≤
      30 * second

theorem OfClock.keptAs (h : t.OfClock) : t.KeptAs t.kept :=
  ⟨read?_render h, kept_eq h, kept_near⟩

end ZonedTime

end RefreshChain
