import RefreshChain.Instant

/-!
# The calendar is right

Each day of the calendar has a date, which leads back to it.

* `Calendar.Position`: a day of an era of 400 years, with its year.
* `Calendar.daysOfDate_dateOfDays`: from a day to its date and back.
-/

namespace RefreshChain

namespace Calendar

/-! ## Days of an era -/

/-- A day of an era of 400 years, which begins in March: in which century of it, in which span of
four years of that, in which year of that, and where in the year. Only the last year of a span has a
366th day, and the last one of a century only at the end of the era. -/
structure Position where
  century : Int
  span : Int
  year : Int
  dayOfYear : Int
  bounds : (0 ≤ century ∧ century < 4) ∧ (0 ≤ span ∧ span < 25) ∧ (0 ≤ year ∧ year < 4) ∧
    0 ≤ dayOfYear ∧ dayOfYear < 366
  leapDay : dayOfYear = 365 → year = 3 ∧ (span = 24 → century = 3)

namespace Position

/-- The days from the start of the era. -/
def day (p : Position) : Int :=
  36524 * p.century + 1461 * p.span + 365 * p.year + p.dayOfYear

/-- The years from the start of the era. -/
def yearOfEra (p : Position) : Int := 100 * p.century + 4 * p.span + p.year

theorem exists_of_day (day : Int) (h₀ : 0 ≤ day) (h₁ : day < 146097) :
    ∃ p : Position, p.day = day := by
  obtain ⟨century, hcentury⟩ : ∃ century, century = min (day / 36524) 3 := ⟨_, rfl⟩
  obtain ⟨rest, hrest⟩ : ∃ rest, rest = day - 36524 * century := ⟨_, rfl⟩
  have hrest' : 0 ≤ rest ∧ rest ≤ 36524 ∧ (rest = 36524 → century = 3) := by omega
  obtain ⟨span, hspan⟩ : ∃ span, span = rest / 1461 := ⟨_, rfl⟩
  obtain ⟨year, hyear⟩ : ∃ year, year = min ((rest - 1461 * span) / 365) 3 := ⟨_, rfl⟩
  refine ⟨⟨century, span, year, rest - 1461 * span - 365 * year, ?_, ?_⟩, ?_⟩
  · omega
  · omega
  · unfold Position.day
    dsimp only
    omega

variable (p : Position)

theorem day_bounds : 0 ≤ p.day ∧ p.day < 146097 := by
  have hb := p.bounds
  have hl := p.leapDay
  unfold day
  omega

theorem yearOfEra_bounds : 0 ≤ p.yearOfEra ∧ p.yearOfEra < 400 := by
  have hb := p.bounds
  unfold yearOfEra
  omega

theorem yearOfEra_div : p.yearOfEra / 4 = 25 * p.century + p.span ∧
    p.yearOfEra / 100 = p.century := by
  have hb := p.bounds
  unfold yearOfEra
  exact ⟨by omega, by omega⟩

/-- The years before it, with their leap days, and the days of its year make up a day. -/
theorem day_eq : p.day =
    p.yearOfEra * 365 + p.yearOfEra / 4 - p.yearOfEra / 100 + p.dayOfYear := by
  obtain ⟨hfour, hhundred⟩ := p.yearOfEra_div
  rw [hfour, hhundred, day, yearOfEra]
  omega

/-- The leap days before it taken away, a day of the era tells its year. -/
theorem yearOfEra_eq :
    (p.day - p.day / 1460 + p.day / 36524 - p.day / 146096) / 365 = p.yearOfEra := by
  obtain ⟨century, span, year, dayOfYear, hb, hl⟩ := p
  unfold day yearOfEra
  dsimp only
  -- At the end of a span one leap day too many is taken away, which the 366th day makes up for.
  obtain ⟨extra, hextra⟩ : ∃ extra : Int,
    extra = if 1460 ≤ 24 * century + span + (365 * year + dayOfYear) then 1 else 0 := ⟨_, rfl⟩
  have hfours : (36524 * century + 1461 * span + 365 * year + dayOfYear) / 1460 =
      25 * century + span + extra := by split at hextra <;> omega
  have hrest : 0 ≤ 1461 * span + 365 * year + dayOfYear ∧
      (1461 * span + 365 * year + dayOfYear < 36524 ∨
        century = 3 ∧ 1461 * span + 365 * year + dayOfYear = 36524) := by omega
  have hcenturies : (36524 * century + 1461 * span + 365 * year + dayOfYear) / 36524 -
      (36524 * century + 1461 * span + 365 * year + dayOfYear) / 146096 = century := by omega
  have hdays : 36524 * century + 1461 * span + 365 * year + dayOfYear -
      (36524 * century + 1461 * span + 365 * year + dayOfYear) / 1460 +
      (36524 * century + 1461 * span + 365 * year + dayOfYear) / 36524 -
      (36524 * century + 1461 * span + 365 * year + dayOfYear) / 146096 =
      365 * (100 * century + 4 * span + year) + (dayOfYear - extra) := by omega
  rw [hdays]
  split at hextra <;> omega

end Position

/-! ## Dates -/

theorem isLeap_iff {year : Int} :
    isLeap year = true ↔ year % 4 = 0 ∧ (year % 100 ≠ 0 ∨ year % 400 = 0) := by
  simp [isLeap]

/-- A date that there is. -/
structure Valid (year month day : Int) : Prop where
  inYear : 1 ≤ month ∧ month ≤ 12
  inMonth : 1 ≤ day ∧ day ≤ daysInMonth year month

/-- The date of a day in a year that is counted from March. -/
def dateOf (year dayOfYear : Int) : Int × Int × Int :=
  let m := (5 * dayOfYear + 2) / 153
  let month := if m < 10 then m + 3 else m - 9
  (if month ≤ 2 then year + 1 else year, month, dayOfYear - (153 * m + 2) / 5 + 1)

theorem dateOfDays_position (era : Int) (p : Position) :
    dateOfDays (era * 146097 + p.day - 719468) =
      dateOf (p.yearOfEra + era * 400) p.dayOfYear := by
  have hb := p.day_bounds
  have hera : (era * 146097 + p.day - 719468 + 719468) / 146097 = era := by omega
  have hday : era * 146097 + p.day - 719468 + 719468 - era * 146097 = p.day := by omega
  have hdayOfYear : p.day - (365 * p.yearOfEra + p.yearOfEra / 4 - p.yearOfEra / 100) =
      p.dayOfYear := by
    rw [p.day_eq]
    omega
  simp only [dateOfDays, hera, hday, p.yearOfEra_eq, hdayOfYear]
  rfl

theorem daysOfDate_position {year month day : Int} (era : Int) (p : Position)
    (hyear : (if month ≤ 2 then year - 1 else year) = p.yearOfEra + era * 400)
    (hday : p.dayOfYear = (153 * ((month + 9) % 12) + 2) / 5 + day - 1) :
    daysOfDate year month day = era * 146097 + p.day - 719468 := by
  have hb := p.yearOfEra_bounds
  have hera : (p.yearOfEra + era * 400) / 400 = era := by omega
  have hrest : p.yearOfEra + era * 400 - era * 400 = p.yearOfEra := by omega
  simp only [daysOfDate, hyear, hera, hrest, ← hday, p.day_eq]

/-- The months from March on have 31, 30, 31, 30 and 31 days, and so on again. February is last. -/
theorem dateOf_spec {year dayOfYear y month day : Int} (hb : 0 ≤ dayOfYear ∧ dayOfYear < 366)
    (hleap : dayOfYear = 365 → isLeap (year + 1) = true)
    (h : dateOf year dayOfYear = (y, month, day)) :
    Valid y month day ∧ (if month ≤ 2 then y - 1 else y) = year ∧
      dayOfYear = (153 * ((month + 9) % 12) + 2) / 5 + day - 1 := by
  obtain ⟨m, hm⟩ : ∃ m, m = (5 * dayOfYear + 2) / 153 := ⟨_, rfl⟩
  simp only [dateOf, ← hm, Prod.mk.injEq] at h
  obtain ⟨hy, hmonth, rfl⟩ := h
  rw [hmonth] at hy
  have hshift : (month + 9) % 12 = m := by split at hmonth <;> omega
  have hyear : (if month ≤ 2 then y - 1 else y) = year := by split at hy <;> split <;> omega
  refine ⟨⟨by split at hmonth <;> omega, by omega, ?_⟩, hyear, by omega⟩
  unfold daysInMonth
  by_cases hfeb : month = 2
  · rw [if_pos hfeb]
    split
    · omega
    · rename_i hno
      have hlast : dayOfYear ≠ 365 := fun h => hno (by rw [← hy, if_pos (by omega)]; exact hleap h)
      omega
  · rw [if_neg hfeb]
    split
    · omega
    · omega

/-- The calendar is right: a day has a date, and the date leads back to it. -/
theorem daysOfDate_dateOfDays {days year month day : Int}
    (h : dateOfDays days = (year, month, day)) :
    daysOfDate year month day = days ∧ Valid year month day := by
  obtain ⟨era, hera⟩ : ∃ era, era = (days + 719468) / 146097 := ⟨_, rfl⟩
  obtain ⟨p, hp⟩ := Position.exists_of_day (days + 719468 - era * 146097) (by omega)
    (by omega)
  have hdays : days = era * 146097 + p.day - 719468 := by omega
  rw [hdays, dateOfDays_position] at h
  have hleap : p.dayOfYear = 365 → isLeap (p.yearOfEra + era * 400 + 1) = true := fun hlast => by
    have hb := p.bounds
    have hl := p.leapDay hlast
    rw [isLeap_iff, Position.yearOfEra]
    omega
  obtain ⟨hvalid, hyear, hday⟩ := dateOf_spec p.bounds.2.2.2 hleap h
  exact ⟨(daysOfDate_position era p hyear hday).trans hdays.symm, hvalid⟩

end Calendar

end RefreshChain
