import Mathlib.Tactic.IntervalCases
import Promotions.Timestamp

/-! The readings of clocks. Dates of the calendar are read in the order of their fields, from the
year to the microsecond, and so they compare, unless their offsets differ. -/
namespace Promotions.Timestamp

def daysIn (year month : Nat) : Nat :=
  if month = 2 then (if isLeap year then 29 else 28)
  else if month = 4 ∨ month = 6 ∨ month = 9 ∨ month = 11 then 30 else 31

def yearDays (year : Nat) : Nat := if isLeap year then 366 else 365

/-- The days before a year. -/
def yearStart (year : Nat) : Nat :=
  365 * (year - 1) + (year - 1) / 4 - (year - 1) / 100 + (year - 1) / 400

/-- A date of the calendar and a time of the day. -/
structure Proper (t : Timestamp) : Prop where
  year : 1 ≤ t.year
  month : 1 ≤ t.month ∧ t.month ≤ 12
  day : 1 ≤ t.day ∧ t.day ≤ daysIn t.year t.month
  hour : t.hour < 24
  minute : t.minute < 60
  second : t.second < 60
  microsecond : t.microsecond < 1000000

/-- How the fields of two dates compare, from the year to the microsecond. -/
def fieldOrder (a b : Timestamp) : Ordering :=
  (compare a.year b.year).then <| (compare a.month b.month).then <|
    (compare a.day b.day).then <| (compare a.hour b.hour).then <|
      (compare a.minute b.minute).then <| (compare a.second b.second).then <|
        compare a.microsecond b.microsecond

/- Places in blocks that lie one behind the other compare by their blocks first. -/
theorem blocksOrder (start length : Nat → Nat) {i j x y : Nat}
    (up : i < j → start i + length i ≤ start j) (down : j < i → start j + length j ≤ start i)
    (inside : x < length i) (inside' : y < length j) :
    compare (start i + x) (start j + y) = (compare i j).then (compare x y) := by
  rcases Nat.lt_trichotomy i j with less | rfl | more
  · have apart := up less
    rw [Nat.compare_eq_lt.mpr less, Nat.compare_eq_lt.mpr (by omega)]
    rfl
  · rw [Nat.compare_eq_eq.mpr rfl, Ordering.eq_then]
    rcases Nat.lt_trichotomy x y with less | rfl | more
    · rw [Nat.compare_eq_lt.mpr less, Nat.compare_eq_lt.mpr (by omega)]
    · rw [Nat.compare_eq_eq.mpr rfl, Nat.compare_eq_eq.mpr rfl]
    · rw [Nat.compare_eq_gt.mpr more, Nat.compare_eq_gt.mpr (by omega)]
  · have apart := down more
    rw [Nat.compare_eq_gt.mpr more, Nat.compare_eq_gt.mpr (by omega)]
    rfl

theorem digitsOrder {base x y : Nat} (i j : Nat) (inside : x < base) (inside' : y < base) :
    compare (i * base + x) (j * base + y) = (compare i j).then (compare x y) := by
  have apart {i j : Nat} (less : i < j) : i * base + base ≤ j * base := by
    rw [← Nat.succ_mul]
    exact Nat.mul_le_mul_right base less
  exact blocksOrder (· * base) (fun _ => base) apart apart inside inside'

theorem monthAfter (year month : Nat) (first : 1 ≤ month) (last : month < 12) :
    daysBefore year (month + 1) = daysBefore year month + daysIn year month := by
  unfold daysBefore daysIn
  generalize isLeap year = leap
  interval_cases month <;> cases leap <;> rfl

theorem yearAfterMonths (year : Nat) : daysBefore year 12 + daysIn year 12 = yearDays year := by
  unfold daysBefore daysIn yearDays
  cases isLeap year <;> rfl

theorem monthsApart (year : Nat) {month month' : Nat} (first : 1 ≤ month) (less : month < month')
    (last : month' ≤ 12) : daysBefore year month + daysIn year month ≤ daysBefore year month' := by
  induction month', less using Nat.le_induction with
  | base => rw [← monthAfter year month first (by omega)]
  | succ m later ih =>
    have step := monthAfter year m (by omega) (by omega)
    have := ih (by omega)
    omega

theorem leapIff (year : Nat) :
    isLeap year = true ↔ 4 ∣ year ∧ (¬ 100 ∣ year ∨ 400 ∣ year) := by
  simp [isLeap, Nat.dvd_iff_mod_eq_zero]

theorem yearAfter (year : Nat) (first : 1 ≤ year) :
    yearStart (year + 1) = yearStart year + yearDays year := by
  obtain ⟨years, rfl⟩ : ∃ years, year = years + 1 := ⟨year - 1, by omega⟩
  have centuries : years / 100 ≤ years := Nat.div_le_self years 100
  have fewer : 4 ∣ years + 1 ∨ ¬ 100 ∣ years + 1 := by omega
  have fewer' : 100 ∣ years + 1 ∨ ¬ 400 ∣ years + 1 := by omega
  unfold yearStart yearDays
  simp only [leapIff, Nat.add_sub_cancel, Nat.succ_div]
  by_cases fourth : 4 ∣ years + 1 <;> by_cases century : 100 ∣ years + 1 <;>
    by_cases age : 400 ∣ years + 1 <;> simp [fourth, century, age] at fewer fewer' ⊢ <;> omega

theorem yearsApart {year year' : Nat} (first : 1 ≤ year) (less : year < year') :
    yearStart year + yearDays year ≤ yearStart year' := by
  induction year', less using Nat.le_induction with
  | base => rw [← yearAfter year first]
  | succ y later ih =>
    have step := yearAfter y (by omega)
    omega

def dayOfYear (t : Timestamp) : Nat := daysBefore t.year t.month + (t.day - 1)

theorem dayNumberSplit (t : Timestamp) : t.dayNumber = yearStart t.year + t.dayOfYear :=
  Nat.add_assoc _ _ _

theorem dayInYear {t : Timestamp} (proper : t.Proper) : t.dayOfYear < yearDays t.year := by
  obtain ⟨first, last⟩ := proper.month
  obtain ⟨low, high⟩ := proper.day
  have whole := yearAfterMonths t.year
  unfold dayOfYear
  rcases Nat.lt_or_ge t.month 12 with less | december
  · have := monthsApart t.year first less (Nat.le_refl 12)
    omega
  · rw [Nat.le_antisymm last december] at high ⊢
    omega

theorem dayOfYearOrder {a b : Timestamp} (proper : a.Proper) (proper' : b.Proper)
    (year : a.year = b.year) : compare a.dayOfYear b.dayOfYear =
      (compare a.month b.month).then (compare a.day b.day) := by
  obtain ⟨first, last⟩ := proper.month
  obtain ⟨first', last'⟩ := proper'.month
  obtain ⟨low, high⟩ := proper.day
  obtain ⟨low', high'⟩ := proper'.day
  have days : compare (a.day - 1) (b.day - 1) = compare a.day b.day := by
    simp only [Nat.compare_eq_ite_lt]
    split_ifs <;> first | rfl | omega
  unfold dayOfYear
  rw [← days, year]
  rw [year] at high
  exact blocksOrder (daysBefore b.year) (daysIn b.year) (monthsApart _ first · last')
    (monthsApart _ first' · last) (by omega) (by omega)

theorem dayOrder {a b : Timestamp} (proper : a.Proper) (proper' : b.Proper) :
    compare a.dayNumber b.dayNumber = (compare a.year b.year).then
      ((compare a.month b.month).then (compare a.day b.day)) := by
  rw [dayNumberSplit, dayNumberSplit, blocksOrder yearStart yearDays (yearsApart proper.year)
    (yearsApart proper'.year) (dayInYear proper) (dayInYear proper')]
  by_cases year : a.year = b.year
  · rw [dayOfYearOrder proper proper' year]
  · cases order : compare a.year b.year with
    | eq => exact absurd (Nat.compare_eq_eq.mp order) year
    | lt => rfl
    | gt => rfl

theorem readingOrder {a b : Timestamp} (proper : a.Proper) (proper' : b.Proper) :
    compare a.reading b.reading = fieldOrder a b := by
  have whole : compare a.reading b.reading =
      compare ((((a.dayNumber * 24 + a.hour) * 60 + a.minute) * 60 + a.second) * 1000000 +
          a.microsecond)
        ((((b.dayNumber * 24 + b.hour) * 60 + b.minute) * 60 + b.second) * 1000000 +
          b.microsecond) := by
    unfold reading
    norm_cast
    simp only [compare, compareOfLessAndEq, Int.ofNat_lt, Int.ofNat_inj]
  rw [whole, digitsOrder _ _ proper.microsecond proper'.microsecond,
    digitsOrder _ _ proper.second proper'.second, digitsOrder _ _ proper.minute proper'.minute,
    digitsOrder _ _ proper.hour proper'.hour, dayOrder proper proper', fieldOrder]
  simp only [Ordering.then_assoc]

end Promotions.Timestamp
