import ConnectorPlane.Time.Instant
import Mathlib.Tactic.IntervalCases
import Mathlib.Data.Int.Init

/-! # The civil calendar

`CivilDate.toDays` and `CivilDate.ofDays` count days from 1970-01-01 through years that start in
March, so that a leap day is the last day of its year; a 400-year era holds 146097 days.

* `toDays_ofDays`: every day number comes back from its date. Within an era a day splits into
  centuries, four-year cycles, years and a day of the year (`era_split`), and the year formula of
  `ofDays` recovers the split (`yearOfEra_eq`).
* `toDays_lt_of_before`: on valid dates, calendar order (`Before`) is day order. A month ends where
  the next begins (`toDays_next_month`, `toDays_next_year`), so each step forward in the calendar
  adds days.
* `ofDays_before_iff`: dates of valid day numbers are in calendar order exactly when the day
  numbers are in order.
-/

namespace ConnectorPlane

namespace CivilDate

/-- Calendar order: by year, then month, then day. -/
def Before (a b : CivilDate) : Prop :=
  a.year < b.year ∨ a.year = b.year ∧ (a.month < b.month ∨ a.month = b.month ∧ a.day < b.day)

theorem isValid_iff (d : CivilDate) : d.isValid = true ↔ -262144 ≤ d.year ∧ d.year ≤ 262143 ∧
    1 ≤ d.month ∧ d.month ≤ 12 ∧ 1 ≤ d.day ∧ d.day ≤ monthLength d.year d.month := by
  simp [isValid, and_assoc]

theorem isLeapYear_iff (y : Int) :
    isLeapYear y = true ↔ (y % 4 = 0 ∧ y % 100 ≠ 0) ∨ y % 400 = 0 := by
  simp [isLeapYear]

theorem monthLength_le (y : Int) (m : Nat) : monthLength y m ≤ 31 := by
  unfold monthLength
  split <;> (try split) <;> omega

/-! ## Day numbers of dates -/

theorem toDays_eq (y : Int) (m d : Nat) :
    toDays ⟨y, m, d⟩ =
      let Y := if m ≤ 2 then y - 1 else y
      let mp : Int := if (m : Int) > 2 then m - 3 else m + 9
      365 * Y + Y / 4 - Y / 100 + Y / 400 + (153 * mp + 2) / 5 + d - 1 - 719468 := by
  simp only [toDays, Int.fdiv_eq_ediv_of_nonneg _ (show (0 : Int) ≤ 400 by decide)]
  split <;> split <;> omega

theorem toDays_add_day (y : Int) (m d : Nat) : toDays ⟨y, m, d⟩ = toDays ⟨y, m, 1⟩ + (d - 1) := by
  rw [toDays_eq, toDays_eq]
  simp only
  omega

/-- A month ends the day before the next one starts; February's length is where leap years
enter. -/
theorem toDays_next_month (y : Int) (m : Nat) (h1 : 1 ≤ m) (h2 : m ≤ 11) :
    toDays ⟨y, m + 1, 1⟩ = toDays ⟨y, m, 1⟩ + monthLength y m := by
  rw [toDays_eq, toDays_eq]
  interval_cases m
  · simp [monthLength]; omega
  · -- from February to March the March-based year changes
    simp only [monthLength]
    by_cases hl : (y % 4 = 0 ∧ y % 100 ≠ 0) ∨ y % 400 = 0
    · rw [if_pos ((isLeapYear_iff y).2 hl)]; simp; omega
    · rw [if_neg (mt (isLeapYear_iff y).1 hl)]; simp; omega
  all_goals simp [monthLength]; omega

theorem toDays_next_year (y : Int) : toDays ⟨y + 1, 1, 1⟩ = toDays ⟨y, 12, 1⟩ + 31 := by
  rw [toDays_eq, toDays_eq]
  simp
  omega

theorem toDays_month_mono (y : Int) {m m' : Nat} (h1 : 1 ≤ m) (h : m ≤ m') (h2 : m' ≤ 12) :
    toDays ⟨y, m, 1⟩ ≤ toDays ⟨y, m', 1⟩ := by
  induction m', h using Nat.le_induction with
  | base => exact Int.le_refl _
  | succ n hn ih =>
    rw [toDays_next_month y n (by omega) (by omega)]
    have := ih (by omega)
    omega

theorem toDays_lt_next_month {y : Int} {m d : Nat} (hm : 1 ≤ m ∧ m ≤ 11)
    (hd : d ≤ monthLength y m) : toDays ⟨y, m, d⟩ < toDays ⟨y, m + 1, 1⟩ := by
  rw [toDays_add_day, toDays_next_month y m hm.1 hm.2]
  omega

theorem toDays_lt_next_year {y : Int} {m d : Nat} (hm : 1 ≤ m ∧ m ≤ 12)
    (hd : d ≤ monthLength y m) : toDays ⟨y, m, d⟩ < toDays ⟨y + 1, 1, 1⟩ := by
  rw [toDays_next_year]
  rcases Nat.lt_or_ge m 12 with h | h
  · have h1 := toDays_lt_next_month (y := y) ⟨hm.1, (by omega : m ≤ 11)⟩ hd
    have h2 := @toDays_month_mono y (m + 1) 12 (by omega) (by omega) (Nat.le_refl _)
    omega
  · obtain rfl : m = 12 := by omega
    rw [toDays_add_day]
    have := monthLength_le y 12
    omega

theorem toDays_year_mono {y y' : Int} (h : y ≤ y') : toDays ⟨y, 1, 1⟩ ≤ toDays ⟨y', 1, 1⟩ := by
  induction y', h using Int.leInduction with
  | base => exact Int.le_refl _
  | succ n hn ih =>
    have := toDays_lt_next_year (y := n) (m := 1) (d := 1) (by omega) (by simp [monthLength])
    omega

/-- **Calendar order is day order** on valid dates. -/
theorem toDays_lt_of_before {a b : CivilDate} (ha : a.isValid) (hb : b.isValid)
    (h : Before a b) : toDays a < toDays b := by
  rw [isValid_iff] at ha hb
  obtain ⟨ya, ma, da⟩ := a
  obtain ⟨yb, mb, db⟩ := b
  simp only [Before] at ha hb h
  have hb1 := toDays_month_mono yb (Nat.le_refl 1) hb.2.2.1 hb.2.2.2.1
  have hb2 := toDays_add_day yb mb db
  rcases h with hy | ⟨rfl, hm | ⟨rfl, hd⟩⟩
  · -- an earlier year ends before the later one starts
    have h1 := toDays_lt_next_year ⟨ha.2.2.1, ha.2.2.2.1⟩ ha.2.2.2.2.2
    have h2 := toDays_year_mono (show ya + 1 ≤ yb by omega)
    omega
  · have h1 := toDays_lt_next_month ⟨ha.2.2.1, (by omega : ma ≤ 11)⟩ ha.2.2.2.2.2
    have h2 := @toDays_month_mono ya (ma + 1) mb (by omega) (by omega) hb.2.2.2.1
    omega
  · rw [toDays_add_day ya ma da]
    omega

/-! ## Dates of day numbers -/

/-- A day of an era is `c` centuries, `q` four-year cycles, `y` years and `j` days in; only the
last year of a cycle has a 366th day, and the last cycle of a century other than the fourth has
none. -/
theorem era_split {doe : Int} (h0 : 0 ≤ doe) (h1 : doe ≤ 146096) :
    ∃ c q y j : Int, 0 ≤ c ∧ c ≤ 3 ∧ 0 ≤ q ∧ q ≤ 24 ∧ 0 ≤ y ∧ y ≤ 3 ∧ 0 ≤ j ∧ j ≤ 365 ∧
      (j = 365 → y = 3 ∧ (q ≠ 24 ∨ c = 3)) ∧ doe = 36524 * c + 1461 * q + 365 * y + j := by
  obtain ⟨c, hc⟩ : ∃ c, c = min (doe / 36524) 3 := ⟨_, rfl⟩
  obtain ⟨q, hq⟩ : ∃ q, q = min ((doe - 36524 * c) / 1461) 24 := ⟨_, rfl⟩
  obtain ⟨y, hy⟩ : ∃ y, y = min ((doe - 36524 * c - 1461 * q) / 365) 3 := ⟨_, rfl⟩
  refine ⟨c, q, y, doe - 36524 * c - 1461 * q - 365 * y, ?_⟩
  omega

theorem yearOfEra_eq {doe c q y j : Int} (hc : 0 ≤ c ∧ c ≤ 3) (hq : 0 ≤ q ∧ q ≤ 24)
    (hy : 0 ≤ y ∧ y ≤ 3) (hj : 0 ≤ j ∧ j ≤ 365) (hl : j = 365 → y = 3 ∧ (q ≠ 24 ∨ c = 3))
    (hd : doe = 36524 * c + 1461 * q + 365 * y + j) :
    (doe - doe / 1460 + doe / 36524 - doe / 146096) / 365 = 100 * c + 4 * q + y := by
  -- the three quotients, each a known count plus at most one
  have h1 : doe / 1460 = 25 * c + q + (24 * c + q + 365 * y + j) / 1460 := by
    rw [hd, show 36524 * c + 1461 * q + 365 * y + j =
      (24 * c + q + 365 * y + j) + 1460 * (25 * c + q) by omega,
      Int.add_mul_ediv_left _ _ (by decide)]
    omega
  have h2 : doe / 36524 = c + doe / 146096 := by
    rcases Int.lt_or_eq_of_le (show doe ≤ 146096 by omega) with h | h
    · rw [Int.ediv_eq_zero_of_lt (by omega) h]
      omega
    · subst h
      omega
  have h3 : 0 ≤ (24 * c + q + 365 * y + j) / 1460 ∧ (24 * c + q + 365 * y + j) / 1460 ≤ 1 := by
    omega
  have h4 : (24 * c + q + 365 * y + j) / 1460 = 1 ↔ 1460 ≤ 24 * c + q + 365 * y + j := by omega
  rw [h1, h2]
  omega

/-- **Day numbers round-trip through dates.** -/
theorem toDays_ofDays (z : Int) : toDays (ofDays z) = z := by
  simp only [ofDays, Int.fdiv_eq_ediv_of_nonneg _ (show (0 : Int) ≤ 146097 by decide)]
  generalize he : (z + 719468) / 146097 = era
  have hb : 0 ≤ z + 719468 - era * 146097 ∧ z + 719468 - era * 146097 ≤ 146096 := by omega
  generalize hdoe : z + 719468 - era * 146097 = doe at hb ⊢
  obtain ⟨c, q, y, j, hc0, hc1, hq0, hq1, hy0, hy1, hj0, hj1, hl, hd⟩ := era_split hb.1 hb.2
  rw [yearOfEra_eq ⟨hc0, hc1⟩ ⟨hq0, hq1⟩ ⟨hy0, hy1⟩ ⟨hj0, hj1⟩ hl hd]
  have h4 : (100 * c + 4 * q + y) / 4 = 25 * c + q := by omega
  have h100 : (100 * c + 4 * q + y) / 100 = c := by omega
  have hdoy : doe - (365 * (100 * c + 4 * q + y) + (100 * c + 4 * q + y) / 4 -
      (100 * c + 4 * q + y) / 100) = j := by omega
  have e4 : (100 * c + 4 * q + y + era * 400) / 4 = 25 * c + q + 100 * era := by omega
  have e100 : (100 * c + 4 * q + y + era * 400) / 100 = c + 4 * era := by omega
  have e400 : (100 * c + 4 * q + y + era * 400) / 400 = era := by omega
  rw [hdoy]
  -- the month of the March-based year, and from it everything else
  have hmp : 0 ≤ (5 * j + 2) / 153 ∧ (5 * j + 2) / 153 ≤ 11 := by omega
  generalize hm : (5 * j + 2) / 153 = mp at hmp ⊢
  obtain ⟨hmp0, hmp1⟩ := hmp
  rw [toDays_eq]
  interval_cases mp <;> simp <;> omega

theorem ofDays_injective {a b : Int} (h : ofDays a = ofDays b) : a = b := by
  rw [← toDays_ofDays a, h, toDays_ofDays]

theorem before_total {a b : CivilDate} (h : a ≠ b) : Before a b ∨ Before b a := by
  obtain ⟨ya, ma, da⟩ := a
  obtain ⟨yb, mb, db⟩ := b
  simp only [Before, ne_eq, CivilDate.mk.injEq] at h ⊢
  omega

theorem ofDays_before_iff {a b : Int} (ha : (ofDays a).isValid) (hb : (ofDays b).isValid) :
    Before (ofDays a) (ofDays b) ↔ a < b := by
  constructor
  · intro h
    have := toDays_lt_of_before ha hb h
    rwa [toDays_ofDays, toDays_ofDays] at this
  · intro h
    rcases before_total (a := ofDays a) (b := ofDays b)
      (fun he => absurd (ofDays_injective he) (by omega)) with h' | h'
    · exact h'
    · have := toDays_lt_of_before hb ha h'
      rw [toDays_ofDays, toDays_ofDays] at this
      omega

end CivilDate

end ConnectorPlane
