import Federation.Time.Calendar

/-!
# Days and dates

The date of a day exists, and it is the date of no other day; a date that exists is the date of
its day.

    (dateOfDay day).exists? = true
    dayOfDate (dateOfDay day) = day
    dateOfDay (dayOfDate d) = d     (dates that exist)

An era of 400 years falls into centuries, these into cycles of four years, and these into years. A
day of an era is found by its numbers in them (`exists_cycle`), which are bounded, so what remains
is linear arithmetic.
-/

namespace Federation.Time

/-- The year of an era that a day of the era falls in, counted from the era's first. -/
def yearOfEra (doe : Nat) : Nat := (doe - doe / 1460 + doe / 36524 - doe / 146096) / 365

theorem exists_cycle (doe : Nat) (h : doe < 146097) :
    ∃ c q s d, doe = 36524 * c + 1461 * q + 365 * s + d ∧ c ≤ 3 ∧ q ≤ 24 ∧ s ≤ 3 ∧ d ≤ 365 ∧
      (d = 365 → s = 3 ∧ (q < 24 ∨ c = 3)) ∧ yearOfEra doe = 100 * c + 4 * q + s := by
  by_cases hlast : doe = 146096
  · subst hlast
    exact ⟨3, 24, 3, 365, by decide⟩
  obtain ⟨c, hc⟩ : ∃ c, c = doe / 36524 := ⟨_, rfl⟩
  obtain ⟨q, hq⟩ : ∃ q, q = doe % 36524 / 1461 := ⟨_, rfl⟩
  obtain ⟨t, ht⟩ : ∃ t, t = doe % 36524 % 1461 := ⟨_, rfl⟩
  obtain ⟨e, he⟩ : ∃ e, e = (24 * c + q + t) / 1460 := ⟨_, rfl⟩
  have hdoe : doe = 36524 * c + 1461 * q + t := by omega
  have hc3 : c ≤ 3 := by omega
  have hq24 : q ≤ 24 := by omega
  have ht1460 : t ≤ 1460 := by omega
  have hleap : t = 1460 → q < 24 := by omega
  have h1460 : doe / 1460 = 25 * c + q + e := by omega
  have h146096 : doe / 146096 = 0 := by omega
  have he1 : e ≤ 1 := by omega
  have hyear : yearOfEra doe = 100 * c + 4 * q + (t - e) / 365 := by
    unfold yearOfEra
    rw [h1460, h146096, ← hc]
    omega
  refine ⟨c, q, (t - e) / 365, t - 365 * ((t - e) / 365), ?_, hc3, hq24, ?_, ?_, ?_, hyear⟩
  · omega
  · omega
  · omega
  · intro hd
    constructor <;> omega

/-- The date of a day, from the numbers of its century, cycle, year and day. -/
theorem dateOfDay_eq (day : Int) :
    ∃ (era : Int) (c q s d : Nat),
      day + 719468 = era * 146097 + (36524 * c + 1461 * q + 365 * s + d : Nat) ∧
      c ≤ 3 ∧ q ≤ 24 ∧ s ≤ 3 ∧ d ≤ 365 ∧ (d = 365 → s = 3 ∧ (q < 24 ∨ c = 3)) ∧
      ∃ m : Nat, m = (5 * d + 2) / 153 ∧ dateOfDay day =
        { year := era * 400 + (100 * c + 4 * q + s : Nat) + if m < 10 then 0 else 1
          month := if m < 10 then m + 3 else m - 9
          day := d - monthDay m + 1 } := by
  obtain ⟨c, q, s, d, hdoe, hc, hq, hs, hd, hleap, hyear⟩ :=
    exists_cycle ((day + 719468) % 146097).toNat (by omega)
  refine ⟨(day + 719468) / 146097, c, q, s, d, by omega, hc, hq, hs, hd, hleap, _, rfl, ?_⟩
  unfold yearOfEra at hyear
  unfold dateOfDay
  simp only [hyear]
  have hdoy : ((day + 719468) % 146097).toNat - (365 * (100 * c + 4 * q + s)
      + (100 * c + 4 * q + s) / 4 - (100 * c + 4 * q + s) / 100) = d := by omega
  rw [hdoy]
  have hm : (5 * d + 2) / 153 ≤ 11 := by omega
  congr 1
  split <;> split <;> omega

/-! ## Main results -/

/-- The last day of a year that has 366 stands before the first of March of a leap year. -/
theorem isLeapYear_of_cycle (era : Int) (c q : Nat) (hq : q ≤ 24)
    (h : q < 24 ∨ c = 3) :
    isLeapYear (era * 400 + (100 * c + 4 * q + 3 : Nat) + 1) = true := by
  unfold isLeapYear
  simp only [Bool.and_eq_true, Bool.or_eq_true, beq_iff_eq, bne_iff_ne]
  omega

theorem exists_dateOfDay (day : Int) : (dateOfDay day).exists? = true := by
  obtain ⟨era, c, q, s, d, -, hc, hq, hs, hd, hleap, m, hm, hdate⟩ := dateOfDay_eq day
  have hlong : 28 + (if d = 365 then 1 else 0)
      ≤ daysInMonth (era * 400 + (100 * c + 4 * q + s : Nat) + 1) 2 := by
    unfold daysInMonth
    rw [if_pos rfl]
    by_cases hd365 : d = 365
    · obtain ⟨rfl, hcycle⟩ := hleap hd365
      rw [isLeapYear_of_cycle era c q hq hcycle, if_pos hd365]
      decide
    · rw [if_neg hd365]
      split <;> omega
  rw [hdate]
  unfold Date.exists? monthDay
  simp only [Bool.and_eq_true, decide_eq_true_eq]
  have hcases : m = 0 ∨ m = 1 ∨ m = 2 ∨ m = 3 ∨ m = 4 ∨ m = 5 ∨ m = 6 ∨ m = 7 ∨ m = 8 ∨ m = 9
      ∨ m = 10 ∨ m = 11 := by omega
  rcases hcases with h | h | h | h | h | h | h | h | h | h | h | h
  case inr.inr.inr.inr.inr.inr.inr.inr.inr.inr.inr =>
    subst h
    simp only [Nat.reduceLT, if_false, Nat.reduceSub]
    refine ⟨by omega, Nat.le_trans ?_ hlong⟩
    split <;> omega
  all_goals
    subst h
    simp [daysInMonth]
    omega

/-- A day is the day of its date. -/
theorem dayOfDate_dateOfDay (day : Int) : dayOfDate (dateOfDay day) = day := by
  obtain ⟨era, c, q, s, d, hday, hc, hq, hs, hd, -, m, hm, hdate⟩ := dateOfDay_eq day
  rw [hdate]
  unfold dayOfDate marchDay monthDay
  simp only
  by_cases hm10 : m < 10
  · simp only [if_pos hm10]
    rw [if_neg (by omega), if_neg (by omega)]
    omega
  · simp only [if_neg hm10]
    rw [if_pos (by omega), if_pos (by omega)]
    omega

/-! ## Dates and their days -/

/-- The year from one first of March to the next has the leap day of the second. -/
theorem marchDay_succ (y : Int) :
    marchDay (y + 1) = marchDay y + 365 + if isLeapYear (y + 1) then 1 else 0 := by
  unfold marchDay isLeapYear
  simp only [Bool.and_eq_true, Bool.or_eq_true, beq_iff_eq, bne_iff_ne]
  split <;> omega

theorem marchDay_le (y y' : Int) (h : y ≤ y') : marchDay y ≤ marchDay y' := by
  unfold marchDay
  omega

/-- A date that exists, by its March year, its month from March on and its day counted from zero. -/
theorem exists_monthDay (d : Date) (h : d.exists? = true) :
    ∃ (y : Int) (m i : Nat), m ≤ 11 ∧ (m < 11 → monthDay m + i < monthDay (m + 1)) ∧
      marchDay y + monthDay m + i < marchDay (y + 1) ∧
      dayOfDate d = marchDay y + monthDay m + i - 719468 ∧
      d = { year := if m < 10 then y else y + 1, month := if m < 10 then m + 3 else m - 9,
            day := i + 1 } := by
  obtain ⟨year, month, day⟩ := d
  unfold Date.exists? daysInMonth at h
  simp only [Bool.and_eq_true, decide_eq_true_eq] at h
  obtain ⟨⟨⟨hmonth1, hmonth12⟩, hday1⟩, hdays⟩ := h
  by_cases hm : month ≤ 2
  · refine ⟨year - 1, month + 9, day - 1, by omega, fun _ => ?_, ?_, ?_, ?_⟩
    · unfold monthDay
      grind
    · rw [marchDay_succ, Int.sub_add_cancel]
      unfold monthDay
      grind
    · unfold dayOfDate
      simp only [if_pos hm]
      omega
    · rw [if_neg (by omega), if_neg (by omega)]
      congr 1 <;> omega
  · refine ⟨year, month - 3, day - 1, by omega, fun _ => ?_, ?_, ?_, ?_⟩
    · unfold monthDay
      grind
    · rw [marchDay_succ]
      unfold monthDay
      grind
    · unfold dayOfDate
      simp only [if_neg hm]
      omega
    · rw [if_pos (by omega), if_pos (by omega)]
      congr 1 <;> omega

theorem dayOfDate_inj (d d' : Date) (h : d.exists? = true) (h' : d'.exists? = true)
    (heq : dayOfDate d = dayOfDate d') : d = d' := by
  obtain ⟨y, m, i, hm, hmonth, hyear, hday, rfl⟩ := exists_monthDay d h
  obtain ⟨y', m', i', hm', hmonth', hyear', hday', rfl⟩ := exists_monthDay d' h'
  rw [hday, hday'] at heq
  have hy : y = y' := by
    rcases Int.lt_trichotomy y y' with hlt | heq | hgt
    · have := marchDay_le (y + 1) y' hlt
      omega
    · exact heq
    · have := marchDay_le (y' + 1) y hgt
      omega
  subst hy
  have hmeq : m = m' := by
    unfold monthDay at *
    omega
  subst hmeq
  have hi : i = i' := by omega
  rw [hi]

/-- A date that exists is the date of its day. -/
theorem dateOfDay_dayOfDate (d : Date) (h : d.exists? = true) : dateOfDay (dayOfDate d) = d :=
  dayOfDate_inj _ d (exists_dateOfDay _) h (dayOfDate_dateOfDay _)

end Federation.Time
