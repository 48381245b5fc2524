import Federation.Proofs.Time.Calendar
import Federation.Proofs.Time.Order

/-!
# Clocks

A clock that is some minutes ahead of universal time, or behind it, shows the date and the time of
day of an instant. Of the instants that it shows alike, one has no leap second but at the end of a
minute, and that is the instant of what it shows.

    ofClock? c offset = some t  ↔  t.LeapEndsMinute ∧ t.clockAt offset = c
    t.clock = u.clock  ↔  t.carried = u.carried
-/

namespace Federation.Time

namespace Instant

/-! ## Fields -/

/-- The fields of a clock that is `offset` minutes ahead of universal time. -/
def clockAt (t : Instant) (offset : Int) : Clock :=
  let second := t.second + offset * 60
  let ofDay := (second % 86400).toNat
  let leap := 1000000000 ≤ t.nano
  { date := dateOfDay (second / 86400)
    hour := ofDay / 3600
    minute := ofDay / 60 % 60
    second := ofDay % 60 + if leap then 1 else 0
    nano := if leap then t.nano - 1000000000 else t.nano }

theorem clockAt_zero (t : Instant) : t.clockAt 0 = t.clock := by
  unfold clockAt clock
  rw [Int.zero_mul, Int.add_zero]

/-- The fields of a clock are those of an hour, a minute and so on. -/
def Clock.InRange (c : Clock) : Prop :=
  c.date.exists? = true ∧ c.hour ≤ 23 ∧ c.minute ≤ 59 ∧ c.second ≤ 60 ∧ c.nano ≤ 999999999

theorem inRange_clockAt (t : Instant) (offset : Int) : (t.clockAt offset).InRange := by
  have hnano := t.nano_lt
  refine ⟨exists_dateOfDay _, ?_, ?_, ?_, ?_⟩
  · show ((t.second + offset * 60) % 86400).toNat / 3600 ≤ 23
    omega
  · show ((t.second + offset * 60) % 86400).toNat / 60 % 60 ≤ 59
    omega
  · show ((t.second + offset * 60) % 86400).toNat % 60 + (if _ then 1 else 0) ≤ 60
    split <;> omega
  · show (if 1000000000 ≤ t.nano then _ else _) ≤ 999999999
    split <;> omega

/-- The fields of a clock fit the places that a text has for them. -/
structure Clock.Fits (c : Clock) : Prop where
  month : c.date.month < 10 ^ 2
  day : c.date.day < 10 ^ 2
  hour : c.hour < 10 ^ 2
  minute : c.minute < 10 ^ 2
  second : c.second < 10 ^ 2
  nano : c.nano < 10 ^ 9

theorem month_le_day_le (d : Date) (h : d.exists? = true) : d.month ≤ 12 ∧ d.day ≤ 31 := by
  unfold Date.exists? at h
  simp only [Bool.and_eq_true, decide_eq_true_eq] at h
  obtain ⟨⟨⟨-, hmonth⟩, -⟩, hday⟩ := h
  have hlength : daysInMonth d.year d.month ≤ 31 := by
    unfold daysInMonth
    split
    · split <;> omega
    · split <;> omega
  exact ⟨hmonth, by omega⟩

theorem fits_clockAt (t : Instant) (offset : Int) : (t.clockAt offset).Fits := by
  obtain ⟨hdate, hhour, hminute, hsecond, hnano⟩ := t.inRange_clockAt offset
  obtain ⟨hmonth, hday⟩ := month_le_day_le _ hdate
  constructor <;> omega

theorem fits_clock (t : Instant) : t.clock.Fits := t.clockAt_zero ▸ t.fits_clockAt 0

/-! ## Leap seconds -/

/-- The instant is in a leap second only at the end of a minute, where a clock has a second 60. -/
def LeapEndsMinute (t : Instant) : Prop := 1000000000 ≤ t.nano → t.second % 60 = 59

instance (t : Instant) : Decidable t.LeapEndsMinute := inferInstanceAs (Decidable (_ → _))

theorem Regular.leapEndsMinute {t : Instant} (h : t.Regular) : t.LeapEndsMinute :=
  fun hleap => absurd h (Nat.not_lt.2 hleap)

/-- The instant without a leap second but at the end of a minute: any other is carried into the
second after it. -/
def carried (t : Instant) : Instant :=
  if h : t.LeapEndsMinute then t
  else
    { second := t.second + 1
      nano := t.nano - 1000000000
      first_le := Int.le_trans t.first_le (by omega)
      le_last := by
        have hlast := t.le_last
        unfold LeapEndsMinute at h
        unfold lastSecond at hlast ⊢
        omega
      nano_lt := Nat.lt_of_le_of_lt (Nat.sub_le ..) t.nano_lt }

theorem leapEndsMinute_carried (t : Instant) : t.carried.LeapEndsMinute := by
  unfold carried
  split
  · assumption
  · have hnano := t.nano_lt
    exact Regular.leapEndsMinute (show t.nano - 1000000000 < 1000000000 by omega)

theorem carried_eq_self (t : Instant) : t.carried = t ↔ t.LeapEndsMinute :=
  ⟨fun h => h ▸ t.leapEndsMinute_carried, fun h => dif_pos h⟩

theorem carried_carried (t : Instant) : t.carried.carried = t.carried :=
  t.carried.carried_eq_self.2 t.leapEndsMinute_carried

/-- Carrying a leap second makes no difference to a clock. -/
theorem clockAt_carried (t : Instant) (offset : Int) :
    t.carried.clockAt offset = t.clockAt offset := by
  have hnano := t.nano_lt
  unfold carried
  split
  · rfl
  · next h =>
    obtain ⟨hleap, hsecond⟩ := Classical.not_imp.1 h
    have hday : (t.second + 1 + offset * 60) / 86400 = (t.second + offset * 60) / 86400 := by omega
    unfold clockAt
    simp only [hday, if_pos hleap]
    rw [if_neg (by omega), if_neg (by omega)]
    congr 1 <;> omega

/-! ## The instant of a clock -/

/-- A clock in a leap second shows second 60, and the second that is counted is the one before. -/
theorem ofClock?_of_inRange (c : Clock) (offset : Int) (h : c.InRange) :
    ofClock? c offset = of? (dayOfDate c.date * 86400 + (c.hour * 3600 + c.minute * 60
      + (if c.second = 60 then 59 else c.second) : Nat) - offset * 60)
      (if c.second = 60 then c.nano + 1000000000 else c.nano) := by
  obtain ⟨hdate, hhour, hminute, hsecond, hnano⟩ := h
  unfold ofClock?
  simp only [hdate, hhour, hminute, hsecond, hnano, decide_true, Bool.and_self, if_true]

theorem inRange_of_ofClock? (c : Clock) (offset : Int) (t : Instant)
    (h : ofClock? c offset = some t) : c.InRange := by
  unfold ofClock? at h
  split at h
  · next hrange =>
    simp only [Bool.and_eq_true, decide_eq_true_eq] at hrange
    obtain ⟨⟨⟨⟨hdate, hhour⟩, hminute⟩, hsecond⟩, hnano⟩ := hrange
    exact ⟨hdate, hhour, hminute, hsecond, hnano⟩
  · cases h

/-- What is read off a clock is the instant that it is the clock of. -/
theorem ofClock?_eq_some (c : Clock) (offset : Int) (t : Instant) :
    ofClock? c offset = some t ↔ t.LeapEndsMinute ∧ t.clockAt offset = c := by
  have hnano := t.nano_lt
  constructor
  · intro h
    have hrange := inRange_of_ofClock? c offset t h
    rw [ofClock?_of_inRange c offset hrange] at h
    obtain ⟨hsecond, hn⟩ := of?_eq_some _ _ t h
    obtain ⟨hdate, hhour, hminute, hsecond60, hnano9⟩ := hrange
    obtain ⟨date, hour, minute, second, nano⟩ := c
    simp only at *
    have hday : (t.second + offset * 60) / 86400 = dayOfDate date := by split at hsecond <;> omega
    unfold clockAt
    simp only
    rw [hday, dateOfDay_dayOfDate date hdate]
    by_cases h60 : second = 60
    · rw [if_pos h60] at hsecond hn
      refine ⟨fun _ => by omega, ?_⟩
      congr 1
      · omega
      · omega
      · rw [if_pos (by omega)]
        omega
      · rw [if_pos (by omega)]
        omega
    · rw [if_neg h60] at hsecond hn
      refine ⟨Regular.leapEndsMinute (show t.nano < 1000000000 by omega), ?_⟩
      congr 1
      · omega
      · omega
      · rw [if_neg (by omega)]
        omega
      · rw [if_neg (by omega)]
        omega
  · rintro ⟨hleap, rfl⟩
    rw [ofClock?_of_inRange _ _ (inRange_clockAt t offset)]
    unfold clockAt
    simp only
    rw [dayOfDate_dateOfDay]
    by_cases h : 1000000000 ≤ t.nano
    · have hminute := hleap h
      simp only [if_pos h]
      rw [if_pos (by omega), if_pos (by omega), ← t.of?_self]
      congr 1 <;> omega
    · simp only [if_neg h]
      rw [if_neg (by omega), if_neg (by omega), ← t.of?_self]
      congr 1
      omega

theorem ofClock?_clockAt (t : Instant) (offset : Int) :
    ofClock? (t.clockAt offset) offset = some t.carried :=
  (ofClock?_eq_some ..).2 ⟨t.leapEndsMinute_carried, t.clockAt_carried offset⟩

/-- A clock shows two instants alike if they are one but for where a leap second is. -/
theorem clock_eq_iff (t u : Instant) : t.clock = u.clock ↔ t.carried = u.carried := by
  rw [← t.clockAt_zero, ← u.clockAt_zero]
  constructor
  · intro h
    have hread := congrArg (ofClock? · 0) h
    simp only [ofClock?_clockAt] at hread
    exact Option.some.inj hread
  · intro h
    rw [← t.clockAt_carried, h, u.clockAt_carried]

end Instant

end Federation.Time
