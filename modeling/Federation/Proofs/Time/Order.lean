import Federation.Time.Instant

/-!
# Order and sums of instants

Instants are ordered as `rank`, one integer for each, orders them; outside leap seconds that is the
order of `nanos`, and sums are those of integers as long as they stay in range.

    a < b ↔ a.rank < b.rank
    t.add? d = ofNanos? (t.nanos + d.nanos)     (t outside leap seconds)

A duration without a sign never leads backwards, in leap seconds either (`le_of_add?`).
-/

namespace Federation.Time

namespace Instant

/-! ## Order -/

/-- Orders all instants, those in leap seconds included. -/
def rank (t : Instant) : Int := t.second * 2000000000 + t.nano

theorem lt_iff_rank (a b : Instant) : a < b ↔ a.rank < b.rank := by
  have ha := a.nano_lt
  have hb := b.nano_lt
  show a.before b = true ↔ _
  simp only [before, rank, Bool.or_eq_true, Bool.and_eq_true, decide_eq_true_eq, beq_iff_eq]
  omega

theorem le_iff_rank (a b : Instant) : a ≤ b ↔ a.rank ≤ b.rank := by
  have h : a ≤ b ↔ ¬ b < a := by
    show b.before a = false ↔ ¬ b.before a = true
    simp
  rw [h, lt_iff_rank]
  omega

theorem lt_of_le_of_lt (a b c : Instant) (h1 : a ≤ b) (h2 : b < c) : a < c := by
  rw [le_iff_rank] at h1
  rw [lt_iff_rank] at *
  omega

theorem lt_of_lt_of_le (a b c : Instant) (h1 : a < b) (h2 : b ≤ c) : a < c := by
  rw [le_iff_rank] at h2
  rw [lt_iff_rank] at *
  omega

theorem lt_trans (a b c : Instant) (h1 : a < b) (h2 : b < c) : a < c := by
  rw [lt_iff_rank] at *
  omega

theorem le_trans (a b c : Instant) (h1 : a ≤ b) (h2 : b ≤ c) : a ≤ c := by
  rw [le_iff_rank] at *
  omega

theorem le_refl (a : Instant) : a ≤ a := (le_iff_rank a a).2 (Int.le_refl _)

theorem earliest_le (a : Instant) : earliest ≤ a := by
  have h := a.first_le
  rw [le_iff_rank]
  show firstSecond * 2000000000 + (0 : Nat) ≤ a.second * 2000000000 + (a.nano : Int)
  omega

theorem not_lt (a b : Instant) : ¬ a < b ↔ b ≤ a := by
  rw [lt_iff_rank, le_iff_rank]
  omega

/-! ## Outside leap seconds -/

/-- The instant lies in no leap second. -/
def Regular (t : Instant) : Prop := t.nano < 1000000000

instance (t : Instant) : Decidable t.Regular := inferInstanceAs (Decidable (_ < _))

theorem lt_iff_nanos (a b : Instant) (ha : a.Regular) (hb : b.Regular) :
    a < b ↔ a.nanos < b.nanos := by
  unfold Regular at ha hb
  rw [lt_iff_rank]
  unfold rank nanos
  omega

theorem regular_earliest : earliest.Regular := by decide

theorem regular_latest : latest.Regular := by decide

/-- A number of nanoseconds, cut to those of the earliest and the latest instant. -/
def cut (n : Int) : Int := max earliest.nanos (min n latest.nanos)

theorem of?_eq_some (second : Int) (nano : Nat) (t : Instant) (h : of? second nano = some t) :
    t.second = second ∧ t.nano = nano := by
  unfold of? at h
  split at h
  · cases h
    exact ⟨rfl, rfl⟩
  · cases h

theorem of?_self (t : Instant) : of? t.second t.nano = some t := by
  unfold of?
  rw [dif_pos ⟨t.first_le, t.le_last, t.nano_lt⟩]

theorem of?_eq_none (second : Int) (nano : Nat) (hn : nano < 1000000000)
    (h : of? second nano = none) : second < firstSecond ∨ lastSecond < second := by
  unfold of? at h
  split at h
  · cases h
  · next hrange =>
    apply Classical.byContradiction
    intro hin
    exact hrange ⟨by omega, by omega, by omega⟩

theorem ofNanos?_eq_some (n : Int) (t : Instant) (h : ofNanos? n = some t) :
    t.Regular ∧ t.nanos = n := by
  obtain ⟨hsecond, hnano⟩ := of?_eq_some _ _ t h
  unfold Regular nanos
  rw [hsecond, hnano]
  omega

theorem ofNanos?_eq_none (n : Int) (h : ofNanos? n = none) :
    n < earliest.nanos ∨ latest.nanos < n := by
  have hout := of?_eq_none _ _ (by omega) h
  have hlo : earliest.nanos = firstSecond * 1000000000 := by decide
  have hhi : latest.nanos = lastSecond * 1000000000 + 999999999 := by decide
  rw [hlo, hhi]
  unfold firstSecond lastSecond at *
  omega

theorem add?_of_regular (t : Instant) (d : Duration) (ht : t.Regular) :
    t.add? d = ofNanos? (t.nanos + d.nanos) := by
  unfold add?
  exact if_pos ht

theorem nanos_range (t : Instant) (ht : t.Regular) :
    earliest.nanos ≤ t.nanos ∧ t.nanos ≤ latest.nanos := by
  have h1 := t.first_le
  have h2 := t.le_last
  have hlo : earliest.nanos = firstSecond * 1000000000 := by decide
  have hhi : latest.nanos = lastSecond * 1000000000 + 999999999 := by decide
  unfold Regular at ht
  rw [hlo, hhi]
  unfold nanos
  omega

/-! ## Widening -/

/-- Adding a duration without a sign never leads back, whether or not the instant is in a leap
second. -/
theorem le_of_add? (t u : Instant) (d : Duration) (h : t.add? d.abs = some u) : t ≤ u := by
  have ht := t.nano_lt
  have hd : 0 ≤ d.abs.nanos := Int.natCast_nonneg _
  rw [le_iff_rank]
  unfold add? at h
  split at h
  · obtain ⟨hu, he⟩ := ofNanos?_eq_some _ u h
    unfold Regular at hu
    unfold nanos at he
    unfold rank
    omega
  · simp only at h
    split at h
    · obtain ⟨hu, he⟩ := ofNanos?_eq_some _ u h
      unfold Regular at hu
      unfold nanos at he
      unfold rank
      omega
    · split at h
      · omega
      · obtain ⟨hs, hn⟩ := of?_eq_some _ _ u h
        unfold rank
        rw [hs, hn]
        omega

theorem ge_of_sub? (t u : Instant) (d : Duration) (h : t.sub? d.abs = some u) : u ≤ t := by
  have ht := t.nano_lt
  have hd : d.abs.neg.nanos ≤ 0 := by
    show -(d.nanos.natAbs : Int) ≤ 0
    omega
  rw [le_iff_rank]
  unfold sub? add? at h
  split at h
  · obtain ⟨hu, he⟩ := ofNanos?_eq_some _ u h
    unfold Regular at hu
    unfold nanos at he
    unfold rank
    omega
  · simp only at h
    split at h
    · omega
    · split at h
      · obtain ⟨hu, he⟩ := ofNanos?_eq_some _ u h
        unfold Regular at hu
        unfold nanos at he
        unfold rank
        omega
      · obtain ⟨hs, hn⟩ := of?_eq_some _ _ u h
        unfold rank
        rw [hs, hn]
        omega

/-! ## Samples -/

/-- A second of the first day of 1970. -/
def sample (second : Nat) : Instant where
  second := (second % 86400 : Nat)
  nano := 0
  first_le := by unfold firstSecond; omega
  le_last := by unfold lastSecond; omega
  nano_lt := earliest.nano_lt

end Instant

/-! ## Signs -/

namespace Duration

theorem abs_abs (d : Duration) : d.abs.abs = d.abs := by
  unfold abs
  rw [Int.natAbs_natCast]

theorem not_abs_neg (d : Duration) : ¬ d.abs < ⟨0⟩ := by
  show ¬ (d.nanos.natAbs : Int) < 0
  omega

end Duration

end Federation.Time
