import Federation.Proofs.Time.Reading

/-!
# Written instants

Instants are written alike if they show alike on a clock. In years 0 to 9999 they read back from
their text, and in no others; a leap second that does not end a minute reads back as the second
after it.

    t.format = u.format  ↔  t.carried = u.carried
    parse? t.format = some u  ↔  t.FourDigit ∧ u = t.carried

Both come from the clock that an instant shows: the instant can be worked out from the clock
(`clock_eq_iff`), and the clock from its fields as they are written (`shows_format`).
-/

namespace Federation.Time

open Federation.Text

/-- A list is cut at the first place where a member of neither front stands. -/
theorem append_cons_inj {α : Type} (c : α) (s t s' t' : List α) (hs : c ∉ s) (hs' : c ∉ s')
    (h : s ++ c :: t = s' ++ c :: t') : s = s' ∧ t = t' := by
  induction s generalizing s' with
  | nil =>
    cases s' with
    | nil => exact ⟨rfl, (List.cons.inj h).2⟩
    | cons d s' =>
      rw [List.nil_append, List.cons_append, List.cons.injEq] at h
      exact absurd (h.1 ▸ List.mem_cons_self) hs'
  | cons d s ih =>
    cases s' with
    | nil =>
      rw [List.nil_append, List.cons_append, List.cons.injEq] at h
      exact absurd (h.1 ▸ List.mem_cons_self) hs
    | cons e s' =>
      rw [List.cons_append, List.cons_append, List.cons.injEq] at h
      obtain ⟨h1, h2⟩ := ih s' (fun h => hs (List.mem_cons_of_mem _ h))
        (fun h => hs' (List.mem_cons_of_mem _ h)) h.2
      exact ⟨by rw [h.1, h1], h2⟩

namespace Instant

/-! ## Fields -/

theorem head?_fixed_ne (n : Nat) (c : Char) (hc : Decimal.isDigit c = false) (s : List Char) :
    Decimal.fixed 4 n ≠ c :: s := by
  intro h
  have hmem : c ∈ Decimal.fixed 4 n := by rw [h]; exact List.mem_cons_self
  rw [Decimal.isDigit_of_mem_fixed 4 n c hmem] at hc
  cases hc

theorem yearText_inj (y y' : Int) (h : yearText y = yearText y') : y = y' := by
  have hsign (y : Int) : Decimal.isDigit (if y < 0 then '-' else '+') = false := by
    split <;> decide
  unfold yearText at h
  by_cases hy : 0 ≤ y ∧ y ≤ 9999
  · by_cases hy' : 0 ≤ y' ∧ y' ≤ 9999
    · rw [if_pos hy, if_pos hy'] at h
      have hnat := Decimal.fixed_inj 4 _ _ (by omega) (by omega) h
      omega
    · rw [if_pos hy, if_neg hy'] at h
      exact absurd h (head?_fixed_ne _ _ (hsign y') _)
  · by_cases hy' : 0 ≤ y' ∧ y' ≤ 9999
    · rw [if_neg hy, if_pos hy'] at h
      exact absurd h.symm (head?_fixed_ne _ _ (hsign y) _)
    · rw [if_neg hy, if_neg hy', List.cons.injEq] at h
      have habs := congrArg (Decimal.readFrom 0) h.2
      rw [Decimal.readFrom_padded, Decimal.readFrom_padded] at habs
      have hneg : y < 0 ↔ y' < 0 := by
        have hhead := h.1
        by_cases h1 : y < 0 <;> by_cases h2 : y' < 0 <;> simp [h1, h2] at hhead ⊢
      omega

theorem not_mem_yearText (y : Int) : 'T' ∉ yearText y := by
  intro h
  unfold yearText at h
  split at h
  · exact absurd (Decimal.isDigit_of_mem_fixed _ _ _ h) (by decide)
  · rcases List.mem_cons.1 h with h | h
    · split at h <;> exact absurd h (by decide)
    · exact absurd (Decimal.isDigit_of_mem_padded _ _ _ h) (by decide)

theorem fraction_fixed (k m : Nat) (hk : 0 < k) (hk9 : k ≤ 9) (hm : m < 10 ^ k) :
    Fraction ('.' :: Decimal.fixed k m) (m * 10 ^ (9 - k)) := by
  have hlength := Decimal.length_fixed k m
  have hne : Decimal.fixed k m ≠ [] := List.ne_nil_of_length_pos (by omega)
  have h := Fraction.digits (Decimal.fixed k m) hne (Decimal.isDigit_of_mem_fixed k m)
  rwa [List.take_of_length_le (by omega), Decimal.readFrom_fixed, hlength,
    Nat.mod_eq_of_lt hm] at h

/-- A fraction is written with the fewest digits that hold it. -/
theorem fraction_fractionText (n : Nat) (h : n < 10 ^ 9) : Fraction (fractionText n) n := by
  unfold fractionText
  by_cases h0 : n = 0
  · rw [if_pos h0, h0]
    exact .none
  rw [if_neg h0]
  by_cases h6 : n % 1000000 = 0
  · rw [if_pos h6]
    have hdigits := fraction_fixed 3 (n / 1000000) (by omega) (by omega) (by omega)
    rwa [show n / 1000000 * 10 ^ (9 - 3) = n by omega] at hdigits
  rw [if_neg h6]
  by_cases h3 : n % 1000 = 0
  · rw [if_pos h3]
    have hdigits := fraction_fixed 6 (n / 1000) (by omega) (by omega) (by omega)
    rwa [show n / 1000 * 10 ^ (9 - 6) = n by omega] at hdigits
  · rw [if_neg h3]
    have hdigits := fraction_fixed 9 n (by omega) (by omega) h
    rwa [show n * 10 ^ (9 - 9) = n by omega] at hdigits

theorem fraction?_fractionText (n : Nat) (h : n < 10 ^ 9) :
    fraction? (fractionText n ++ ['Z']) = some (n, ['Z']) :=
  fraction?_append _ n _ (fraction_fractionText n h) (Zone.universal 'Z' (Or.inl rfl)).endsFraction

/-! ## Date and time of day -/

def timeText (c : Clock) : List Char :=
  Decimal.fixed 2 c.hour ++ ':' :: (Decimal.fixed 2 c.minute ++ ':' ::
    (Decimal.fixed 2 c.second ++ (fractionText c.nano ++ ['Z'])))

theorem fieldText_eq (between : Char) (c : Clock) :
    fieldText between c ++ ['Z'] = dateText c.date ++ between :: timeText c := by
  simp [fieldText, dateText, timeText]

theorem not_mem_dateText (d : Date) : 'T' ∉ dateText d := by
  have hfixed (n : Nat) : 'T' ∉ Decimal.fixed 2 n := fun hmem =>
    absurd (Decimal.isDigit_of_mem_fixed _ _ _ hmem) (by decide)
  unfold dateText
  simp only [List.mem_append, List.mem_cons, not_or]
  exact ⟨not_mem_yearText d.year, by decide, hfixed d.month, by decide, hfixed d.day⟩

theorem dateText_inj (c c' : Clock) (hc : c.Fits) (hc' : c'.Fits)
    (h : dateText c.date = dateText c'.date) : c.date = c'.date := by
  unfold dateText at h
  obtain ⟨hyear, h⟩ := List.append_inj' h (by simp [Decimal.length_fixed])
  obtain ⟨hmonth, h⟩ := List.append_inj (List.cons.inj h).2 (by simp [Decimal.length_fixed])
  exact Date.mk.injEq .. |>.mpr ⟨yearText_inj _ _ hyear,
    Decimal.fixed_inj 2 _ _ hc.month hc'.month hmonth,
    Decimal.fixed_inj 2 _ _ hc.day hc'.day (List.cons.inj h).2⟩

theorem timeText_inj (c c' : Clock) (hc : c.Fits) (hc' : c'.Fits) (hdate : c.date = c'.date)
    (h : timeText c = timeText c') : c = c' := by
  unfold timeText at h
  obtain ⟨hhour, h⟩ := List.append_inj h (by simp [Decimal.length_fixed])
  obtain ⟨hminute, h⟩ := List.append_inj (List.cons.inj h).2 (by simp [Decimal.length_fixed])
  obtain ⟨hsecond, h⟩ := List.append_inj (List.cons.inj h).2 (by simp [Decimal.length_fixed])
  have hnano := congrArg fraction? h
  rw [fraction?_fractionText _ hc.nano, fraction?_fractionText _ hc'.nano, Option.some.injEq,
    Prod.mk.injEq] at hnano
  exact Clock.mk.injEq .. |>.mpr ⟨hdate, Decimal.fixed_inj 2 _ _ hc.hour hc'.hour hhour,
    Decimal.fixed_inj 2 _ _ hc.minute hc'.minute hminute,
    Decimal.fixed_inj 2 _ _ hc.second hc'.second hsecond, hnano.1⟩

/-! ## Main results -/

/-- Instants are written alike exactly if they show alike on a clock. -/
theorem format_eq_iff (t u : Instant) : t.format = u.format ↔ t.carried = u.carried := by
  rw [← clock_eq_iff]
  constructor
  · intro h
    unfold format at h
    have h := congrArg String.toList h
    rw [String.toList_ofList, String.toList_ofList, fieldText_eq, fieldText_eq] at h
    obtain ⟨hdate, htime⟩ :=
      append_cons_inj _ _ _ _ _ (not_mem_dateText _) (not_mem_dateText _) h
    have hdate := dateText_inj _ _ t.fits_clock u.fits_clock hdate
    exact timeText_inj _ _ t.fits_clock u.fits_clock hdate htime
  · intro h
    unfold format
    rw [h]

/-- No two instants whose leap seconds end minutes are written alike. -/
theorem format_inj (t u : Instant) (ht : t.LeapEndsMinute) (hu : u.LeapEndsMinute)
    (h : t.format = u.format) : t = u := by
  rw [← t.carried_eq_self.2 ht, (format_eq_iff t u).1 h, u.carried_eq_self.2 hu]

theorem format_carried (t : Instant) : t.carried.format = t.format :=
  (format_eq_iff ..).2 t.carried_carried

/-- The instant lies in years 0 to 9999, so its year is written with four digits. -/
def FourDigit (t : Instant) : Prop := 0 ≤ t.clock.date.year ∧ t.clock.date.year ≤ 9999

instance (t : Instant) : Decidable t.FourDigit := inferInstanceAs (Decidable (_ ∧ _))

theorem fourDigit_carried (t : Instant) : t.carried.FourDigit ↔ t.FourDigit := by
  unfold FourDigit
  rw [(clock_eq_iff ..).2 t.carried_carried]

/-- The text of an instant shows its clock in universal time. -/
theorem shows_format (t : Instant) (h : t.FourDigit) : Shows t.format.toList (t.clockAt 0) 0 := by
  rw [clockAt_zero]
  refine ⟨'T', fractionText t.clock.nano, ['Z'], h, Or.inl rfl,
    fraction_fractionText _ t.fits_clock.nano, .universal 'Z' (Or.inl rfl), ?_⟩
  unfold format
  rw [String.toList_ofList, fieldText_eq]
  simp [timeText, hourText]

theorem isBlank_of_isDigit (c : Char) (h : Decimal.isDigit c = true) : isBlank c = false := by
  unfold Decimal.isDigit at h
  unfold isBlank
  simp only [Bool.and_eq_true, decide_eq_true_eq] at h
  simp only [Bool.or_eq_false_iff, Bool.and_eq_false_iff, decide_eq_false_iff_not,
    beq_eq_false_iff_ne]
  omega

/-- A text that ends in a character that is not blank keeps its end. -/
theorem trimEnd_concat (s : List Char) (c : Char) (h : isBlank c = false) :
    trimEnd (s ++ [c]) = s ++ [c] := by
  unfold trimEnd
  rw [List.reverse_append, List.reverse_singleton, List.singleton_append, List.dropWhile_cons, h]
  simp

/-- A year is written with a digit in front, or with a sign outside years 0 to 9999. -/
theorem exists_cons_yearText (y : Int) : ∃ c s, yearText y = c :: s ∧ isBlank c = false ∧
    (Decimal.isDigit c = true ↔ 0 ≤ y ∧ y ≤ 9999) := by
  unfold yearText
  by_cases hy : 0 ≤ y ∧ y ≤ 9999
  · have hlength := Decimal.length_fixed 4 y.toNat
    have hdigit := Decimal.isDigit_of_mem_fixed 4 y.toNat
    rw [if_pos hy]
    cases hfixed : Decimal.fixed 4 y.toNat with
    | nil =>
      rw [hfixed] at hlength
      cases hlength
    | cons c s =>
      have hc := hdigit c (by rw [hfixed]; exact List.mem_cons_self)
      exact ⟨c, s, rfl, isBlank_of_isDigit c hc, iff_of_true hc hy⟩
  · rw [if_neg hy]
    refine ⟨_, _, rfl, ?_, iff_of_false ?_ hy⟩
    · split <;> decide
    · split <;> decide

theorem trim_format (t : Instant) : trim t.format.toList = t.format.toList := by
  obtain ⟨c, s, hyear, hblank, -⟩ := exists_cons_yearText t.clock.date.year
  unfold format
  rw [String.toList_ofList]
  unfold trim fieldText
  rw [hyear]
  simp only [List.cons_append]
  rw [trimStart_of_head hblank, ← List.cons_append, trimEnd_concat _ _ (by decide)]

/-- In years 0 to 9999 what is read back is what the clock shows. -/
theorem parse?_format (t : Instant) (h : t.FourDigit) : parse? t.format = some t.carried :=
  (parse?_iff_shows t.format t.carried).2 ⟨t.leapEndsMinute_carried, 0, by
    rw [trim_format, clockAt_carried]
    exact t.shows_format h⟩

/-- No text of an instant begins with a sign, so years beyond four digits are refused. -/
theorem parse?_format_eq_none (t : Instant) (h : ¬ t.FourDigit) : parse? t.format = none := by
  obtain ⟨c, s, hyear, -, hdigit⟩ := exists_cons_yearText t.clock.date.year
  have hsign : Decimal.isDigit c = false := Bool.eq_false_iff.2 fun hc => h (hdigit.1 hc)
  unfold parse?
  rw [trim_format]
  unfold format
  rw [String.toList_ofList, fieldText_eq, dateText, hyear, List.append_assoc, List.cons_append]
  unfold parseChars?
  rw [Decimal.take?_of_not_isDigit 3 c _ hsign]
  rfl

/-- What is read of a written instant, if anything. -/
theorem parse?_format_eq_some (t u : Instant) :
    parse? t.format = some u ↔ t.FourDigit ∧ u = t.carried := by
  by_cases h : t.FourDigit
  · rw [t.parse?_format h, Option.some.injEq]
    exact ⟨fun hu => ⟨h, hu.symm⟩, fun hu => hu.2.symm⟩
  · rw [t.parse?_format_eq_none h]
    exact iff_of_false (by simp) fun hu => h hu.1

/-- The instant reads back from its text as it is: it lies in years 0 to 9999, and a leap second
that it is in ends a minute. -/
def Representable (t : Instant) : Prop := t.FourDigit ∧ t.LeapEndsMinute

instance (t : Instant) : Decidable t.Representable := inferInstanceAs (Decidable (_ ∧ _))

theorem parse?_format_eq_self (t : Instant) : parse? t.format = some t ↔ t.Representable := by
  rw [parse?_format_eq_some, eq_comm, carried_eq_self]
  exact Iff.rfl

end Instant

end Federation.Time
