import Federation.Proofs.Text.Decimal
import Federation.Proofs.Time.Clock

/-!
# Written timestamps

What RFC 3339 says: a text shows a clock and how far that clock is ahead of universal time. A text
is read as an instant exactly if, without the blanks around it, it shows the instant's clock at some
offset, however it spells the rest. A leap second is read at the end of a minute only.

    parse? s = some t  ↔  t.LeapEndsMinute ∧
      ∃ offset, Shows (trim s.toList) (t.clockAt offset) offset
-/

namespace Federation.Time

open Federation.Text

namespace Instant

/-! ## Fractions -/

/-- A fraction of a second is left out, or it is a point and digits of which the first nine count. -/
inductive Fraction : List Char → Nat → Prop
  | none : Fraction [] 0
  | digits (ds : List Char) : ds ≠ [] → (∀ c ∈ ds, Decimal.isDigit c = true) →
    Fraction ('.' :: ds)
      (Decimal.readFrom 0 (ds.take 9) * 10 ^ (9 - (ds.take 9).length))

/-- What follows a fraction goes on with neither a point nor a digit. -/
def EndsFraction (s : List Char) : Prop :=
  ∀ c ∈ s.head?, c ≠ '.' ∧ Decimal.isDigit c = false

theorem fraction?_append (f : List Char) (n : Nat) (rest : List Char) (hf : Fraction f n)
    (hrest : EndsFraction rest) : fraction? (f ++ rest) = some (n, rest) := by
  cases hf with
  | none =>
    cases rest with
    | nil => rfl
    | cons c rest =>
      rw [List.nil_append, fraction?.eq_2]
      intro s hs
      exact (hrest c rfl).1 (List.cons.inj hs).1
  | digits ds hne hds =>
    have htake : rest.takeWhile Decimal.isDigit = [] ∧ rest.dropWhile Decimal.isDigit = rest := by
      cases rest with
      | nil => exact ⟨rfl, rfl⟩
      | cons c rest => simp [(hrest c rfl).2]
    rw [List.cons_append, fraction?]
    simp only [List.takeWhile_append_of_pos hds, List.dropWhile_append_of_pos hds, htake,
      List.append_nil, List.isEmpty_iff]
    rw [if_neg hne]

theorem exists_fraction (s : List Char) (n : Nat) (rest : List Char)
    (h : fraction? s = some (n, rest)) : ∃ f, Fraction f n ∧ s = f ++ rest := by
  unfold fraction? at h
  split at h
  · next s =>
    simp only [List.isEmpty_iff] at h
    split at h
    · cases h
    · next hne =>
      cases h
      refine ⟨_, .digits _ hne fun c hc => List.all_eq_true.1 List.all_takeWhile c hc, ?_⟩
      rw [List.cons_append, List.takeWhile_append_dropWhile]
  · cases h
    exact ⟨[], .none, rfl⟩

/-! ## Offsets -/

/-- An offset is `Z`, or a sign, hours and minutes; a minus sign is as good as a hyphen. -/
inductive Zone : List Char → Int → Prop
  | universal (c : Char) : c = 'Z' ∨ c = 'z' → Zone [c] 0
  | ahead (h m : Nat) : h ≤ 23 → m ≤ 59 →
    Zone ('+' :: (Decimal.fixed 2 h ++ ':' :: Decimal.fixed 2 m)) (h * 60 + m)
  | behind (c : Char) (h m : Nat) : c = '-' ∨ c = Char.ofNat 0x2212 → h ≤ 23 → m ≤ 59 →
    Zone (c :: (Decimal.fixed 2 h ++ ':' :: Decimal.fixed 2 m)) (-(h * 60 + m))

theorem Zone.endsFraction {s : List Char} {offset : Int} (h : Zone s offset) : EndsFraction s := by
  rintro c hc
  cases h with
  | universal d hd =>
    cases hc
    rcases hd with rfl | rfl <;> decide
  | ahead => cases hc; decide
  | behind d _ _ hd =>
    cases hc
    rcases hd with rfl | rfl <;> decide

theorem skip?_eq_some (c : Char) (s rest : List Char) :
    skip? c s = some rest ↔ s = c :: rest := by
  unfold skip?
  split
  · next d s =>
    by_cases h : d = c <;> simp [h]
  · simp

theorem skip?_cons (c : Char) (s : List Char) : skip? c (c :: s) = some s :=
  (skip?_eq_some ..).2 rfl

theorem offset?_of_zone (s : List Char) (offset : Int) (h : Zone s offset) :
    offset? s = some (offset, []) := by
  have hsigned (c : Char) (h m : Nat) (hz : ¬ (c = 'Z' ∨ c = 'z'))
      (hsign : c = '+' ∨ c = '-' ∨ c = Char.ofNat 0x2212) (hh : h ≤ 23) (hm : m ≤ 59) :
      offset? (c :: (Decimal.fixed 2 h ++ ':' :: Decimal.fixed 2 m))
        = some (if c = '+' then (h * 60 + m : Int) else -(h * 60 + m : Int), []) := by
    rw [offset?, if_neg hz, if_pos hsign]
    refine Option.bind_eq_some_iff.2 ⟨_, (Decimal.take?_eq_some ..).2 ⟨by omega, rfl⟩, ?_⟩
    refine Option.bind_eq_some_iff.2 ⟨_, skip?_cons .., ?_⟩
    refine Option.bind_eq_some_iff.2
      ⟨(m, []), (Decimal.take?_eq_some ..).2 ⟨by omega, (List.append_nil _).symm⟩, ?_⟩
    exact if_pos ⟨hh, hm⟩
  cases h with
  | universal c hc => rw [offset?, if_pos hc]
  | ahead h m hh hm => exact hsigned '+' h m (by decide) (by decide) hh hm
  | behind c h m hc hh hm =>
    have hplus : c ≠ '+' := by rcases hc with rfl | rfl <;> decide
    rw [hsigned c h m (by rcases hc with rfl | rfl <;> decide) (Or.inr hc) hh hm, if_neg hplus]

theorem zone_of_offset? (s : List Char) (offset : Int) (h : offset? s = some (offset, [])) :
    Zone s offset := by
  cases s with
  | nil => cases h
  | cons c s =>
    rw [offset?] at h
    by_cases hz : c = 'Z' ∨ c = 'z'
    · rw [if_pos hz] at h
      cases h
      exact .universal c hz
    · by_cases hsign : c = '+' ∨ c = '-' ∨ c = Char.ofNat 0x2212
      · rw [if_neg hz, if_pos hsign] at h
        obtain ⟨⟨hours, s₁⟩, hhours, h⟩ := Option.bind_eq_some_iff.1 h
        obtain ⟨s₂, hcolon, h⟩ := Option.bind_eq_some_iff.1 h
        obtain ⟨⟨minutes, s₃⟩, hminutes, h⟩ := Option.bind_eq_some_iff.1 h
        simp only at h
        by_cases hrange : hours ≤ 23 ∧ minutes ≤ 59
        · rw [if_pos hrange] at h
          obtain ⟨hoffset, hrest⟩ := Prod.mk.inj (Option.some.inj h)
          rw [Decimal.take?_eq_some] at hhours hminutes
          rw [skip?_eq_some] at hcolon
          rw [hhours.2, hcolon, hminutes.2, hrest, List.append_nil, ← hoffset]
          by_cases hplus : c = '+'
          · rw [if_pos hplus, hplus]
            exact .ahead hours minutes hrange.1 hrange.2
          · rw [if_neg hplus]
            exact .behind c hours minutes (hsign.resolve_left hplus) hrange.1 hrange.2
        · rw [if_neg hrange] at h
          cases h
      · rw [if_neg hz, if_neg hsign] at h
        cases h

/-! ## Whole texts -/

def dateText (d : Date) : List Char :=
  yearText d.year ++ '-' :: (Decimal.fixed 2 d.month ++ '-' :: Decimal.fixed 2 d.day)

def hourText (c : Clock) : List Char :=
  Decimal.fixed 2 c.hour ++ ':' :: (Decimal.fixed 2 c.minute ++ ':' :: Decimal.fixed 2 c.second)

/-- The text shows a clock that is `offset` minutes ahead of universal time: a date with a year of
four digits, a time of day, and the offset. -/
def Shows (s : List Char) (c : Clock) (offset : Int) : Prop :=
  ∃ (separator : Char) (fraction zone : List Char),
    (0 ≤ c.date.year ∧ c.date.year ≤ 9999) ∧
    (separator = 'T' ∨ separator = 't' ∨ separator = ' ') ∧
    Fraction fraction c.nano ∧ Zone zone offset ∧
    s = dateText c.date ++ separator :: (hourText c ++ (fraction ++ zone))

/-- A text that shows a clock is read as the instant of the clock. -/
theorem parseChars?_of_shows (s : List Char) (c : Clock) (offset : Int) (t : Instant) (hc : c.Fits)
    (h : Shows s c offset) (ht : ofClock? c offset = some t) : parseChars? s = some t := by
  obtain ⟨hmonth, hday, hhour, hminute, hsecond, hnano⟩ := hc
  obtain ⟨separator, fraction, zone, hyear, hseparator, hfraction, hzone, rfl⟩ := h
  have hnat : c.date.year.toNat < 10 ^ 4 := by omega
  unfold dateText hourText yearText
  rw [if_pos hyear]
  simp only [List.append_assoc, List.cons_append]
  -- field by field, each with the character after it
  refine Option.bind_eq_some_iff.2 ⟨_, (Decimal.take?_eq_some ..).2 ⟨hnat, rfl⟩, ?_⟩
  refine Option.bind_eq_some_iff.2 ⟨_, skip?_cons .., ?_⟩
  refine Option.bind_eq_some_iff.2 ⟨_, (Decimal.take?_eq_some ..).2 ⟨hmonth, rfl⟩, ?_⟩
  refine Option.bind_eq_some_iff.2 ⟨_, skip?_cons .., ?_⟩
  refine Option.bind_eq_some_iff.2 ⟨_, (Decimal.take?_eq_some ..).2 ⟨hday, rfl⟩, ?_⟩
  simp only
  rw [if_pos hseparator]
  refine Option.bind_eq_some_iff.2 ⟨_, rfl, ?_⟩
  refine Option.bind_eq_some_iff.2 ⟨_, (Decimal.take?_eq_some ..).2 ⟨hhour, rfl⟩, ?_⟩
  refine Option.bind_eq_some_iff.2 ⟨_, skip?_cons .., ?_⟩
  refine Option.bind_eq_some_iff.2 ⟨_, (Decimal.take?_eq_some ..).2 ⟨hminute, rfl⟩, ?_⟩
  refine Option.bind_eq_some_iff.2 ⟨_, skip?_cons .., ?_⟩
  refine Option.bind_eq_some_iff.2 ⟨_, (Decimal.take?_eq_some ..).2 ⟨hsecond, rfl⟩, ?_⟩
  refine Option.bind_eq_some_iff.2
    ⟨_, fraction?_append _ _ _ hfraction hzone.endsFraction, ?_⟩
  refine Option.bind_eq_some_iff.2 ⟨_, offset?_of_zone zone offset hzone, ?_⟩
  show ofClock? _ _ = _
  rw [Int.toNat_of_nonneg hyear.1]
  exact ht

/-- And a text that is read as an instant shows a clock of it. -/
theorem exists_shows (s : List Char) (t : Instant) (h : parseChars? s = some t) :
    ∃ c offset, Shows s c offset ∧ ofClock? c offset = some t := by
  obtain ⟨⟨year, s₁⟩, hyear, h⟩ := Option.bind_eq_some_iff.1 h
  obtain ⟨s₂, hdash, h⟩ := Option.bind_eq_some_iff.1 h
  obtain ⟨⟨month, s₃⟩, hmonth, h⟩ := Option.bind_eq_some_iff.1 h
  obtain ⟨s₄, hdash', h⟩ := Option.bind_eq_some_iff.1 h
  obtain ⟨⟨day, s₅⟩, hday, h⟩ := Option.bind_eq_some_iff.1 h
  cases s₅ with
  | nil => cases h
  | cons separator s₅ =>
    by_cases hseparator : separator = 'T' ∨ separator = 't' ∨ separator = ' '
    · simp only [if_pos hseparator] at h
      obtain ⟨_, hs₅, h⟩ := Option.bind_eq_some_iff.1 h
      obtain ⟨⟨hour, s₆⟩, hhour, h⟩ := Option.bind_eq_some_iff.1 h
      obtain ⟨s₇, hcolon, h⟩ := Option.bind_eq_some_iff.1 h
      obtain ⟨⟨minute, s₈⟩, hminute, h⟩ := Option.bind_eq_some_iff.1 h
      obtain ⟨s₉, hcolon', h⟩ := Option.bind_eq_some_iff.1 h
      obtain ⟨⟨second, s₁₀⟩, hsecond, h⟩ := Option.bind_eq_some_iff.1 h
      obtain ⟨⟨nano, s₁₁⟩, hnano, h⟩ := Option.bind_eq_some_iff.1 h
      obtain ⟨⟨offset, s₁₂⟩, hoffset, h⟩ := Option.bind_eq_some_iff.1 h
      cases s₁₂ with
      | cons => cases h
      | nil =>
        simp only at hcolon hcolon' hnano hoffset
        rw [← Option.some.inj hs₅] at hhour
        rw [Decimal.take?_eq_some] at hyear hmonth hday hhour hminute hsecond
        rw [skip?_eq_some] at hdash hdash' hcolon hcolon'
        obtain ⟨fraction, hfraction, hrest⟩ := exists_fraction _ _ _ hnano
        have hdigits : 0 ≤ (year : Int) ∧ (year : Int) ≤ 9999 := by omega
        refine ⟨_, offset, ⟨separator, fraction, s₁₁, hdigits, hseparator, hfraction,
          zone_of_offset? _ _ hoffset, ?_⟩, h⟩
        unfold dateText hourText yearText
        rw [if_pos hdigits, hyear.2, hdash, hmonth.2, hdash', hday.2, hhour.2, hcolon, hminute.2,
          hcolon', hsecond.2, hrest]
        simp only [Int.toNat_natCast, List.append_assoc, List.cons_append]
    · simp only [if_neg hseparator] at h
      cases h

/-- **What is read is what is shown.** A text is read as an instant exactly if, between blanks, it
shows the instant's clock at some offset, and a leap second that the instant is in ends a minute. -/
theorem parse?_iff_shows (s : String) (t : Instant) :
    parse? s = some t ↔ t.LeapEndsMinute ∧
      ∃ offset, Shows (trim s.toList) (t.clockAt offset) offset := by
  constructor
  · intro h
    obtain ⟨c, offset, hshows, ht⟩ := exists_shows _ t h
    obtain ⟨hleap, rfl⟩ := (ofClock?_eq_some c offset t).1 ht
    exact ⟨hleap, offset, hshows⟩
  · rintro ⟨hleap, offset, hshows⟩
    exact parseChars?_of_shows _ _ offset t (t.fits_clockAt offset) hshows
      ((ofClock?_eq_some _ offset t).2 ⟨hleap, rfl⟩)

end Instant

end Federation.Time
