import Federation.Proofs.Time.Format
import Federation.Saml.Decode

/-!
# Timestamps

A timestamp of a message is read as the one instant whose clock it shows, at whatever offset, and an
instant of the years 0 to 9999 is read back from the text it is written as, leap seconds at the end
of a minute and all. No two such instants are written alike, in these years or beyond them.

    readInstant s = ok t  ↔  t.LeapEndsMinute ∧ s shows the clock of t at some offset
    readInstant t.format = ok t  ↔  t.FourDigit ∧ t.LeapEndsMinute

An instant can be made that has a leap second elsewhere. It shares its text with the second after
(`misplaced_leap_second_lost`).
-/

namespace Federation.Saml

open Federation.Text Federation.Time
open Federation.Time.Instant (Shows)

theorem readInstant_eq_ok (s : String) (t : Instant) :
    readInstant s = .ok t ↔ Instant.parse? s = some t := by
  unfold readInstant
  cases Instant.parse? s <;> simp

/-- A clock has leap seconds at the ends of minutes only. -/
theorem leapEndsMinute_of_read (s : String) (t : Instant) (h : readInstant s = .ok t) :
    t.LeapEndsMinute :=
  ((Instant.parse?_iff_shows s t).1 ((readInstant_eq_ok s t).1 h)).1

/-- **Timestamps keep their value.** An instant reads back from its text if it lies in the years 0
to 9999 and a leap second that it is in ends a minute, and not otherwise. No two instants whose leap
seconds end minutes have one text. A text that shows the clock of such an instant at some offset,
and no other text, is read as that instant; written anew in universal time it is read as the same
instant, as long as that falls in those years. -/
theorem timestamps_kept (t : Instant) :
    (readInstant t.format = .ok t ↔ t.FourDigit ∧ t.LeapEndsMinute) ∧
    (∀ u : Instant, t.LeapEndsMinute → u.LeapEndsMinute → u.format = t.format → u = t) ∧
    ∀ s, (readInstant s = .ok t ↔ t.LeapEndsMinute ∧
        ∃ offset, Shows (trim s.toList) (t.clockAt offset) offset) ∧
      (readInstant s = .ok t → t.FourDigit → readInstant t.format = .ok t) := by
  have hformat : readInstant t.format = .ok t ↔ t.FourDigit ∧ t.LeapEndsMinute :=
    (readInstant_eq_ok ..).trans t.parse?_format_eq_self
  have hread (s : String) : readInstant s = .ok t ↔ t.LeapEndsMinute ∧
      ∃ offset, Shows (trim s.toList) (t.clockAt offset) offset :=
    (readInstant_eq_ok s t).trans (Instant.parse?_iff_shows s t)
  refine ⟨hformat, fun u ht hu => u.format_inj t hu ht, fun s => ⟨hread s, fun hs hyear => ?_⟩⟩
  exact hformat.2 ⟨hyear, ((hread s).1 hs).1⟩

/-- A nanosecond into the leap second at the end of 2016. -/
def sampleLeapSecond : Instant := { second := 1483228799, nano := 1000000001 }

/-- The leap second as a clock five and a half hours ahead shows it. -/
theorem timestamps_kept_sample :
    readInstant " 2017-01-01t05:29:60.0000000019+05:30\n" = .ok sampleLeapSecond ∧
    sampleLeapSecond.FourDigit ∧ sampleLeapSecond.LeapEndsMinute ∧
    sampleLeapSecond.format = "2016-12-31T23:59:60.000000001Z" ∧
    readInstant sampleLeapSecond.format = .ok sampleLeapSecond ∧
    (∀ u : Instant, u.LeapEndsMinute → u.format = "2016-12-31T23:59:60.000000001Z" →
      u = sampleLeapSecond) ∧
    ∃ offset, Shows "2017-01-01t05:29:60.0000000019+05:30".toList
      (sampleLeapSecond.clockAt offset) offset := by
  have hread : readInstant " 2017-01-01t05:29:60.0000000019+05:30\n" = .ok sampleLeapSecond :=
    (readInstant_eq_ok _ _).2 (by decide +kernel)
  obtain ⟨-, hinj, htexts⟩ := timestamps_kept sampleLeapSecond
  obtain ⟨hshows, hagain⟩ := htexts " 2017-01-01t05:29:60.0000000019+05:30\n"
  obtain ⟨hleap, hshown⟩ := hshows.1 hread
  have hformat : sampleLeapSecond.format = "2016-12-31T23:59:60.000000001Z" := by decide
  exact ⟨hread, by decide, hleap, hformat, hagain hread (by decide),
    fun u hu hsame => hinj u hleap hu (hsame.trans hformat.symm), hshown⟩

/-- Half a second into a leap second that is put after 12:00:30. -/
def misplacedLeapSecond : Instant := { second := 1714564830, nano := 1000000000 + 500000000 }

/-- Half a second after 12:00:31 of the same day. -/
def secondAfter : Instant := { second := 1714564831, nano := 500000000 }

/-- A leap second within a minute is written as the second after it, and read back as that one. -/
theorem misplaced_leap_second_lost :
    misplacedLeapSecond.FourDigit ∧ misplacedLeapSecond ≠ secondAfter ∧
    misplacedLeapSecond.format = secondAfter.format ∧
    readInstant misplacedLeapSecond.format = .ok secondAfter :=
  ⟨by decide, by decide, by decide, (readInstant_eq_ok _ _).2 (by decide +kernel)⟩

end Federation.Saml
