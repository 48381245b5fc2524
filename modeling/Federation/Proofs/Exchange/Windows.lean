import Federation.Exchange.RelyingParty
import Federation.Proofs.Exchange.Replay

/-!
# Windows and expiries to the nanosecond

Instants have two ends and durations have two ends, but a widened window and the expiry that an
accepted assertion is recorded with are those of unbounded integers: a sum beyond an end opens the
window on that side or is cut to that end, and a configured number of seconds that no duration holds
acts as the number itself.

    window.contains now skew = true ↔ start - |skew| ≤ now < stop + |skew|
    expiry = cut (max (stop + |skew|) (now + retention))               (window_and_expiry_exact)

- `Allowance` is a span as it is set, with the number that is meant (`nanos`) and the duration that
  it comes to (`duration`). They differ only where no duration is long enough, and the longest one
  leads out of the range of instants already (`within_longest`).
- `contains_allowance_iff` is the window, and `deadline_allowing` the expiry.
-/

namespace Federation.Time

namespace Duration

/-- The duration lies between the two ends. -/
def Bounded (d : Duration) : Prop := shortest ≤ d ∧ d ≤ longest

instance (d : Duration) : Decidable d.Bounded := inferInstanceAs (Decidable (_ ∧ _))

theorem bounded_iff (d : Duration) :
    d.Bounded ↔ -longest.nanos ≤ d.nanos ∧ d.nanos ≤ longest.nanos := by
  have h : shortest.nanos = -longest.nanos := by decide
  show shortest.nanos ≤ d.nanos ∧ d.nanos ≤ longest.nanos ↔ _
  rw [h]

/-- The shortest duration is the opposite of the longest one, so sizes and opposites stay between
the ends. -/
theorem Bounded.abs {d : Duration} (h : d.Bounded) : d.abs.Bounded := by
  rw [bounded_iff] at *
  show -longest.nanos ≤ (d.nanos.natAbs : Int) ∧ (d.nanos.natAbs : Int) ≤ longest.nanos
  omega

theorem Bounded.neg {d : Duration} (h : d.Bounded) : d.neg.Bounded := by
  rw [bounded_iff] at *
  show -longest.nanos ≤ -d.nanos ∧ -d.nanos ≤ longest.nanos
  omega

/-- A number of seconds is kept, or it is longer than every duration and becomes the longest. -/
theorem capped_cases (n : Nat) :
    (ofSecondsCapped n).nanos = n * 1000000000 ∧ (n : Int) * 1000000000 ≤ longest.nanos ∨
      ofSecondsCapped n = longest ∧ longest.nanos < n * 1000000000 := by
  have hlongest : longest.nanos = (2 ^ 63 - 1) * 1000000 := by decide
  unfold ofSecondsCapped
  split
  · next h => exact Or.inl ⟨rfl, by omega⟩
  · next h => exact Or.inr ⟨rfl, by omega⟩

theorem bounded_ofSecondsCapped (n : Nat) : (ofSecondsCapped n).Bounded := by
  rw [bounded_iff]
  have hpositive : 0 ≤ longest.nanos := by decide
  rcases capped_cases n with ⟨h, hle⟩ | ⟨h, -⟩
  · omega
  · rw [h]
    omega

end Duration

/-! ## Spans as they are set -/

/-- A span of time that is set as a duration, or as a number of seconds in a configuration. -/
inductive Allowance
  | span (d : Duration) (bounded : d.Bounded)
  | seconds (n : Nat)

namespace Allowance

/-- The duration that is worked with. -/
def duration : Allowance → Duration
  | span d _ => d
  | seconds n => .ofSecondsCapped n

/-- The nanoseconds that are meant. -/
def nanos : Allowance → Int
  | span d _ => d.nanos
  | seconds n => n * 1000000000

theorem bounded_duration (a : Allowance) : a.duration.Bounded := by
  cases a with
  | span d h => exact h
  | seconds n => exact Duration.bounded_ofSecondsCapped n

/-- What is worked with is what is meant, unless that is longer than every duration. -/
theorem nanos_cases (a : Allowance) :
    a.duration.nanos = a.nanos ∨
      a.duration.nanos = Duration.longest.nanos ∧ Duration.longest.nanos < a.nanos := by
  cases a with
  | span d h => exact Or.inl rfl
  | seconds n =>
    rcases Duration.capped_cases n with ⟨h, -⟩ | ⟨h, hlong⟩
    · exact Or.inl h
    · exact Or.inr ⟨congrArg (·.nanos) h, hlong⟩

end Allowance

namespace Instant

/-- The longest duration leads out of the range of instants wherever it starts. -/
theorem within_longest : latest.nanos < earliest.nanos + Duration.longest.nanos := by
  decide

theorem cut_max (m n : Int) : cut (max m n) = max (cut m) (cut n) := by
  unfold cut
  omega

/-- To the end of the range it makes no difference how far a sum lies beyond it. -/
theorem cut_add_allowance (t : Instant) (ht : t.Regular) (a : Allowance) :
    cut (t.nanos + a.duration.nanos) = cut (t.nanos + a.nanos) := by
  have hlong := within_longest
  obtain ⟨hlo, hhi⟩ := t.nanos_range ht
  unfold cut
  rcases a.nanos_cases with h | ⟨h, hbeyond⟩
  · rw [h]
  · rw [h]
    omega

end Instant

end Federation.Time

namespace Federation.Saml.Validity

open Federation.Time

/-! ## Widened windows -/

/-- The start moved back: where that leaves the range, every instant lies after it. -/
theorem started_iff (start now : Instant) (hs : start.Regular) (hn : now.Regular) (d : Duration) :
    (match start.sub? d.abs with
      | some t => decide (t ≤ now)
      | none => true) = true ↔ start.nanos - d.nanos.natAbs ≤ now.nanos := by
  obtain ⟨hlo, -⟩ := now.nanos_range hn
  obtain ⟨-, hhi⟩ := start.nanos_range hs
  have hsum : start.sub? d.abs = Instant.ofNanos? (start.nanos + -(d.nanos.natAbs : Int)) :=
    start.add?_of_regular d.abs.neg hs
  rw [hsum]
  split
  · next t ht =>
    obtain ⟨hregular, hnanos⟩ := Instant.ofNanos?_eq_some _ t ht
    rw [decide_eq_true_iff, ← Instant.not_lt, Instant.lt_iff_nanos now t hn hregular]
    omega
  · next hnone =>
    have hout := Instant.ofNanos?_eq_none _ hnone
    exact iff_of_true rfl (by omega)

/-- The end moved on: where that leaves the range, every instant lies before it. -/
theorem open_iff (stop now : Instant) (hs : stop.Regular) (hn : now.Regular) (d : Duration) :
    (match stop.add? d.abs with
      | some t => decide (now < t)
      | none => true) = true ↔ now.nanos < stop.nanos + d.nanos.natAbs := by
  obtain ⟨-, hhi⟩ := now.nanos_range hn
  obtain ⟨hlo, -⟩ := stop.nanos_range hs
  have hsum : stop.add? d.abs = Instant.ofNanos? (stop.nanos + (d.nanos.natAbs : Int)) :=
    stop.add?_of_regular d.abs hs
  rw [hsum]
  split
  · next t ht =>
    obtain ⟨hregular, hnanos⟩ := Instant.ofNanos?_eq_some _ t ht
    rw [decide_eq_true_iff, Instant.lt_iff_nanos now t hn hregular]
    omega
  · next hnone =>
    have hout := Instant.ofNanos?_eq_none _ hnone
    exact iff_of_true rfl (by omega)

theorem contains_iff (v : Validity) (hstart : v.notBefore.Regular) (hstop : v.notOnOrAfter.Regular)
    (now : Instant) (hn : now.Regular) (d : Duration) :
    v.contains now d = true ↔ v.notBefore.nanos - d.nanos.natAbs ≤ now.nanos ∧
      now.nanos < v.notOnOrAfter.nanos + d.nanos.natAbs := by
  unfold contains
  rw [Bool.and_eq_true]
  exact and_congr (started_iff _ now hstart hn d) (open_iff _ now hstop hn d)

/-- A span that no duration holds opens the window as far as the range goes, and so would the span
itself. -/
theorem contains_allowance_iff (v : Validity) (hstart : v.notBefore.Regular)
    (hstop : v.notOnOrAfter.Regular) (now : Instant) (hn : now.Regular) (a : Allowance) :
    v.contains now a.duration = true ↔ v.notBefore.nanos - a.nanos.natAbs ≤ now.nanos ∧
      now.nanos < v.notOnOrAfter.nanos + a.nanos.natAbs := by
  rw [v.contains_iff hstart hstop now hn]
  rcases a.nanos_cases with h | ⟨h, hbeyond⟩
  · rw [h]
  · have hlong := Instant.within_longest
    obtain ⟨hlo, hhi⟩ := now.nanos_range hn
    have hstartRange := v.notBefore.nanos_range hstart
    have hstopRange := v.notOnOrAfter.nanos_range hstop
    rw [h]
    constructor <;> intro <;> constructor <;> omega

end Federation.Saml.Validity

namespace Federation.Exchange

open Federation.Saml Federation.Time Federation.Metadata

namespace Validator

/-! ## Expiries -/

/-- The validator with a skew and a retention of its own. -/
def allowing (v : Validator) (skew retention : Allowance) : Validator :=
  (v.withSkew skew.duration).withRetention retention.duration

/-- Settings are numbers of seconds. -/
theorem withSettings_eq (v : Validator) (s : ValidationSettings) :
    v.withSettings s = v.allowing (.seconds s.clockSkew) (.seconds s.replayRetention) := rfl

theorem deadline_allowing (v : Validator) (skew retention : Allowance) (window : Validity)
    (hstop : window.notOnOrAfter.Regular) (now : Instant) (hn : now.Regular) :
    (v.allowing skew retention).deadline window now = Instant.cut
      (max (window.notOnOrAfter.nanos + skew.nanos.natAbs) (now.nanos + retention.nanos)) := by
  have hretention := now.cut_add_allowance hn retention
  have hskew : Instant.cut (window.notOnOrAfter.nanos + (skew.duration.nanos.natAbs : Int))
      = Instant.cut (window.notOnOrAfter.nanos + skew.nanos.natAbs) := by
    have hlong := Instant.within_longest
    have hrange := window.notOnOrAfter.nanos_range hstop
    unfold Instant.cut
    rcases skew.nanos_cases with h | ⟨h, hbeyond⟩
    · rw [h]
    · rw [h]
      omega
  rw [Instant.cut_max, ← hskew, ← hretention]
  rfl

/-- What an accepted assertion is recorded with. -/
theorem recorded_of_validate (v : Validator) (r : Resolver) (s : ReplayStore) (a : Assertion)
    (now wall : Instant) (window : Validity) (hw : a.validity = some window)
    (h : (v.validate r s a now wall).1 = .ok ()) :
    (v.validate r s a now wall).2.entries.lookup a.id = some (v.expiry window now) := by
  unfold validate at h ⊢
  cases hcheck : v.check r a now with
  | error f =>
    rw [hcheck] at h
    cases h
  | ok expiry =>
    rw [hcheck] at h
    obtain ⟨-, window', hw', rfl⟩ := (v.check_eq_ok r a now expiry).1 hcheck
    rw [hw] at hw'
    cases hw'
    simp only [ReplayStore.claim_eq] at h ⊢
    split at h
    · cases h
    · next hseen =>
      rw [if_neg hseen]
      exact List.lookup_cons_self

/-! ## Main result -/

/-- **Times are exact up to the ends of the range.** For a skew and a retention that are set as any
duration or as any number of seconds, a window holds what the widened window of unbounded integers
holds, and holds no less with a larger skew; what an accepted assertion is recorded with is the
later of the two sums of unbounded integers, cut to the range of instants; and no duration on the
way leaves the range of durations. -/
theorem window_and_expiry_exact (v : Validator) (skew retention : Allowance) (window : Validity)
    (hstart : window.notBefore.Regular) (hstop : window.notOnOrAfter.Regular) (now : Instant)
    (hn : now.Regular) :
    (window.contains now skew.duration = true ↔
      window.notBefore.nanos - skew.nanos.natAbs ≤ now.nanos ∧
        now.nanos < window.notOnOrAfter.nanos + skew.nanos.natAbs) ∧
    window.contains now (v.allowing skew retention).skew = window.contains now skew.duration ∧
    (∀ larger : Allowance, skew.nanos.natAbs ≤ larger.nanos.natAbs →
      window.contains now skew.duration = true → window.contains now larger.duration = true) ∧
    (∀ r s a wall, a.validity = some window →
      ((v.allowing skew retention).validate r s a now wall).1 = .ok () →
      ∃ expiry, ((v.allowing skew retention).validate r s a now wall).2.entries.lookup a.id
          = some expiry ∧ expiry.Regular ∧
        expiry.nanos = Instant.cut
          (max (window.notOnOrAfter.nanos + skew.nanos.natAbs) (now.nanos + retention.nanos))) ∧
    skew.duration.abs.Bounded ∧ skew.duration.abs.neg.Bounded ∧ retention.duration.Bounded := by
  have hcontains := window.contains_allowance_iff hstart hstop now hn
  refine ⟨hcontains skew, ?_, ?_, ?_, skew.bounded_duration.abs, skew.bounded_duration.abs.neg,
    retention.bounded_duration⟩
  · show window.contains now skew.duration.abs = _
    unfold Validity.contains
    rw [Duration.abs_abs]
  · intro larger hle hin
    have hin := (hcontains skew).1 hin
    exact (hcontains larger).2 ⟨by omega, by omega⟩
  · intro r s a wall hw hok
    obtain ⟨hregular, hnanos⟩ :=
      (v.allowing skew retention).expiry_regular window now hstop hn
    refine ⟨_, recorded_of_validate _ r s a now wall window hw hok, hregular, ?_⟩
    rw [hnanos, deadline_allowing v skew retention window hstop now hn]

/-- The largest numbers of seconds that 64 bits hold. -/
def sampleSettings : ValidationSettings := ⟨2 ^ 64 - 1, 2 ^ 64 - 1⟩

/-- With them a window of five minutes is open at either end of time, and what is accepted is
remembered to the last instant. -/
theorem window_and_expiry_exact_sample :
    (sampleWindow.contains .earliest (.ofSecondsCapped sampleSettings.clockSkew) = true ∧
      sampleWindow.contains .latest (.ofSecondsCapped sampleSettings.clockSkew) = true) ∧
    ∃ expiry, ((Validator.withSettings { protocol := .saml20 } sampleSettings).validate
        (Arrival.sample 10).resolver {} (Arrival.sample 10).assertion (.sample 10)
        (.sample 10)).2.entries.lookup "_a" = some expiry ∧
      expiry.nanos = Instant.latest.nanos := by
  have exact (now : Instant) (hn : now.Regular) :=
    window_and_expiry_exact { protocol := .saml20 } (.seconds sampleSettings.clockSkew)
      (.seconds sampleSettings.replayRetention) sampleWindow (by decide) (by decide) now hn
  refine ⟨⟨(exact .earliest (by decide)).1.2 (by decide),
    (exact .latest (by decide)).1.2 (by decide)⟩, ?_⟩
  obtain ⟨expiry, hlookup, -, hnanos⟩ := (exact (.sample 10) (by decide)).2.2.2.1
    (Arrival.sample 10).resolver {} (Arrival.sample 10).assertion (.sample 10) rfl rfl
  rw [withSettings_eq]
  exact ⟨expiry, hlookup, hnanos.trans (by decide)⟩

end Validator

end Federation.Exchange
