import Federation.Exchange.Lifecycle
import Federation.Proofs.Result
import Federation.Proofs.Time.Order

/-!
# What the lifecycle checks

`Validator.check` succeeds exactly for an assertion that passes each check, and then answers the
deadline that the assertion's identifier is remembered until.

    v.check r a now = ok e ↔ v.Passes r a now and e is the expiry of a's window   (check_eq_ok)

Outside leap seconds that expiry is a maximum of two sums of integers, each cut to the range of
instants (`expiry_regular`).
-/

namespace Federation.Exchange

open Federation.Saml Federation.Time Federation.Metadata

/-! ## Sums that stay in range -/

theorem addCapped_regular (t : Instant) (d : Duration) (ht : t.Regular) :
    (addCapped t d).Regular ∧ (addCapped t d).nanos = Instant.cut (t.nanos + d.nanos) := by
  obtain ⟨hlo, hhi⟩ := t.nanos_range ht
  unfold addCapped
  rw [Instant.add?_of_regular t d ht]
  cases h : Instant.ofNanos? (t.nanos + d.nanos) with
  | some u =>
    obtain ⟨hu, he⟩ := Instant.ofNanos?_eq_some _ u h
    obtain ⟨hulo, huhi⟩ := u.nanos_range hu
    refine ⟨hu, ?_⟩
    show u.nanos = _
    unfold Instant.cut
    omega
  | none =>
    have hout := Instant.ofNanos?_eq_none _ h
    have hsign : d < ⟨0⟩ ↔ d.nanos < 0 := Iff.rfl
    simp only [Option.getD_none]
    unfold Instant.cut
    by_cases hd : d.nanos < 0
    · rw [if_pos (hsign.2 hd)]
      refine ⟨Instant.regular_earliest, ?_⟩
      omega
    · rw [if_neg (fun h => hd (hsign.1 h))]
      refine ⟨Instant.regular_latest, ?_⟩
      omega

theorem later_regular (t u : Instant) (ht : t.Regular) (hu : u.Regular) :
    (t.later u).Regular ∧ (t.later u).nanos = max t.nanos u.nanos := by
  unfold Instant.later
  split
  · next h =>
    rw [Instant.lt_iff_nanos t u ht hu] at h
    exact ⟨hu, by omega⟩
  · next h =>
    rw [Instant.lt_iff_nanos t u ht hu] at h
    exact ⟨ht, by omega⟩

/-! ## Windows -/

theorem contains_of_within (v : Validity) (now : Instant) (skew : Duration)
    (hstart : v.notBefore ≤ now) (hstop : now < v.notOnOrAfter) : v.contains now skew = true := by
  unfold Validity.contains
  rw [Bool.and_eq_true]
  constructor
  · split
    · next start h =>
      exact decide_eq_true (Instant.le_trans _ _ _ (Instant.ge_of_sub? _ _ _ h) hstart)
    · rfl
  · split
    · next stop h =>
      exact decide_eq_true (Instant.lt_of_lt_of_le _ _ _ hstop (Instant.le_of_add? _ _ _ h))
    · rfl

namespace Validator

/-- Until when the identifier of an assertion with this window is remembered that is accepted at
`now`, in nanoseconds: the end of the window and the skew, or `now` and the retention, whichever sum
is later, each cut to the range of instants. -/
def deadline (v : Validator) (window : Validity) (now : Instant) : Int :=
  max (Instant.cut (window.notOnOrAfter.nanos + v.skew.nanos))
    (Instant.cut (now.nanos + v.retention.nanos))

theorem expiry_regular (v : Validator) (window : Validity) (now : Instant)
    (hw : window.notOnOrAfter.Regular) (hn : now.Regular) :
    (v.expiry window now).Regular ∧ (v.expiry window now).nanos = v.deadline window now := by
  obtain ⟨h1, e1⟩ := addCapped_regular window.notOnOrAfter v.skew hw
  obtain ⟨h2, e2⟩ := addCapped_regular now v.retention hn
  obtain ⟨h3, e3⟩ := later_regular _ _ h1 h2
  refine ⟨h3, ?_⟩
  unfold expiry deadline
  rw [e3, e1, e2]

/-- A time at which a window is open lies before the expiry of whatever was accepted with that
window. -/
theorem lt_expiry_of_contains (v : Validator) (window : Validity) (now later : Instant)
    (skew : Duration) (hv : v.skew = skew.abs) (hin : window.contains later skew.abs = true)
    (hlater : later < .latest) : later < v.expiry window now := by
  have hstop : later < addCapped window.notOnOrAfter v.skew := by
    unfold Validity.contains at hin
    rw [Bool.and_eq_true, Duration.abs_abs] at hin
    unfold addCapped
    rw [hv, if_neg skew.not_abs_neg]
    cases hsum : window.notOnOrAfter.add? skew.abs with
    | some stop =>
      rw [hsum] at hin
      exact of_decide_eq_true hin.2
    | none => exact hlater
  unfold expiry Instant.later
  split
  · next hlt => exact Instant.lt_trans _ _ _ hstop hlt
  · exact hstop

/-! ## The checks -/

/-- The metadata know the issuer as an identity provider for the protocol. -/
def Knows (r : Resolver) (p : Protocol) (id : String) : Prop :=
  ∃ idp, r.trusted ⟨id, .identityProvider, p⟩ = .ok idp

/-- What an assertion has to have to pass every check but that of replay. -/
structure Passes (v : Validator) (r : Resolver) (a : Assertion) (now : Instant) : Prop where
  protocol : a.protocol = v.protocol
  issuer : ∃ id, a.issuer = some id ∧ id ≠ "" ∧ Knows r v.protocol id
  window : ∃ window, a.validity = some window ∧ window.contains now v.skew = true
  subject : ∃ s, a.subject = some s ∧ s.identifier ≠ ""
  destination : ∀ expected s d, v.destination = some expected → a.subject = some s →
    s.destination = some d → d = expected

theorem checkProtocol_eq_ok (v : Validator) (a : Assertion) :
    v.checkProtocol a = .ok () ↔ a.protocol = v.protocol := by
  unfold checkProtocol
  exact ite_ok_eq_ok _ _

theorem issuer_eq_ok (r : Resolver) (p : Protocol) (id : String) (idp : TrustedEntity) :
    issuer r p id = .ok idp ↔ r.trusted ⟨id, .identityProvider, p⟩ = .ok idp := by
  unfold issuer
  exact mapError_eq_ok _ _ _

theorem checkIssuer_eq_ok (v : Validator) (r : Resolver) (a : Assertion) :
    v.checkIssuer r a = .ok () ↔ ∃ id, a.issuer = some id ∧ id ≠ "" ∧ Knows r v.protocol id := by
  unfold checkIssuer Knows
  constructor
  · intro h
    split at h
    · cases h
    · cases h
    · next id hempty hid =>
      obtain ⟨idp, hidp, -⟩ := (except_map_eq_ok _ _ _).1 h
      exact ⟨id, hid, hempty, idp, (issuer_eq_ok _ _ _ _).1 hidp⟩
  · rintro ⟨id, hid, hne, idp, hidp⟩
    split
    · next h => rw [hid] at h; cases h
    · next h => rw [hid] at h; exact absurd (Option.some.inj h) hne
    · next id' _ h =>
      rw [hid] at h
      cases h
      exact (except_map_eq_ok _ _ _).2 ⟨idp, (issuer_eq_ok _ _ _ _).2 hidp, rfl⟩

theorem checkWindow_eq_ok (v : Validator) (a : Assertion) (now : Instant) (window : Validity) :
    v.checkWindow a now = .ok window ↔
      a.validity = some window ∧ window.contains now v.skew = true := by
  unfold checkWindow
  cases a.validity with
  | none => simp
  | some w => by_cases h : w.contains now v.skew = true <;> simp [h] <;> grind

theorem checkSubject_eq_ok (a : Assertion) :
    checkSubject a = .ok () ↔ ∃ s, a.subject = some s ∧ s.identifier ≠ "" := by
  unfold checkSubject
  cases a.subject with
  | none => simp
  | some s => by_cases h : s.identifier = "" <;> simp [h]

theorem checkDestination_eq_ok (v : Validator) (a : Assertion) :
    v.checkDestination a = .ok () ↔ ∀ expected s d, v.destination = some expected →
      a.subject = some s → s.destination = some d → d = expected := by
  unfold checkDestination
  constructor
  · intro h expected s d hexpected hs hd
    rw [hexpected, hs] at h
    simp only [Option.bind_some, hd] at h
    exact ((ite_ok_eq_ok _ _).1 h).symm
  · intro h
    split
    · next expected d hexpected hd =>
      obtain ⟨s, hs, hd⟩ := Option.bind_eq_some_iff.1 hd
      exact (ite_ok_eq_ok _ _).2 (h expected s d hexpected hs hd).symm
    · rfl

theorem check_eq_ok (v : Validator) (r : Resolver) (a : Assertion) (now e : Instant) :
    v.check r a now = .ok e ↔
      v.Passes r a now ∧ ∃ window, a.validity = some window ∧ e = v.expiry window now := by
  unfold check
  simp only [unit_bind_eq_ok, bind_eq_ok (v.checkWindow a now), checkProtocol_eq_ok,
    checkIssuer_eq_ok, checkWindow_eq_ok, checkSubject_eq_ok, checkDestination_eq_ok]
  constructor
  · rintro ⟨h1, h2, window, ⟨h3, h4⟩, h5, h6, h7⟩
    exact ⟨⟨h1, h2, ⟨window, h3, h4⟩, h5, h6⟩, window, h3, (Except.ok.inj h7).symm⟩
  · rintro ⟨⟨h1, h2, ⟨window, h3, h4⟩, h5, h6⟩, window', h3', rfl⟩
    rw [h3] at h3'
    cases h3'
    exact ⟨h1, h2, window, ⟨h3, h4⟩, h5, h6, rfl⟩

end Validator

/-- The first five minutes of 1970. -/
def sampleWindow : Validity := ⟨.sample 0, .sample 300, by decide⟩

end Federation.Exchange
