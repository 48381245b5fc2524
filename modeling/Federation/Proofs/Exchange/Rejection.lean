import Federation.Proofs.Exchange.Acceptance

/-!
# What rejected messages leave behind

Only the last check of a lifecycle writes to the replay store, and what it drops on the way nobody
asks for later. So a call changes what is remembered in one case alone: an assertion passed every
check, and then its identifier is remembered, whether or not the peer's own acceptance takes it.

    (p.consume s around r now).1 = error f  →  ¬ p.Disowns … f  →
      (p.consume s around r now).2.replay ≈ s.replay from around.wall on      (consume_rejected)

- `ReplayStore.SameFrom` is the `≈`: both stores give one answer to every question asked from an
  instant on.
- `Disowns` is the one rejection that comes after the identifier was entered.
-/

namespace Federation.Exchange

open Federation.Saml Federation.Time Federation.Metadata
open Federation.Crypto (Suite Random)

/-! ## Stores -/

namespace ReplayStore

/-- Whoever asks at `t` or later is told the same by both stores. -/
def SameFrom (s s' : ReplayStore) (t : Instant) : Prop :=
  ∀ id now, t ≤ now → s'.seen id now = s.seen id now

theorem SameFrom.refl (s : ReplayStore) (t : Instant) : s.SameFrom s t := fun _ _ _ => rfl

/-- A claim enters an identifier that is not remembered, and does nothing else that shows later. -/
theorem seen_claim (s : ReplayStore) (id id' : String) (e t now : Instant) (h : t ≤ now) :
    (s.claim id e t).2.seen id' now =
      if s.seen id t = false ∧ id' = id then decide (now < e) else s.seen id' now := by
  rw [claim_eq]
  cases hs : s.seen id t with
  | true =>
    rw [if_pos rfl, if_neg (fun h => nomatch h.1)]
    exact seen_purgeIfDue s id' t now h
  | false =>
    rw [if_neg Bool.false_ne_true, seen_record, seen_purgeIfDue s id' t now h]
    simp only [true_and]

theorem sameFrom_claim (s : ReplayStore) (id : String) (e t : Instant) (f : Failure)
    (h : (s.claim id e t).1 = .error f) : s.SameFrom (s.claim id e t).2 t := by
  intro id' now hnow
  have hseen : s.seen id t = true := by
    rw [claim_eq] at h
    cases hs : s.seen id t with
    | true => rfl
    | false =>
      rw [hs] at h
      cases h
  rw [seen_claim s id id' e t now hnow, if_neg]
  rintro ⟨hs, -⟩
  rw [hseen] at hs
  cases hs

end ReplayStore

/-! ## Calls -/

/-- A validator that refuses an assertion forgets it, and nothing else. -/
theorem Validator.sameFrom_validate (v : Validator) (r : Resolver) (s : ReplayStore) (a : Assertion)
    (now wall : Instant) (f : Failure) (h : (v.validate r s a now wall).1 = .error f) :
    s.SameFrom (v.validate r s a now wall).2 wall := by
  unfold validate at h ⊢
  cases hcheck : v.check r a now with
  | error g => exact .refl s wall
  | ok expiry =>
    rw [hcheck] at h
    exact s.sameFrom_claim a.id expiry wall f h

namespace RelyingParty

/-- The peer's own acceptance rejects an assertion that passed every check. -/
def Disowns (p : RelyingParty) (resolver : Resolver) (replay : ReplayStore) (random : Random)
    (r : Response) (now wall : Instant) (f : Failure) : Prop :=
  ∃ a, p.examine resolver random r = .ok a ∧
    (p.validator.validate resolver replay a now wall).1 = .ok () ∧
    p.capabilities.accepts.accept a = .error f

theorem sameFrom_judge (p : RelyingParty) (resolver : Resolver) (replay : ReplayStore)
    (random : Random) (r : Response) (now wall : Instant) (f : Failure)
    (h : (p.judge resolver replay random r now wall).1 = .error f)
    (hdisowns : ¬ p.Disowns resolver replay random r now wall f) :
    replay.SameFrom (p.judge resolver replay random r now wall).2 wall := by
  unfold judge at h ⊢
  cases hexamine : p.examine resolver random r with
  | error g => exact .refl replay wall
  | ok a =>
    simp only [hexamine] at h ⊢
    cases hvalidate : p.validator.validate resolver replay a now wall with
    | mk answer replay' =>
      cases answer with
      | error g =>
        have hsame := p.validator.sameFrom_validate resolver replay a now wall g
          (by rw [hvalidate])
        rw [hvalidate] at hsame
        exact hsame
      | ok u =>
        -- every check passed, so only the peer's acceptance can have failed
        simp only [hvalidate] at h
        refine absurd ⟨a, hexamine, by rw [hvalidate], ?_⟩ hdisowns
        cases haccept : p.capabilities.accepts.accept a with
        | error g =>
          rw [haccept] at h
          cases h
          rfl
        | ok u =>
          rw [haccept] at h
          cases h

/-! ## Main result -/

/-- **Rejected messages leave no trace.** Whatever a call fails with, unless it is the peer's own
acceptance, the replay store tells everyone who asks from then on what it would have told without
the call. -/
theorem consume_rejected (p : RelyingParty) (s : RelyingState) (around : Surroundings) :
    (∀ r now f, (p.consume s around r now).1 = .error f →
      ¬ p.Disowns (s.resolver.refreshIfStale around.source around.uptime).2 s.replay around.random r
        now around.wall f →
      s.replay.SameFrom (p.consume s around r now).2.replay around.wall) ∧
    ∀ xml f, (p.consumeText s around xml).1 = .error f →
      (∀ r, Response.decode xml = .ok r →
        ¬ p.Disowns (s.resolver.refreshIfStale around.source around.uptime).2 s.replay around.random
          r around.wall around.wall f) →
      s.replay.SameFrom (p.consumeText s around xml).2.replay around.wall := by
  have first : ∀ r now f, (p.consume s around r now).1 = .error f →
      ¬ p.Disowns (s.resolver.refreshIfStale around.source around.uptime).2 s.replay around.random r
        now around.wall f →
      s.replay.SameFrom (p.consume s around r now).2.replay around.wall :=
    fun r now f => p.sameFrom_judge _ s.replay around.random r now around.wall f
  refine ⟨first, fun xml f h hdisowns => ?_⟩
  unfold consumeText at h ⊢
  cases hdecode : Response.decode xml with
  | ok r =>
    rw [hdecode] at h
    exact first r around.wall f h (hdisowns r hdecode)
  | error g => exact .refl s.replay around.wall

/-- A store that remembers `_a` and may drop an identifier that has expired. -/
def sampleStore : ReplayStore :=
  { entries := [("_a", .sample 300), ("_b", .sample 30)]
    distinct := by decide
    threshold := 1 }

/-- A replay is refused and the store is purged on the way, and a text that is no response is
refused before anyone asks the store. -/
theorem consume_rejected_sample :
    ∃ p, of sampleProfile sampleMetadata none { protocol := .saml20 }
        (.standardWith Suite.standard {}) = .ok p ∧
      let s : RelyingState := { resolver := sampleMetadata, replay := sampleStore }
      let around : Surroundings :=
        { wall := sampleTime, uptime := ⟨0⟩, source := .ofDocument {}, random := ⟨fun _ _ => 0⟩ }
      ((p.consume s around sampleResponse sampleTime).1 = .error (.replayDetected "_a") ∧
        (p.consume s around sampleResponse sampleTime).2.replay.size = 1 ∧
        sampleStore.SameFrom (p.consume s around sampleResponse sampleTime).2.replay sampleTime) ∧
      ((p.consumeText s around "").1 = .error (.ofXml .noRoot) ∧
        sampleStore.SameFrom (p.consumeText s around "").2.replay sampleTime) := by
  refine ⟨_, rfl, ?_⟩
  intro s around
  refine ⟨⟨rfl, rfl, ?_⟩, rfl, ?_⟩
  · refine (consume_rejected _ s around).1 sampleResponse sampleTime (.replayDetected "_a") rfl ?_
    rintro ⟨a, -, -, haccept⟩
    cases haccept
  · refine (consume_rejected _ s around).2 "" (.ofXml .noRoot) rfl ?_
    intro r hdecode
    cases hdecode.symm.trans (show Response.decode "" = .error (.ofXml .noRoot) from rfl)

end RelyingParty

end Federation.Exchange
