import Federation.Proofs.Metadata.Credentials

/-!
# Trusted entities of a document

What a resolver trusts follows from its document. Only the algorithm that wraps session keys may
come from the resolver itself, so two resolvers with one document know the same entities, with the
same keys to verify with (`trusted_of_document`). Answers that are kept follow from the document they
are kept beside, whatever was asked of the resolver before (`resolve_after`).

    start.snapshot = none  →  ((start.after calls).resolve q).1 = (start.after calls).trusted q
-/

namespace Federation.Metadata

open Federation.Saml Federation.Time
open Federation.Crypto (KeyTransport)

theorem Document.trusted_eq_ok (d : Document) (default : KeyTransport) (id : String) (role : Role)
    (p : Protocol) (e : TrustedEntity) :
    d.trusted default id role p = .ok e ↔ ∃ entity r, d.entity? id = some entity ∧
      entity.role? role p = some r ∧ e = .ofDescriptor default id p r := by
  unfold trusted
  simp only [bind_eq_ok, entity_eq_ok]
  constructor
  · rintro ⟨entity, hentity, h⟩
    cases hr : entity.role? role p with
    | none =>
      rw [hr] at h
      cases h
    | some r =>
      rw [hr] at h
      exact ⟨entity, r, hentity, hr, (Except.ok.inj h).symm⟩
  · rintro ⟨entity, r, hentity, hr, rfl⟩
    refine ⟨entity, hentity, ?_⟩
    rw [hr]
    rfl

namespace Resolver

theorem trusted_eq_ok (r : Resolver) (q : TrustQuery) (e : TrustedEntity) :
    r.trusted q = .ok e ↔ ∃ d entity descriptor, r.document = .ok d ∧
      d.entity? q.entityId = some entity ∧ entity.role? q.role q.protocol = some descriptor ∧
      e = .ofDescriptor r.defaultTransport q.entityId q.protocol descriptor := by
  unfold trusted
  simp only [bind_eq_ok, Document.trusted_eq_ok, exists_and_left]

theorem entityId_of_trusted (r : Resolver) (q : TrustQuery) (e : TrustedEntity)
    (h : r.trusted q = .ok e) : e.entityId = q.entityId := by
  obtain ⟨d, entity, descriptor, -, -, -, rfl⟩ := (trusted_eq_ok r q e).1 h
  rfl

/-- Another resolver with the same document trusts the entity too. -/
theorem trusted_of_document (r r' : Resolver) (hdocument : r'.document = r.document)
    (q : TrustQuery) (e : TrustedEntity) (h : r.trusted q = .ok e) :
    ∃ e', r'.trusted q = .ok e' ∧ e'.signingKeys = e.signingKeys := by
  obtain ⟨d, entity, descriptor, hd, hentity, hrole, rfl⟩ := (trusted_eq_ok r q e).1 h
  exact ⟨_, (trusted_eq_ok r' q _).2
    ⟨d, entity, descriptor, hdocument.trans hd, hentity, hrole, rfl⟩, rfl⟩

/-! ## Kept answers -/

/-- What may be asked of a resolver. -/
inductive Call
  | refresh (source : Source) (clock : Span)
  | refreshIfStale (source : Source) (clock : Span)
  | resolve (q : TrustQuery)

/-- The resolver after a call. -/
def call (r : Resolver) : Call → Resolver
  | .refresh source clock => (r.refresh source clock).2
  | .refreshIfStale source clock => (r.refreshIfStale source clock).2
  | .resolve q => (r.resolve q).2

/-- The resolver after some calls, the first one first. -/
def after (r : Resolver) (calls : List Call) : Resolver := calls.foldl call r

/-- Every answer that is kept follows from the document. -/
def Coherent (r : Resolver) : Prop :=
  ∀ s, r.snapshot = some s → ∀ q e, s.cache.lookup q = some e →
    s.document.trusted r.defaultTransport q.entityId q.role q.protocol = .ok e

theorem coherent_refresh (r : Resolver) (h : r.Coherent) (source : Source) (clock : Span) :
    (r.refresh source clock).2.Coherent := by
  unfold refresh
  cases r.finish source with
  | ok d =>
    intro s hs q e he
    cases hs
    cases he
  | error f => exact h

theorem refreshIfStale_snd (r : Resolver) (source : Source) (clock : Span) :
    (r.refreshIfStale source clock).2 = r ∨
      (r.refreshIfStale source clock).2 = (r.refresh source clock).2 := by
  unfold refreshIfStale
  split
  · right
    split <;> simp_all
  · exact .inl rfl

theorem coherent_resolve (r : Resolver) (h : r.Coherent) (q : TrustQuery) :
    (r.resolve q).1 = r.trusted q ∧ (r.resolve q).2.Coherent := by
  cases hs : r.snapshot with
  | none => simp [resolve, trusted, document, current, hs, Except.map, bind, Except.bind, h]
  | some s =>
    have htrusted : r.trusted q =
        s.document.trusted r.defaultTransport q.entityId q.role q.protocol := by
      rw [trusted, document, current, hs]
      rfl
    have hresolve : r.resolve q = ((s.resolve r.defaultTransport q).1,
        { r with snapshot := some (s.resolve r.defaultTransport q).2 }) := by
      rw [resolve, current, hs]
    rw [hresolve, htrusted, Snapshot.resolve]
    cases hkept : s.cache.lookup q with
    | some e =>
      refine ⟨(h s hs q e hkept).symm, fun s' hs' => ?_⟩
      cases hs'
      exact h s hs
    | none =>
      cases hanswer : s.document.trusted r.defaultTransport q.entityId q.role q.protocol with
      | error f =>
        refine ⟨rfl, fun s' hs' => ?_⟩
        cases hs'
        exact h s hs
      | ok e =>
        refine ⟨rfl, fun s' hs' q' e' he' => ?_⟩
        cases hs'
        rw [List.lookup_cons] at he'
        by_cases hq : q' = q
        · subst hq
          rw [beq_self_eq_true] at he'
          cases he'
          exact hanswer
        · rw [beq_eq_false_iff_ne.2 hq] at he'
          exact h s hs q' e' he'

theorem coherent_call (r : Resolver) (h : r.Coherent) (c : Call) : (r.call c).Coherent := by
  cases c with
  | refresh source clock => exact coherent_refresh r h source clock
  | refreshIfStale source clock =>
    show (r.refreshIfStale source clock).2.Coherent
    obtain heq | heq := refreshIfStale_snd r source clock
    · rw [heq]
      exact h
    · rw [heq]
      exact coherent_refresh r h source clock
  | resolve q => exact (coherent_resolve r h q).2

theorem coherent_after (r : Resolver) (h : r.Coherent) (calls : List Call) :
    (r.after calls).Coherent := by
  induction calls generalizing r with
  | nil => exact h
  | cons c calls ih => exact ih (r.call c) (coherent_call r h c)

/-- Whatever was asked before, an answer that is kept is the one that the document gives. -/
theorem resolve_after (start : Resolver) (hstart : start.snapshot = none) (calls : List Call)
    (q : TrustQuery) : ((start.after calls).resolve q).1 = (start.after calls).trusted q := by
  have hfresh : start.Coherent := fun s hs => by
    rw [hstart] at hs
    cases hs
  exact (coherent_resolve _ (coherent_after start hfresh calls) q).1

end Resolver

end Federation.Metadata
