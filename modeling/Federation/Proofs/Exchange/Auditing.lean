import Federation.Proofs.Exchange.Acceptance
import Mathlib.Data.List.Forall2

/-!
# One record for each call

Whatever is asked of a party, and however it ends, the log grows by one record, and the record tells
how the call ended.

    (run s l).2.log = s.log ++ events, with one event of `events` for each call of `l`, in order,
      that is true of the call and its answer                                      (run_log)

Metadata that cannot be brought up to date before a message is consumed have no record of their own:
the call goes on with what is there, and its record tells how it ends.

- `Truthful` is what a record tells.
- `Call.perform_log` is the step, for one call.
-/

namespace Federation.Exchange

open Federation.Saml Federation.Time Federation.Metadata
open Federation.Crypto (Random Suite)

/-! ## Calls -/

/-- A call that is recorded. -/
inductive Call
  | produce (p : AssertingParty) (q : Request) (now : Instant) (random : Random)
  /-- A response that is consumed at the time of the call. -/
  | consume (p : RelyingParty) (around : Surroundings) (r : Response)
  /-- A response that is consumed as of a time that the caller names. -/
  | consumeAt (p : RelyingParty) (around : Surroundings) (r : Response) (now : Instant)
  | consumeText (p : RelyingParty) (around : Surroundings) (xml : String)

namespace Call

/-- What a call is answered: a response that was produced or an assertion that was accepted. -/
abbrev Answer := Except Failure (Delivery ⊕ Assertion)

/-- The answer of a call, and what it leaves behind. -/
def perform (s : RelyingState) : Call → Answer × RelyingState
  | .produce p q now random =>
    (.inl <$> (p.produce q now random s.log).1, { s with log := (p.produce q now random s.log).2 })
  | .consume p around r =>
    (.inr <$> (p.consume s around r around.wall).1, (p.consume s around r around.wall).2)
  | .consumeAt p around r now =>
    (.inr <$> (p.consume s around r now).1, (p.consume s around r now).2)
  | .consumeText p around xml =>
    (.inr <$> (p.consumeText s around xml).1, (p.consumeText s around xml).2)

/-- The identity provider that a failure is put down to. -/
def blamed : Call → String
  | .produce p .. => p.identityProvider.entityId
  | .consume _ _ r | .consumeAt _ _ r _ => r.effectiveIssuer.getD "-"
  | .consumeText _ _ xml =>
    match Response.decode xml with
    | .ok r => r.effectiveIssuer.getD "-"
    | .error _ => "-"

def protocol : Call → Protocol
  | .produce p .. => p.profile.protocol
  | .consume p .. | .consumeAt p .. | .consumeText p .. => p.profile.protocol

def serviceProvider : Call → String
  | .produce p .. => p.serviceProvider.entityId
  | .consume p .. | .consumeAt p .. | .consumeText p .. => p.serviceProvider.entityId

end Call

/-! ## Records -/

/-- The record tells how the call ended, and between whom. -/
structure Truthful (c : Call) (answer : Call.Answer) (e : Audit.Event) : Prop where
  outcome : e.outcome = .success ↔ ∃ x, answer = .ok x
  produced : ∀ d, answer = .ok (.inl d) → e.code = .assertionProduced ∧ e.idp = c.blamed
  /-- An assertion that is accepted has an issuer. -/
  accepted : ∀ a, answer = .ok (.inr a) → e.code = .validAssertionAccepted ∧ a.issuer = some e.idp
  failed : ∀ f, answer = .error f →
    e.code = f.auditCode ∧ e.detail = f.message ∧ e.idp = c.blamed
  parties : e.protocol = c.protocol.name ∧ e.sp = c.serviceProvider

/-- Nobody accepts an assertion without an issuer. -/
theorem RelyingParty.issuer_of_judge (p : RelyingParty) (resolver : Resolver) (replay : ReplayStore)
    (random : Random) (r : Response) (now wall : Instant) (a : Assertion)
    (h : (p.judge resolver replay random r now wall).1 = .ok a) : ∃ id, a.issuer = some id := by
  unfold judge at h
  split at h
  · cases h
  · next b _ =>
    split at h
    · cases h
    · next replay' hvalidate =>
      obtain ⟨-, -, rfl⟩ := (except_map_eq_ok ..).1 h
      have hpasses := (Validator.validate_eq_ok ..).1 (congrArg Prod.fst hvalidate)
      obtain ⟨id, hid, -⟩ := hpasses.1.issuer
      exact ⟨id, hid⟩

/-- The record of a success. -/
theorem Truthful.of_ok (c : Call) (x : Delivery ⊕ Assertion) (code : Audit.Code) (idp : String)
    (hproduced : ∀ d, x = .inl d → code = .assertionProduced ∧ idp = c.blamed)
    (haccepted : ∀ a, x = .inr a → code = .validAssertionAccepted ∧ a.issuer = some idp) :
    Truthful c (.ok x) (.success code idp c.protocol.name c.serviceProvider) where
  outcome := iff_of_true rfl ⟨x, rfl⟩
  produced d h := hproduced d (Except.ok.inj h)
  accepted a h := haccepted a (Except.ok.inj h)
  failed _ h := nomatch h
  parties := ⟨rfl, rfl⟩

/-- The record of a failure. -/
theorem Truthful.of_error (c : Call) (f : Failure) :
    Truthful c (.error f)
      (.error f.auditCode c.blamed c.protocol.name c.serviceProvider f.message) where
  outcome := by
    constructor
    · intro h
      cases h
    · rintro ⟨x, h⟩
      cases h
  produced _ h := nomatch h
  accepted _ h := nomatch h
  failed g h := by
    cases h
    exact ⟨rfl, rfl, rfl⟩
  parties := ⟨rfl, rfl⟩

/-- A response is consumed with one record, whatever call it is that consumes it. -/
theorem truthful_consumed (c : Call) (p : RelyingParty) (s : RelyingState) (around : Surroundings)
    (r : Response) (now : Instant) (hblamed : c.blamed = r.effectiveIssuer.getD "-")
    (hprotocol : c.protocol = p.profile.protocol)
    (hsp : c.serviceProvider = p.serviceProvider.entityId) :
    ∃ e, (p.consume s around r now).2.log = s.log ++ [e] ∧
      Truthful c (.inr <$> (p.consume s around r now).1) e := by
  refine ⟨p.event (RelyingParty.auditIssuer r (p.consume s around r now).1)
    (p.consume s around r now).1, rfl, ?_⟩
  unfold RelyingParty.event
  rw [← hprotocol, ← hsp]
  cases hresult : (p.consume s around r now).1 with
  | ok a =>
    obtain ⟨id, hid⟩ := p.issuer_of_judge _ _ _ _ _ _ _ hresult
    have haccepted (b : Assertion) (hb : (.inr a : Delivery ⊕ Assertion) = .inr b) :
        b.issuer = some (a.issuer.getD "-") := by
      cases hb
      rw [hid]
      rfl
    exact .of_ok c (.inr a) _ _ (fun _ h => nomatch h) fun b hb => ⟨rfl, haccepted b hb⟩
  | error f =>
    have hfailed := Truthful.of_error c f
    rw [hblamed] at hfailed
    exact hfailed

/-- One call adds one record. -/
theorem Call.perform_log (c : Call) (s : RelyingState) :
    ∃ e, (c.perform s).2.log = s.log ++ [e] ∧ Truthful c (c.perform s).1 e := by
  cases c with
  | produce p q now random =>
    refine ⟨p.event (p.respond q now random), rfl, ?_⟩
    show Truthful _ (.inl <$> p.respond q now random) _
    cases p.respond q now random with
    | ok d => exact .of_ok _ (.inl d) _ _ (fun _ _ => ⟨rfl, rfl⟩) fun _ h => nomatch h
    | error f => exact .of_error _ f
  | consume p around r => exact truthful_consumed _ p s around r _ rfl rfl rfl
  | consumeAt p around r now => exact truthful_consumed _ p s around r now rfl rfl rfl
  | consumeText p around xml =>
    have hblamed : (Call.consumeText p around xml).blamed = match Response.decode xml with
      | .ok r => r.effectiveIssuer.getD "-"
      | .error _ => "-" := rfl
    simp only [Call.perform, RelyingParty.consumeText]
    cases hdecode : Response.decode xml with
    | ok r =>
      rw [hdecode] at hblamed
      exact truthful_consumed _ p s around r around.wall hblamed rfl rfl
    | error f =>
      rw [hdecode] at hblamed
      have hfailed := Truthful.of_error (.consumeText p around xml) f
      rw [hblamed] at hfailed
      exact ⟨_, rfl, hfailed⟩

/-! ## Runs -/

/-- What happens to that which parties share. -/
inductive Happening
  | call (c : Call)
  /-- Metadata are loaded or lost, or the replay store is used by others. -/
  | changed (resolver : Resolver) (replay : ReplayStore)

namespace Happening

/-- The calls of a run, with their answers, and what it leaves behind. -/
def run (s : RelyingState) : List Happening → List (Call × Call.Answer) × RelyingState
  | [] => ([], s)
  | .call c :: rest =>
    ((c, (c.perform s).1) :: (run (c.perform s).2 rest).1, (run (c.perform s).2 rest).2)
  | .changed resolver replay :: rest => run { s with resolver, replay } rest

def call? : Happening → Option Call
  | .call c => some c
  | .changed .. => none

/-! ## Main result -/

/-- **Every call has its record.** In a run of calls, whatever they are asked, whether or not
metadata can be brought up to date before them, and whatever else happens to metadata and the replay
store, the log grows by the records of the calls, in order, each true of its call. -/
theorem run_log (s : RelyingState) (l : List Happening) :
    (run s l).1.map (·.1) = l.filterMap call? ∧
    ∃ events, (run s l).2.log = s.log ++ events ∧
      List.Forall₂ (fun t e => Truthful t.1 t.2 e) (run s l).1 events := by
  induction l generalizing s with
  | nil => exact ⟨rfl, [], (List.append_nil _).symm, .nil⟩
  | cons h l ih =>
    cases h with
    | call c =>
      obtain ⟨e, hlog, he⟩ := c.perform_log s
      obtain ⟨hcalls, events, hevents, htruthful⟩ := ih (c.perform s).2
      refine ⟨congrArg (c :: ·) hcalls, e :: events, ?_, .cons he htruthful⟩
      show (run (c.perform s).2 l).2.log = _
      rw [hevents, hlog, List.append_assoc, List.singleton_append]
    | changed resolver replay => exact ih { s with resolver, replay }

/-- A party without metadata, and a source that does not answer. -/
example : ∃ p, RelyingParty.of RelyingParty.sampleProfile RelyingParty.sampleMetadata none
      { protocol := .saml20 } (.standardWith Suite.standard {}) = .ok p ∧
    let around : Surroundings :=
      { wall := RelyingParty.sampleTime, uptime := ⟨0⟩, source := ⟨"memory", .stalled⟩
        random := ⟨fun _ _ => 0⟩ }
    (run { resolver := {}, replay := {} }
      [.call (.consume p around RelyingParty.sampleResponse)]).2.log.map (·.code)
      = [.unknownIssuer] :=
  ⟨_, rfl, rfl⟩

end Happening

end Federation.Exchange
