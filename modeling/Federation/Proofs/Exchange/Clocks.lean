import Federation.Proofs.Exchange.Rejection

/-!
# Two clocks

A call checks an assertion as of a time that its caller names, and the store goes by its own clock.
An accepted assertion is remembered until an instant that is reckoned from the first, and the second
tells when that has come.

    (c.answer s).1 = ok a  →  d passes with a's id  →
      (d.answer (after s (c :: mid))).1 = error (replayDetected a.id) as long as d.wall is before
        c's expiry of a, and what d itself makes of the assertion after that        (answer_again)

So a call that names a time of its own is safe as long as the store's clock is not ahead of that
time, and where it is ahead an assertion may be accepted once more while its window is open
(`accepted_twice`).

- `Visit.checked` is all that a call does before it asks the store, and `answer_eq` the call.
- `ReplayStore.Remembers` is the invariant from one acceptance to the next.
-/

namespace Federation.Exchange

open Federation.Saml Federation.Time Federation.Metadata

/-! ## Calls -/

/-- A call that may enter an assertion into a shared store: the bare checks, or a whole response
that is consumed. -/
inductive Visit
  | validate (v : Validator) (resolver : Resolver) (a : Assertion) (now wall : Instant)
  | consume (p : RelyingParty) (resolver : Resolver) (around : Surroundings) (r : Response)
      (now : Instant)

namespace Visit

/-- The time that the caller names. -/
def now : Visit → Instant
  | .validate _ _ _ now _ | .consume _ _ _ _ now => now

/-- The reading of the store's own clock. -/
def wall : Visit → Instant
  | .validate _ _ _ _ wall => wall
  | .consume _ _ around _ _ => around.wall

def validator : Visit → Validator
  | .validate v .. => v
  | .consume p .. => p.validator

/-- What a call is answered, and the store after it. -/
def answer (s : ReplayStore) : Visit → Except Failure Assertion × ReplayStore
  | .validate v resolver a now wall =>
    ((v.validate resolver s a now wall).1.map fun _ => a, (v.validate resolver s a now wall).2)
  | .consume p resolver around r now =>
    ((p.consume { resolver, replay := s } around r now).1,
      (p.consume { resolver, replay := s } around r now).2.replay)

/-- The store after the calls of a run that share it. -/
def after (s : ReplayStore) (visits : List Visit) : ReplayStore :=
  visits.foldl (fun s c => (c.answer s).2) s

/-- The assertion of a call that passes every check but that of replay, and its expiry. -/
def checked : Visit → Except Failure (Assertion × Instant)
  | .validate v resolver a now _ => (v.check resolver a now).map fun expiry => (a, expiry)
  | .consume p resolver around r now => do
    let resolver := (resolver.refreshIfStale around.source around.uptime).2
    let a ← p.examine resolver around.random r
    let expiry ← p.validator.check resolver a now
    return (a, expiry)

/-- What is left to decide once an assertion is entered. -/
def approve (a : Assertion) : Visit → Except Failure Unit
  | .validate .. => .ok ()
  | .consume p .. => p.capabilities.accepts.accept a

/-- A call checks, then claims the identifier, and then approves. -/
theorem answer_eq (c : Visit) (s : ReplayStore) :
    c.answer s = match c.checked with
      | .error f => (.error f, s)
      | .ok (a, expiry) =>
        match s.claim a.id expiry c.wall with
        | (.error f, s') => (.error f, s')
        | (.ok (), s') => ((c.approve a).map fun _ => a, s') := by
  cases c with
  | validate v resolver a now wall =>
    simp only [answer, checked, approve, Visit.wall]
    unfold Validator.validate
    cases v.check resolver a now with
    | error f => rfl
    | ok expiry =>
      rcases hclaim : s.claim a.id expiry wall with ⟨_ | _, s'⟩ <;>
        simp only [Except.map, hclaim]
  | consume p resolver around r now =>
    simp only [answer, checked, approve, Visit.wall, RelyingParty.consume]
    unfold RelyingParty.judge Validator.validate
    cases p.examine (resolver.refreshIfStale around.source around.uptime).2 around.random r with
    | error f => rfl
    | ok a =>
      simp only [ok_bind]
      cases p.validator.check (resolver.refreshIfStale around.source around.uptime).2 a now with
      | error f => rfl
      | ok expiry =>
        rcases hclaim : s.claim a.id expiry around.wall with ⟨_ | _, s'⟩ <;>
          simp only [ok_bind, pure, Except.pure, hclaim]

/-- What a call has found out when it comes to the store. -/
theorem checked_eq_ok (c : Visit) (a : Assertion) (expiry : Instant)
    (h : c.checked = .ok (a, expiry)) :
    ∃ window, a.validity = some window ∧ window.contains c.now c.validator.skew = true ∧
      expiry = c.validator.expiry window c.now := by
  have passed : ∀ (v : Validator) (resolver : Resolver) (now : Instant),
      v.check resolver a now = .ok expiry → ∃ window, a.validity = some window ∧
        window.contains now v.skew = true ∧ expiry = v.expiry window now := by
    intro v resolver now hcheck
    obtain ⟨hpasses, window, hw, rfl⟩ := (v.check_eq_ok resolver a now expiry).1 hcheck
    obtain ⟨window', hw', hin⟩ := hpasses.window
    rw [hw] at hw'
    cases hw'
    exact ⟨window, hw, hin, rfl⟩
  cases c with
  | validate v resolver a' now wall =>
    obtain ⟨e, hcheck, heq⟩ := (except_map_eq_ok _ _ _).1 h
    cases heq
    exact passed v resolver now hcheck
  | consume p resolver around r now =>
    obtain ⟨a', -, h⟩ := (bind_eq_ok _ _ _).1 h
    obtain ⟨e, hcheck, h⟩ := (bind_eq_ok _ _ _).1 h
    cases h
    exact passed p.validator _ now hcheck

end Visit

/-! ## One call -/

namespace ReplayStore

/-- From `t` on the identifier is remembered until `expiry`, and no longer. -/
def Remembers (s : ReplayStore) (id : String) (expiry t : Instant) : Prop :=
  ∀ now, t ≤ now → s.seen id now = decide (now < expiry)

theorem remembers_claim (s : ReplayStore) (id : String) (expiry t : Instant)
    (h : (s.claim id expiry t).1 = .ok ()) : (s.claim id expiry t).2.Remembers id expiry t := by
  have hfree : s.seen id t = false := by
    rw [claim_eq] at h
    cases hs : s.seen id t with
    | true =>
      rw [hs] at h
      cases h
    | false => rfl
  intro now hnow
  rw [seen_claim s id id expiry t now hnow, if_pos ⟨hfree, rfl⟩]

/-- A claim in between changes nothing about an identifier, unless it is of that identifier and
comes when it is forgotten. -/
theorem Remembers.claim {s : ReplayStore} {id : String} {expiry t : Instant}
    (h : s.Remembers id expiry t) {wall : Instant} (ht : t ≤ wall) (id' : String)
    (expiry' : Instant) (hother : id' = id → wall < expiry) :
    (s.claim id' expiry' wall).2.Remembers id expiry wall := by
  intro now hnow
  rw [seen_claim s id' id expiry' wall now hnow, if_neg]
  · exact h now (Instant.le_trans _ _ _ ht hnow)
  · rintro ⟨hfree, rfl⟩
    rw [h wall ht, decide_eq_true (hother rfl)] at hfree
    cases hfree

end ReplayStore

namespace Visit

/-- The call comes to the store with the identifier. -/
def Asks (c : Visit) (id : String) : Prop := ∃ a expiry, c.checked = .ok (a, expiry) ∧ a.id = id

theorem remembers_of_accepted (c : Visit) (s : ReplayStore) (a : Assertion)
    (h : (c.answer s).1 = .ok a) : ∃ window, a.validity = some window ∧
      (c.answer s).2.Remembers a.id (c.validator.expiry window c.now) c.wall := by
  rw [answer_eq] at h ⊢
  cases hchecked : c.checked with
  | error f =>
    rw [hchecked] at h
    cases h
  | ok found =>
    obtain ⟨a', expiry⟩ := found
    simp only [hchecked] at h ⊢
    obtain ⟨window, hw, -, rfl⟩ := c.checked_eq_ok a' expiry hchecked
    have hclaim := s.remembers_claim a'.id (c.validator.expiry window c.now) c.wall
    rcases hpair : s.claim a'.id (c.validator.expiry window c.now) c.wall with ⟨answer, s'⟩
    rw [hpair] at h hclaim
    cases answer with
    | error f => cases h
    | ok u =>
      obtain ⟨_, -, rfl⟩ := (except_map_eq_ok _ _ _).1 h
      exact ⟨window, hw, hclaim rfl⟩

/-- The store after a call is the one after its claim. -/
theorem remembers_answer (c : Visit) (s : ReplayStore) (id : String) (expiry t : Instant)
    (h : s.Remembers id expiry t) (ht : t ≤ c.wall) (hother : c.Asks id → c.wall < expiry) :
    (c.answer s).2.Remembers id expiry c.wall := by
  rw [answer_eq]
  cases hchecked : c.checked with
  | error f => exact fun now hnow => h now (Instant.le_trans _ _ _ ht hnow)
  | ok found =>
    obtain ⟨a, expiry'⟩ := found
    have hclaim := h.claim ht a.id expiry' fun hid => hother ⟨a, expiry', hchecked, hid⟩
    rcases hpair : s.claim a.id expiry' c.wall with ⟨answer, s'⟩
    rw [hpair] at hclaim
    simp only [hpair]
    cases answer with
    | error f => exact hclaim
    | ok u => exact hclaim

/-- What a call that comes to the store is answered, by what the store remembers. -/
theorem answer_of_remembers (d : Visit) (s : ReplayStore) (b : Assertion) (e expiry t : Instant)
    (hd : d.checked = .ok (b, e)) (h : s.Remembers b.id expiry t) (ht : t ≤ d.wall) :
    (d.answer s).1 = if d.wall < expiry then .error (.replayDetected b.id)
      else (d.approve b).map fun _ => b := by
  rw [answer_eq, hd]
  simp only [ReplayStore.claim_eq, h d.wall ht, decide_eq_true_eq]
  by_cases hlt : d.wall < expiry
  · rw [if_pos hlt, if_pos hlt]
  · rw [if_neg hlt, if_neg hlt]

/-! ## Whole runs -/

theorem remembers_after (mid : List Visit) :
    ∀ (s : ReplayStore) (id : String) (expiry t : Instant), s.Remembers id expiry t →
      (∀ c ∈ mid, t ≤ c.wall) → mid.Pairwise (fun c d => c.wall ≤ d.wall) →
      (∀ c ∈ mid, c.Asks id → c.wall < expiry) →
      ∀ last, t ≤ last → (∀ c ∈ mid, c.wall ≤ last) → (after s mid).Remembers id expiry last := by
  induction mid with
  | nil =>
    intro s id expiry t h _ _ _ last hlast _ now hnow
    exact h now (Instant.le_trans _ _ _ hlast hnow)
  | cons c mid ih =>
    intro s id expiry t h ht hwall hother last _ hmid
    rw [List.pairwise_cons] at hwall
    rw [List.forall_mem_cons] at ht hother hmid
    have hstep := c.remembers_answer s id expiry t h ht.1 hother.1
    exact ih _ id expiry c.wall hstep hwall.1 hwall.2 hother.2 last hmid.1 hmid.2

section
variable (s : ReplayStore) (c d : Visit) (mid : List Visit)
  (hwall : (c :: mid ++ [d]).Pairwise fun c d => c.wall ≤ d.wall) (a : Assertion)
  (hc : (c.answer s).1 = .ok a)
include hwall hc

/-- From one acceptance to a later call an identifier is remembered as the first one left it, unless
it was entered again after it was forgotten. -/
theorem remembers_of_run : ∃ window, a.validity = some window ∧
    ((∀ m ∈ mid, m.Asks a.id → m.wall < c.validator.expiry window c.now) →
      (after s (c :: mid)).Remembers a.id (c.validator.expiry window c.now) d.wall) := by
  obtain ⟨window, hw, hremembers⟩ := c.remembers_of_accepted s a hc
  rw [List.cons_append, List.pairwise_cons, List.pairwise_append] at hwall
  obtain ⟨hfirst, hmid, -, hlast⟩ := hwall
  refine ⟨window, hw, fun hother => ?_⟩
  exact remembers_after mid _ a.id _ c.wall hremembers
    (fun m hm => hfirst m (List.mem_append_left _ hm)) hmid hother d.wall
    (hfirst d (by simp)) (fun m hm => hlast m hm d List.mem_cons_self)

end

/-- **Two clocks.** Once an assertion was accepted, a later call that comes to the store with its
identifier is refused as a replay as long as the store's clock is before the expiry that the first
call reckoned, and decides for itself after that, unless another one was entered meanwhile. So the
same assertion is refused wherever the store's clock is not ahead of the time that is named. -/
theorem answer_again (s : ReplayStore) (c d : Visit) (mid : List Visit)
    (hwall : (c :: mid ++ [d]).Pairwise fun c d => c.wall ≤ d.wall) (a b : Assertion) (e : Instant)
    (hc : (c.answer s).1 = .ok a) (hd : d.checked = .ok (b, e)) (hid : b.id = a.id) :
    ∃ window, a.validity = some window ∧
      (d.wall < c.validator.expiry window c.now →
        (d.answer (after s (c :: mid))).1 = .error (.replayDetected a.id)) ∧
      (c.validator.expiry window c.now ≤ d.wall →
        (∀ m ∈ mid, m.Asks a.id → m.wall < c.validator.expiry window c.now) →
        (d.answer (after s (c :: mid))).1 = (d.approve b).map fun _ => b) ∧
      ∀ skew : Duration, c.validator.skew = skew.abs → d.validator.skew = skew.abs →
        b.validity = a.validity → d.wall ≤ d.now → d.now < .latest →
        (d.answer (after s (c :: mid))).1 = .error (.replayDetected a.id) := by
  obtain ⟨window, hw, hremembers⟩ := remembers_of_run s c d mid hwall a hc
  have hmid : ∀ m ∈ mid, m.wall ≤ d.wall := by
    rw [List.pairwise_append] at hwall
    exact fun m hm => hwall.2.2 m (List.mem_cons_of_mem _ hm) d List.mem_cons_self
  have hanswer : ∀ {expiry}, (after s (c :: mid)).Remembers a.id expiry d.wall →
      (d.answer (after s (c :: mid))).1 = if d.wall < expiry then .error (.replayDetected a.id)
        else (d.approve b).map fun _ => b := fun h => by
    rw [← hid] at h ⊢
    exact d.answer_of_remembers _ b e _ d.wall hd h (Instant.le_refl _)
  have hbefore : d.wall < c.validator.expiry window c.now →
      (d.answer (after s (c :: mid))).1 = .error (.replayDetected a.id) := by
    intro hlt
    rw [hanswer (hremembers fun m hm _ => Instant.lt_of_le_of_lt _ _ _ (hmid m hm) hlt), if_pos hlt]
  refine ⟨window, hw, hbefore, ?_, ?_⟩
  · intro hle hother
    rw [hanswer (hremembers hother), if_neg (fun hlt => (Instant.not_lt _ _).2 hle hlt)]
  · intro skew hcskew hdskew hsame hahead hlatest
    obtain ⟨window', hw', hin, -⟩ := d.checked_eq_ok b e hd
    rw [hsame, hw] at hw'
    cases hw'
    rw [hdskew] at hin
    exact hbefore (Instant.lt_of_le_of_lt _ _ _ hahead
      (c.validator.lt_expiry_of_contains window c.now d.now skew hcskew hin hlatest))

/-- The checks of the assertion that is valid for the first five minutes of 1970, with a skew of a
minute. -/
def sample (now wall : Nat) : Visit :=
  let arrival := Arrival.sample now
  .validate arrival.validator arrival.resolver arrival.assertion (.sample now) (.sample wall)

/-- In the last second of the widened window by the store's clock it is refused, and a second later
it is accepted again. -/
theorem answer_again_sample :
    ((sample 10 10).answer {}).1 = .ok (Arrival.sample 0).assertion ∧
    ((sample 300 359).answer (after {} [sample 10 10, sample 200 200])).1
      = .error (.replayDetected "_a") ∧
    ((sample 300 360).answer (after {} [sample 10 10, sample 200 200])).1
      = .ok (Arrival.sample 0).assertion ∧
    ((sample 300 300).answer (after {} [sample 10 10, sample 200 200])).1
      = .error (.replayDetected "_a") := by
  have hfirst : ((sample 10 10).answer {}).1 = .ok (Arrival.sample 0).assertion := rfl
  obtain ⟨_, hw, hrefused, -, -⟩ := answer_again {} (sample 10 10) (sample 300 359) [sample 200 200]
    (by decide) _ (Arrival.sample 0).assertion _ hfirst rfl rfl
  cases hw
  obtain ⟨_, hw, -, haccepted, -⟩ := answer_again {} (sample 10 10) (sample 300 360)
    [sample 200 200] (by decide) _ (Arrival.sample 0).assertion _ hfirst rfl rfl
  cases hw
  obtain ⟨_, hw, -, -, hahead⟩ := answer_again {} (sample 10 10) (sample 300 300) [sample 200 200]
    (by decide) _ (Arrival.sample 0).assertion _ hfirst rfl rfl
  refine ⟨hfirst, hrefused (by decide), haccepted (by decide) ?_, ?_⟩
  · intro m hm _
    rw [List.mem_singleton.1 hm]
    decide
  · exact hahead (.ofSeconds (-60)) rfl rfl rfl (by decide) (by decide)

/-- Both calls name a time that the store's clock is past, and neither clock goes back; the window
is open at both times, and yet the second call is not refused. -/
theorem accepted_twice :
    let c := sample 10 360
    let d := sample 20 361
    c.now ≤ c.wall ∧ d.now ≤ d.wall ∧ c.now ≤ d.now ∧ c.wall ≤ d.wall ∧
      (c.answer {}).1 = .ok (Arrival.sample 0).assertion ∧
      (d.answer (c.answer {}).2).1 = .ok (Arrival.sample 0).assertion := by
  intro c d
  exact ⟨by decide, by decide, by decide, by decide, rfl, rfl⟩

end Visit

end Federation.Exchange
