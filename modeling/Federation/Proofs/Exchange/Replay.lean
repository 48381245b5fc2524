import Federation.Proofs.Exchange.Lifecycle
import Federation.Proofs.Lookup

/-!
# Replay over whole runs

A store remembers each identifier until its expiry, and when it is purged never shows. So what a
run of arrivals is answered can be read off the arrivals alone: an assertion that passes every other
check is refused as a replay exactly if an accepted one with its identifier is still remembered, or
the store knew the identifier before the run.

    answers s arrivals = pre ++ (d, answer) :: post  →  d passes every other check  →
      (answer = error (replayDetected id) if Blocked s pre d, and ok otherwise)    (answers_replay)

A record outlives the window of its assertion as every later reading of the clock sees that window,
so no assertion is accepted twice.

- `seen_purgeIfDue` and `seen_record` say what one operation does to the store.
- `Tracks` is the invariant of a run, and `tracks_answer` its step.
-/

namespace Federation.Exchange

open Federation.Saml Federation.Time Federation.Metadata

namespace ReplayStore

/-! ## One operation -/

theorem seen_iff (s : ReplayStore) (id : String) (now : Instant) :
    s.seen id now = true ↔ ∃ e, (id, e) ∈ s.entries ∧ now < e := by
  have hl := lookup_eq_some_of_nodup s.entries s.distinct id
  unfold seen
  constructor
  · intro h
    split at h
    · next e he => exact ⟨e, (hl e).1 he, of_decide_eq_true h⟩
    · cases h
  · rintro ⟨e, he, hnow⟩
    rw [(hl e).2 he]
    exact decide_eq_true hnow

theorem seen_purge (s : ReplayStore) (id : String) (t now : Instant) (h : t ≤ now) :
    (s.purge t).seen id now = s.seen id now := by
  rw [Bool.eq_iff_iff, seen_iff, seen_iff]
  unfold purge
  simp only [List.mem_filter, decide_eq_true_eq]
  constructor
  · rintro ⟨e, ⟨he, -⟩, hnow⟩
    exact ⟨e, he, hnow⟩
  · rintro ⟨e, he, hnow⟩
    exact ⟨e, ⟨he, Instant.lt_of_le_of_lt t now e h hnow⟩, hnow⟩

/-- A purge is not seen by anyone who asks later. -/
theorem seen_purgeIfDue (s : ReplayStore) (id : String) (t now : Instant) (h : t ≤ now) :
    (s.purgeIfDue t).seen id now = s.seen id now := by
  unfold purgeIfDue
  split
  · exact seen_purge s id t now h
  · rfl

theorem seen_record (s : ReplayStore) (id id' : String) (e now : Instant) :
    (s.record id e).seen id' now = if id' = id then decide (now < e) else s.seen id' now := by
  rw [Bool.eq_iff_iff, seen_iff]
  unfold record
  simp only [List.mem_cons, List.mem_filter, Prod.mk.injEq, bne_iff_ne, ne_eq]
  by_cases hid : id' = id
  · rw [if_pos hid, decide_eq_true_eq]
    constructor
    · rintro ⟨f, (⟨-, rfl⟩ | ⟨-, hne⟩), hnow⟩
      · exact hnow
      · exact absurd hid hne
    · intro hnow
      exact ⟨e, Or.inl ⟨hid, rfl⟩, hnow⟩
  · rw [if_neg hid, seen_iff]
    constructor
    · rintro ⟨f, (⟨h, -⟩ | ⟨hf, -⟩), hnow⟩
      · exact absurd h hid
      · exact ⟨f, hf, hnow⟩
    · rintro ⟨f, hf, hnow⟩
      exact ⟨f, Or.inr ⟨hf, hid⟩, hnow⟩

theorem claim_eq (s : ReplayStore) (id : String) (e now : Instant) :
    s.claim id e now = if s.seen id now then (.error (.replayDetected id), s.purgeIfDue now)
      else (.ok (), (s.purgeIfDue now).record id e) := by
  unfold claim
  simp only
  rw [seen_purgeIfDue s id now now (Instant.le_refl now)]

end ReplayStore

/-! ## Runs -/

/-- An assertion that arrives: who checks it, with which metadata, and the one reading of the clock
that the checks and the store share. -/
structure Arrival where
  validator : Validator
  resolver : Resolver
  assertion : Assertion
  time : Instant

namespace Arrival

/-- What an arrival is answered, and the store after it. -/
def answer (c : Arrival) (s : ReplayStore) : Except Failure Unit × ReplayStore :=
  c.validator.validate c.resolver s c.assertion c.time c.time

/-- The arrivals of a run that share a store, each with its answer. -/
def answers (s : ReplayStore) : List Arrival → List (Arrival × Except Failure Unit)
  | [] => []
  | c :: rest => (c, (c.answer s).1) :: answers (c.answer s).2 rest

/-- Every check but that of replay. -/
def Passes (c : Arrival) : Prop := c.validator.Passes c.resolver c.assertion c.time

/-- Neither the clock nor the end of the window is in a leap second. -/
def Regular (c : Arrival) : Prop :=
  c.time.Regular ∧ ∀ window ∈ c.assertion.validity, window.notOnOrAfter.Regular

instance (c : Arrival) : Decidable c.Regular := inferInstanceAs (Decidable (_ ∧ _))

/-- The arrival was accepted, has this identifier, and is remembered beyond `now`. -/
def Keeps (c : Arrival × Except Failure Unit) (id : String) (now : Instant) : Prop :=
  c.2 = .ok () ∧ c.1.assertion.id = id ∧ ∃ window, c.1.assertion.validity = some window ∧
    now < c.1.validator.expiry window c.1.time

/-- The arrival was accepted, and its deadline has not passed when another one with its identifier
comes. -/
def Blocks (c : Arrival × Except Failure Unit) (d : Arrival) : Prop :=
  c.2 = .ok () ∧ c.1.assertion.id = d.assertion.id ∧ ∃ window,
    c.1.assertion.validity = some window ∧ d.time.nanos < c.1.validator.deadline window c.1.time

/-- The store knew the identifier before the run, or an accepted arrival blocks it. -/
def Blocked (s : ReplayStore) (pre : List (Arrival × Except Failure Unit)) (d : Arrival) : Prop :=
  s.seen d.assertion.id d.time = true ∨ ∃ c ∈ pre, Blocks c d

theorem keeps_iff_blocks (c : Arrival × Except Failure Unit) (d : Arrival) (hc : c.1.Regular)
    (hd : d.Regular) : Keeps c d.assertion.id d.time ↔ Blocks c d := by
  unfold Keeps Blocks
  have key : ∀ window, c.1.assertion.validity = some window →
      (d.time < c.1.validator.expiry window c.1.time ↔
        d.time.nanos < c.1.validator.deadline window c.1.time) := by
    intro window hw
    obtain ⟨he, hn⟩ := c.1.validator.expiry_regular window c.1.time (hc.2 window hw) hc.1
    rw [Instant.lt_iff_nanos _ _ hd.1 he, hn]
  constructor
  · rintro ⟨hok, hid, window, hw, hlt⟩
    exact ⟨hok, hid, window, hw, (key window hw).1 hlt⟩
  · rintro ⟨hok, hid, window, hw, hlt⟩
    exact ⟨hok, hid, window, hw, (key window hw).2 hlt⟩

/-! ## One step -/

/-- Whether an arrival that passes every other check is refused is up to the store. -/
theorem answer_of_passes (c : Arrival) (s : ReplayStore) (h : c.Passes) :
    ∃ window, c.assertion.validity = some window ∧
      c.answer s = s.claim c.assertion.id (c.validator.expiry window c.time) c.time := by
  obtain ⟨window, hw, -⟩ := h.window
  have hcheck := (c.validator.check_eq_ok c.resolver c.assertion c.time _).2 ⟨h, window, hw, rfl⟩
  refine ⟨window, hw, ?_⟩
  unfold answer Validator.validate
  rw [hcheck]

/-- One that does not pass them is refused and leaves no trace. -/
theorem answer_of_not_passes (c : Arrival) (s : ReplayStore) (h : ¬ c.Passes) :
    (c.answer s).1 ≠ .ok () ∧ (c.answer s).2 = s := by
  unfold answer Validator.validate
  split
  · next e hcheck =>
    exact absurd ((c.validator.check_eq_ok c.resolver c.assertion c.time e).1 hcheck).1 h
  · exact ⟨nofun, rfl⟩

/-- From `t` on the store knows what it knew before the run and what the accepted arrivals so far
keep, and nothing else. -/
def Tracks (s₀ s : ReplayStore) (past : List (Arrival × Except Failure Unit)) (t : Instant) :
    Prop :=
  ∀ id now, t ≤ now →
    (s.seen id now = true ↔ s₀.seen id now = true ∨ ∃ c ∈ past, Keeps c id now)

theorem keeps_append (past : List (Arrival × Except Failure Unit))
    (c : Arrival × Except Failure Unit) (id : String) (now : Instant) :
    (∃ d ∈ past ++ [c], Keeps d id now) ↔ (∃ d ∈ past, Keeps d id now) ∨ Keeps c id now := by
  constructor
  · rintro ⟨d, hd, hk⟩
    rcases List.mem_append.1 hd with hd | hd
    · exact Or.inl ⟨d, hd, hk⟩
    · rw [List.mem_singleton] at hd
      exact Or.inr (hd ▸ hk)
  · rintro (⟨d, hd, hk⟩ | hk)
    · exact ⟨d, List.mem_append_left _ hd, hk⟩
    · exact ⟨c, by simp, hk⟩

theorem tracks_answer (s₀ s : ReplayStore) (past : List (Arrival × Except Failure Unit))
    (t : Instant) (c : Arrival) (h : Tracks s₀ s past t) (ht : t ≤ c.time) :
    Tracks s₀ (c.answer s).2 (past ++ [(c, (c.answer s).1)]) c.time := by
  intro id now hnow
  have before := h id now (Instant.le_trans t c.time now ht hnow)
  rw [keeps_append, ← or_assoc, ← before]
  by_cases hp : c.Passes
  · obtain ⟨window, hw, hanswer⟩ := answer_of_passes c s hp
    rw [hanswer, ReplayStore.claim_eq]
    cases hs : s.seen c.assertion.id c.time with
    | true =>
      simp only [if_true]
      rw [ReplayStore.seen_purgeIfDue s id c.time now hnow]
      have : ¬ Keeps (c, .error (.replayDetected c.assertion.id)) id now := fun hk => nomatch hk.1
      simp [this]
    | false =>
      simp only [Bool.false_eq_true, if_false]
      rw [ReplayStore.seen_record, ReplayStore.seen_purgeIfDue s id c.time now hnow]
      have hkeeps : Keeps (c, .ok ()) id now ↔
          c.assertion.id = id ∧ now < c.validator.expiry window c.time := by
        constructor
        · rintro ⟨-, hid, window', hw', hlt⟩
          rw [hw] at hw'
          cases hw'
          exact ⟨hid, hlt⟩
        · rintro ⟨hid, hlt⟩
          exact ⟨rfl, hid, window, hw, hlt⟩
      rw [hkeeps]
      by_cases hid : id = c.assertion.id
      · -- nobody remembers the identifier at the time of the claim, so nobody does later
        have hgone : s.seen id now = false := by
          rw [Bool.eq_false_iff]
          intro hseen
          obtain ⟨e, he, hlt⟩ := (s.seen_iff id now).1 hseen
          have : s.seen c.assertion.id c.time = true :=
            (s.seen_iff _ _).2 ⟨e, hid ▸ he, Instant.lt_of_le_of_lt _ _ _ hnow hlt⟩
          rw [hs] at this
          cases this
        rw [if_pos hid, hgone, decide_eq_true_eq]
        simp [hid]
      · have hid' : ¬ c.assertion.id = id := fun h => hid h.symm
        rw [if_neg hid]
        simp [hid']
  · obtain ⟨hne, hsame⟩ := answer_of_not_passes c s hp
    rw [hsame]
    have : ¬ Keeps (c, (c.answer s).1) id now := fun hk => hne hk.1
    simp [this]

/-! ## Whole runs -/

/-- Each answer of a run is given by a store that tracks the run up to there. -/
theorem tracks_answers (s₀ : ReplayStore) (pre : List (Arrival × Except Failure Unit)) :
    ∀ (s : ReplayStore) (past : List (Arrival × Except Failure Unit)) (t : Instant)
      (arrivals : List Arrival) (d : Arrival) (answer : Except Failure Unit)
      (post : List (Arrival × Except Failure Unit)),
      Tracks s₀ s past t → (∀ c ∈ arrivals, t ≤ c.time) →
      arrivals.Pairwise (fun c d => c.time ≤ d.time) →
      answers s arrivals = pre ++ (d, answer) :: post →
      ∃ s', answer = (d.answer s').1 ∧ Tracks s₀ s' (past ++ pre) d.time := by
  induction pre with
  | nil =>
    intro s past t arrivals d answer post htracks ht _ hrun
    cases arrivals with
    | nil => cases hrun
    | cons c rest =>
      cases hrun
      refine ⟨s, rfl, fun id now hnow => ?_⟩
      rw [List.append_nil]
      exact htracks id now (Instant.le_trans _ _ _ (ht d List.mem_cons_self) hnow)
  | cons p pre ih =>
    intro s past t arrivals d answer post htracks ht hclock hrun
    cases arrivals with
    | nil => cases hrun
    | cons c rest =>
      rw [answers, List.cons_append, List.cons.injEq] at hrun
      obtain ⟨rfl, hrun⟩ := hrun
      rw [List.pairwise_cons] at hclock
      have hstep := tracks_answer s₀ s past t c htracks (ht c List.mem_cons_self)
      obtain ⟨s', hanswer, h⟩ := ih _ _ c.time rest d answer post hstep hclock.1 hclock.2 hrun
      refine ⟨s', hanswer, ?_⟩
      rw [← List.append_cons] at h
      exact h

theorem mem_of_mem_answers (arrivals : List Arrival) :
    ∀ (s : ReplayStore) (c : Arrival × Except Failure Unit), c ∈ answers s arrivals →
      c.1 ∈ arrivals := by
  induction arrivals with
  | nil =>
    intro s c h
    cases h
  | cons d rest ih =>
    intro s c h
    rcases List.mem_cons.1 h with rfl | h
    · exact List.mem_cons_self
    · exact List.mem_cons_of_mem _ (ih _ c h)

section
variable (s : ReplayStore) (arrivals : List Arrival)
  (hclock : arrivals.Pairwise fun c d => c.time ≤ d.time)
  (pre post : List (Arrival × Except Failure Unit)) (d : Arrival) (answer : Except Failure Unit)
  (hrun : answers s arrivals = pre ++ (d, answer) :: post)

include hclock hrun

theorem tracks_of_answers : ∃ s', answer = (d.answer s').1 ∧ Tracks s s' pre d.time := by
  have hstart : Tracks s s [] .earliest := by
    intro id now _
    simp
  have hearliest : ∀ c ∈ arrivals, Instant.earliest ≤ c.time :=
    fun c _ => c.time.earliest_le
  have h := tracks_answers s pre s [] .earliest arrivals d answer post hstart hearliest hclock hrun
  rw [List.nil_append] at h
  exact h

theorem passes_of_accepted (h : answer = .ok ()) : d.Passes := by
  obtain ⟨s', hanswer, -⟩ := tracks_of_answers s arrivals hclock pre post d answer hrun
  apply Classical.byContradiction
  intro hp
  exact (answer_of_not_passes d s' hp).1 (hanswer.symm.trans h)

/-- The answer to an arrival that passes every other check, read off the run before it. -/
theorem answer_iff_blocked (hregular : ∀ c ∈ arrivals, c.Regular) (hd : d.Passes) :
    (Blocked s pre d → answer = .error (.replayDetected d.assertion.id)) ∧
      (¬ Blocked s pre d → answer = .ok ()) := by
  have hmem : ∀ c ∈ pre ++ (d, answer) :: post, c.1.Regular := by
    intro c hc
    rw [← hrun] at hc
    exact hregular _ (mem_of_mem_answers arrivals s c hc)
  have key : ∀ c ∈ pre, (Keeps c d.assertion.id d.time ↔ Blocks c d) := fun c hc =>
    keeps_iff_blocks c d (hmem c (List.mem_append_left _ hc)) (hmem (d, answer) (by simp))
  obtain ⟨s', rfl, htracks⟩ := tracks_of_answers s arrivals hclock pre post d answer hrun
  have hseen : s'.seen d.assertion.id d.time = true ↔ Blocked s pre d := by
    rw [htracks d.assertion.id d.time (Instant.le_refl _)]
    constructor
    · rintro (h | ⟨c, hc, hk⟩)
      · exact Or.inl h
      · exact Or.inr ⟨c, hc, (key c hc).1 hk⟩
    · rintro (h | ⟨c, hc, hb⟩)
      · exact Or.inl h
      · exact Or.inr ⟨c, hc, (key c hc).2 hb⟩
  obtain ⟨window, -, hanswer⟩ := answer_of_passes d s' hd
  rw [hanswer, ReplayStore.claim_eq, ← hseen]
  constructor
  · intro h
    rw [if_pos h]
  · intro h
    rw [if_neg h]

end

/-- An accepted assertion blocks itself for as long as its window, widened by the skew, is open. -/
theorem blocks_of_same (skew : Duration) (c d : Arrival) (hsame : c.assertion = d.assertion)
    (hc : c.validator.skew = skew.abs) (hd : d.validator.skew = skew.abs) (hpasses : d.Passes)
    (hregular : d.Regular) (hend : d.time < .latest) : Blocks (c, .ok ()) d := by
  obtain ⟨window, hw, hin⟩ := hpasses.window
  have hstop := hregular.2 window hw
  have hskew : 0 ≤ skew.abs.nanos := Int.natCast_nonneg _
  have habs : skew.abs.abs.nanos = skew.abs.nanos := by
    unfold Duration.abs
    simp
  have hcut : d.time.nanos < Instant.cut (window.notOnOrAfter.nanos + skew.abs.nanos) := by
    have hlatest := (Instant.lt_iff_nanos _ _ hregular.1 Instant.regular_latest).1 hend
    obtain ⟨hlo, hhi⟩ := window.notOnOrAfter.nanos_range hstop
    unfold Validity.contains at hin
    rw [Bool.and_eq_true, hd, Instant.add?_of_regular _ _ hstop, habs] at hin
    have hopen := hin.2
    unfold Instant.cut
    cases hsum : Instant.ofNanos? (window.notOnOrAfter.nanos + skew.abs.nanos) with
    | some stop =>
      obtain ⟨hs, he⟩ := Instant.ofNanos?_eq_some _ stop hsum
      rw [hsum] at hopen
      have hlt := (Instant.lt_iff_nanos _ _ hregular.1 hs).1 (of_decide_eq_true hopen)
      omega
    | none =>
      have := Instant.ofNanos?_eq_none _ hsum
      omega
  refine ⟨rfl, by rw [hsame], window, by rw [hsame]; exact hw, ?_⟩
  show _ < c.validator.deadline window c.time
  unfold Validator.deadline
  rw [hc]
  omega

theorem pairwise_of_split {α : Type} (R : α → α → Prop) (l : List α)
    (h : ∀ pre d post, l = pre ++ d :: post → ∀ c ∈ pre, R c d) : l.Pairwise R := by
  induction l with
  | nil => exact List.Pairwise.nil
  | cons x l ih =>
    rw [List.pairwise_cons]
    constructor
    · intro y hy
      obtain ⟨s, t, rfl⟩ := List.append_of_mem hy
      exact h (x :: s) y t rfl x List.mem_cons_self
    · apply ih
      intro pre d post hl c hc
      exact h (x :: pre) d post (by rw [hl, List.cons_append]) c (List.mem_cons_of_mem _ hc)

/-- **Replay safety.** In a run whose clock never goes back, an assertion that passes every other
check is refused as a replay for as long as an accepted one with its identifier is remembered, and
only so long; and no assertion is accepted twice. -/
theorem answers_replay (s : ReplayStore) (skew : Duration) (arrivals : List Arrival)
    (hskew : ∀ c ∈ arrivals, c.validator.skew = skew.abs)
    (hclock : arrivals.Pairwise fun c d => c.time ≤ d.time)
    (hend : ∀ c ∈ arrivals, c.time < .latest)
    (hregular : ∀ c ∈ arrivals, c.Regular) :
    (∀ pre d answer post, answers s arrivals = pre ++ (d, answer) :: post → d.Passes →
      (Blocked s pre d → answer = .error (.replayDetected d.assertion.id)) ∧
      (¬ Blocked s pre d → answer = .ok ())) ∧
    (answers s arrivals).Pairwise fun c d =>
      c.2 = .ok () → d.2 = .ok () → c.1.assertion ≠ d.1.assertion := by
  have first : ∀ pre d answer post, answers s arrivals = pre ++ (d, answer) :: post → d.Passes →
      (Blocked s pre d → answer = .error (.replayDetected d.assertion.id)) ∧
      (¬ Blocked s pre d → answer = .ok ()) :=
    fun pre d answer post hrun hd =>
      answer_iff_blocked s arrivals hclock pre post d answer hrun hregular hd
  refine ⟨first, pairwise_of_split _ _ ?_⟩
  rintro pre ⟨d, answer⟩ post hrun ⟨c, given⟩ hcpre (rfl : given = _) (hd : answer = _) hsame
  have hc : c ∈ arrivals :=
    mem_of_mem_answers arrivals s (c, .ok ()) (by rw [hrun]; exact List.mem_append_left _ hcpre)
  have hdmem : d ∈ arrivals := mem_of_mem_answers arrivals s (d, answer) (by rw [hrun]; simp)
  have hpasses := passes_of_accepted s arrivals hclock pre post d answer hrun hd
  have hblocks := blocks_of_same skew c d hsame (hskew c hc) (hskew d hdmem) hpasses
    (hregular d hdmem) (hend d hdmem)
  have hrefused := (first pre d answer post hrun hpasses).1 (Or.inr ⟨_, hcpre, hblocks⟩)
  rw [hrefused] at hd
  cases hd

/-- An assertion that is valid for the first five minutes of 1970, at a validator with a skew of a
minute and a negative retention. -/
def sample (second : Nat) : Arrival where
  validator := (Validator.withSkew { protocol := .saml20 } (.ofSeconds (-60))).withRetention
    (.ofSeconds (-1))
  resolver :=
    { snapshot := some
        { loadedAt := ⟨0⟩
          document := { entities := [{
            entityId := "idp"
            roles := [{ role := .identityProvider, protocols := [.saml20] }] }] } } }
  assertion :=
    { id := "_a", protocol := .saml20, issueInstant := .sample 0
      issuer := some "idp", subject := some (.bearer "user" .saml20)
      validity := some sampleWindow }
  time := .sample second

/-- It is refused as a replay in the last second of the widened window, and as expired after it. -/
theorem answers_replay_sample :
    (answers {} [sample 10, sample 359, sample 360]).map (·.2) = [.ok (),
      .error (.replayDetected "_a"),
      .error (.expiredOrPremature ("window [1970-01-01 00:00:00 UTC, 1970-01-01 00:05:00 UTC)"
        ++ " does not contain 1970-01-01 00:06:00 UTC"))] ∧
    (answers {} [sample 10, sample 359, sample 360]).Pairwise fun c d =>
      c.2 = .ok () → d.2 = .ok () → c.1.assertion ≠ d.1.assertion :=
  ⟨rfl, (answers_replay {} (.ofSeconds 60) [sample 10, sample 359, sample 360] (by simp; decide)
    (by decide) (by decide) (by decide)).2⟩

end Arrival

end Federation.Exchange
