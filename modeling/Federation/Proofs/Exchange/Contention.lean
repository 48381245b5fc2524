import Mathlib.Logic.ExistsUnique
import Federation.Exchange.Contention
import Federation.Proofs.Exchange.Purging

/-!
# One of many is admitted

However the claims of callers interleave, and however old their readings of the clock are, an entry
stays until a purge or an entry goes by a reading that it does not outlive.

    (id, e) ∈ s.entries  →  every writing action until t goes by a reading before e  →
      (id, e) ∈ t.entries                                                              (Run.keeps)

So of two claims with one identifier the second is only admitted once such a reading was used, and
of claims that outlive every reading one is admitted.

- `Act.keeps` is the step of that invariant.
- `entered` is the ledger of a run: the last expiry of every identifier, which is what the store
  holds if it holds anything (`Run.recorded`).
- `run_claim` is the call that nobody interrupts, and does what the store's own claim does.
-/

namespace Federation.Exchange.Contention

open Federation.Saml Federation.Time

/-! ## Entries -/

section
variable (s : ReplayStore) (x : String × Instant)

theorem mem_entries_record (id : String) (expiry : Instant) :
    x ∈ (s.record id expiry).entries ↔ x = (id, expiry) ∨ x ∈ s.entries ∧ x.1 ≠ id := by
  unfold ReplayStore.record
  rw [List.mem_cons, List.mem_filter, bne_iff_ne]

theorem mem_entries_of_purgeIfDue (now : Instant) (h : x ∈ (s.purgeIfDue now).entries) :
    x ∈ s.entries := by
  unfold ReplayStore.purgeIfDue at h
  split at h
  · exact (List.mem_filter.1 h).1
  · exact h

theorem mem_entries_purgeIfDue (now : Instant) (h : x ∈ s.entries) (hnow : now < x.2) :
    x ∈ (s.purgeIfDue now).entries := by
  unfold ReplayStore.purgeIfDue
  split
  · exact List.mem_filter.2 ⟨h, decide_eq_true hnow⟩
  · exact h

end

/-! ## Actions -/

/-- The actions that change the store. -/
def Action.writes : Action → Bool
  | .purges _ | .admits _ => true
  | .reads _ | .passes _ | .refuses _ => false

/-- What the action answers a caller with the claim. -/
def Action.answer? (c : Claim) : Action → Option (Except Failure Unit)
  | .admits _ => some (.ok ())
  | .refuses _ => some (.error (.replayDetected c.id))
  | .reads _ | .purges _ | .passes _ => none

/-- The ledger after an event: an admitted claim is entered. -/
def enter (claims : Nat → Claim) (l : Ledger) (e : Event) : Ledger :=
  match e.action with
  | .admits _ => l.record (claims e.caller).id (claims e.caller).expiry
  | .reads _ | .purges _ | .passes _ | .refuses _ => l

/-- The ledger after a run: for each identifier what the last admitted claim entered, or else what
was there before. -/
def entered (claims : Nat → Claim) (l : Ledger) (trace : List Event) : Ledger :=
  trace.foldl (enter claims) l

/-- The store holds nothing but what the ledger holds. -/
def Recorded (s : ReplayStore) (l : Ledger) : Prop :=
  ∀ x ∈ s.entries, l x.1 = some x.2

theorem recorded_ledger (s : ReplayStore) : Recorded s s.ledger :=
  fun x hx => (lookup_eq_some_of_nodup s.entries s.distinct x.1 x.2).2 hx

namespace Act

variable {s t : ReplayStore} {c : Claim} {before after : Caller} {a : Action}
  (h : Act s c before a after t)
include h

/-- An entry is neither purged nor replaced by a reading before its expiry. -/
theorem keeps (x : String × Instant) (hx : x ∈ s.entries)
    (hwrites : a.writes = true → a.now < x.2) : x ∈ t.entries := by
  cases h with
  | reads now | passes now | refuses now _ => exact hx
  | purges now => exact mem_entries_purgeIfDue s x now hx (hwrites rfl)
  | admits now hfree =>
    refine (mem_entries_record s x c.id c.expiry).2 (Or.inr ⟨hx, fun hid => ?_⟩)
    have hseen : s.seen c.id now = true :=
      (s.seen_iff c.id now).2 ⟨x.2, hid ▸ hx, hwrites rfl⟩
    rw [hfree] at hseen
    cases hseen

theorem recorded {claims : Nat → Claim} {k : Nat} (hc : c = claims k) {l : Ledger}
    (hl : Recorded s l) : Recorded t (enter claims l ⟨k, a⟩) := by
  subst hc
  intro x hx
  cases h with
  | reads now | passes now | refuses now _ => exact hl x hx
  | purges now => exact hl x (mem_entries_of_purgeIfDue s x now hx)
  | admits now _ =>
    show (l.record (claims k).id (claims k).expiry) x.1 = some x.2
    unfold Ledger.record
    rcases (mem_entries_record s x (claims k).id (claims k).expiry).1 hx with rfl | ⟨hx, hid⟩
    · exact if_pos rfl
    · rw [if_neg hid]
      exact hl x hx

/-- A caller is answered by its last action and not before. -/
theorem answered (answer : Except Failure Unit) :
    before ≠ .answered answer ∧ (after = .answered answer ↔ a.answer? c = some answer) := by
  cases h with
  | reads now | purges now | passes now => exact ⟨nofun, nofun, nofun⟩
  | admits now _ | refuses now _ =>
    exact ⟨nofun, fun hafter => congrArg some (Caller.answered.inj hafter),
      fun hanswer => congrArg Caller.answered (Option.some.inj hanswer)⟩

end Act

section
variable {s t : ReplayStore} {c : Claim} {before after : Caller} {now : Instant}

theorem Act.of_admits (h : Act s c before (.admits now) after t) :
    s.seen c.id now = false ∧ t = s.record c.id c.expiry := by
  cases h with
  | admits _ hfree => exact ⟨hfree, rfl⟩

theorem Act.of_refuses (h : Act s c before (.refuses now) after t) : s.seen c.id now = true := by
  cases h with
  | refuses _ hseen => exact hseen

end

/-! ## Runs -/

namespace Run

variable {claims : Nat → Claim} {s t : System} {trace : List Event}

theorem callers_put (s : System) (k : Nat) (c : Caller) (store : ReplayStore) :
    (s.put k c store).callers k = c :=
  if_pos rfl

/-- Puts an action of a caller before a run, by how far the caller has come. -/
theorem after {k : Nat} {a : Action} {before c : Caller} {store : ReplayStore}
    (hact : Act s.store (claims k) before a c store) (hbefore : s.callers k = before)
    (hrest : Run claims (s.put k c store) trace t) : Run claims s (⟨k, a⟩ :: trace) t := by
  subst hbefore
  exact .cons hact hrest

theorem append_iff {pre post : List Event} :
    Run claims s (pre ++ post) t ↔ ∃ m, Run claims s pre m ∧ Run claims m post t := by
  constructor
  · intro h
    induction pre generalizing s with
    | nil => exact ⟨s, .nil s, h⟩
    | cons e pre ih =>
      cases h with
      | cons hact hrest =>
        obtain ⟨m, hpre, hpost⟩ := ih hrest
        exact ⟨m, .cons hact hpre, hpost⟩
  · rintro ⟨m, hpre, hpost⟩
    induction hpre with
    | nil s => exact hpost
    | cons hact _ ih => exact .cons hact (ih hpost)

/-- What the caller of one event of a run does there. -/
theorem act {pre post : List Event} {k : Nat} {a : Action}
    (h : Run claims s (pre ++ ⟨k, a⟩ :: post) t) :
    ∃ m c store, Run claims s pre m ∧ Act m.store (claims k) (m.callers k) a c store ∧
      Run claims (m.put k c store) post t := by
  obtain ⟨m, hpre, hpost⟩ := append_iff.1 h
  cases hpost with
  | cons hact hrest => exact ⟨m, _, _, hpre, hact, hrest⟩

theorem keeps (h : Run claims s trace t) (x : String × Instant) (hx : x ∈ s.store.entries)
    (hwrites : ∀ e ∈ trace, e.action.writes = true → e.action.now < x.2) :
    x ∈ t.store.entries := by
  induction h with
  | nil s => exact hx
  | cons hact _ ih =>
    apply ih
    · exact hact.keeps x hx (hwrites _ List.mem_cons_self)
    · exact fun e he => hwrites e (List.mem_cons_of_mem _ he)

theorem recorded (h : Run claims s trace t) {l : Ledger} (hl : Recorded s.store l) :
    Recorded t.store (entered claims l trace) := by
  induction h generalizing l with
  | nil s => exact hl
  | cons hact _ ih => exact ih (hact.recorded rfl hl)

theorem answered_put {k : Nat} {a : Action} {c : Caller} {store : ReplayStore}
    (h : Act s.store (claims k) (s.callers k) a c store) (j : Nat) (answer : Except Failure Unit) :
    (s.put k c store).callers j = .answered answer ↔
      s.callers j = .answered answer ∨ j = k ∧ a.answer? (claims j) = some answer := by
  obtain ⟨hbefore, hafter⟩ := h.answered answer
  unfold System.put
  simp only
  by_cases hj : j = k
  · subst hj
    rw [if_pos rfl, hafter]
    constructor
    · exact fun hanswer => Or.inr ⟨rfl, hanswer⟩
    · rintro (habsurd | ⟨-, hanswer⟩)
      · exact absurd habsurd hbefore
      · exact hanswer
  · rw [if_neg hj]
    constructor
    · exact Or.inl
    · rintro (hanswer | ⟨habsurd, -⟩)
      · exact hanswer
      · exact absurd habsurd hj

/-- Every answer is given by an event of the run, or was given before it. -/
theorem answered_iff (h : Run claims s trace t) (j : Nat) (answer : Except Failure Unit) :
    t.callers j = .answered answer ↔ s.callers j = .answered answer ∨
      ∃ a, ⟨j, a⟩ ∈ trace ∧ a.answer? (claims j) = some answer := by
  induction h with
  | nil s => simp
  | @cons s t k a c store rest hact _ ih =>
    rw [ih, answered_put hact, or_assoc]
    apply or_congr_right
    constructor
    · rintro (⟨rfl, hanswer⟩ | ⟨b, hb, hanswer⟩)
      · exact ⟨a, List.mem_cons_self, hanswer⟩
      · exact ⟨b, List.mem_cons_of_mem _ hb, hanswer⟩
    · rintro ⟨b, hb, hanswer⟩
      rcases List.mem_cons.1 hb with heq | hb
      · cases heq
        exact Or.inl ⟨rfl, hanswer⟩
      · exact Or.inr ⟨b, hb, hanswer⟩

/-- Between two admissions of one identifier some writing action goes by a reading that the first
entry does not outlive. -/
theorem writes_between {pre mid post : List Event} {i j : Nat} {now later : Instant}
    (h : Run claims s (pre ++ ⟨i, .admits now⟩ :: (mid ++ ⟨j, .admits later⟩ :: post)) t)
    (hid : (claims i).id = (claims j).id) :
    ∃ e ∈ mid ++ [⟨j, .admits later⟩],
      e.action.writes = true ∧ (claims i).expiry ≤ e.action.now := by
  apply Classical.byContradiction
  intro hnone
  have hwrites : ∀ e ∈ mid ++ [⟨j, .admits later⟩], e.action.writes = true →
      e.action.now < (claims i).expiry := by
    intro e he hw
    apply Classical.byContradiction
    intro hle
    exact hnone ⟨e, he, hw, (Instant.not_lt _ _).1 hle⟩
  obtain ⟨m, c, store, -, hfirst, hrest⟩ := h.act
  obtain ⟨n, d, store', hmid, hsecond, -⟩ := hrest.act
  have hentry : ((claims i).id, (claims i).expiry) ∈ (m.put i c store).store.entries := by
    show _ ∈ store.entries
    rw [hfirst.of_admits.2]
    exact (mem_entries_record _ _ _ _).2 (Or.inl rfl)
  have hheld := hmid.keeps _ hentry fun e he => hwrites e (List.mem_append_left _ he)
  have hseen : n.store.seen (claims j).id later = true :=
    (n.store.seen_iff _ _).2 ⟨_, hid ▸ hheld, hwrites ⟨j, .admits later⟩ (by simp) rfl⟩
  rw [hsecond.of_admits.1] at hseen
  cases hseen

/-- A claim is refused for an entry that its own reading does not reach, and that is the last one
entered. -/
theorem entry_of_refuses {s₀ : ReplayStore} (h : Run claims { store := s₀ } trace s) {k : Nat}
    {now : Instant} {c : Caller} {store : ReplayStore}
    (hact : Act s.store (claims k) (s.callers k) (.refuses now) c store) :
    ∃ expiry, ((claims k).id, expiry) ∈ s.store.entries ∧
      entered claims s₀.ledger trace (claims k).id = some expiry ∧ now < expiry := by
  obtain ⟨expiry, hentry, hnow⟩ := (s.store.seen_iff _ _).1 hact.of_refuses
  exact ⟨expiry, hentry, h.recorded (recorded_ledger s₀) _ hentry, hnow⟩

end Run

theorem admits_of_entered {claims : Nat → Claim} {id : String} {expiry : Instant}
    (trace : List Event) : ∀ l : Ledger, entered claims l trace id = some expiry →
      l id = some expiry ∨ ∃ k now, ⟨k, .admits now⟩ ∈ trace ∧ (claims k).id = id := by
  induction trace with
  | nil => exact fun l h => Or.inl h
  | cons e trace ih =>
    intro l h
    obtain ⟨k, a⟩ := e
    rcases ih (enter claims l ⟨k, a⟩) h with hstart | ⟨j, now, hj, hid⟩
    · cases a with
      | admits now =>
        by_cases hid : id = (claims k).id
        · exact Or.inr ⟨k, now, List.mem_cons_self, hid.symm⟩
        · exact Or.inl ((if_neg hid).symm.trans hstart)
      | reads now | purges now | passes now | refuses now => exact Or.inl hstart
    · exact Or.inr ⟨j, now, List.mem_cons_of_mem _ hj, hid⟩

/-- A call that nobody interrupts does what the claim of the store does. -/
theorem run_claim (claims : Nat → Claim) (s : System) (k : Nat) (now : Instant)
    (hk : s.callers k = .ready) :
    ∃ a t, Run claims s [⟨k, .reads now⟩, ⟨k, .purges now⟩, ⟨k, a⟩] t ∧
      t.callers k = .answered (s.store.claim (claims k).id (claims k).expiry now).1 ∧
      t.store = (s.store.claim (claims k).id (claims k).expiry now).2 := by
  cases hseen : (s.store.purgeIfDue now).seen (claims k).id now with
  | true =>
    rw [show s.store.claim (claims k).id (claims k).expiry now = _ from if_pos hseen]
    exact ⟨_, _, .after (.reads now) hk <| .after (.purges now) (Run.callers_put ..) <|
      .after (.refuses now hseen) (Run.callers_put ..) <| .nil _, Run.callers_put .., rfl⟩
  | false =>
    rw [show s.store.claim (claims k).id (claims k).expiry now = _ from
      if_neg (Bool.eq_false_iff.1 hseen)]
    exact ⟨_, _, .after (.reads now) hk <| .after (.purges now) (Run.callers_put ..) <|
      .after (.admits now hseen) (Run.callers_put ..) <| .nil _, Run.callers_put .., rfl⟩

/-! ## Admissions -/

/-- A caller that is admitted is so by an event of the run. -/
theorem Run.admits_of_answered {claims : Nat → Claim} {s₀ : ReplayStore} {trace : List Event}
    {s : System} (h : Run claims { store := s₀ } trace s) (k : Nat)
    (hk : s.callers k = .answered (.ok ())) : ∃ now, ⟨k, .admits now⟩ ∈ trace := by
  rcases (h.answered_iff k _).1 hk with habsurd | ⟨a, ha, hanswer⟩
  · cases habsurd
  · cases a with
    | admits now => exact ⟨now, ha⟩
    | reads now | purges now | passes now | refuses now => cases hanswer

theorem split_of_mem {α : Type} (x y : α) (hxy : x ≠ y) (l : List α) (hx : x ∈ l) (hy : y ∈ l) :
    (∃ pre mid post, l = pre ++ x :: (mid ++ y :: post)) ∨
      ∃ pre mid post, l = pre ++ y :: (mid ++ x :: post) := by
  obtain ⟨pre, rest, rfl⟩ := List.append_of_mem hx
  rcases List.mem_append.1 hy with hy | hy
  · obtain ⟨front, mid, rfl⟩ := List.append_of_mem hy
    exact Or.inr ⟨front, mid, rest, by simp⟩
  · rcases List.mem_cons.1 hy with habsurd | hy
    · exact absurd habsurd.symm hxy
    · obtain ⟨mid, post, rfl⟩ := List.append_of_mem hy
      exact Or.inl ⟨pre, mid, post, rfl⟩

section
variable {claims : Nat → Claim} {s₀ : ReplayStore} {trace : List Event} {s : System}
  (h : Run claims { store := s₀ } trace s) {id : String}
  (hlast : ∀ e ∈ trace, (claims e.caller).id = id →
    ∀ f ∈ trace, f.action.now < (claims e.caller).expiry)
include h hlast

/-- Nobody is admitted after another while each entry outlives every reading. -/
theorem not_admits_again (i j : Nat) (now later : Instant) (pre mid post : List Event)
    (hi : (claims i).id = id) (hj : (claims j).id = id)
    (htrace : trace = pre ++ ⟨i, .admits now⟩ :: (mid ++ ⟨j, .admits later⟩ :: post)) : False := by
  subst htrace
  obtain ⟨e, he, -, hreach⟩ := h.writes_between (hi.trans hj.symm)
  have hmem : e ∈ pre ++ ⟨i, .admits now⟩ :: (mid ++ ⟨j, .admits later⟩ :: post) := by
    rcases List.mem_append.1 he with he | he
    · simp [he]
    · simp [List.mem_singleton.1 he]
  exact (Instant.not_lt _ _).2 hreach (hlast ⟨i, .admits now⟩ (by simp) hi e hmem)

theorem caller_unique (i j : Nat) (hi : (claims i).id = id) (hj : (claims j).id = id)
    (hiok : s.callers i = .answered (.ok ())) (hjok : s.callers j = .answered (.ok ())) :
    i = j := by
  apply Classical.byContradiction
  intro hne
  obtain ⟨now, hinow⟩ := h.admits_of_answered i hiok
  obtain ⟨later, hjlater⟩ := h.admits_of_answered j hjok
  have hevents : (⟨i, .admits now⟩ : Event) ≠ ⟨j, .admits later⟩ :=
    fun heq => hne (congrArg Event.caller heq)
  rcases split_of_mem _ _ hevents trace hinow hjlater with
    ⟨pre, mid, post, htrace⟩ | ⟨pre, mid, post, htrace⟩
  · exact not_admits_again h hlast i j now later pre mid post hi hj htrace
  · exact not_admits_again h hlast j i later now pre mid post hj hi htrace

end

/-- Whoever is answered under an identifier that the store did not hold, some caller is admitted
under it. -/
theorem Run.exists_admitted {claims : Nat → Claim} {s₀ : ReplayStore} {trace : List Event}
    {s : System} (h : Run claims { store := s₀ } trace s) {id : String}
    (hfresh : ∀ expiry, (id, expiry) ∉ s₀.entries) (k : Nat) (answer : Except Failure Unit)
    (hk : (claims k).id = id) (hanswer : s.callers k = .answered answer) :
    ∃ j, (claims j).id = id ∧ s.callers j = .answered (.ok ()) := by
  rcases (h.answered_iff k answer).1 hanswer with habsurd | ⟨a, ha, hanswer⟩
  · cases habsurd
  · cases a with
    | admits now =>
      exact ⟨k, hk, (h.answered_iff k _).2 (Or.inr ⟨.admits now, ha, rfl⟩)⟩
    | refuses now =>
      obtain ⟨pre, post, rfl⟩ := List.append_of_mem ha
      obtain ⟨m, c, store, hpre, hact, -⟩ := h.act
      obtain ⟨expiry, -, hentered, -⟩ := hpre.entry_of_refuses hact
      rcases admits_of_entered pre _ hentered with hstart | ⟨j, later, hj, hjid⟩
      · have hentry := (lookup_eq_some_of_nodup s₀.entries s₀.distinct _ _).1 hstart
        exact absurd (hk ▸ hentry) (hfresh expiry)
      · exact ⟨j, hjid.trans hk, (h.answered_iff j _).2
          (Or.inr ⟨.admits later, List.mem_append_left _ hj, rfl⟩)⟩
    | reads now | purges now | passes now => cases hanswer

/-- **One is admitted.** Whatever the order of the actions and of the readings: between two
admissions of one identifier, the second one included, something is written by a reading that the
first entry does not outlive; a caller is refused only for an entry that the store holds beyond its
reading, and that entry is the last one; and of claims to a new identifier that outlive every
reading one is admitted, as soon as any is answered. -/
theorem run_admits_one (claims : Nat → Claim) (s₀ : ReplayStore) (trace : List Event) (s : System)
    (h : Run claims { store := s₀ } trace s) :
    (∀ pre mid post i j now later,
      trace = pre ++ ⟨i, .admits now⟩ :: (mid ++ ⟨j, .admits later⟩ :: post) →
      (claims i).id = (claims j).id →
      ∃ e ∈ mid ++ [⟨j, .admits later⟩],
        e.action.writes = true ∧ (claims i).expiry ≤ e.action.now) ∧
    (∀ k now c store, Act s.store (claims k) (s.callers k) (.refuses now) c store →
      ∃ expiry, ((claims k).id, expiry) ∈ s.store.entries ∧
        entered claims s₀.ledger trace (claims k).id = some expiry ∧ now < expiry) ∧
    ∀ id, (∀ expiry, (id, expiry) ∉ s₀.entries) →
      (∀ e ∈ trace, (claims e.caller).id = id →
        ∀ f ∈ trace, f.action.now < (claims e.caller).expiry) →
      (∃ k answer, (claims k).id = id ∧ s.callers k = .answered answer) →
      ∃! k, (claims k).id = id ∧ s.callers k = .answered (.ok ()) := by
  refine ⟨?_, fun k now c store hact => h.entry_of_refuses hact, ?_⟩
  · intro pre mid post i j now later htrace hid
    subst htrace
    exact h.writes_between hid
  · rintro id hfresh hlast ⟨k, answer, hk, hanswer⟩
    obtain ⟨j, hj, hjok⟩ := h.exists_admitted hfresh k answer hk hanswer
    exact ⟨j, ⟨hj, hjok⟩, fun i ⟨hi, hiok⟩ => caller_unique h hlast i j hi hj hiok hjok⟩

/-- The first and the third caller want `_a`, all others `_b`. -/
def sampleClaims : Nat → Claim
  | 0 => ⟨"_a", .sample 10⟩
  | 2 => ⟨"_a", .sample 20⟩
  | _ => ⟨"_b", .sample 90⟩

/-- Both callers for `_a` read the clock at five seconds. Between their claims a third one purges by
a reading of ten seconds. -/
def sampleTrace : List Event :=
  [⟨2, .reads (.sample 5)⟩, ⟨0, .reads (.sample 5)⟩, ⟨0, .purges (.sample 5)⟩,
    ⟨0, .admits (.sample 5)⟩, ⟨1, .reads (.sample 10)⟩,
    ⟨1, .purges (.sample 10)⟩, ⟨2, .purges (.sample 5)⟩,
    ⟨2, .admits (.sample 5)⟩, ⟨1, .admits (.sample 10)⟩,
    ⟨3, .reads (.sample 0)⟩, ⟨3, .passes (.sample 0)⟩]

/-- The purge that goes by ten seconds is how `_a` comes to be admitted twice by readings of five.
Under `_b` one caller is admitted, and another one would be refused. -/
theorem run_admits_one_sample :
    ∃ s, Run sampleClaims { store := .withPolicy 0 ⟨0⟩ } sampleTrace s ∧
      (∃ e ∈ (sampleTrace.drop 4).take 4,
        e.action.writes = true ∧ .sample 10 ≤ e.action.now) ∧
      (∃ expiry, ("_b", expiry) ∈ s.store.entries ∧
        entered sampleClaims (ReplayStore.withPolicy 0 ⟨0⟩).ledger sampleTrace "_b" = some expiry ∧
        .sample 0 < expiry) ∧
      ∃! k, (sampleClaims k).id = "_b" ∧ s.callers k = .answered (.ok ()) := by
  have hrun : Run sampleClaims { store := .withPolicy 0 ⟨0⟩ } sampleTrace _ :=
    .cons (.reads _) <| .cons (.reads _) <| .cons (.purges _) <| .cons (.admits _ rfl) <|
    .cons (.reads _) <| .cons (.purges _) <| .cons (.purges _) <| .cons (.admits _ rfl) <|
    .cons (.admits _ rfl) <| .cons (.reads _) <| .cons (.passes _) <| .nil _
  obtain ⟨htwice, hrefused, hone⟩ := run_admits_one sampleClaims _ sampleTrace _ hrun
  exact ⟨_, hrun, htwice (sampleTrace.take 3) [_, _, _] (sampleTrace.drop 8) 0 2 _ _ rfl rfl,
    hrefused 3 (.sample 0) _ _ (.refuses _ rfl),
    hone "_b" (fun _ => List.not_mem_nil) (by decide) ⟨1, _, rfl, rfl⟩⟩

end Federation.Exchange.Contention
