import Federation.Proofs.Exchange.Replay

/-!
# Purging that nobody sees

A ledger keeps the last expiry of every identifier forever. Under a clock that never goes back a
store answers whatever is asked of it as its ledger does, so no answer tells when it was purged, or
by which rule.

    answers ReplayStore.perform s l = answers Ledger.perform s.ledger l          (answers_ledger)

- `Operation` is all that can be asked of a store, and `Answer` what it tells.
- `ReplayStore.Follows` is the invariant between a store and a ledger, and `follows_perform` its
  step.
-/

namespace Federation.Exchange

open Federation.Saml Federation.Time

namespace ReplayStore

/-! ## Operations -/

inductive Operation
  | seen (id : String)
  | record (id : String) (expiry : Instant)
  | claim (id : String) (expiry : Instant)
  | purge

/-- What a caller is told. How many entries there are, and how many are dropped, is not part of
it. -/
inductive Answer
  | seen (remembered : Bool)
  | claimed (result : Except Failure Unit)
  | done

/-- What a store answers at a reading of the clock, and the store after it. -/
def perform (s : ReplayStore) (now : Instant) : Operation → Answer × ReplayStore
  | .seen id => (.seen (s.seen id now), s)
  | .record id expiry => (.done, s.record id expiry)
  | .claim id expiry => (.claimed (s.claim id expiry now).1, (s.claim id expiry now).2)
  | .purge => (.done, s.purge now)

/-- The answers to operations, each at its own reading of the clock. -/
def answers {σ : Type} (perform : σ → Instant → Operation → Answer × σ) (s : σ) :
    List (Instant × Operation) → List Answer
  | [] => []
  | (now, o) :: rest => (perform s now o).1 :: answers perform (perform s now o).2 rest

end ReplayStore

/-! ## Ledgers -/

/-- The last expiry of every identifier that was ever remembered. -/
def Ledger := String → Option Instant

namespace Ledger

open ReplayStore (Operation Answer)

/-- The expiry of the identifier is still to come. -/
def live (l : Ledger) (id : String) (now : Instant) : Bool :=
  match l id with
  | some expiry => decide (now < expiry)
  | none => false

def record (l : Ledger) (id : String) (expiry : Instant) : Ledger :=
  fun id' => if id' = id then some expiry else l id'

def claim (l : Ledger) (id : String) (expiry now : Instant) : Except Failure Unit × Ledger :=
  if l.live id now then (.error (.replayDetected id), l) else (.ok (), l.record id expiry)

/-- A ledger has nothing to purge. -/
def perform (l : Ledger) (now : Instant) : Operation → Answer × Ledger
  | .seen id => (.seen (l.live id now), l)
  | .record id expiry => (.done, l.record id expiry)
  | .claim id expiry => (.claimed (l.claim id expiry now).1, (l.claim id expiry now).2)
  | .purge => (.done, l)

theorem live_record (l : Ledger) (id id' : String) (expiry now : Instant) :
    (l.record id expiry).live id' now =
      if id' = id then decide (now < expiry) else l.live id' now := by
  unfold live record
  by_cases hid : id' = id
  · rw [if_pos hid, if_pos hid]
  · rw [if_neg hid, if_neg hid]

end Ledger

namespace ReplayStore

/-- What a store remembers, expired entries included. -/
def ledger (s : ReplayStore) : Ledger := fun id => s.entries.lookup id

/-! ## One operation -/

/-- Whoever asks at `t` or later is told the same by the store and by the ledger. -/
def Follows (s : ReplayStore) (l : Ledger) (t : Instant) : Prop :=
  ∀ id now, t ≤ now → s.seen id now = l.live id now

theorem follows_ledger (s : ReplayStore) (t : Instant) : s.Follows s.ledger t :=
  fun _ _ _ => rfl

section
variable {s : ReplayStore} {l : Ledger} {t now : Instant} (h : s.Follows l t) (ht : t ≤ now)

include h in
theorem follows_record (id : String) (expiry : Instant) :
    (s.record id expiry).Follows (l.record id expiry) t := by
  intro id' later hlater
  rw [seen_record, Ledger.live_record, h id' later hlater]

include h ht

theorem follows_of_le : s.Follows l now :=
  fun id later hlater => h id later (Instant.le_trans _ _ _ ht hlater)

theorem follows_purge : (s.purge now).Follows l now := by
  intro id later hlater
  rw [seen_purge s id now later hlater]
  exact follows_of_le h ht id later hlater

theorem follows_purgeIfDue : (s.purgeIfDue now).Follows l now := by
  unfold purgeIfDue
  split
  · exact follows_purge h ht
  · exact follows_of_le h ht

theorem follows_claim (id : String) (expiry : Instant) :
    (s.claim id expiry now).1 = (l.claim id expiry now).1 ∧
      (s.claim id expiry now).2.Follows (l.claim id expiry now).2 now := by
  have hpurged := follows_purgeIfDue h ht
  rw [claim_eq, h id now ht]
  unfold Ledger.claim
  split
  · exact ⟨rfl, hpurged⟩
  · exact ⟨rfl, follows_record hpurged id expiry⟩

theorem follows_perform (o : Operation) : (s.perform now o).1 = (l.perform now o).1 ∧
    (s.perform now o).2.Follows (l.perform now o).2 now := by
  cases o with
  | seen id => exact ⟨congrArg Answer.seen (h id now ht), follows_of_le h ht⟩
  | record id expiry => exact ⟨rfl, follows_record (follows_of_le h ht) id expiry⟩
  | claim id expiry =>
    obtain ⟨hanswer, hfollows⟩ := follows_claim h ht id expiry
    exact ⟨congrArg Answer.claimed hanswer, hfollows⟩
  | purge => exact ⟨rfl, follows_purge h ht⟩

end

/-! ## Whole runs -/

theorem answers_of_follows (operations : List (Instant × Operation)) :
    ∀ (s : ReplayStore) (l : Ledger) (t : Instant), s.Follows l t →
      (∀ o ∈ operations, t ≤ o.1) → operations.Pairwise (fun a b => a.1 ≤ b.1) →
      answers perform s operations = answers Ledger.perform l operations := by
  induction operations with
  | nil =>
    intro s l t _ _ _
    rfl
  | cons head rest ih =>
    intro s l t hfollows ht hclock
    obtain ⟨now, o⟩ := head
    rw [List.pairwise_cons] at hclock
    obtain ⟨hanswer, hnext⟩ := follows_perform hfollows (ht _ List.mem_cons_self) o
    rw [answers, answers, hanswer, ih _ _ now hnext hclock.1 hclock.2]

/-- **Purging is not seen.** Whatever rule a store is purged by, under a clock that never goes back
it answers every sequence of operations as the ledger does that starts with what the store
remembers. -/
theorem answers_ledger (s : ReplayStore) (operations : List (Instant × Operation))
    (hclock : operations.Pairwise fun a b => a.1 ≤ b.1) :
    answers perform s operations = answers Ledger.perform s.ledger operations :=
  answers_of_follows operations s s.ledger .earliest (s.follows_ledger _)
    (fun o _ => o.1.earliest_le) hclock

def sampleOperations : List (Instant × Operation) :=
  [(.sample 0, .record "_a" (.sample 10)),
   (.sample 0, .claim "_b" (.sample 60)),
   (.sample 10, .claim "_c" (.sample 20)),
   (.sample 10, .seen "_a"),
   (.sample 10, .claim "_b" (.sample 90)),
   (.sample 20, .purge),
   (.sample 20, .claim "_c" (.sample 30))]

/-- The second claim drops `_a` on its way, and `_c` is dropped on demand and then claimed again. -/
theorem answers_ledger_sample :
    answers perform (withPolicy 1 ⟨0⟩) sampleOperations
        = answers Ledger.perform (fun _ => none) sampleOperations ∧
      answers perform (withPolicy 1 ⟨0⟩) sampleOperations
        = [.done, .claimed (.ok ()), .claimed (.ok ()), .seen false,
          .claimed (.error (.replayDetected "_b")), .done, .claimed (.ok ())] :=
  ⟨answers_ledger (withPolicy 1 ⟨0⟩) sampleOperations (by decide), rfl⟩

end ReplayStore

end Federation.Exchange
