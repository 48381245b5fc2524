import Federation.Exchange.Replay

/-!
# Contention

A replay store that callers share, each with one identifier to claim. A claim comes in three actions
that nothing interrupts: the caller reads the clock, purges the store if that is due, and checks and
enters its identifier. Between them other callers may do anything, so a caller may come to the store
with a reading that is older than those of others before it.

- `Act` is what a caller may do next, by how far it has come.
- `Run` is a list of actions of any callers, one after the other.
-/

namespace Federation.Exchange.Contention

open Federation.Saml Federation.Time

/-! ## Callers -/

/-- What a caller wants to enter. -/
structure Claim where
  id : String
  expiry : Instant

/-- How far a caller has come. -/
inductive Caller
  /-- Has not called yet. -/
  | ready
  /-- Has read the clock. -/
  | timed (now : Instant)
  /-- Is done with purging. -/
  | purged (now : Instant)
  | answered (answer : Except Failure Unit)

/-- An action with the reading of the clock that it goes by. -/
inductive Action
  | reads (now : Instant)
  | purges (now : Instant)
  | passes (now : Instant)
  | admits (now : Instant)
  | refuses (now : Instant)
deriving DecidableEq

def Action.now : Action → Instant
  | .reads now | .purges now | .passes now | .admits now | .refuses now => now

/-- What a caller with a claim may do next: it comes from one point to another and changes the
store. -/
inductive Act (s : ReplayStore) (c : Claim) : Caller → Action → Caller → ReplayStore → Prop
  | reads (now : Instant) : Act s c .ready (.reads now) (.timed now) s
  | purges (now : Instant) : Act s c (.timed now) (.purges now) (.purged now) (s.purgeIfDue now)
  /-- Another caller is purging, and this one does not wait for it. -/
  | passes (now : Instant) : Act s c (.timed now) (.passes now) (.purged now) s
  | admits (now : Instant) (h : s.seen c.id now = false) :
      Act s c (.purged now) (.admits now) (.answered (.ok ())) (s.record c.id c.expiry)
  | refuses (now : Instant) (h : s.seen c.id now = true) :
      Act s c (.purged now) (.refuses now) (.answered (.error (.replayDetected c.id))) s

/-! ## Runs -/

/-- A store, and the callers that share it. -/
structure System where
  store : ReplayStore
  callers : Nat → Caller := fun _ => .ready

/-- The system after a caller has acted. -/
def System.put (s : System) (k : Nat) (c : Caller) (store : ReplayStore) : System where
  store
  callers j := if j = k then c else s.callers j

structure Event where
  caller : Nat
  action : Action
deriving DecidableEq

/-- A list of events, one after the other, of callers with these claims. -/
inductive Run (claims : Nat → Claim) : System → List Event → System → Prop
  | nil (s : System) : Run claims s [] s
  | cons {s t : System} {k : Nat} {a : Action} {c : Caller} {store : ReplayStore}
      {rest : List Event} (h : Act s.store (claims k) (s.callers k) a c store)
      (hrest : Run claims (s.put k c store) rest t) : Run claims s (⟨k, a⟩ :: rest) t

end Federation.Exchange.Contention
