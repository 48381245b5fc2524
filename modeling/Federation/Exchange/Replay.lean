import Federation.Saml.Failure
import Federation.Time.Instant

/-!
# Replay

Identifiers of assertions that were accepted, each until it expires; an identifier that is still
remembered cannot be claimed again. Expired ones are dropped now and then, which no answer shows.

- `ReplayStore.claim` is the check and the entry in one step.
- `ReplayStore.purgeIfDue` drops what has expired once the store is large, at most once an interval.
-/

namespace Federation.Exchange

open Federation.Saml Federation.Time

structure ReplayStore where
  /-- Identifiers with their expiry. -/
  entries : List (String × Instant) := []
  /-- Each identifier stands once. -/
  distinct : (entries.map (·.1)).Nodup := by exact List.nodup_nil
  /-- More entries than these may be purged. -/
  threshold : Nat := 10000
  /-- The least time between two purges. -/
  interval : Duration := .ofSeconds 60
  nextPurge : Instant := .earliest
deriving DecidableEq, Repr

namespace ReplayStore

/-! ## Algorithm -/

/-- An empty store with its own rule for purging. -/
def withPolicy (threshold : Nat) (interval : Duration) : ReplayStore :=
  { threshold, interval := interval.abs }

/-- The identifier is remembered and has not expired. -/
def seen (s : ReplayStore) (id : String) (now : Instant) : Bool :=
  match s.entries.lookup id with
  | some expiry => decide (now < expiry)
  | none => false

/-- Remembers an identifier until it expires, in place of an earlier entry. -/
def record (s : ReplayStore) (id : String) (expiry : Instant) : ReplayStore :=
  { s with
    entries := (id, expiry) :: s.entries.filter fun e => e.1 != id
    distinct := by
      have hkept := s.distinct.sublist (List.filter_sublist (p := fun e => e.1 != id) |>.map _)
      simpa using hkept }

/-- Drops the entries that have expired. -/
def purge (s : ReplayStore) (now : Instant) : ReplayStore :=
  { s with
    entries := s.entries.filter fun e => decide (now < e.2)
    distinct := s.distinct.sublist (List.filter_sublist.map _) }

/-- How many entries a purge drops. -/
def purgeable (s : ReplayStore) (now : Instant) : Nat :=
  s.entries.length - (s.purge now).entries.length

/-- The instant from which the next purge is due. -/
def purgeAfter (s : ReplayStore) (now : Instant) : Instant :=
  (now.add? s.interval).getD .latest

def purgeIfDue (s : ReplayStore) (now : Instant) : ReplayStore :=
  if s.threshold < s.entries.length ∧ s.nextPurge ≤ now then
    { s.purge now with nextPurge := s.purgeAfter now }
  else s

/-- Remembers an identifier unless it is remembered already. -/
def claim (s : ReplayStore) (id : String) (expiry now : Instant) :
    Except Failure Unit × ReplayStore :=
  let s := s.purgeIfDue now
  if s.seen id now then (.error (.replayDetected id), s) else (.ok (), s.record id expiry)

/-- A claim as two separate steps, for a store that cannot do both at once. -/
def claimInSteps (s : ReplayStore) (id : String) (expiry now : Instant) :
    Except Failure Unit × ReplayStore :=
  if s.seen id now then (.error (.replayDetected id), s) else (.ok (), s.record id expiry)

/-- The number of entries, expired ones included. -/
def size (s : ReplayStore) : Nat := s.entries.length

end ReplayStore

end Federation.Exchange
