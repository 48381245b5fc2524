import Federation.Metadata.Resolver

/-!
# Shared resolvers

A resolver that tasks share. Each call is a task, and what it does comes in actions that nothing
interrupts, while between them other tasks may do anything. A task that resolves takes the snapshot
in force and keeps it: it searches and fills the cache of that snapshot even if another document has
been put in force in the meantime. One task at a time loads.

- `Act` is what a task may do next, by how far it has come.
- `Step` is one action of a task, or the source being replaced, and `Run` a list of steps.
- `Shared.resolver` is the resolver that a call finds.
-/

namespace Federation.Metadata

open Federation.Saml Federation.Time
open Federation.Crypto (KeyTransport)

/-- The answer to a query that a document gives. -/
def Document.answer (d : Document) (default : KeyTransport) (q : TrustQuery) :
    Except Failure TrustedEntity :=
  d.trusted default q.entityId q.role q.protocol

/-! ## What is shared -/

structure Shared where
  policy : RefreshPolicy := .onDemand
  loadTimeout : Span := .ofSeconds 10
  defaultTransport : KeyTransport := .rsaOaepMgf1p
  source : Source
  /-- All snapshots, oldest first. The last is in force; earlier ones are of use to those who took
  them. -/
  snapshots : List Snapshot := []
  /-- A task is loading. -/
  locked : Bool := false

namespace Shared

def resolver (m : Shared) : Resolver where
  policy := m.policy
  loadTimeout := m.loadTimeout
  defaultTransport := m.defaultTransport
  snapshot := m.snapshots.getLast?

/-- Every document that was loaded, oldest first. -/
def documents (m : Shared) : List Document := m.snapshots.map (·.document)

/-- Puts a document in force. -/
def install (m : Shared) (d : Document) (clock : Span) : Shared :=
  { m with snapshots := m.snapshots ++ [{ document := d, loadedAt := clock }], locked := false }

/-- Keeps an answer in the snapshot with this number. -/
def keep (m : Shared) (number : Nat) (q : TrustQuery) (e : TrustedEntity) : Shared :=
  { m with snapshots := m.snapshots.modify number fun s => { s with cache := (q, e) :: s.cache } }

/-- What a load that takes too long ends with. -/
def overdue (m : Shared) : Except Failure Document :=
  m.resolver.finish { m.source with load := .stalled }

/-- What a call answers whose load ended so. -/
def report (m : Shared) (ifStale : Bool) : Except Failure Unit → Except Failure Bool
  | .ok () => .ok true
  | .error f => if ifStale && m.resolver.snapshot.isSome then .ok false else .error f

end Shared

/-! ## Tasks -/

/-- How far a call has come. -/
inductive Task
  /-- Not made yet. -/
  | ready
  /-- To resolve, without a snapshot so far. -/
  | asking (q : TrustQuery)
  /-- Has taken the snapshot with this number. -/
  | holding (q : TrustQuery) (number : Nat)
  /-- Has an answer, which is to be kept in that snapshot. -/
  | keeping (q : TrustQuery) (number : Nat) (e : TrustedEntity)
  | answered (q : TrustQuery) (answer : Except Failure TrustedEntity)
  /-- To refresh, or only if the document is stale. -/
  | waiting (ifStale : Bool)
  | loading (ifStale : Bool)
  | loaded (ifStale : Bool) (result : Except Failure Document)
  | ended (ifStale : Bool) (result : Except Failure Unit)
  | refreshed (ifStale : Bool) (answer : Except Failure Bool)
  /-- Given up by the caller while it waited. -/
  | dropped

inductive Action
  | asks (q : TrustQuery)
  | takes
  | searches
  | keeps
  | calls (ifStale : Bool)
  | locks
  | reads
  | loads (result : Except Failure Document)
  | reports (ifStale : Bool) (answer : Except Failure Bool)
  | drops

/-- The document that an action puts in force. -/
def Action.document? : Action → Option Document
  | .loads (.ok d) => some d
  | _ => none

/-- What a task may do next: it comes from one point to another and changes what is shared. -/
inductive Act (m : Shared) : Task → Action → Task → Shared → Prop
  | asks (q : TrustQuery) : Act m .ready (.asks q) (.asking q) m
  | takes (q : TrustQuery) (h : m.snapshots ≠ []) :
      Act m (.asking q) .takes (.holding q (m.snapshots.length - 1)) m
  /-- There is no snapshot to take. -/
  | lacks (q : TrustQuery) (f : Failure) (h : m.resolver.current = .error f) :
      Act m (.asking q) .takes (.answered q (.error f)) m
  | finds (q : TrustQuery) (number : Nat) (s : Snapshot) (e : TrustedEntity)
      (hs : m.snapshots[number]? = some s) (h : s.cache.lookup q = some e) :
      Act m (.holding q number) .searches (.answered q (.ok e)) m
  /-- The cache has no answer, and the document does. -/
  | derives (q : TrustQuery) (number : Nat) (s : Snapshot) (e : TrustedEntity)
      (hs : m.snapshots[number]? = some s) (hcache : s.cache.lookup q = none)
      (h : s.document.answer m.defaultTransport q = .ok e) :
      Act m (.holding q number) .searches (.keeping q number e) m
  | refuses (q : TrustQuery) (number : Nat) (s : Snapshot) (f : Failure)
      (hs : m.snapshots[number]? = some s) (hcache : s.cache.lookup q = none)
      (h : s.document.answer m.defaultTransport q = .error f) :
      Act m (.holding q number) .searches (.answered q (.error f)) m
  | keeps (q : TrustQuery) (number : Nat) (e : TrustedEntity) :
      Act m (.keeping q number e) .keeps (.answered q (.ok e)) (m.keep number q e)
  | calls : Act m .ready (.calls false) (.waiting false) m
  | callsStale (clock : Span) (h : m.resolver.isStale clock = true) :
      Act m .ready (.calls true) (.waiting true) m
  | callsFresh (clock : Span) (h : m.resolver.isStale clock = false) :
      Act m .ready (.calls true) (.refreshed true (.ok false)) m
  | locks (ifStale : Bool) (h : m.locked = false) :
      Act m (.waiting ifStale) .locks (.loading ifStale) { m with locked := true }
  | reads (ifStale : Bool) :
      Act m (.loading ifStale) .reads (.loaded ifStale (m.resolver.finish m.source)) m
  /-- Any load may take too long. -/
  | waits (ifStale : Bool) : Act m (.loading ifStale) .reads (.loaded ifStale m.overdue) m
  | loads (ifStale : Bool) (d : Document) (clock : Span) :
      Act m (.loaded ifStale (.ok d)) (.loads (.ok d)) (.ended ifStale (.ok ())) (m.install d clock)
  | fails (ifStale : Bool) (f : Failure) :
      Act m (.loaded ifStale (.error f)) (.loads (.error f)) (.ended ifStale (.error f))
        { m with locked := false }
  | reports (ifStale : Bool) (result : Except Failure Unit) (answer : Except Failure Bool)
      (h : m.report ifStale result = answer) :
      Act m (.ended ifStale result) (.reports ifStale answer) (.refreshed ifStale answer) m
  | leaves (ifStale : Bool) : Act m (.waiting ifStale) .drops .dropped m
  /-- A task that is given up while it loads lets the next one load. -/
  | unlocks (ifStale : Bool) :
      Act m (.loading ifStale) .drops .dropped { m with locked := false }

/-! ## Runs -/

/-- What is shared, and the tasks that share it. -/
structure System where
  shared : Shared
  tasks : Nat → Task := fun _ => .ready

inductive Event
  | replaced (source : Source)
  | acted (k : Nat) (a : Action)

/-- The document that an event puts in force. -/
def Event.document? : Event → Option Document
  | .replaced _ => none
  | .acted _ a => a.document?

namespace System

/-- Nothing is loaded, and no call is made yet. -/
def start (policy : RefreshPolicy) (loadTimeout : Span) (defaultTransport : KeyTransport)
    (source : Source) : System where
  shared := { policy, loadTimeout, defaultTransport, source }

/-- The system after a task has acted. -/
def put (s : System) (k : Nat) (t : Task) (m : Shared) : System where
  shared := m
  tasks j := if j = k then t else s.tasks j

/-- Everything that can happen next. -/
inductive Step (s : System) : Event → System → Prop
  | replaced (source : Source) :
      Step s (.replaced source) { s with shared := { s.shared with source } }
  | acted (k : Nat) (a : Action) (t : Task) (m : Shared) (h : Act s.shared (s.tasks k) a t m) :
      Step s (.acted k a) (s.put k t m)

/-- A list of events, one after the other. -/
inductive Run : System → List Event → System → Prop
  | nil (s : System) : Run s [] s
  | cons {s s' t : System} {e : Event} {rest : List Event} (h : Step s e s')
      (hrest : Run s' rest t) : Run s (e :: rest) t

/-- The documents that the events of a run put in force, oldest first. -/
def loads (events : List Event) : List Document := events.filterMap Event.document?

end System

end Federation.Metadata
