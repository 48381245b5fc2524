import Federation.Files
import Federation.Metadata.Trust
import Federation.Text.Url
import Federation.Time.Span

/-!
# Resolvers

A resolver answers from the document it loaded last. A load that fails or takes too long leaves the
document in place. Answers are kept beside the document they were derived from, so replacing the
document drops them.

- `Source` is where documents come from; a source may be read again at each load.
- `Snapshot` is a loaded document with the answers derived from it so far.
- `Resolver.refresh` loads; `Resolver.resolve` answers and keeps the answer, `Resolver.trusted` only
  answers.
-/

namespace Federation.Metadata

open Federation.Saml Federation.Time
open Federation.Crypto (PublicCredential KeyTransport)

/-! ## Sources -/

/-- How a load ends. -/
inductive Load
  | finished (result : Except Failure Document)
  /-- It does not end before any bound. -/
  | stalled

structure Source where
  description : String
  load : Load

namespace Source

def ofDocument (d : Document) : Source := ⟨"memory", .finished (.ok d)⟩

/-- A file is read at each load. -/
def ofFile (files : Files) (path : String) : Source where
  description := "file:" ++ path
  load := .finished <| match files.read path with
    | .text s => Document.parse s
    | .missing => .error (.metadata ("cannot read " ++ path ++ ": no such file"))
    | .unreadable reason => .error (.metadata ("cannot read " ++ path ++ ": " ++ reason))

/-- A document in the web. This library opens no connections, so it cannot be fetched. -/
def ofUrl (url : String) : Except Failure Source :=
  match Text.Url.parse? url with
  | none => .error (.configuration ("invalid metadata URL " ++ url ++ ": it cannot be read"))
  | some (.other scheme) =>
    .error (.configuration ("unsupported metadata URL scheme: " ++ String.ofList scheme))
  | some u =>
    .ok ⟨u.text, .finished (.error (.metadata ("cannot fetch " ++ u.text
      ++ ": error sending request for url (" ++ u.text ++ ")")))⟩

end Source

/-! ## Snapshots -/

/-- What an answer is about. -/
structure TrustQuery where
  entityId : String
  role : Role
  protocol : Protocol
deriving DecidableEq, Repr

/-- A loaded document, when it was loaded, and the answers derived from it. -/
structure Snapshot where
  document : Document
  loadedAt : Span
  cache : List (TrustQuery × TrustedEntity) := []
deriving DecidableEq, Repr

/-- Answers from the cache or from the document; a new answer goes into the cache. -/
def Snapshot.resolve (s : Snapshot) (default : KeyTransport) (q : TrustQuery) :
    Except Failure TrustedEntity × Snapshot :=
  match s.cache.lookup q with
  | some entity => (.ok entity, s)
  | none =>
    match s.document.trusted default q.entityId q.role q.protocol with
    | .ok entity => (.ok entity, { s with cache := (q, entity) :: s.cache })
    | .error f => (.error f, s)

/-! ## Resolvers -/

/-- When a resolver loads again. -/
inductive RefreshPolicy
  | onDemand
  /-- When the document is at least as old as the interval. -/
  | interval (span : Span)
deriving DecidableEq, Repr

namespace RefreshPolicy

def ofInterval : Option Span → RefreshPolicy
  | none => onDemand
  | some span => interval span

def text : RefreshPolicy → String
  | onDemand => "OnDemand"
  | interval span => "Interval(" ++ span.text ++ ")"

end RefreshPolicy

structure Resolver where
  policy : RefreshPolicy := .onDemand
  /-- The bound on a load. -/
  loadTimeout : Span := .ofSeconds 10
  /-- What wraps session keys when metadata names nothing. -/
  defaultTransport : KeyTransport := .rsaOaepMgf1p
  snapshot : Option Snapshot := none
deriving DecidableEq, Repr

namespace Resolver

/-- The result of a load within the bound. -/
def finish (r : Resolver) (source : Source) : Except Failure Document :=
  match source.load with
  | .finished result => result
  | .stalled => .error (.metadata ("loading " ++ source.description ++ " exceeded "
      ++ toString r.loadTimeout.seconds ++ "s"))

/-- Loads a document; if that fails, the one before stays. -/
def refresh (r : Resolver) (source : Source) (clock : Span) : Except Failure Unit × Resolver :=
  match r.finish source with
  | .ok document => (.ok (), { r with snapshot := some { document, loadedAt := clock } })
  | .error f => (.error f, r)

/-- A resolver without a document is stale, and one whose document is too old. -/
def isStale (r : Resolver) (clock : Span) : Bool :=
  match r.snapshot, r.policy with
  | none, _ => true
  | some _, .onDemand => false
  | some s, .interval span => span.nanos ≤ clock.nanos - s.loadedAt.nanos

/-- Loads if need be, and says whether it did. A failure only counts if there is no document. -/
def refreshIfStale (r : Resolver) (source : Source) (clock : Span) :
    Except Failure Bool × Resolver :=
  if r.isStale clock then
    match r.refresh source clock, r.snapshot with
    | (.ok (), r'), _ => (.ok true, r')
    | (.error _, r'), some _ => (.ok false, r')
    | (.error f, r'), none => (.error f, r')
  else (.ok false, r)

def current (r : Resolver) : Except Failure Snapshot :=
  match r.snapshot with
  | some s => .ok s
  | none => .error (.trustResolution "metadata has not been loaded")

def document (r : Resolver) : Except Failure Document := r.current.map (·.document)

/-- The trusted entity of a query, straight from the document. -/
def trusted (r : Resolver) (q : TrustQuery) : Except Failure TrustedEntity := do
  (← r.document).trusted r.defaultTransport q.entityId q.role q.protocol

/-- The trusted entity of a query, kept for the next time. -/
def resolve (r : Resolver) (q : TrustQuery) : Except Failure TrustedEntity × Resolver :=
  match r.current with
  | .ok s =>
    let (answer, s') := s.resolve r.defaultTransport q
    (answer, { r with snapshot := some s' })
  | .error f => (.error f, r)

/-- The keys that an entity publishes in a role for a use. -/
def credentials (r : Resolver) (id : String) (role : Role) (use : KeyUse) :
    Except Failure (List PublicCredential) := do
  (← r.document).credentials id role use

/-- Only a policy with an interval needs to load in the background. -/
def loadsInBackground (r : Resolver) : Bool := r.policy != .onDemand

/-- The resolver as records show it. -/
def shown (r : Resolver) (source : Source) : String :=
  "Resolver \x7b source: " ++ source.description ++ ", policy: " ++ r.policy.text
    ++ ", load_timeout: " ++ r.loadTimeout.text ++ ", cached_entities: "
    ++ toString ((r.snapshot.map (·.cache.length)).getD 0) ++ ", .. \x7d"

end Resolver

end Federation.Metadata
