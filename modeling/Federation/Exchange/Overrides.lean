import Federation.Exchange.Capability

/-!
# Overrides

Which peers are served by capabilities of their own. Peers go by a code in any case of its letters,
and of two capabilities of one kind for one peer the later one counts.

    (o.register code i).find? code' kind = if code' is code and kind is i.kind then i
                                           else o.find? code' kind
-/

namespace Federation.Exchange

open Federation.Crypto (Suite)

/-- The capabilities that peers have of their own, each peer and kind once. -/
structure Overrides where
  entries : List ((String × CapabilityKind) × Implementation) := []

namespace Overrides

/-! ## Algorithm -/

/-- What a capability is kept under. -/
def place (code : String) (kind : CapabilityKind) : String × CapabilityKind := (code.toLower, kind)

/-- Gives a peer a capability, in place of one of its kind that it had. -/
def register (o : Overrides) (code : String) (i : Implementation) : Overrides :=
  let key := place code i.kind
  { entries := (key, i) :: o.entries.filter fun e => e.1 ≠ key }

/-- The capability of a kind that a peer has of its own. -/
def find? (o : Overrides) (code : String) (kind : CapabilityKind) : Option Implementation :=
  o.entries.lookup (place code kind)

/-- The capability that serves a peer; without a code it is the standard one. -/
def implementation (o : Overrides) (suite : Suite) (code : Option String) (kind : CapabilityKind) :
    Implementation :=
  (code.bind fun c => o.find? c kind).getD (.standard suite kind)

/-- The four capabilities that serve a peer. -/
def capabilities (o : Overrides) (suite : Suite) (code : Option String) : Capabilities :=
  CapabilityKind.all.foldl (fun c kind => c.put (o.implementation suite code kind))
    (.standard suite)

/-- The overrides as records show them. -/
def shown (o : Overrides) : String :=
  "ImplementationRegistry \x7b overrides: " ++ toString o.entries.length ++ " \x7d"

/-! ## Lemmas -/

theorem find?_register_self (o : Overrides) (code : String) (i : Implementation) :
    (o.register code i).find? code i.kind = some i := by
  simp [register, find?]

end Overrides

end Federation.Exchange
