import Federation.Crypto.Certificate.Period
import Federation.Crypto.KeyInfo

/-!
# Certificates

The X.509 certificate, of which only the published key is used. The rest has to have the right
shape and is not judged.

    keyInfo? der = some k implies that k stands in der, and k starts with a published key
-/

namespace Federation.Crypto.Certificate

/-! ## Before the key -/

/-- The bytes after the version, which may be absent. -/
def afterVersion? (b : Bytes) : Option Bytes := do
  let p ← Der.Part.read? b
  if p.number ≠ 0 then return b
  let version ← (← Der.Part.numbered? Der.integer p.body).simple?
  let n ← Der.unsigned? version.body
  if p.context ∧ n < 2 ^ 32 then some p.rest else none

/-! ## After the key -/

/-- The bytes after an identifier of the issuer or the subject, which may be absent. -/
def afterUniqueId? (n : Nat) (b : Bytes) : Option Bytes :=
  if b.isEmpty then some b
  else do
    let (head, _) ← Der.closedHead? b
    if head.number ≠ n then return b
    let p ← Der.Part.read? b
    let _ ← p.bits?
    if p.context then some p.rest else none

/-- The bytes after the mark of a critical extension, which may be absent. -/
def afterMark? (b : Bytes) : Option Bytes := do
  let (head, more) ← Der.head? b
  if head.number ≠ Der.number Der.boolean then some b
  else if head.size? = some 1 ∧ !more.isEmpty then some (more.drop 1)
  else none

/-- An extension is its identifier, whether it is critical, and its value. -/
def isExtension (p : Der.Part) : Bool :=
  p.number = Der.number Der.sequence && (do
    let id ← (← Der.Part.read? p.body).simple?
    let value ← Der.Part.numbered? Der.octetString (← afterMark? id.rest)
    value.simple?).isSome

/-- The extensions, which may be absent, are all that is left; a list of them is wrapped in a part
of which the head alone counts. -/
def areExtensions (b : Bytes) : Bool :=
  b.isEmpty || (do
    let (head, more) ← Der.closedHead? b
    let list ← Der.Part.numbered? Der.sequence more
    let extensions ← Der.parts? list.body
    return head.number = 3 && list.rest.isEmpty && extensions.all isExtension).getD false

/-! ## The key -/

/-- The published key in the signed part of a certificate. -/
def signedKeyInfo? (b : Bytes) : Option Bytes := do
  let b ← Der.after? Der.integer (← afterVersion? b)
  let (_, b) ← AlgorithmId.read? b
  let issuer ← Der.Part.numbered? Der.sequence b
  let period ← Der.Part.numbered? Der.sequence issuer.rest
  let subject ← Der.Part.numbered? Der.sequence period.rest
  let (_, size, b) ← KeyInfo.read? subject.rest
  let b ← afterUniqueId? 2 (← afterUniqueId? 1 b)
  if isPeriod period.body ∧ areExtensions b then some (subject.rest.take size) else none

/-- The published key of a certificate, as it is written there. -/
def keyInfo? (der : Bytes) : Option Bytes := do
  let certificate ← Der.Part.numbered? Der.sequence der
  let signed ← Der.Part.numbered? Der.sequence certificate.body
  let (_, b) ← AlgorithmId.read? signed.rest
  let _ ← (← Der.Part.numbered? Der.bitString b).bits?
  signedKeyInfo? signed.body

def keyInfo (der : Bytes) : Except Failure Bytes :=
  match keyInfo? der with
  | some b => .ok b
  | none => .error (.invalidKey "malformed certificate: not a readable structure")

end Federation.Crypto.Certificate
