import Federation.Crypto.Credential
import Federation.Crypto.Prime
import Federation.Crypto.Random

/-!
# Generation of keys

New private keys from random bytes. A new key is written out and read back, so what is returned went
through the same checks as a key from elsewhere.
-/

namespace Federation.Crypto

namespace Secret

/-- The public exponent of new RSA keys, a prime. -/
def exponent : Nat := 65537

/-- A prime of `bits` bits whose two highest bits are set, so that two of them multiply to a number
of full length. -/
def prime? (random : Random) (purpose : Purpose) (bits : Nat) : Option Nat :=
  let drawn := Bytes.toNat (random.bytes purpose (bits / 8))
  let start := drawn ||| 2 ^ (bits - 1) ||| 2 ^ (bits - 2) ||| 1
  Prime.search? (fun p => (p - 1) % exponent != 0) (64 * bits) start

/-- An RSA key with two primes in PKCS #8. The secret exponent is the quotient by the public one of
a multiple of `(p - 1) * (q - 1)`, plus one. -/
def encodeRsa (p q : Nat) : Bytes :=
  let n := p * q
  let m := (p - 1) * (q - 1)
  let d := (1 + m * (exponent - Modular.inverse m exponent)) / exponent
  let parts := [0, n, exponent, d, p, q, d % (p - 1), d % (q - 1), Modular.inverse q p]
  Der.item Der.sequence (Der.unsigned 0 ++ AlgorithmId.encode .rsa
    ++ Der.item Der.octetString (Der.item Der.sequence (parts.flatMap Der.unsigned)))

end Secret

namespace PrivateCredential

/-- A new RSA key of one of three sizes. -/
def generateRsa (random : Random) (bits : Nat) : Except Failure PrivateCredential :=
  if [2048, 3072, 4096].contains bits then
    match Secret.prime? random .firstPrime (bits / 2),
        Secret.prime? random .secondPrime (bits / 2) with
    | some p, some q => ofPkcs8 (Secret.encodeRsa p q)
    | _, _ => .error (.invalidKey "RSA key generation failed")
  else .error (.invalidKey ("unsupported RSA key size: " ++ toString bits))

/-- A new elliptic key. -/
def generateCurve (random : Random) (f : KeyFamily) (c : Curve) :
    Except Failure PrivateCredential :=
  let scalar := Bytes.toNat (random.bytes .scalar (c.size + 8)) % (c.order - 1) + 1
  ofPkcs8 (Secret.encodeScalar f c scalar)

/-- A new key of a kind. -/
def generate (random : Random) (f : KeyFamily) : Except Failure PrivateCredential :=
  match f.curve? with
  | some c => generateCurve random f c
  | none => generateRsa random 2048

end PrivateCredential

end Federation.Crypto
