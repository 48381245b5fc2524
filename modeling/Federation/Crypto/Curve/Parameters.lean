import Federation.Crypto.Curve
import Federation.Crypto.ObjectId

/-!
# Parameters of curves

How a private key says which curve it lies on: by the identifier of the curve, or by all numbers of
it, which are compared one by one.

    isNamedBy c id (item id) = true
-/

namespace Federation.Crypto.Curve

variable (c : Curve)

/-- The base point as two coordinates of one length after a mark. -/
def isBase (b : Bytes) : Bool :=
  match b with
  | [] => false
  | mark :: rest =>
    let half := rest.length / 2
    mark = 0x04 && rest.length % 2 = 0
      && Bytes.toNat (rest.take half) = c.baseX && Bytes.toNat (rest.drop half) = c.baseY

/-- The prime of the field. -/
def isField (b : Bytes) : Bool := (do
  let (kind, b) ← Der.tagged? Der.objectId b
  let (prime, []) ← Der.unsignedItem? b | none
  return kind = ObjectId.primeField.encode && prime = c.field).getD false

/-- The two factors of the equation, the first of which is minus three; a seed may follow. -/
def isEquation (b : Bytes) : Bool := (do
  let (first, b) ← Der.tagged? Der.octetString b
  let (second, b) ← Der.tagged? Der.octetString b
  let (_, []) ← Der.optional? Der.bitString b | none
  return Bytes.toNat first = c.field - 3 && Bytes.toNat second = c.b).getD false

/-- All numbers of the curve; the cofactor, which is one, may be absent. -/
def isSpecifiedBy (b : Bytes) : Bool := (do
  let (body, []) ← Der.tagged? Der.sequence b | none
  let (1, b) ← Der.unsignedItem? body | none
  let (field, b) ← Der.tagged? Der.sequence b
  let (equation, b) ← Der.tagged? Der.sequence b
  let (base, b) ← Der.tagged? Der.octetString b
  let (order, b) ← Der.unsignedItem? b
  let (cofactor?, []) ← Der.optional? Der.integer b | none
  return c.isField field && c.isEquation equation && c.isBase base && order = c.order
    && cofactor?.all (· = [1])).getD false

/-- The parameters are those of the curve with the identifier. -/
def isNamedBy (id : ObjectId) (b : Bytes) : Bool := b = id.item || c.isSpecifiedBy b

end Federation.Crypto.Curve
