import Federation.Proofs.Saml.Layout

/-!
# Reading back the pieces of messages

Each piece of a message reads back from the element that it is written as, wherever that stands:
signatures, subjects, attributes, and encrypted assertions with their keys.

    readSignature (s.node.element scopes) = ok s
    readEncryptedAssertion (e.node.element scopes) = ok e

And each can be read there, given room for its own depth (`readable_node`).
-/

namespace Federation.Saml

open Federation.Xml Federation.Time
open Element (Scope)

variable (room : Nat) (scopes : List Scope)

/-! ## Signatures -/

namespace SignatureRecord

theorem readable_node (s : SignatureRecord) : s.node.readable (room + 5) scopes = true := by
  refine (Node.readable_group ..).2 ⟨by omega, rfl, ?_⟩
  simp only [Node.allReadable_cons]
  refine ⟨rfl, rfl, allReadable_optionalNode _ _ _ _ fun key => ?_⟩
  cases key <;> rfl

theorem readSignatureKey_node (key : SignatureKey) :
    readSignatureKey (key.node.element scopes) = .ok (some key) := by
  unfold readSignatureKey
  cases key with
  | certificate der =>
    show (some ∘ SignatureKey.certificate) <$> readBytes (Text.Base64.encodeText der) = _
    rw [readBytes_encode]
    rfl
  | publicKey der =>
    show some <$> (SignatureKey.publicKey <$> readBytes (Text.Base64.encodeText der)) = _
    rw [readBytes_encode]
    rfl

theorem read_node (s : SignatureRecord) : readSignature (s.node.element scopes) = .ok s := by
  have hdigest : readOptional readBytes (some (Text.Base64.encodeText s.digestValue))
      = .ok (some s.digestValue) := by
    rw [readOptional, readBytes_encode]
    rfl
  have hvalue : readOptional readBytes (some (Text.Base64.encodeText s.signatureValue))
      = .ok (some s.signatureValue) := by
    rw [readOptional, readBytes_encode]
    rfl
  have hkey : (s.node.element scopes).child? "KeyInfo" = s.keyInfo.map fun key =>
      key.node.element (Node.prefixes [("xmlns:ds", Ns.signature)] :: scopes) := by
    cases hkeyInfo : s.keyInfo with
    | none =>
      unfold node
      rw [hkeyInfo]
      rfl
    | some key =>
      unfold node
      rw [hkeyInfo]
      cases key <;> rfl
  unfold readSignature
  rw [hkey]
  show (readOptional readBytes (some (Text.Base64.encodeText s.digestValue)) >>= fun digest =>
    readOptional readBytes (some (Text.Base64.encodeText s.signatureValue)) >>= fun value => _) = _
  rw [hdigest, hvalue]
  obtain ⟨algorithm, canonicalization, referenceUri, digestAlgorithm, digest, value, keyInfo⟩ := s
  cases keyInfo with
  | none => rfl
  | some key =>
    simp only [Option.map_some, readSignatureKey_node]
    rfl

end SignatureRecord

/-! ## Subjects -/

namespace Subject

theorem ofUri?_uri (f : NameFormat) : NameFormat.ofUri? f.uri = some f := by
  cases f <;> rfl

theorem format_nameNode (name : String) (s : Subject) :
    readFormat ((s.nameNode name).element scopes) = s.format := by
  have h : ((s.nameNode name).element scopes).attribute? "Format" = some s.format.uri := rfl
  unfold readFormat
  rw [h]
  show (NameFormat.ofUri? s.format.uri).getD .unspecified = _
  rw [ofUri?_uri]
  rfl

theorem sourceDomain_nameNode (name : String) (s : Subject) :
    ((s.nameNode name).element scopes).attribute? "NameQualifier" = s.sourceDomain := by
  unfold nameNode
  cases s.sourceDomain <;> rfl

theorem read_node20 (s : Subject) : readSubject20 (s.node20.element scopes) = s := by
  have hname : (s.node20.element scopes).child? "NameID"
      = some ((s.nameNode "saml:NameID").element (Node.prefixes [] :: scopes)) := rfl
  have hmethod : ((s.node20.element scopes).child? "SubjectConfirmation").bind
      (·.attribute? "Method") = some s.confirmationMethod := rfl
  have hdestination : (((s.node20.element scopes).child? "SubjectConfirmation").bind
      (·.child? "SubjectConfirmationData")).bind (·.attribute? "Recipient") = s.destination := by
    unfold node20
    cases s.destination <;> rfl
  unfold readSubject20
  simp only [hname, hmethod, hdestination]
  simp only [Option.map_some, Option.getD_some, Option.bind_some, format_nameNode,
    sourceDomain_nameNode]
  rfl

theorem read_node11 (s : Subject) : readSubject11 (s.node11.element scopes) = s := by
  have hname : (s.node11.element scopes).child? "NameIdentifier"
      = some ((s.nameNode "saml1:NameIdentifier").element (Node.prefixes [] :: scopes)) := rfl
  have hmethod : ((s.node11.element scopes).child? "SubjectConfirmation").bind
      (·.childText? "ConfirmationMethod") = some s.confirmationMethod := rfl
  have hdestination : ((s.node11.element scopes).child? "SubjectConfirmation").bind
      (·.childText? "SubjectConfirmationData") = s.destination := by
    unfold node11
    cases s.destination <;> rfl
  unfold readSubject11
  simp only [hname, hmethod, hdestination, Option.map_some, Option.getD_some, Option.bind_some,
    format_nameNode, sourceDomain_nameNode]
  rfl

/-- Subjects stand inside tags that declare the prefix of their names. -/
theorem readable_node20 (s : Subject) :
    s.node20.readable (room + 2) ([("saml", Ns.assertion20)] :: scopes) = true := by
  refine (Node.readable_group ..).2 ⟨by omega, rfl, ?_⟩
  simp only [Node.allReadable_cons]
  refine ⟨?_, (Node.readable_group ..).2 ⟨by omega, rfl, ?_⟩, rfl⟩
  · refine (Node.readable_leaf ..).2 ⟨by omega, ?_⟩
    cases s.sourceDomain <;> rfl
  · exact allReadable_optionalNode _ _ _ _ fun _ => rfl

theorem readable_node11 (s : Subject) :
    s.node11.readable (room + 3) ([] :: [("saml1", Ns.assertion11)] :: scopes) = true := by
  refine (Node.readable_group ..).2 ⟨by omega, rfl, ?_⟩
  simp only [Node.allReadable_cons]
  refine ⟨?_, (Node.readable_group ..).2 ⟨by omega, rfl, ?_⟩, rfl⟩
  · refine (Node.readable_leaf ..).2 ⟨by omega, ?_⟩
    cases s.sourceDomain <;> rfl
  · exact (Node.allReadable_cons ..).2 ⟨rfl, allReadable_optionalNode _ _ _ _ fun _ => rfl⟩

end Subject

/-! ## Attributes -/

section
variable (key : String) (write : String × String → Node)
  (hname : ∀ a, required ((write a).element scopes) key = .ok a.1)
  (hvalue : ∀ a, attributeValues a.1 ((write a).element scopes) = [a])
include hname hvalue

theorem mapM_attributeValues (l : List (String × String)) :
    (l.map fun a => (write a).element scopes).mapM (fun e => do
      let name ← required e key
      return attributeValues name e) = (.ok (l.map fun a => [a]) : Except Failure _) := by
  induction l with
  | nil => rfl
  | cons a l ih =>
    rw [List.map_cons, List.mapM_cons, ih, hname]
    show Except.ok (attributeValues a.1 ((write a).element scopes) :: l.map fun a => [a]) = _
    rw [hvalue, List.map_cons]

/-- Attributes read back from the statement that holds them, whatever else it holds. -/
theorem readAttributes_eq (statement : Element) (l : List (String × String))
    (h : statement.childrenNamed "Attribute" = l.map fun a => (write a).element scopes) :
    readAttributes key [statement] = .ok l := by
  unfold readAttributes
  rw [List.flatMap_singleton, h, mapM_attributeValues scopes key write hname hvalue]
  show Except.ok (l.map fun a => [a]).flatten = _
  rw [← List.flatMap_def, List.flatMap_singleton']

end

theorem readAttributes20 (statement : Element) (l : List (String × String))
    (h : statement.childrenNamed "Attribute" = l.map fun a => (attributeNode20 a).element scopes) :
    readAttributes "Name" [statement] = .ok l :=
  readAttributes_eq scopes "Name" attributeNode20 (fun _ => rfl) (fun _ => rfl) statement l h

theorem readAttributes11 (statement : Element) (l : List (String × String))
    (h : statement.childrenNamed "Attribute" = l.map fun a => (attributeNode11 a).element scopes) :
    readAttributes "AttributeName" [statement] = .ok l :=
  readAttributes_eq scopes "AttributeName" attributeNode11 (fun _ => rfl) (fun _ => rfl) statement
    l h

/-! ## Encrypted keys -/

section
variable {α : Type} (name : String) (attributes : List (String × String)) (uri : String)
  (inside : α → Node) (info : Option α) (bytes : List UInt8) (rest : List Node)

/-- What the elements of a wrapped key and of encrypted data have in front. -/
def encryptedParts : List Node :=
  algorithmNode "xenc:EncryptionMethod" uri
    :: (optionalNode (fun a => .group "ds:KeyInfo" [("xmlns:ds", Ns.signature)] [inside a]) info
      ++ cipherNode bytes :: rest)

theorem encryptionMethod_group : encryptionMethod ((Node.group name attributes
    (encryptedParts uri inside info bytes rest)).element scopes) = .ok uri := by
  have h : (((Node.group name attributes (encryptedParts uri inside info bytes rest)).element
      scopes).child? "EncryptionMethod").bind (·.attribute? "Algorithm") = some uri := by
    rfl
  unfold encryptionMethod
  rw [h]

theorem cipherValue_group : cipherValue ((Node.group name attributes
    (encryptedParts uri inside info bytes rest)).element scopes) = .ok bytes := by
  have h : (((Node.group name attributes (encryptedParts uri inside info bytes rest)).element
      scopes).child? "CipherData").bind (·.childText? "CipherValue")
      = some (Text.Base64.encodeText bytes) := by
    cases info <;> rfl
  unfold cipherValue
  rw [h]
  exact readBytes_encode _

end

namespace EncryptedKey

theorem prefixes_attributes (k : EncryptedKey) :
    Node.prefixes (("xmlns:xenc", Ns.encryption)
      :: (optionalAttribute "Id" k.id ++ optionalAttribute "Recipient" k.recipient))
      = [("xenc", Ns.encryption)] := by
  cases k.id <;> cases k.recipient <;> rfl

theorem readable_node (k : EncryptedKey) : k.node.readable (room + 3) scopes = true := by
  refine (Node.readable_group ..).2 ⟨by omega, ?_, ?_⟩
  · cases k.id <;> cases k.recipient <;> rfl
  · rw [prefixes_attributes]
    simp only [Node.allReadable_cons, allReadable_append]
    exact ⟨rfl, allReadable_optionalNode _ _ _ _ fun _ => rfl, rfl,
      allReadable_optionalNode _ _ _ _ fun _ => rfl⟩

theorem read_node (k : EncryptedKey) : readEncryptedKey (k.node.element scopes) = .ok k := by
  have hid : (k.node.element scopes).attribute? "Id" = k.id := by
    unfold node
    cases k.id <;> cases k.recipient <;> rfl
  have hrecipient : (k.node.element scopes).attribute? "Recipient" = k.recipient := by
    unfold node
    cases k.id <;> cases k.recipient <;> rfl
  have hname : ((k.node.element scopes).child? "KeyInfo").bind (·.childText? "KeyName")
      = k.keyName := by
    unfold node
    cases k.keyName <;> cases k.carriedKeyName <;> rfl
  have hcarried : (k.node.element scopes).childText? "CarriedKeyName" = k.carriedKeyName := by
    unfold node
    cases k.keyName <;> cases k.carriedKeyName <;> rfl
  have hmethod : encryptionMethod (k.node.element scopes) = .ok k.algorithm :=
    encryptionMethod_group scopes _ _ _ keyNameNode k.keyName _ _
  have hcipher : Saml.cipherValue (k.node.element scopes) = .ok k.cipherValue :=
    cipherValue_group scopes _ _ _ keyNameNode k.keyName _ _
  unfold readEncryptedKey
  rw [hid, hrecipient, hname, hcarried, hmethod, hcipher]
  rfl

end EncryptedKey

/-! ## Encrypted data -/

/-- The `KeyInfo` of encrypted data. -/
def referenceNode (r : KeyReference) : Node :=
  .group "ds:KeyInfo" [("xmlns:ds", Ns.signature)] [r.node]

theorem readKeyReference_node (r : KeyReference) :
    readKeyReference ((referenceNode r).element scopes) = .ok (some r) := by
  unfold readKeyReference referenceNode
  cases r with
  | inline k =>
    have h : ((Node.group "ds:KeyInfo" [("xmlns:ds", Ns.signature)] [k.node]).element
        scopes).child? "EncryptedKey"
        = some (k.node.element (Node.prefixes [("xmlns:ds", Ns.signature)] :: scopes)) := by
      rfl
    simp only [KeyReference.node]
    rw [h]
    simp only [k.read_node]
    rfl
  | retrievalMethod uri => rfl
  | keyName name => rfl

namespace EncryptedData

theorem prefixes_attributes (d : EncryptedData) :
    Node.prefixes (("xmlns:xenc", Ns.encryption)
      :: (optionalAttribute "Id" d.id ++ [("Type", encryptedElementType)]))
      = [("xenc", Ns.encryption)] := by
  cases d.id <;> rfl

theorem readable_node (d : EncryptedData) : d.node.readable (room + 5) scopes = true := by
  refine (Node.readable_group ..).2 ⟨by omega, ?_, ?_⟩
  · cases d.id <;> rfl
  · rw [prefixes_attributes]
    simp only [Node.allReadable_cons, allReadable_append]
    refine ⟨rfl, allReadable_optionalNode _ _ _ _ fun r => ?_, rfl, rfl⟩
    refine (Node.readable_group ..).2 ⟨by omega, rfl, (Node.allReadable_cons ..).2 ⟨?_, rfl⟩⟩
    cases r with
    | inline k => exact k.readable_node _ _
    | retrievalMethod uri => rfl
    | keyName name => rfl

end EncryptedData

/-! ## Encrypted assertions -/

namespace EncryptedAssertion

theorem readable_node (e : EncryptedAssertion) : e.node.readable (room + 6) scopes = true := by
  refine (Node.readable_group ..).2 ⟨by omega, rfl, ?_⟩
  exact (Node.allReadable_cons ..).2 ⟨e.data.readable_node _ _,
    allReadable_map _ _ _ _ fun k => k.readable_node _ _⟩

theorem mapM_readEncryptedKey (l : List EncryptedKey) :
    (l.map fun k => k.node.element scopes).mapM readEncryptedKey = .ok l := by
  induction l with
  | nil => rfl
  | cons k l ih => rw [List.map_cons, List.mapM_cons, k.read_node, ih]; rfl

theorem read_node (e : EncryptedAssertion) :
    readEncryptedAssertion (e.node.element scopes) = .ok e := by
  have hdata : (e.node.element scopes).childIn? Ns.encryption "EncryptedData"
      = some (e.data.node.element (Node.prefixes [("xmlns:saml", Ns.assertion20)] :: scopes)) := by
    rfl
  have hkeys : (e.node.element scopes).childrenIn Ns.encryption "EncryptedKey"
      = e.keys.map fun k =>
        k.node.element (Node.prefixes [("xmlns:saml", Ns.assertion20)] :: scopes) := by
    exact filter_map _ (·.isNamed Ns.encryption "EncryptedKey") EncryptedKey.node e.keys
      fun _ => rfl
  have hid (scopes : List Scope) : (e.data.node.element scopes).attribute? "Id" = e.data.id := by
    unfold EncryptedData.node
    cases e.data.id <;> rfl
  have hinfo (scopes : List Scope) : (e.data.node.element scopes).child? "KeyInfo"
      = e.data.keyInfo.map fun r =>
        (referenceNode r).element ([("xenc", Ns.encryption)] :: scopes) := by
    unfold EncryptedData.node
    rw [Node.child?_group, EncryptedData.prefixes_attributes]
    cases e.data.keyInfo <;> rfl
  have hmethod (scopes : List Scope) :
      encryptionMethod (e.data.node.element scopes) = .ok e.data.algorithm :=
    encryptionMethod_group scopes _ _ _ KeyReference.node e.data.keyInfo _ _
  have hcipher (scopes : List Scope) :
      cipherValue (e.data.node.element scopes) = .ok e.data.cipherValue :=
    cipherValue_group scopes _ _ _ KeyReference.node e.data.keyInfo _ _
  unfold readEncryptedAssertion
  rw [hdata]
  simp only [hid, hinfo, hmethod, hcipher, hkeys, mapM_readEncryptedKey]
  obtain ⟨⟨id, algorithm, keyInfo, cipher⟩, keys⟩ := e
  cases keyInfo with
  | none => rfl
  | some r =>
    simp only [Option.map_some, readKeyReference_node]
    rfl

end EncryptedAssertion

end Federation.Saml
