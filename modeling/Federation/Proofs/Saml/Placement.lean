import Federation.Proofs.Saml.Coverage
import Federation.Proofs.Saml.Decryption
import Federation.Proofs.Saml.Encryption
import Federation.Proofs.Saml.RoundTrip

/-!
# Wrapped keys wherever peers put them

A wrapped key stands in the encrypted data or beside it, and the data may refer to it or not. Which
key counts is a matter of precedence: the key in the data, the one that the data refer to, the first
one for the recipient, the first one under the name that the data give, and last the only one.

    findKey? KeySearch.all e recipient = some key ↔ e.Selects recipient key

So an assertion that was encrypted is decrypted wherever its key is put, as long as the rules select
that key among those around it, also after it was sent in a response (`decrypt_of_selects`).

- `IsFirst`, `Unreferenced`, `Unaddressed` and `Unnamed` say what the rules look for.
- `Selects` has one constructor a rule, each with the reasons why no rule before it applies.
-/

namespace Federation.Saml

open Federation.Crypto (Suite Random PublicCredential PrivateCredential KeyTransport DataEncryption
  Envelope)

/-! ## Rules -/

/-- The first of the keys with a property. -/
def IsFirst (p : EncryptedKey → Prop) (keys : List EncryptedKey) (key : EncryptedKey) : Prop :=
  ∃ before after, keys = before ++ key :: after ∧ p key ∧ ∀ k ∈ before, ¬ p k

namespace EncryptedAssertion

/-- The encrypted data hold no key and refer to none that is there. -/
structure Unreferenced (e : EncryptedAssertion) : Prop where
  inline : ∀ key, e.data.keyInfo ≠ some (.inline key)
  retrieval : ∀ id, e.data.keyInfo = some (.retrievalMethod ("#" ++ id)) →
    ∀ k ∈ e.keys, k.id ≠ some id

/-- No key is for the recipient. -/
def Unaddressed (e : EncryptedAssertion) (recipient : Option String) : Prop :=
  ∀ r, recipient = some r → ∀ k ∈ e.keys, k.recipient ≠ some r

/-- No key goes by the name that the encrypted data give. -/
def Unnamed (e : EncryptedAssertion) : Prop :=
  ∀ name, e.data.keyInfo = some (.keyName name) → ∀ k ∈ e.keys, k.carriedKeyName ≠ some name

/-- The key that a recipient is to unwrap. -/
inductive Selects (e : EncryptedAssertion) (recipient : Option String) (key : EncryptedKey) : Prop
  | inline (info : e.data.keyInfo = some (.inline key))
  | referenced (id : String) (info : e.data.keyInfo = some (.retrievalMethod ("#" ++ id)))
      (first : IsFirst (·.id = some id) e.keys key)
  | addressed (r : String) (isRecipient : recipient = some r) (unreferenced : e.Unreferenced)
      (first : IsFirst (·.recipient = some r) e.keys key)
  | named (name : String) (info : e.data.keyInfo = some (.keyName name))
      (unaddressed : e.Unaddressed recipient)
      (first : IsFirst (·.carriedKeyName = some name) e.keys key)
  | only (unreferenced : e.Unreferenced) (unaddressed : e.Unaddressed recipient)
      (unnamed : e.Unnamed) (keys : e.keys = [key])

/-- The wrapped keys, in the encrypted data and beside them. -/
def wrappedKeys (e : EncryptedAssertion) : List EncryptedKey :=
  match e.data.keyInfo with
  | some (.inline key) => key :: e.keys
  | _ => e.keys

end EncryptedAssertion

open EncryptedAssertion (Unreferenced Unaddressed Unnamed Selects)

/-! ## Searches -/

section
variable (f : EncryptedKey → Option String) (value : String) (keys : List EncryptedKey)

theorem find?_eq_some_iff_isFirst (key : EncryptedKey) :
    keys.find? (f · == some value) = some key ↔ IsFirst (f · = some value) keys key := by
  unfold IsFirst
  rw [List.find?_eq_some_iff_append]
  constructor
  · rintro ⟨hkey, before, after, hkeys, hbefore⟩
    exact ⟨before, after, hkeys, beq_iff_eq.1 hkey, fun k hk => by simpa using hbefore k hk⟩
  · rintro ⟨before, after, hkeys, hkey, hbefore⟩
    exact ⟨beq_iff_eq.2 hkey, before, after, hkeys, fun k hk => by simpa using hbefore k hk⟩

theorem find?_eq_none_iff_ne :
    keys.find? (f · == some value) = none ↔ ∀ k ∈ keys, f k ≠ some value := by
  simp

end

namespace KeySearch

theorem fragment?_eq_some (uri id : String) : fragment? uri = some id ↔ uri = "#" ++ id := by
  unfold fragment?
  constructor
  · intro h
    split at h
    · next rest hrest =>
      cases h
      apply String.toList_inj.1
      rw [hrest]
      simp
    · cases h
  · rintro rfl
    simp

section
variable (e : EncryptedAssertion) (recipient : Option String) (key : EncryptedKey)

theorem byRecipient?_eq_some : byRecipient? e.keys recipient = some key ↔
    ∃ r, recipient = some r ∧ IsFirst (·.recipient = some r) e.keys key := by
  cases recipient with
  | none => simp [byRecipient?]
  | some r =>
    simp only [byRecipient?, find?_eq_some_iff_isFirst (·.recipient), Option.some.injEq,
      exists_eq_left']

theorem byRecipient?_eq_none : byRecipient? e.keys recipient = none ↔ e.Unaddressed recipient := by
  unfold Unaddressed
  cases recipient with
  | none => simp [byRecipient?]
  | some r =>
    simp only [byRecipient?, find?_eq_none_iff_ne (·.recipient), Option.some.injEq, forall_eq']

theorem byName?_eq_some : byName? e.keys e.data.keyInfo = some key ↔
    ∃ name, e.data.keyInfo = some (.keyName name) ∧
      IsFirst (·.carriedKeyName = some name) e.keys key := by
  unfold byName?
  split
  · next name hinfo =>
    simp only [hinfo, find?_eq_some_iff_isFirst (·.carriedKeyName), Option.some.injEq,
      KeyReference.keyName.injEq, exists_eq_left']
  · next hinfo =>
    refine iff_of_false nofun ?_
    rintro ⟨name, hname, -⟩
    exact hinfo name hname

theorem byName?_eq_none : byName? e.keys e.data.keyInfo = none ↔ e.Unnamed := by
  unfold Unnamed byName?
  split
  · next name hinfo =>
    simp only [hinfo, find?_eq_none_iff_ne (·.carriedKeyName), Option.some.injEq,
      KeyReference.keyName.injEq, forall_eq']
  · next hinfo => exact iff_of_true rfl fun name hname => absurd hname (hinfo name)

theorem only?_eq_some (keys : List EncryptedKey) : only? keys = some key ↔ keys = [key] := by
  unfold only?
  split
  · simp
  · next hkeys => exact iff_of_false nofun (hkeys key)

theorem find?_inline_eq_some :
    find? .inline e recipient = some key ↔ e.data.keyInfo = some (.inline key) := by
  unfold find?
  cases e.data.keyInfo with
  | none => exact iff_of_false nofun nofun
  | some info => cases info <;> simp

theorem find?_retrieval_eq_some : find? .retrieval e recipient = some key ↔
    ∃ id, e.data.keyInfo = some (.retrievalMethod ("#" ++ id)) ∧
      IsFirst (·.id = some id) e.keys key := by
  have hfragment (uri : String) :
      ((fragment? uri).bind fun id => e.keys.find? (·.id == some id)) = some key ↔
        ∃ id, uri = "#" ++ id ∧ IsFirst (·.id = some id) e.keys key := by
    simp only [Option.bind_eq_some_iff, fragment?_eq_some, find?_eq_some_iff_isFirst (·.id)]
  unfold find?
  cases e.data.keyInfo with
  | none => exact iff_of_false nofun nofun
  | some info => cases info <;> simp [hfragment]

theorem unreferenced_iff : e.Unreferenced ↔
    find? .inline e recipient = none ∧ find? .retrieval e recipient = none := by
  simp only [Option.eq_none_iff_forall_ne_some, ne_eq, find?_inline_eq_some,
    find?_retrieval_eq_some]
  constructor
  · rintro ⟨hinline, hretrieval⟩
    refine ⟨hinline, ?_⟩
    rintro key ⟨id, hinfo, before, after, hkeys, hid, -⟩
    exact hretrieval id hinfo key (by rw [hkeys]; simp) hid
  · rintro ⟨hinline, hretrieval⟩
    refine ⟨hinline, fun id hinfo k hk hid => ?_⟩
    have hfound : (e.keys.find? (·.id == some id)).isSome := by
      rw [List.find?_isSome]
      exact ⟨k, hk, beq_iff_eq.2 hid⟩
    obtain ⟨key, hkey⟩ := Option.isSome_iff_exists.1 hfound
    exact hretrieval key ⟨id, hinfo, (find?_eq_some_iff_isFirst (·.id) id e.keys key).1 hkey⟩

/-- What is found beside the encrypted data without a reference. -/
theorem find?_sibling_eq_some : find? .sibling e recipient = some key ↔
    (∃ r, recipient = some r ∧ IsFirst (·.recipient = some r) e.keys key) ∨
    e.Unaddressed recipient ∧
      ((∃ name, e.data.keyInfo = some (.keyName name) ∧
        IsFirst (·.carriedKeyName = some name) e.keys key) ∨
      e.Unnamed ∧ e.keys = [key]) := by
  rw [← byRecipient?_eq_some, ← byRecipient?_eq_none, ← byName?_eq_some, ← byName?_eq_none,
    ← only?_eq_some, ← Option.or_eq_some_iff, ← Option.or_eq_some_iff]
  rfl

end

end KeySearch

section
variable (e : EncryptedAssertion) (recipient : Option String) (key : EncryptedKey)

theorem unreferenced_of_keyName (name : String) (h : e.data.keyInfo = some (.keyName name)) :
    e.Unreferenced := by
  constructor
  · intro key hinfo
    rw [h] at hinfo
    cases hinfo
  · intro id hinfo
    rw [h] at hinfo
    cases hinfo

/-- Beside data that hold no key and refer to none. -/
theorem selects_iff_of_unreferenced (h : e.Unreferenced) : e.Selects recipient key ↔
    (∃ r, recipient = some r ∧ IsFirst (·.recipient = some r) e.keys key) ∨
    e.Unaddressed recipient ∧
      ((∃ name, e.data.keyInfo = some (.keyName name) ∧
        IsFirst (·.carriedKeyName = some name) e.keys key) ∨
      e.Unnamed ∧ e.keys = [key]) := by
  constructor
  · intro hselects
    cases hselects with
    | inline info => exact absurd info (h.inline key)
    | referenced id info first =>
      obtain ⟨before, after, hkeys, hid, -⟩ := first
      exact absurd hid (h.retrieval id info key (by rw [hkeys]; simp))
    | addressed r isRecipient _ first => exact Or.inl ⟨r, isRecipient, first⟩
    | named name info unaddressed first =>
      exact Or.inr ⟨unaddressed, Or.inl ⟨name, info, first⟩⟩
    | only _ unaddressed unnamed keys => exact Or.inr ⟨unaddressed, Or.inr ⟨unnamed, keys⟩⟩
  · rintro (⟨r, hr, first⟩ | ⟨hunaddressed, ⟨name, hname, first⟩ | ⟨hunnamed, hkeys⟩⟩)
    · exact .addressed r hr h first
    · exact .named name hname hunaddressed first
    · exact .only h hunaddressed hunnamed hkeys

theorem findKey?_all : findKey? KeySearch.all e recipient =
    (KeySearch.find? .inline e recipient).or ((KeySearch.find? .retrieval e recipient).or
      (KeySearch.find? .sibling e recipient)) := by
  unfold findKey? KeySearch.all
  cases hinline : KeySearch.find? .inline e recipient <;>
    cases hretrieval : KeySearch.find? .retrieval e recipient <;>
      cases hsibling : KeySearch.find? .sibling e recipient <;>
        simp [hinline, hretrieval, hsibling]

/-- Of data that hold a key or refer to one, nothing beside that key counts. -/
theorem selects_iff_of_not_unreferenced (h : ¬ e.Unreferenced) : e.Selects recipient key ↔
    e.data.keyInfo = some (.inline key) ∨
    ∃ id, e.data.keyInfo = some (.retrievalMethod ("#" ++ id)) ∧
      IsFirst (·.id = some id) e.keys key := by
  constructor
  · intro hselects
    cases hselects with
    | inline info => exact Or.inl info
    | referenced id info first => exact Or.inr ⟨id, info, first⟩
    | addressed _ _ unreferenced _ => exact absurd unreferenced h
    | named name info _ _ => exact absurd (unreferenced_of_keyName e name info) h
    | only unreferenced _ _ _ => exact absurd unreferenced h
  · rintro (hinfo | ⟨id, hinfo, hfirst⟩)
    · exact .inline hinfo
    · exact .referenced id hinfo hfirst

/-- The searches one after the other find the key that the rules select. -/
theorem findKey?_eq_some_iff :
    findKey? KeySearch.all e recipient = some key ↔ e.Selects recipient key := by
  rw [findKey?_all]
  by_cases hunreferenced : e.Unreferenced
  · obtain ⟨hinline, hretrieval⟩ := (KeySearch.unreferenced_iff e recipient).1 hunreferenced
    rw [hinline, hretrieval, Option.none_or, Option.none_or, KeySearch.find?_sibling_eq_some,
      selects_iff_of_unreferenced e recipient key hunreferenced]
  · rw [selects_iff_of_not_unreferenced e recipient key hunreferenced,
      ← KeySearch.find?_inline_eq_some e recipient, ← KeySearch.find?_retrieval_eq_some e recipient,
      Option.or_eq_some_iff, Option.or_eq_some_iff]
    have hnone := mt (KeySearch.unreferenced_iff e recipient).2 hunreferenced
    have hexclusive : KeySearch.find? .retrieval e recipient = some key →
        KeySearch.find? .inline e recipient = none := by
      rw [KeySearch.find?_retrieval_eq_some]
      rintro ⟨id, hinfo, -⟩
      unfold KeySearch.find?
      rw [hinfo]
    constructor
    · rintro (h | ⟨hinline, h | ⟨hretrieval, -⟩⟩)
      · exact Or.inl h
      · exact Or.inr h
      · exact absurd ⟨hinline, hretrieval⟩ hnone
    · rintro (h | h)
      · exact Or.inl h
      · exact Or.inr ⟨hexclusive h, Or.inl h⟩

end

/-! ## Encryption -/

namespace Encrypter

section
variable (x y : Encrypter) (suite : Suite) (random random' : Random) (a : Assertion)
  (recipient : PublicCredential) (id id' : Option String) (e : EncryptedAssertion)

/-- Every assertion can be encrypted for a recipient that the suite can seal texts for. -/
theorem encrypt_of_seals (hseals : suite.Seals recipient) (transport : KeyTransport) :
    ∃ e, x.encrypt suite random a recipient transport.uri id = .ok e := by
  obtain ⟨envelope, henvelope⟩ := envelope_of_seals suite random recipient transport x.encryption
    (Bytes.ofText a.encode) hseals
  have hlift {α : Type} (v : α) : (Except.ok v).mapError
      (fun f : Crypto.Failure => Failure.encryption f.message) = .ok v := rfl
  unfold encrypt
  simp only [keyTransport_ofUri_uri, henvelope, hlift, ok_bind]
  exact ⟨_, rfl⟩

/-- The algorithms and bytes of what is encrypted are those of one envelope. -/
theorem envelope_of_encrypt (transport : String)
    (h : x.encrypt suite random a recipient transport id = .ok e) :
    ∃ k t, e.wrappedKeys = [k] ∧ k.algorithm = t.uri ∧ e.data.algorithm = x.encryption.uri ∧
      Envelope.encrypt suite random recipient t x.encryption (Bytes.ofText a.encode)
        = .ok ⟨t, k.cipherValue, x.encryption, e.data.cipherValue⟩ := by
  obtain ⟨t, -, h⟩ := (x.encrypt_eq_ok_iff_enciphers suite random a recipient id transport e).1 h
  obtain ⟨wrapped, henvelope, hinfo, hkeys⟩ := h.placed
  refine ⟨wrapping random recipient t id wrapped, t, ?_, rfl, h.algorithm, henvelope⟩
  unfold EncryptedAssertion.wrappedKeys
  rw [hinfo, hkeys]
  cases x.placement <;> rfl

/-- With the algorithms and bytes of an envelope, encrypted data decrypt to what is in it as long as
the right key is found. -/
theorem decrypt_of_findKey? (c : PrivateCredential) (hopens : suite.Opens c recipient)
    (ha : a.Representable) (t : KeyTransport) (encryption : DataEncryption) (key : EncryptedKey)
    (henvelope : Envelope.encrypt suite random recipient t encryption (Bytes.ofText a.encode)
      = .ok ⟨t, key.cipherValue, encryption, e.data.cipherValue⟩)
    (halgorithm : key.algorithm = t.uri) (hdata : e.data.algorithm = encryption.uri)
    (hkey : findKey? y.searches e id' = some key) :
    y.decrypt suite random' e c id' = .ok a := by
  have hfound : y.envelope? e id' = some ⟨t, key.cipherValue, encryption, e.data.cipherValue⟩ :=
    (y.envelope?_eq_some e id' _).2
      ⟨key, hkey, by rw [halgorithm, keyTransport_ofUri_uri],
        by rw [hdata, dataEncryption_ofUri_uri], rfl, rfl⟩
  unfold decrypt
  simp only [hfound, envelope_decrypt _ _ _ _ _ _ _ henvelope random' c hopens,
    readText_ofText a ha]

theorem decrypt_of_not_selects (hy : y.searches = KeySearch.all) (c : PrivateCredential)
    (h : ∀ key, ¬ e.Selects id' key) : y.decrypt suite random' e c id' = .error .decryption := by
  have hnone : findKey? y.searches e id' = none := by
    rw [hy, Option.eq_none_iff_forall_ne_some]
    exact fun key hkey => h key ((findKey?_eq_some_iff e id' key).1 hkey)
  unfold decrypt envelope?
  rw [hnone]
  rfl

end

end Encrypter

/-- Carrying a leap second makes no difference to the text of a response. -/
theorem Response.encode_carried (r : Response) :
    encode { r with issueInstant := r.issueInstant.carried } = r.encode := by
  have hnode20 (s : Option SignatureRecord) :
      node20 { r with issueInstant := r.issueInstant.carried } s = r.node20 s := by
    unfold node20
    simp only [Time.Instant.format_carried]
  have hnode11 (s : Option SignatureRecord) :
      node11 { r with issueInstant := r.issueInstant.carried } s = r.node11 s := by
    unfold node11
    simp only [Time.Instant.format_carried]
  unfold encode node
  simp only [hnode20, hnode11]

/-- A SAML 2.0 response takes an encrypted assertion as it is. -/
theorem Response.payload_of_encrypted (r : Response) (e : EncryptedAssertion)
    (hprotocol : r.protocol = .saml20) (hissued : r.issueInstant.FourDigit)
    (hpayload : r.payload = some (.encrypted e)) :
    ∃ text q, r.encode = .ok text ∧ decode text = .ok q ∧ q.payload = some (.encrypted e) := by
  have hnode : r.encode = .ok (r.node20 r.signature).render := by
    unfold encode node
    rw [hprotocol]
    rfl
  -- the response is read as the one whose leap second is carried, and that one has the same text
  have hcarried := hnode
  rw [← r.encode_carried] at hcarried
  refine ⟨_, _, hnode, (decode_encode_eq_ok _ ⟨r.issueInstant.leapEndsMinute_carried, ?_⟩ _ hcarried
    _).2 ⟨r.issueInstant.fourDigit_carried.2 hissued, ?_, rfl⟩, ?_⟩
  · rw [hpayload]
    rintro p ⟨⟩
    trivial
  · rw [hpayload]
    rintro p ⟨⟩
    trivial
  · rw [hpayload, hprotocol]
    rfl

/-! ## Main result -/

/-- Whoever holds the recipient's key gets an assertion back from what was encrypted, also when the
key was moved among others and both were sent in a response, as long as the rules still select it;
where they select no key, decryption fails. -/
theorem Encrypter.decrypt_of_selects (x y : Encrypter) (hy : y.searches = KeySearch.all)
    (suite : Suite) (random random' : Random) (c : PrivateCredential) (recipient : PublicCredential)
    (hseals : suite.Seals recipient) (hopens : suite.Opens c recipient) (transport : KeyTransport)
    (a : Assertion) (ha : a.Representable) (id id' : Option String) :
    (∃ e k, x.encrypt suite random a recipient transport.uri id = .ok e ∧ e.wrappedKeys = [k] ∧
      ∀ e' : EncryptedAssertion, e'.data.algorithm = e.data.algorithm →
        e'.data.cipherValue = e.data.cipherValue →
        ∀ key, e'.Selects id' key → key.algorithm = k.algorithm →
          key.cipherValue = k.cipherValue → y.decrypt suite random' e' c id' = .ok a) ∧
    (∀ e : EncryptedAssertion, (∀ key, ¬ e.Selects id' key) →
      y.decrypt suite random' e c id' = .error .decryption) ∧
    ∀ (r : Response) (e : EncryptedAssertion), r.protocol = .saml20 → r.issueInstant.FourDigit →
      r.payload = some (.encrypted e) →
      ∃ text q, r.encode = .ok text ∧ Response.decode text = .ok q ∧
        q.payload = some (.encrypted e) := by
  refine ⟨?_, fun e => decrypt_of_not_selects y suite random' id' e hy c,
    fun r e => r.payload_of_encrypted e⟩
  obtain ⟨e, he⟩ := encrypt_of_seals x suite random a recipient id hseals transport
  obtain ⟨k, t, hkeys, hk, hdata, henvelope⟩ :=
    envelope_of_encrypt x suite random a recipient id e transport.uri he
  refine ⟨e, k, he, hkeys, fun e' halgorithm hmessage key hkey hkeyAlgorithm hwrapped => ?_⟩
  refine decrypt_of_findKey? y suite random random' a recipient id' e' c hopens ha t x.encryption
    key ?_ (hkeyAlgorithm.trans hk) (halgorithm.trans hdata) ?_
  · rw [henvelope, hwrapped, hmessage]
  · rw [hy, findKey?_eq_some_iff]
    exact hkey

/-- What was encrypted, with its key behind another one and under the name that the data give. -/
def sampleMoved (e : EncryptedAssertion) (k : EncryptedKey) : EncryptedAssertion where
  data := { e.data with keyInfo := some (.keyName "session") }
  keys :=
    [{ recipient := some "other", algorithm := "rsa", cipherValue := [] },
     { k with recipient := none, carriedKeyName := some "session" }]

/-- The name finds the key of a signed assertion; without the keys there is nothing to find. -/
theorem Encrypter.decrypt_of_selects_sample :
    ∃ e k, ({ placement := .peer } : Encrypter).encrypt .standard ⟨fun _ _ => 0⟩ sampleSigned
        PrivateCredential.sampleHolder.publicHalf KeyTransport.rsaOaepMgf1p.uri (some "sp")
          = .ok e ∧
      ({} : Encrypter).decrypt .standard ⟨fun _ _ => 1⟩ (sampleMoved e k) .sampleHolder (some "sp")
        = .ok sampleSigned ∧
      ({} : Encrypter).decrypt .standard ⟨fun _ _ => 1⟩ { sampleMoved e k with keys := [] }
        .sampleHolder (some "sp") = .error .decryption ∧
      ∃ text q, { sampleRefusal with payload := some (.encrypted (sampleMoved e k)) }.encode
          = .ok text ∧
        Response.decode text = .ok q ∧ q.payload = some (.encrypted (sampleMoved e k)) := by
  have hrepresentable : sampleSigned.Representable := by
    refine ⟨⟨?_, fun window hwindow => ?_⟩, fun _ hclass => ?_⟩
    · show Time.Instant.Representable (.sample 0)
      decide
    · cases hwindow
    · cases hclass
  obtain ⟨⟨e, k, he, -, hopens⟩, hnone, hsent⟩ :=
    decrypt_of_selects { placement := .peer } {} rfl .standard ⟨fun _ _ => 0⟩ ⟨fun _ _ => 1⟩
      .sampleHolder _ PrivateCredential.seals_sampleHolder PrivateCredential.opens_sampleHolder
      .rsaOaepMgf1p sampleSigned hrepresentable (some "sp") (some "sp")
  refine ⟨e, k, he, hopens (sampleMoved e k) rfl rfl
    { k with recipient := none, carriedKeyName := some "session" } ?_ rfl rfl,
    hnone _ ?_, hsent _ (sampleMoved e k) rfl ?_ rfl⟩
  · refine .named "session" rfl ?_ ⟨[_], [], rfl, rfl, ?_⟩
    · rintro r ⟨⟩ key hkey
      rcases List.mem_cons.1 hkey with rfl | hkey
      · decide
      · rw [List.mem_singleton.1 hkey]
        exact nofun
    · intro key hkey
      rw [List.mem_singleton.1 hkey]
      decide
  · rintro key (info | ⟨_, info, _⟩ | ⟨_, _, _, first⟩ | ⟨_, _, _, first⟩ | ⟨_, _, _, keys⟩)
    · cases info
    · cases info
    · obtain ⟨before, after, hkeys, -⟩ := first
      simp at hkeys
    · obtain ⟨before, after, hkeys, -⟩ := first
      simp at hkeys
    · cases keys
  · show Time.Instant.FourDigit { second := 253402300799, nano := 1500000000 }
    decide

end Federation.Saml
