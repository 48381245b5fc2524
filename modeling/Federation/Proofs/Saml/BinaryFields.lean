import Federation.Proofs.Result
import Federation.Proofs.Text.Blank
import Federation.Proofs.Text.Sextets
import Federation.Saml.Decode

/-!
# Binary fields

Digests, signatures, certificates and ciphertexts stand in messages as base64. A field is read as a
byte string exactly if it is the one form of that string with blanks put in anywhere; a text that
breaks off, leaves out the padding or has spare bits that are not zero spells nothing and is refused.

    readBytes t = ok b ↔ Carries t b
    readBytes t fails  ↔ t without its blanks spells no bytes
-/

namespace Federation.Saml

open Federation.Xml Federation.Text
open Federation.Text.Base64 (encode Spells)

/-! ## One field -/

/-- The text is the form of the bytes with blanks put in. -/
def Carries (t : String) (b : List UInt8) : Prop := Spaced (encode b) t.toList

theorem carries_iff (t : String) (b : List UInt8) :
    Carries t b ↔ dropBlanks t.toList = encode b :=
  spaced_iff _ _ (Base64.isBlank_of_mem_encode b)

theorem carries_iff_spells (t : String) (b : List UInt8) :
    Carries t b ↔ Spells (dropBlanks t.toList) b :=
  (carries_iff t b).trans (Base64.spells_iff _ b).symm

theorem readBytes_eq_ok (t : String) (b : List UInt8) : readBytes t = .ok b ↔ Carries t b := by
  rw [carries_iff, ← Base64.decode_eq_some]
  unfold readBytes Base64.decodeSpaced
  cases Base64.decode (dropBlanks t.toList) <;> simp

/-- There is one way to fail. -/
theorem readBytes_eq_error (t : String) (h : ∀ b, ¬ Carries t b) :
    readBytes t = .error (.ofXml .base64) := by
  have hnone (b : List UInt8) : readBytes t ≠ .ok b := fun hb => h b ((readBytes_eq_ok t b).1 hb)
  unfold readBytes at hnone ⊢
  cases hdecode : Base64.decodeSpaced t.toList with
  | none => rfl
  | some b =>
    rw [hdecode] at hnone
    exact absurd rfl (hnone b)

theorem readOptional_some {α β : Type} (read : α → Except Failure β) (a : α) (b? : Option β)
    (h : readOptional read (some a) = .ok b?) : ∃ b, read a = .ok b ∧ b? = some b := by
  obtain ⟨b, hb, rfl⟩ := (map_eq_ok ..).1 h
  exact ⟨b, hb, rfl⟩

/-! ## Ciphertexts -/

def cipherText? (e : Element) : Option String :=
  (e.child? "CipherData").bind (·.childText? "CipherValue")

theorem cipherValue_eq_ok (e : Element) (b : List UInt8) :
    cipherValue e = .ok b ↔ ∃ t, cipherText? e = some t ∧ Carries t b := by
  unfold cipherValue cipherText?
  cases (e.child? "CipherData").bind (·.childText? "CipherValue") with
  | none => simp
  | some t => simp [readBytes_eq_ok]

/-! ## Signatures -/

def digestText? (e : Element) : Option String :=
  ((e.child? "SignedInfo").bind (·.child? "Reference")).bind (·.childText? "DigestValue")

def certificateText? (info : Element) : Option String :=
  (info.child? "X509Data").bind (·.childText? "X509Certificate")

/-- The binary fields of a signature, each read as the bytes that it carries. -/
structure Conveys (e : Element) (s : SignatureRecord) : Prop where
  digest : ∀ t, digestText? e = some t → Carries t s.digestValue
  value : ∀ t, e.childText? "SignatureValue" = some t → Carries t s.signatureValue
  certificate : ∀ info t, e.child? "KeyInfo" = some info → certificateText? info = some t →
    ∃ der, s.keyInfo = some (.certificate der) ∧ Carries t der
  publicKey : ∀ info t, e.child? "KeyInfo" = some info → certificateText? info = none →
    info.childText? "DEREncodedKeyValue" = some t →
    ∃ der, s.keyInfo = some (.publicKey der) ∧ Carries t der

/-- The key goes the way of its kind. -/
theorem readSignatureKey_carries (info : Element) (key : Option SignatureKey)
    (h : readSignatureKey info = .ok key) :
    (∀ t, certificateText? info = some t →
      ∃ der, key = some (.certificate der) ∧ Carries t der) ∧
    (∀ t, certificateText? info = none → info.childText? "DEREncodedKeyValue" = some t →
      ∃ der, key = some (.publicKey der) ∧ Carries t der) := by
  unfold readSignatureKey at h
  unfold certificateText?
  cases hcertificate : (info.child? "X509Data").bind (·.childText? "X509Certificate") with
  | some text =>
    rw [hcertificate] at h
    obtain ⟨der, hder, rfl⟩ := (map_eq_ok ..).1 h
    refine ⟨fun t ht => ?_, nofun⟩
    cases ht
    exact ⟨der, rfl, (readBytes_eq_ok _ der).1 hder⟩
  | none =>
    rw [hcertificate] at h
    refine ⟨nofun, fun t _ ht => ?_⟩
    rw [ht] at h
    obtain ⟨k, hk, rfl⟩ := readOptional_some _ _ _ h
    obtain ⟨der, hder, rfl⟩ := (map_eq_ok ..).1 hk
    exact ⟨der, rfl, (readBytes_eq_ok t der).1 hder⟩

/-- A signature is put together from what its fields are read as. -/
theorem fields_of_readSignature (e : Element) (s : SignatureRecord) (h : readSignature e = .ok s) :
    ∃ digest? value?,
      readOptional readBytes (digestText? e) = .ok digest? ∧
      readOptional readBytes (e.childText? "SignatureValue") = .ok value? ∧
      (∀ info, e.child? "KeyInfo" = some info → readSignatureKey info = .ok s.keyInfo) ∧
      s.digestValue = digest?.getD [] ∧ s.signatureValue = value?.getD [] := by
  unfold readSignature at h
  unfold digestText?
  cases hinfo : e.child? "SignedInfo" with
  | none =>
    rw [hinfo] at h
    cases h
  | some info =>
    cases htarget : info.child? "Reference" with
    | none =>
      simp only [hinfo, htarget] at h
      cases h
    | some target =>
      simp only [hinfo, htarget] at h
      obtain ⟨digest?, hdigest, h⟩ := (bind_eq_ok ..).1 h
      obtain ⟨value?, hvalue, h⟩ := (bind_eq_ok ..).1 h
      refine ⟨digest?, value?, by rwa [Option.bind_some, htarget], hvalue, ?_⟩
      cases hkeyInfo : e.child? "KeyInfo"
      all_goals
        rw [hkeyInfo] at h
        obtain ⟨key?, hkey, h⟩ := (bind_eq_ok ..).1 h
        obtain ⟨algorithm, -, h⟩ := (bind_eq_ok ..).1 h
        obtain ⟨canonicalization, -, h⟩ := (bind_eq_ok ..).1 h
        obtain ⟨digestAlgorithm, -, h⟩ := (bind_eq_ok ..).1 h
        cases h
      · exact ⟨nofun, rfl, rfl⟩
      · refine ⟨?_, rfl, rfl⟩
        rintro _ ⟨⟩
        exact hkey

theorem conveys_of_read (e : Element) (s : SignatureRecord) (h : readSignature e = .ok s) :
    Conveys e s := by
  obtain ⟨digest?, value?, hdigest, hvalue, hkey, hs, hs'⟩ := fields_of_readSignature e s h
  constructor
  · intro t ht
    rw [ht] at hdigest
    obtain ⟨b, hb, rfl⟩ := readOptional_some _ _ _ hdigest
    rw [hs]
    exact (readBytes_eq_ok t b).1 hb
  · intro t ht
    rw [ht] at hvalue
    obtain ⟨b, hb, rfl⟩ := readOptional_some _ _ _ hvalue
    rw [hs']
    exact (readBytes_eq_ok t b).1 hb
  · exact fun info t hinfo => (readSignatureKey_carries info _ (hkey info hinfo)).1 t
  · exact fun info t hinfo => (readSignatureKey_carries info _ (hkey info hinfo)).2 t

/-! ## Main result -/

/-- **Binary fields have one meaning.** A text is read as a byte string exactly if it is the
string's form with blanks put in, that is, if without its blanks it spells the bits of the string
and no more; any other text is refused. Ciphertexts and the fields of a signature are read so. -/
theorem binary_exact (t : String) (b : List UInt8) :
    (readBytes t = .ok b ↔ Spaced (encode b) t.toList) ∧
    (readBytes t = .ok b ↔ dropBlanks t.toList = encode b) ∧
    (readBytes t = .ok b ↔ Spells (dropBlanks t.toList) b) ∧
    ((∀ b, ¬ Spells (dropBlanks t.toList) b) ↔ readBytes t = .error (.ofXml .base64)) ∧
    (∀ e, cipherValue e = .ok b ↔ ∃ t, cipherText? e = some t ∧ Carries t b) ∧
    ∀ e s, readSignature e = .ok s → Conveys e s := by
  refine ⟨readBytes_eq_ok t b, (readBytes_eq_ok t b).trans (carries_iff t b),
    (readBytes_eq_ok t b).trans (carries_iff_spells t b), ?_, fun e => cipherValue_eq_ok e b,
    conveys_of_read⟩
  simp only [← carries_iff_spells]
  refine ⟨readBytes_eq_error t, fun h b hb => ?_⟩
  rw [(readBytes_eq_ok t b).2 hb] at h
  cases h

/-- A signature whose three binary fields are broken into lines. -/
def sampleSignature (digest value key : String) : Element where
  ns? := some Ns.signature
  name := "Signature"
  children :=
    [{ ns? := some Ns.signature, name := "SignedInfo"
       children :=
         [{ ns? := some Ns.signature, name := "CanonicalizationMethod"
            attributes := [("Algorithm", "c")] },
          { ns? := some Ns.signature, name := "SignatureMethod"
            attributes := [("Algorithm", "s")] },
          { ns? := some Ns.signature, name := "Reference", attributes := [("URI", "#_a1")]
            children :=
              [{ ns? := some Ns.signature, name := "DigestMethod"
                 attributes := [("Algorithm", "d")] },
               { ns? := some Ns.signature, name := "DigestValue", text := digest }] }] },
     { ns? := some Ns.signature, name := "SignatureValue", text := value },
     { ns? := some Ns.signature, name := "KeyInfo"
       children :=
         [{ ns? := some Ns.signature, name := "X509Data"
            children :=
              [{ ns? := some Ns.signature, name := "X509Certificate", text := key }] }] }]

def sampleRecord : SignatureRecord where
  algorithm := "s"
  canonicalization := "c"
  referenceUri := "#_a1"
  digestAlgorithm := "d"
  digestValue := [1]
  signatureValue := [1, 2]
  keyInfo := some (.certificate [1, 2, 3])

/-- A blank inside the padding changes nothing; a text that breaks off, one without its padding and
one with a spare bit that is set spell no bytes. -/
theorem binary_exact_sample :
    readBytes "AQ=\n=" = .ok [1] ∧ (∀ b, ¬ Spells (dropBlanks "AQID BA=".toList) b) ∧
    (∀ b, ¬ Spells (dropBlanks "AQIDBA".toList) b) ∧
    (∀ b, ¬ Spells (dropBlanks "AR==".toList) b) ∧
    readSignature (sampleSignature "AQ=\n=" " AQI= " "AQ\tID") = .ok sampleRecord ∧
    Conveys (sampleSignature "AQ=\n=" " AQI= " "AQ\tID") sampleRecord := by
  have hspaced : Spaced (encode [1]) "AQ=\n=".toList :=
    .keep 'A' (.keep 'Q' (.keep '=' (.blank (by decide) (.keep '=' .nil))))
  obtain ⟨hread, -, -, -, -, hsignature⟩ := binary_exact "AQ=\n=" [1]
  have hrefused (t : String) (ht : readBytes t = .error (.ofXml .base64)) :=
    (binary_exact t []).2.2.2.1.2 ht
  exact ⟨hread.2 hspaced, hrefused _ rfl, hrefused _ rfl, hrefused _ rfl, rfl, hsignature _ _ rfl⟩

end Federation.Saml
