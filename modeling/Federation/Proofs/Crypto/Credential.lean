import Federation.Crypto.Credential
import Federation.Proofs.Result

/-!
# Credentials read again

A credential keeps the bytes that it was read from, so reading those once more gives the credential
again, but for its name, which is none of them.

    c.Read  →  c.reread = ok { c with name := none }
    c.Built  →  ∃ bare, ofPkcs8 c.pkcs8 = ok bare ∧ …    (exists_of_built)

A private key goes back to the bare key that its bytes are read as, with the published half of that
key or one from a certificate of the same key, under any name.
-/

namespace Federation.Crypto

namespace PublicCredential

/-! ## The same key -/

theorem sameKey_iff (a b : PublicCredential) :
    a.sameKey b = true ↔ a.family = b.family ∧ a.key = b.key := by
  unfold sameKey
  rw [Bool.and_eq_true, decide_eq_true_eq, decide_eq_true_eq]

theorem sameKey_refl (a : PublicCredential) : a.sameKey a = true :=
  (sameKey_iff a a).2 ⟨rfl, rfl⟩

theorem sameKey_symm (a b : PublicCredential) (h : a.sameKey b = true) : b.sameKey a = true := by
  rw [sameKey_iff] at *
  exact ⟨h.1.symm, h.2.symm⟩

theorem sameKey_trans (a b c : PublicCredential) (h1 : a.sameKey b = true)
    (h2 : b.sameKey c = true) : a.sameKey c = true := by
  rw [sameKey_iff] at *
  exact ⟨h1.1.trans h2.1, h1.2.trans h2.2⟩

/-! ## Published credentials -/

/-- A credential that was read from a bare key or a certificate and may have been named since. -/
inductive Read : PublicCredential → Prop
  | keyInfo (der : Bytes) (c : PublicCredential) (h : ofKeyInfo der = .ok c) : Read c
  | certificate (der : Bytes) (c : PublicCredential) (h : ofCertificate der = .ok c) : Read c
  | named (c : PublicCredential) (name : String) (h : Read c) : Read (c.withName name)

/-- Reads what a credential is published as: its certificate, or its key if it has none. -/
def reread (c : PublicCredential) : Except Failure PublicCredential :=
  match c.certificate with
  | some der => ofCertificate der
  | none => ofKeyInfo c.keyInfo

theorem bare_of_ofKeyInfo (der : Bytes) (c : PublicCredential) (h : ofKeyInfo der = .ok c) :
    c.keyInfo = der ∧ c.certificate = none ∧ c.name = none := by
  obtain ⟨⟨family, key⟩, -, h⟩ := (bind_eq_ok _ _ _).1 h
  cases h
  exact ⟨rfl, rfl, rfl⟩

theorem certified_of_ofCertificate (der : Bytes) (c : PublicCredential)
    (h : ofCertificate der = .ok c) : c.certificate = some der ∧ c.name = none := by
  obtain ⟨keyInfo, -, h⟩ := (bind_eq_ok _ _ _).1 h
  obtain ⟨bare, hbare, h⟩ := (bind_eq_ok _ _ _).1 h
  cases h
  exact ⟨rfl, (bare_of_ofKeyInfo keyInfo bare hbare).2.2⟩

theorem unnamed_eq_self (c : PublicCredential) (h : c.name = none) :
    { c with name := none } = c := by
  rw [← h]

theorem reread_of_read (c : PublicCredential) (h : c.Read) :
    c.reread = .ok { c with name := none } := by
  induction h with
  | keyInfo der c h =>
    obtain ⟨hkeyInfo, hcertificate, hname⟩ := bare_of_ofKeyInfo der c h
    rw [unnamed_eq_self c hname]
    unfold reread
    rw [hcertificate, hkeyInfo]
    exact h
  | certificate der c h =>
    obtain ⟨hcertificate, hname⟩ := certified_of_ofCertificate der c h
    rw [unnamed_eq_self c hname]
    unfold reread
    rw [hcertificate]
    exact h
  | named c name _ ih => exact ih

end PublicCredential

/-! ## Private credentials -/

namespace PrivateCredential

/-- A credential that was read from a private key and may have been named and certified since. -/
inductive Built : PrivateCredential → Prop
  | pkcs8 (der : Bytes) (c : PrivateCredential) (h : ofPkcs8 der = .ok c) : Built c
  | named (c : PrivateCredential) (name : String) (h : Built c) : Built (c.withName name)
  | certified (c : PrivateCredential) (der : Bytes) (d : PrivateCredential) (h : Built c)
      (hd : c.withCertificate der = .ok d) : Built d

/-- The credential with another published half, under the name that it has. -/
def withPublic (c : PrivateCredential) (p : PublicCredential) (name : Option String) :
    PrivateCredential :=
  { c with publicHalf := { p with name } }

theorem ofPkcs8_eq_ok (der : Bytes) (c : PrivateCredential) (h : ofPkcs8 der = .ok c) :
    c.pkcs8 = der ∧ ∃ keyInfo, PublicCredential.ofKeyInfo keyInfo = .ok c.publicHalf := by
  unfold ofPkcs8 at h
  split at h
  · next secret _ =>
    obtain ⟨p, hp, h⟩ := (bind_eq_ok _ _ _).1 h
    cases h
    exact ⟨rfl, _, hp⟩
  · cases h

theorem withCertificate_eq_ok (c : PrivateCredential) (der : Bytes) (d : PrivateCredential) :
    c.withCertificate der = .ok d ↔ ∃ p, PublicCredential.ofCertificate der = .ok p ∧
      p.sameKey c.publicHalf = true ∧ d = c.withPublic p c.publicHalf.name := by
  unfold withCertificate
  rw [bind_eq_ok]
  refine exists_congr fun p => and_congr_right fun _ => ?_
  by_cases hsame : p.sameKey c.publicHalf = true
  · rw [if_pos hsame, and_iff_right hsame]
    exact ⟨fun h => (Except.ok.inj h).symm, fun h => h ▸ rfl⟩
  · rw [if_neg hsame]
    exact iff_of_false nofun fun h => hsame h.1

/-- Whatever was done to a credential, it is its bare key with a published half of that key. -/
theorem exists_of_built (c : PrivateCredential) (h : c.Built) : ∃ bare p,
    ofPkcs8 c.pkcs8 = .ok bare ∧ p.sameKey bare.publicHalf = true ∧
      (p = bare.publicHalf ∨ ∃ der, PublicCredential.ofCertificate der = .ok p) ∧
      c = bare.withPublic p c.publicHalf.name := by
  induction h with
  | pkcs8 der c h =>
    obtain ⟨hpkcs8, -⟩ := ofPkcs8_eq_ok der c h
    exact ⟨c, c.publicHalf, hpkcs8 ▸ h, c.publicHalf.sameKey_refl, Or.inl rfl, rfl⟩
  | named c name _ ih =>
    obtain ⟨bare, p, hbare, hsame, hp, hc⟩ := ih
    refine ⟨bare, p, hbare, hsame, hp, ?_⟩
    rw [hc]
    rfl
  | certified c der d _ hd ih =>
    obtain ⟨bare, p, hbare, hsame, -, hc⟩ := ih
    obtain ⟨q, hq, hqc, rfl⟩ := (withCertificate_eq_ok c der d).1 hd
    refine ⟨bare, q, hbare, ?_, Or.inr ⟨der, hq⟩, ?_⟩
    · have hcp : c.publicHalf.sameKey p = true := by
        rw [hc]
        exact p.sameKey_refl
      exact q.sameKey_trans _ _ hqc (c.publicHalf.sameKey_trans _ _ hcp hsame)
    · show c.withPublic q c.publicHalf.name = bare.withPublic q c.publicHalf.name
      rw [hc]
      rfl

/-- The published half of a credential was read. -/
theorem read_of_built (c : PrivateCredential) (h : c.Built) : c.publicHalf.Read := by
  induction h with
  | pkcs8 der c h =>
    obtain ⟨-, keyInfo, hp⟩ := ofPkcs8_eq_ok der c h
    exact .keyInfo keyInfo _ hp
  | named c name _ ih => exact .named _ name ih
  | certified c der d _ hd ih =>
    obtain ⟨p, hp, -, rfl⟩ := (withCertificate_eq_ok c der d).1 hd
    unfold withPublic
    cases c.publicHalf.name with
    | none =>
      rw [p.unnamed_eq_self (PublicCredential.certified_of_ofCertificate der p hp).2]
      exact .certificate der p hp
    | some name => exact .named p name (.certificate der p hp)

theorem ofCertificate_of_built (c : PrivateCredential) (h : c.Built) (der : Bytes)
    (hder : c.certificate = some der) :
    PublicCredential.ofCertificate der = .ok { c.publicHalf with name := none } := by
  unfold certificate at hder
  rw [← c.publicHalf.reread_of_read (read_of_built c h)]
  unfold PublicCredential.reread
  rw [hder]

theorem ofKeyInfo_of_built (c : PrivateCredential) (h : c.Built) (hnone : c.certificate = none) :
    PublicCredential.ofKeyInfo c.publicHalf.keyInfo = .ok { c.publicHalf with name := none } := by
  unfold certificate at hnone
  rw [← c.publicHalf.reread_of_read (read_of_built c h)]
  unfold PublicCredential.reread
  rw [hnone]

/-! ## Keys with a certificate beside them -/

/-- The credential with the certificate that lies beside its key, if one does. -/
def beside (c : PrivateCredential) : Option Bytes → Except Failure PrivateCredential
  | some der => c.withCertificate der
  | none => .ok c

/-- Whether a certificate fits is a matter of the key alone. -/
theorem withCertificate_withPublic (c : PrivateCredential) (p q : PublicCredential)
    (name : Option String) (der : Bytes) (h : p.sameKey q = true) :
    (c.withPublic p name).withCertificate der = (c.withPublic q name).withCertificate der := by
  unfold withCertificate
  cases PublicCredential.ofCertificate der with
  | error e => rfl
  | ok r =>
    have hsame : r.sameKey (c.withPublic p name).publicHalf
        = r.sameKey (c.withPublic q name).publicHalf :=
      Bool.eq_iff_iff.2 ⟨fun hr => r.sameKey_trans p q hr h,
        fun hr => r.sameKey_trans q p hr (p.sameKey_symm q h)⟩
    rw [ok_bind, ok_bind, hsame]
    rfl

/-- A credential is made again from its bytes, its name and a certificate beside them; one that has
a certificate needs one. -/
theorem remade_of_built (c : PrivateCredential) (h : c.Built) :
    ∃ bare, ofPkcs8 c.pkcs8 = .ok bare ∧ ∀ name other?,
      (c.certificate.isSome → other?.isSome) →
        (bare.withName name).beside other? = (c.withName name).beside other? := by
  obtain ⟨bare, p, hbare, hsame, hp, hc⟩ := exists_of_built c h
  refine ⟨bare, hbare, fun name other? hother => ?_⟩
  have hnamed : c.withName name = bare.withPublic p (some name) := by
    rw [hc]
    rfl
  rw [hnamed]
  cases other? with
  | some der =>
    exact (withCertificate_withPublic bare p bare.publicHalf (some name) der hsame).symm
  | none =>
    rcases hp with rfl | ⟨der, hder⟩
    · rfl
    · have hsome : c.certificate = some der := by
        rw [hc]
        exact (PublicCredential.certified_of_ofCertificate der p hder).1
      rw [hsome] at hother
      exact absurd (hother rfl) Bool.false_ne_true

/-- The certificate that a credential has is its own. -/
theorem beside_certificate (c : PrivateCredential) (h : c.Built) (name : String) :
    (c.withName name).beside c.certificate = .ok (c.withName name) := by
  cases hcertificate : c.certificate with
  | none => rfl
  | some der =>
    exact (withCertificate_eq_ok (c.withName name) der _).2
      ⟨_, ofCertificate_of_built c h der hcertificate, c.publicHalf.sameKey_refl, rfl⟩

end PrivateCredential

end Federation.Crypto
