import Federation.Proofs.Exchange.Readback
import Federation.Proofs.Metadata.Trust
import Federation.Proofs.Saml.Encryption

/-!
# From one party to the other

What an asserting party delivers, a matching relying party accepts, and what it answers is the
assertion that was sent, field by field.

    (a.produce q now random log).1 = ok d  →
      (p.consumeText s around d.xml).1 = ok d.assertion
-/

namespace Federation.Exchange

open Federation.Saml Federation.Time Federation.Metadata
open Federation.Crypto (Suite Random PublicCredential PrivateCredential)

/-! ## Written and read -/

namespace AssertingParty

section
variable (p : AssertingParty) (suite : Suite) (x : Encrypter) (q : Request) (now : Instant)
  (random : Random) (d : Delivery) (h : p.Answers suite x q now random d)
include h

theorem Answers.decode_xml (hd : d.assertion.Representable) :
    Response.decode d.xml = .ok d.response := by
  have hinstant : d.assertion.issueInstant = now := by
    obtain ⟨window, signature, ha⟩ := h.assertion_eq
    rw [ha]
    rfl
  exact h.decode_xml_iff.2 ⟨hinstant ▸ hd.issued, fun _ => hd⟩

end

end AssertingParty

/-! ## Conditions -/

/-- What is relied on about a suite: whether a signature verifies depends on the bits of the key
alone, the asserting party's key verifies what it signs, and the relying party's key opens what is
encrypted for it. -/
structure Reliable (suite : Suite) (a : AssertingParty) (p : RelyingParty) : Prop where
  byBits : suite.VerifiesByBits
  pairs : ∀ c, a.signingKey = some c → suite.Pairs c c.publicHalf
  opens : ∀ c recipient transport, p.decryptionKey = some c →
    a.encryption = some (recipient, transport) → c.publicHalf.sameKey recipient = true →
    suite.Opens c recipient

/-- The standard suite can be relied on for RSA keys that were read and whose exponents undo each
other. -/
theorem reliable_standard (a : AssertingParty) (p : RelyingParty)
    (hsigning : ∀ c ∈ a.signingKey, ∃ k, c.Sound k)
    (hdecryption : ∀ c ∈ p.decryptionKey, ∃ k, c.Sound k)
    (hread : ∀ k ∈ a.encryption, k.1.Read) : Reliable .standard a p where
  byBits := Suite.verifiesByBits_standard
  pairs c hc := by
    obtain ⟨k, hk⟩ := hsigning c hc
    exact Suite.pairs_standard c k hk _ c.publicHalf.sameKey_refl
  opens c recipient transport hc hrecipient hsame := by
    obtain ⟨k, hk⟩ := hdecryption c hc
    exact Suite.opens_standard c k hk recipient (hread _ hrecipient)
      (c.publicHalf.sameKey_symm recipient hsame)

/-- A relying party that an asserting party can deliver to: both run one protocol, and the relying
party expects deliveries where they are addressed to. -/
structure Matches (a : AssertingParty) (p : RelyingParty) (metadata : Resolver) (d : Delivery) :
    Prop where
  protocol : p.profile.protocol = a.profile.protocol
  issuer : a.profile.identityProvider ≠ ""
  destination : p.destination = some d.destination
  /-- The key that assertions are encrypted with is the relying party's. -/
  decrypts : ∀ recipient transport, a.encryption = some (recipient, transport) →
    ∃ c, p.decryptionKey = some c ∧ c.publicHalf.sameKey recipient = true
  /-- The key that messages are signed with is published, or nobody expects a signature. -/
  vouches : (∃ c key, a.signingKey = some c ∧ c.publicHalf.sameKey key = true ∧
      SigningKey metadata a.profile.identityProvider key) ∨
    (a.signingKey = none ∧ p.profile.requireSigned = false ∧ a.identityProvider.signingKeys = [])

/-- A delivery arrives in time and for the first time. -/
structure Timely (replay : ReplayStore) (now : Instant) (d : Delivery) : Prop where
  window : ∃ window, d.assertion.validity = some window ∧ window.notBefore ≤ now ∧
    now < window.notOnOrAfter
  fresh : replay.seen d.assertion.id now = false

/-! ## Signatures -/

theorem SigningKey.of_document (r r' : Resolver) (hdocument : r'.document = r.document)
    (id : String) (key : PublicCredential) (h : SigningKey r id key) : SigningKey r' id key := by
  obtain ⟨s, hs, h⟩ := h
  have hd := (r.document_eq_ok s.document).2 ⟨s, hs, rfl⟩
  obtain ⟨s', hs', heq⟩ := (r'.document_eq_ok s.document).1 (hdocument.trans hd)
  exact ⟨s', hs', heq ▸ h⟩

/-- Whatever the party signs is right under its published key. -/
theorem signedBy_of_signedWith {α : Type} [Signable α] [LawfulSignable α] (suite : Suite)
    (hsuite : suite.VerifiesByBits) (resolver : Resolver) (target t : α) (c : PrivateCredential)
    (hpairs : suite.Pairs c c.publicHalf) (id : String) (key : PublicCredential)
    (hkey : SigningKey resolver id key) (hsame : c.publicHalf.sameKey key = true)
    (h : AssertingParty.SignedWith suite (some c) target t) :
    ∃ s, Signable.signature? t = some s ∧ SignedBy suite resolver (some id) t s := by
  obtain ⟨s, hs, hverifies⟩ := verifies_of_sign suite target t c c.publicHalf hpairs h
  exact ⟨s, hs, id, rfl, key, hkey, hverifies.of_sameKey suite hsuite t s _ key hsame⟩

/-! ## Acceptance -/

section
variable (suite : Suite) (x y : Encrypter) (hy : y.searches = KeySearch.all)
  (a : AssertingParty) (p : RelyingParty) (hp : p.capabilities = .standardWith suite y)
  (hsuite : Reliable suite a p)
  (q : Request) (now : Instant) (random random' : Random) (d : Delivery)
  (h : a.Answers suite x q now random d) (hd : d.assertion.Representable)
  (metadata resolver : Resolver) (hmatches : Matches a p metadata d)
  (hdocument : resolver.document = metadata.document)
  (hidp : metadata.trusted ⟨a.profile.identityProvider, .identityProvider, a.profile.protocol⟩
    = .ok a.identityProvider)

include h hidp in
theorem issuer_of_answers : d.assertion.issuer = some a.profile.identityProvider ∧
    d.response.effectiveIssuer = some a.profile.identityProvider := by
  have hid : a.identityProvider.entityId = a.profile.identityProvider :=
    metadata.entityId_of_trusted _ _ hidp
  obtain ⟨_, _, ha⟩ := h.assertion_eq
  rw [h.effectiveIssuer_eq, ha, hid]
  exact ⟨congrArg some hid, rfl⟩

include hy hp hsuite h hd hmatches in
theorem carries_of_answers : p.Carries random' d.response d.assertion := by
  obtain ⟨window, payload, signature, hpacked, hr⟩ := h.response_eq
  have hpayload : d.response.payload = some payload := by
    rw [hr]
    rfl
  obtain ⟨recipient, transport, e, hrecipient, he, rfl, ha⟩ | ⟨-, -, rfl⟩ := hpacked
  · obtain ⟨c, hc, hsame⟩ := hmatches.decrypts recipient transport hrecipient
    refine Or.inr ⟨e, c, hpayload, hc, ?_⟩
    rw [hp]
    rw [← ha] at he
    exact Encrypter.decrypt_encrypt x y suite random random' d.assertion recipient transport _ _ e
      hy c (hsuite.opens c recipient transport hc hrecipient hsame) hd he
  · exact Or.inl hpayload

include hsuite h hmatches hdocument hidp in
/-- A response that is signed is signed by its issuer. -/
theorem signed_of_answers (s : SignatureRecord) (hs : d.response.signature = some s) :
    SignedBy suite resolver d.response.effectiveIssuer d.response s := by
  obtain ⟨window, payload, -, -, hsigned⟩ := h.stated
  rw [(issuer_of_answers suite x a q now random d h metadata hidp).2]
  obtain ⟨c, key, hc, hsame, hkey⟩ | ⟨hnone, -, -⟩ := hmatches.vouches
  · rw [hc] at hsigned
    obtain ⟨s', hs', hby⟩ := signedBy_of_signedWith suite hsuite.byBits resolver _ _ c
      (hsuite.pairs c hc) _ key (hkey.of_document metadata resolver hdocument) hsame hsigned
    have heq : some s' = some s := hs'.symm.trans hs
    rw [← Option.some.inj heq]
    exact hby
  · rw [hnone] at hsigned
    rw [hsigned] at hs
    cases hs

include hsuite h hmatches hdocument hidp in
theorem vouched_of_answers : p.Vouched suite resolver d.response d.assertion := by
  obtain ⟨hissuer, heffective⟩ := issuer_of_answers suite x a q now random d h metadata hidp
  obtain ⟨window, payload, -, hpacked, hsigned⟩ := h.stated
  unfold RelyingParty.Vouched
  rw [hissuer, heffective]
  obtain ⟨c, key, hc, hsame, hkey⟩ | ⟨hnone, hrequire, hkeys⟩ := hmatches.vouches
  · have hkey := hkey.of_document metadata resolver hdocument
    have hpairs := hsuite.pairs c hc
    rw [hc] at hsigned
    obtain ⟨_, _, _, _, _, _, ha⟩ | ⟨_, hplain, _⟩ := hpacked
    · have hunsigned : d.assertion.signature = none := by
        rw [ha]
        rfl
      obtain ⟨s, hs, -⟩ := signedBy_of_signedWith suite hsuite.byBits resolver _ _ c hpairs _ key
        hkey hsame hsigned
      have hs : d.response.signature = some s := hs
      rw [hunsigned, hs]
      exact ⟨rfl, rfl⟩
    · rw [hc] at hplain
      obtain ⟨s, hs, hby⟩ := signedBy_of_signedWith suite hsuite.byBits resolver _ _ c hpairs _ key
        hkey hsame hplain
      have hs : d.assertion.signature = some s := hs
      rw [hs]
      exact hby
  · rw [hnone] at hsigned
    have hr : d.response.signature = none := congrArg (·.signature) hsigned
    have ha : d.assertion.signature = none := by
      obtain ⟨_, _, _, _, _, _, ha⟩ | ⟨_, hplain, _⟩ := hpacked
      · exact congrArg (·.signature) ha
      · rw [hnone] at hplain
        exact congrArg (·.signature) hplain
    obtain ⟨idp, htrusted, hidpKeys⟩ := metadata.trusted_of_document resolver hdocument _ _ hidp
    rw [ha, hr, hmatches.protocol]
    exact ⟨hrequire, _, idp, rfl, htrusted, hidpKeys.trans hkeys⟩

include hy hp hsuite h hd hmatches hdocument hidp in
theorem believed_of_answers : p.Believed suite resolver random' d.response d.assertion := by
  obtain ⟨_, payload, signature, -, hr⟩ := h.response_eq
  refine ⟨?_, ?_, ?_, ?_, ?_, ?_⟩
  · rw [hr, hmatches.protocol]
    rfl
  · exact signed_of_answers suite x a p hsuite q now random d h metadata resolver hmatches hdocument
      hidp
  · intro expected destination hexpected hdestination
    rw [hmatches.destination] at hexpected
    rw [hr] at hdestination
    cases hexpected
    cases hdestination
    rfl
  · rw [hr]
    rfl
  · exact carries_of_answers suite x y hy a p hp hsuite q now random random' d h hd metadata
      hmatches
  · exact vouched_of_answers suite x a p hsuite q now random d h metadata resolver hmatches
      hdocument hidp

include h hmatches hdocument hidp in
theorem passes_of_answers (hprotocol : p.validator.protocol = p.profile.protocol)
    (hdestination : p.validator.destination = some d.destination) (hsubject : q.subject ≠ "")
    (replay : ReplayStore) (wall : Instant)
    (htimely : Timely replay wall d) : p.validator.Passes resolver d.assertion wall := by
  obtain ⟨_, _, ha⟩ := h.assertion_eq
  obtain ⟨idp, htrusted, -⟩ := metadata.trusted_of_document resolver hdocument _ _ hidp
  obtain ⟨window, hwindow, hstart, hstop⟩ := htimely.window
  rw [hmatches.protocol] at hprotocol
  refine ⟨?_, ⟨_, ?_, hmatches.issuer, idp, ?_⟩, ⟨window, hwindow, ?_⟩, ?_, ?_⟩
  · rw [ha, hprotocol]
    rfl
  · exact (issuer_of_answers suite x a q now random d h metadata hidp).1
  · rw [hprotocol]
    exact htrusted
  · exact contains_of_within window wall _ hstart hstop
  · rw [ha]
    exact ⟨_, rfl, hsubject⟩
  · intro expected subject destination hexpected hs hd
    rw [hdestination] at hexpected
    rw [ha] at hs
    cases hs
    cases hexpected
    cases hd
    rfl

end

/-! ## Main result -/

/-- A validator expects what the relying party expects. -/
theorem validator_destination (profile : RelyingProfile) (r : Resolver)
    (key : Option PrivateCredential) (validator : Validator) (capabilities : Capabilities)
    (p : RelyingParty) (h : RelyingParty.of profile r key validator capabilities = .ok p) :
    p.validator.destination = p.destination.or validator.destination := by
  unfold RelyingParty.of at h
  by_cases hprotocol : validator.protocol ≠ profile.protocol
  · rw [if_pos hprotocol] at h
    cases h
  rw [if_neg hprotocol] at h
  obtain ⟨sp, -, h⟩ := (bind_eq_ok _ _ _).1 h
  cases h
  rfl

section
variable (signing decryption : Option PrivateCredential)

/-- Metadata of an identity provider and a service provider, with the keys that they use. -/
def sampleMetadata : Resolver :=
  { snapshot := some
      { loadedAt := ⟨0⟩
        document := { entities := [
          { entityId := "idp"
            roles := [{ role := .identityProvider, protocols := [.saml20]
                        keys := signing.toList.map fun c =>
                          { use := .signing, key := c.publicHalf } }] },
          { entityId := "sp"
            roles := [{ role := .serviceProvider, protocols := [.saml20]
                        keys := decryption.toList.map fun c =>
                          { use := .encryption, key := c.publicHalf }
                        endpoints := [{ binding := .httpPost, location := "https://sp/acs" }] }] }]
          } } }

def sampleSender : AssertingParty where
  profile := { identityProvider := "idp", serviceProvider := "sp", protocol := .saml20
               requireSigning := signing.isSome }
  identityProvider :=
    { entityId := "idp", role := .identityProvider, protocol := .saml20, endpoints := []
      signingKeys := signing.toList.map (·.publicHalf), encryption := none }
  serviceProvider :=
    { entityId := "sp", role := .serviceProvider, protocol := .saml20
      endpoints := [{ binding := .httpPost, location := "https://sp/acs" }], signingKeys := []
      encryption := decryption.map fun c =>
        (c.publicHalf, Crypto.KeyTransport.rsaOaepMgf1p.uri) }
  signingKey := signing
  capabilities := .standardWith .standard { placement := .peer }

def sampleReceiver : RelyingParty where
  profile := { serviceProvider := "sp", protocol := .saml20, requireSigned := signing.isSome }
  serviceProvider := (sampleSender signing decryption).serviceProvider
  destination := some "https://sp/acs"
  decryptionKey := decryption
  validator := { protocol := .saml20, destination := some "https://sp/acs" }
  capabilities := .standardWith .standard {}

section
variable (hfamily : ∀ c ∈ decryption, c.publicHalf.family = .rsa)
include hfamily

theorem of_sampleSender : AssertingParty.of (sampleSender signing decryption).profile
    (sampleMetadata signing decryption) signing (.standardWith .standard { placement := .peer })
      = .ok (sampleSender signing decryption) := by
  cases decryption with
  | none => cases signing <;> rfl
  | some c =>
    obtain ⟨pkcs8, secret, family, _⟩ := c
    obtain rfl : family = .rsa := hfamily _ rfl
    cases signing <;> rfl

theorem of_sampleReceiver : RelyingParty.of (sampleReceiver signing decryption).profile
    (sampleMetadata signing decryption) decryption { protocol := .saml20 }
    (.standardWith .standard {}) = .ok (sampleReceiver signing decryption) := by
  cases decryption with
  | none => cases signing <;> rfl
  | some c =>
    obtain ⟨pkcs8, secret, family, _⟩ := c
    obtain rfl : family = .rsa := hfamily _ rfl
    cases signing <;> rfl

end

end

def sampleRequest : Request := { subject := "user", attributes := [("role", " ")] }

def sampleTime : Instant := .sample 60

def sampleRandom : Random := ⟨fun _ _ => 0⟩

/-- The window of the sample request, which neither the keys nor the destination change. -/
def sampleSpan : Validity := ⟨sampleTime, .sample 360, by decide⟩

theorem window_sampleRequest (signing decryption : Option PrivateCredential)
    (destination : String) :
    sampleRequest.window ((sampleSender signing decryption).setting destination sampleTime)
      = .ok sampleSpan := by
  have hadd : sampleTime.add? (.ofSeconds 300) = some (.sample 360) := by decide
  unfold Request.window
  simp only [sampleSender, AssertingParty.setting, sampleRequest, Option.getD_none, hadd]
  rfl

/-- The sample sender has an answer if it can use its keys. -/
theorem exists_sampleDelivery (signing decryption : Option PrivateCredential)
    (hsigning : ∀ c ∈ signing, Suite.standard.Signs c)
    (hdecryption : ∀ c ∈ decryption, Suite.standard.Seals c.publicHalf) :
    ∃ d, ((sampleSender signing decryption).produce sampleRequest sampleTime sampleRandom []).1
      = .ok d := by
  refine ((sampleSender signing decryption).respond_isOk_iff .standard { placement := .peer }
    hsigning ?_ sampleRandom rfl sampleRequest sampleTime).2
      ⟨"https://sp/acs", rfl, _, window_sampleRequest signing decryption _⟩
  intro recipient transport hrecipient
  obtain ⟨c, hc, heq⟩ := Option.map_eq_some_iff.1 hrecipient
  cases heq
  exact ⟨hdecryption c hc, _, rfl⟩

/-- A matching relying party answers the assertion that an asserting party produced. -/
theorem consumeText_produce (suite : Suite) (x y : Encrypter) (hy : y.searches = KeySearch.all)
    (metadata : Resolver) (sender : AssertingProfile) (signingKey : Option PrivateCredential)
    (a : AssertingParty)
    (ha : AssertingParty.of sender metadata signingKey (.standardWith suite x) = .ok a)
    (receiver : RelyingProfile) (decryptionKey : Option PrivateCredential) (validator : Validator)
    (p : RelyingParty)
    (hp : RelyingParty.of receiver metadata decryptionKey validator (.standardWith suite y) = .ok p)
    (hsuite : Reliable suite a p) (q : Request) (hsubject : q.subject ≠ "") (now : Instant)
    (random : Random) (log : List Audit.Event) (d : Delivery)
    (hd : (a.produce q now random log).1 = .ok d) (hrepresentable : d.assertion.Representable)
    (hmatches : Matches a p metadata d) (s : RelyingState) (around : Surroundings)
    (hdocument : (s.resolver.refreshIfStale around.source around.uptime).2.document
      = metadata.document)
    (htimely : Timely s.replay around.wall d) :
    (p.consumeText s around d.xml).1 = .ok d.assertion := by
  obtain ⟨hsender, -, hsenderCapabilities, hidp⟩ := AssertingParty.of_eq_ok _ _ _ _ _ ha
  obtain ⟨-, -, hcapabilities, hprotocol, -⟩ := RelyingParty.of_eq_ok _ _ _ _ _ _ hp
  rw [← hsender] at hidp
  have hdestination : p.validator.destination = some d.destination := by
    rw [validator_destination _ _ _ _ _ _ hp, hmatches.destination]
    rfl
  have h := a.respond_eq_ok suite x hsenderCapabilities random q now d hd
  unfold RelyingParty.consumeText
  rw [h.decode_xml a suite x q now random d hrepresentable]
  refine (p.judge_eq_ok suite hsuite.byBits y hcapabilities _ _ _ _ _ _ _).2 ⟨?_, ?_, htimely.fresh⟩
  · exact believed_of_answers suite x y hy a p hcapabilities hsuite q now random around.random d h
      hrepresentable metadata _ hmatches hdocument hidp
  · exact passes_of_answers suite x a p q now random d h metadata _ hmatches hdocument hidp
      hprotocol hdestination hsubject s.replay around.wall htimely

/-- What the sample parties make of the sample request. -/
def sampleRoundTrip (signing decryption : Option PrivateCredential) : Prop :=
  ∃ d, ((sampleSender signing decryption).produce sampleRequest sampleTime sampleRandom []).1
      = .ok d ∧
    ((sampleReceiver signing decryption).consumeText
      { resolver := sampleMetadata signing decryption, replay := {} }
      { wall := sampleTime, uptime := ⟨0⟩, source := .ofDocument {}, random := sampleRandom }
      d.xml).1 = .ok d.assertion

/-- The sample parties are a match. -/
theorem matches_sample (signing decryption : Option PrivateCredential) (d : Delivery)
    (hdestination : d.destination = "https://sp/acs") :
    Matches (sampleSender signing decryption) (sampleReceiver signing decryption)
      (sampleMetadata signing decryption) d where
  protocol := rfl
  issuer := by
    show "idp" ≠ ""
    decide
  destination := congrArg some hdestination.symm
  decrypts recipient transport h := by
    obtain ⟨c, hc, heq⟩ := Option.map_eq_some_iff.1 h
    cases heq
    exact ⟨c, hc, c.publicHalf.sameKey_refl⟩
  vouches := by
    cases signing with
    | some c =>
      refine Or.inl ⟨c, c.publicHalf, rfl, c.publicHalf.sameKey_refl, _, rfl, _, rfl, _,
        List.mem_singleton_self _, rfl, _, List.mem_singleton_self _, Or.inl rfl, rfl⟩
    | none => exact Or.inr ⟨rfl, rfl, rfl⟩

theorem timely_sample (signing decryption : Option PrivateCredential) (suite : Suite)
    (x : Encrypter) (random : Random) (d : Delivery)
    (h : (sampleSender signing decryption).Answers suite x sampleRequest sampleTime random d) :
    Timely {} sampleTime d := by
  obtain ⟨window, payload, hwindow, hpacked, -⟩ := h.stated
  obtain ⟨signature, ha⟩ := hpacked.assertion_eq
  rw [window_sampleRequest] at hwindow
  cases hwindow
  exact ⟨⟨sampleSpan, congrArg (·.validity) ha, by decide, by decide⟩, rfl⟩

theorem representable_sampleRequest (signing decryption : Option PrivateCredential)
    (destination : String) : sampleRequest.Representable
      ((sampleSender signing decryption).setting destination sampleTime) where
  issued := by
    show sampleTime.Representable
    decide
  window window hwindow := by
    rw [window_sampleRequest] at hwindow
    cases hwindow
    decide
  context := nofun

/-- An encrypted assertion with its key beside it in a signed response, and one in clear that nobody
signs. -/
theorem consumeText_produce_sample :
    sampleRoundTrip (some .sampleSigner) (some .sampleHolder) ∧ sampleRoundTrip none none := by
  have hround (signing decryption : Option PrivateCredential)
      (hsigning : ∀ c ∈ signing, ∃ k, c.Sound k)
      (hdecryption : ∀ c ∈ decryption, (∃ k, c.Sound k) ∧ Suite.standard.Seals c.publicHalf) :
      sampleRoundTrip signing decryption := by
    have hfamily : ∀ c ∈ decryption, c.publicHalf.family = .rsa := fun c hc =>
      (hdecryption c hc).1.elim fun _ hk => hk.family_publicHalf
    obtain ⟨d, hd⟩ := exists_sampleDelivery signing decryption
      (fun c hc => (hsigning c hc).elim fun k hk => Suite.signs_standard c k hk)
      (fun c hc => (hdecryption c hc).2)
    have hanswers := (sampleSender signing decryption).respond_eq_ok .standard
      { placement := .peer } rfl sampleRandom sampleRequest sampleTime d hd
    have hdestination : d.destination = "https://sp/acs" := (Except.ok.inj hanswers.located).symm
    refine ⟨d, hd, consumeText_produce .standard { placement := .peer } {} rfl
      (sampleMetadata signing decryption) (sampleSender signing decryption).profile signing
      (sampleSender signing decryption) (of_sampleSender signing decryption hfamily)
      (sampleReceiver signing decryption).profile decryption { protocol := .saml20 }
      (sampleReceiver signing decryption) (of_sampleReceiver signing decryption hfamily) ?_
      sampleRequest (by decide) sampleTime sampleRandom [] d hd
      (hanswers.representable_assertion.2 (representable_sampleRequest signing decryption _))
      (matches_sample signing decryption d hdestination) _ _ rfl
      (timely_sample signing decryption _ _ _ d hanswers)⟩
    refine reliable_standard _ _ hsigning (fun c hc => (hdecryption c hc).1) fun k hk => ?_
    obtain ⟨c, hc, rfl⟩ := Option.map_eq_some_iff.1 hk
    obtain ⟨_, hsound⟩ := (hdecryption c hc).1
    exact PrivateCredential.read_of_built c hsound.built
  refine ⟨hround _ _ ?_ ?_, hround none none nofun nofun⟩
  · rintro c ⟨⟩
    exact ⟨_, PrivateCredential.sound_sampleSigner⟩
  · rintro c ⟨⟩
    exact ⟨⟨_, PrivateCredential.sound_sampleHolder⟩, PrivateCredential.seals_sampleHolder⟩

end Federation.Exchange
