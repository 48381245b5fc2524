import Federation.Installation
import Federation.Proofs.Crypto.Suite
import Federation.Proofs.Lookup
import Federation.Proofs.Result
import Mathlib.Data.List.Forall2
import Mathlib.Data.List.Induction

/-!
# Overrides

The peer is served, kind by kind, with the capability that was registered last for its code and that
kind, in whatever case the code was spelled then. Without one it has the standard capability, or the
encrypter that is configured. What is registered for other codes and kinds makes no difference.

    own? log peer kind = the last of log that concerns peer and kind
    (registered log).find? code kind = own? log (some code) kind

A set of capabilities is put together by what each implementation is, not by what it was looked up
for. The two agree, since whatever is registered is kept under its own kind (`kind_of_own?`).
-/

namespace Federation.Exchange

open Federation.Crypto (Suite DataEncryption)

/-! ## Codes -/

/-- One letter twice, whatever its case. Only the letters from `A` to `Z` have one. -/
def SameLetter (a b : Char) : Prop :=
  a = b ∨ ∃ n < 26, (a.toNat = 65 + n ∧ b.toNat = 97 + n) ∨ (a.toNat = 97 + n ∧ b.toNat = 65 + n)

/-- One code in two spellings. -/
def SameCode (s t : String) : Prop := List.Forall₂ SameLetter s.toList t.toList

instance : DecidableRel SameLetter := fun a b => inferInstanceAs (Decidable (a = b ∨ _))

instance : DecidableRel SameCode := fun s t =>
  inferInstanceAs (Decidable (List.Forall₂ SameLetter s.toList t.toList))

theorem toNat_toLower (c : Char) :
    c.toLower.toNat = if 65 ≤ c.toNat ∧ c.toNat ≤ 90 then c.toNat + 32 else c.toNat := by
  have hcapital : c.val ≥ 'A'.val ∧ c.val ≤ 'Z'.val ↔ 65 ≤ c.toNat ∧ c.toNat ≤ 90 := Iff.rfl
  unfold Char.toLower
  split
  · next h =>
    have h := hcapital.1 h
    rw [if_pos h]
    show (c.val + 32).toNat = c.toNat + 32
    rw [UInt32.toNat_add]
    exact Nat.mod_eq_of_lt (show c.toNat + 32 < 2 ^ 32 by omega)
  · next h => rw [if_neg (mt hcapital.2 h)]

theorem toLower_eq_toLower_iff (a b : Char) : a.toLower = b.toLower ↔ SameLetter a b := by
  rw [← Char.toNat_inj, toNat_toLower, toNat_toLower, SameLetter, ← Char.toNat_inj]
  constructor
  · intro h
    by_cases hab : a.toNat = b.toNat
    · exact .inl hab
    · exact .inr ⟨min a.toNat b.toNat - 65, by split at h <;> split at h <;> omega,
        by split at h <;> split at h <;> omega⟩
  · rintro (h | ⟨n, hn, h | h⟩)
    · rw [h]
    · rw [h.1, h.2]
      split <;> split <;> omega
    · rw [h.1, h.2]
      split <;> split <;> omega

theorem place_eq_place_iff (s t : String) (k l : CapabilityKind) :
    Overrides.place s k = Overrides.place t l ↔ SameCode s t ∧ k = l := by
  have hletters (s : String) : s.toLower.toList = s.toList.map Char.toLower := String.toList_map
  rw [Overrides.place, Overrides.place, Prod.mk.injEq, ← String.toList_inj, hletters, hletters,
    ← List.forall₂_eq_eq_eq, List.forall₂_map_left_iff, List.forall₂_map_right_iff, SameCode]
  simp only [toLower_eq_toLower_iff]

/-! ## Registrations -/

/-- A registration: the code it was made for, and the capability. -/
abbrev Registration := String × Implementation

/-- The overrides after some registrations, the first one first. -/
def registered (log : List Registration) : Overrides :=
  log.foldl (fun o e => o.register e.1 e.2) {}

/-- A registration for this peer, in whatever case, and of this kind. -/
def Concerns (peer : Option String) (kind : CapabilityKind) (e : Registration) : Prop :=
  (∃ code ∈ peer, SameCode e.1 code) ∧ e.2.kind = kind

instance (peer : Option String) (kind : CapabilityKind) : DecidablePred (Concerns peer kind) :=
  fun _ => inferInstanceAs (Decidable (_ ∧ _))

/-- The capability of a kind that the peer has of its own: the one registered last. -/
def own? (log : List Registration) (peer : Option String) (kind : CapabilityKind) :
    Option Implementation :=
  (log.filter fun e => Concerns peer kind e).getLast?.map (·.2)

theorem own?_concat (log : List Registration) (e : Registration) (peer : Option String)
    (kind : CapabilityKind) :
    own? (log ++ [e]) peer kind = if Concerns peer kind e then some e.2 else own? log peer kind := by
  unfold own?
  by_cases h : Concerns peer kind e <;> simp [List.filter_append, h]

theorem kind_of_own? (log : List Registration) (peer : Option String) (kind : CapabilityKind)
    (i : Implementation) (h : own? log peer kind = some i) : i.kind = kind := by
  obtain ⟨e, he, rfl⟩ := Option.map_eq_some_iff.1 h
  have he := (List.mem_filter.1 (List.mem_of_getLast? he)).2
  exact (of_decide_eq_true he).2

/-- One registration: it is what its own code and kind have from now on, and nothing else. -/
theorem find?_register (o : Overrides) (code : String) (i : Implementation) (code' : String)
    (kind : CapabilityKind) :
    (o.register code i).find? code' kind =
      if SameCode code code' ∧ i.kind = kind then some i else o.find? code' kind := by
  show List.lookup (Overrides.place code' kind)
    ((Overrides.place code i.kind, i) :: o.entries.filter fun e => e.1 ≠ Overrides.place code i.kind)
      = _
  rw [List.lookup_cons]
  by_cases h : SameCode code code' ∧ i.kind = kind
  · rw [if_pos h, (place_eq_place_iff code code' i.kind kind).2 h, beq_self_eq_true]
  · have hplace : Overrides.place code' kind ≠ Overrides.place code i.kind :=
      fun heq => h ((place_eq_place_iff code code' i.kind kind).1 heq.symm)
    rw [if_neg h, beq_eq_false_iff_ne.2 hplace]
    exact lookup_filter o.entries _ _ fun _ => decide_eq_true hplace

/-- Any number of registrations. -/
theorem find?_registered (log : List Registration) (code : String) (kind : CapabilityKind) :
    (registered log).find? code kind = own? log (some code) kind := by
  induction log using List.reverseRecOn with
  | nil => rfl
  | append_singleton log e ih =>
    rw [registered, List.foldl_append, List.foldl_cons, List.foldl_nil, ← registered,
      find?_register, own?_concat, ih]
    simp [Concerns]

/-- The capability that the peer has of its own, as an installation looks it up. -/
theorem bind_find?_registered (log : List Registration) (peer : Option String)
    (kind : CapabilityKind) :
    (peer.bind fun code => (registered log).find? code kind) = own? log peer kind := by
  cases peer with
  | none => simp [own?, Concerns]
  | some code => exact find?_registered log code kind

/-! ## Sets of capabilities -/

namespace Capabilities

/-- The capability of a kind. -/
def get (c : Capabilities) : CapabilityKind → Implementation
  | .produces => .builds c.builds
  | .consumes => .accepts c.accepts
  | .encrypts => .encrypts c.encrypts
  | .signs => .signs c.signs

theorem get_put (c : Capabilities) (i : Implementation) (kind : CapabilityKind) :
    (c.put i).get kind = if i.kind = kind then i else c.get kind := by
  cases i <;> cases kind <;> rfl

theorem ext_get (c c' : Capabilities) (h : ∀ kind, c.get kind = c'.get kind) : c = c' := by
  obtain ⟨b, a, e, s⟩ := c
  obtain rfl : b = c'.builds := Implementation.builds.inj (h .produces)
  obtain rfl : a = c'.accepts := Implementation.accepts.inj (h .consumes)
  obtain rfl : e = c'.encrypts := Implementation.encrypts.inj (h .encrypts)
  obtain rfl : s = c'.signs := Implementation.signs.inj (h .signs)
  rfl

/-- Capabilities put one by one, each of the kind it was chosen for. -/
theorem get_foldl_put (choose : CapabilityKind → Implementation)
    (hkind : ∀ kind, (choose kind).kind = kind) (kinds : List CapabilityKind) (c : Capabilities)
    (kind : CapabilityKind) :
    (kinds.foldl (fun c k => c.put (choose k)) c).get kind =
      if kind ∈ kinds then choose kind else c.get kind := by
  induction kinds generalizing c with
  | nil => simp
  | cons k kinds ih =>
    rw [List.foldl_cons, ih, get_put, hkind]
    by_cases hk : k = kind
    · simp [hk]
    · simp [hk, Ne.symm hk]

end Capabilities

theorem CapabilityKind.mem_all (kind : CapabilityKind) : kind ∈ CapabilityKind.all := by
  cases kind <;> decide

theorem Implementation.kind_standard (suite : Suite) (kind : CapabilityKind) :
    (standard suite kind).kind = kind := by
  cases kind <;> rfl

theorem get_capabilities (log : List Registration) (suite : Suite) (peer : Option String)
    (kind : CapabilityKind) :
    ((registered log).capabilities suite peer).get kind =
      (own? log peer kind).getD (.standard suite kind) := by
  have himplementation (k : CapabilityKind) : (registered log).implementation suite peer k =
      (own? log peer k).getD (.standard suite k) := by
    rw [Overrides.implementation, bind_find?_registered]
  have hkind (k : CapabilityKind) : ((registered log).implementation suite peer k).kind = k := by
    rw [himplementation]
    cases h : own? log peer k with
    | none => exact Implementation.kind_standard suite k
    | some i => exact kind_of_own? log peer k i h
  rw [Overrides.capabilities, Capabilities.get_foldl_put _ hkind, if_pos kind.mem_all,
    himplementation]

/-! ## Installations -/

/-- An installation after some registrations. -/
def installed (settings : Settings) (log : List Registration) : Installation :=
  { settings, overrides := registered log }

/-- What serves the configured peer for a kind: the capability of its own, or else the standard one,
or the encrypter of the settings. -/
inductive Serves (settings : Settings) (log : List Registration) (suite : Suite)
    (kind : CapabilityKind) : Implementation → Prop
  | own (i : Implementation) (h : own? log settings.identityProvider.peerCode kind = some i) :
      Serves settings log suite kind i
  | standard (h : own? log settings.identityProvider.peerCode kind = none)
      (hkind : kind ≠ .encrypts) : Serves settings log suite kind (.standard suite kind)
  | configured (encryption : DataEncryption)
      (h : own? log settings.identityProvider.peerCode kind = none) (hkind : kind = .encrypts)
      (huri : encryption.uri = settings.crypto.dataEncryption) :
      Serves settings log suite kind
        (.encrypts (.ofEncrypter suite { encryption, placement := settings.crypto.keyPlacement }))

theorem dataEncryption_cases (s : String) :
    (∃ x : DataEncryption, x.uri = s ∧ DataEncryption.ofUri s = .ok x) ∨
      (∀ x : DataEncryption, x.uri ≠ s) ∧
        DataEncryption.ofUri s = .error (.unsupportedAlgorithm s) := by
  by_cases h : ∃ x : DataEncryption, x.uri = s
  · obtain ⟨x, rfl⟩ := h
    exact .inl ⟨x, rfl, by cases x <;> rfl⟩
  · have hnone : DataEncryption.all.find? (·.uri == s) = none :=
      List.find?_eq_none.2 fun x _ hx => h ⟨x, beq_iff_eq.1 hx⟩
    exact .inr ⟨fun x hx => h ⟨x, hx⟩, by rw [DataEncryption.ofUri, hnone]⟩

section
variable (settings : Settings) (log : List Registration) (suite : Suite)

theorem serves_getD (kind : CapabilityKind)
    (h : own? log settings.identityProvider.peerCode kind ≠ none ∨ kind ≠ .encrypts) :
    Serves settings log suite kind
      ((own? log settings.identityProvider.peerCode kind).getD (.standard suite kind)) := by
  cases hown : own? log settings.identityProvider.peerCode kind with
  | some i => exact .own i hown
  | none => exact .standard hown (h.resolve_left fun hne => hne hown)

theorem serves_unique (kind : CapabilityKind) (i j : Implementation)
    (hi : Serves settings log suite kind i) (hj : Serves settings log suite kind j) : i = j := by
  have huri (x y : DataEncryption) (h : x.uri = y.uri) : x = y := by
    revert h
    cases x <;> cases y <;> decide
  cases hi with
  | own i h =>
    cases hj with
    | own j h' => exact Option.some.inj (h.symm.trans h')
    | standard h' => cases h.symm.trans h'
    | configured _ h' => cases h.symm.trans h'
  | standard h hkind =>
    cases hj with
    | own j h' => cases h.symm.trans h'
    | standard => rfl
    | configured _ _ hkind' => exact absurd hkind' hkind
  | configured x h hkind hx =>
    cases hj with
    | own j h' => cases h.symm.trans h'
    | standard _ hkind' => exact absurd hkind hkind'
    | configured y _ _ hy => rw [huri x y (hx.trans hy.symm)]

theorem serves_of_own?_eq (log' : List Registration) (kind : CapabilityKind)
    (h : own? log settings.identityProvider.peerCode kind
      = own? log' settings.identityProvider.peerCode kind) (i : Implementation)
    (hi : Serves settings log suite kind i) : Serves settings log' suite kind i := by
  cases hi with
  | own _ hown => exact .own i (h ▸ hown)
  | standard hown hkind => exact .standard (h ▸ hown) hkind
  | configured x hown hkind hx => exact .configured x (h ▸ hown) hkind hx

theorem not_serves_encrypts (hown : own? log settings.identityProvider.peerCode .encrypts = none)
    (hno : ∀ x : DataEncryption, x.uri ≠ settings.crypto.dataEncryption) (i : Implementation) :
    ¬ Serves settings log suite .encrypts i := by
  intro hi
  cases hi with
  | own _ h => cases hown.symm.trans h
  | standard _ hkind => exact hkind rfl
  | configured x _ _ hx => exact hno x hx

theorem capabilities_installed : (installed settings log).capabilities suite =
    if (own? log settings.identityProvider.peerCode .encrypts).isSome then
      .ok ((registered log).capabilities suite settings.identityProvider.peerCode)
    else (DataEncryption.ofUri settings.crypto.dataEncryption).mapError .crypto >>= fun encryption =>
      .ok (((registered log).capabilities suite settings.identityProvider.peerCode).put
        (.encrypts (.ofEncrypter suite
          { encryption, placement := settings.crypto.keyPlacement }))) := by
  rw [← bind_find?_registered]
  rfl

/-- An installation has its capabilities, unless the peer has no encrypter of its own and the one of
the settings cannot be had. -/
theorem capabilities_cases :
    (∃ c, (installed settings log).capabilities suite = .ok c ∧
      ∀ kind, Serves settings log suite kind (c.get kind)) ∨
    (own? log settings.identityProvider.peerCode .encrypts = none ∧
      (∀ x : DataEncryption, x.uri ≠ settings.crypto.dataEncryption) ∧
      (installed settings log).capabilities suite
        = .error (.crypto (.unsupportedAlgorithm settings.crypto.dataEncryption))) := by
  rw [capabilities_installed]
  cases hown : own? log settings.identityProvider.peerCode .encrypts with
  | some i =>
    refine .inl ⟨_, rfl, fun kind => ?_⟩
    rw [get_capabilities]
    refine serves_getD settings log suite kind ?_
    by_cases hkind : kind = .encrypts
    · exact .inl (by rw [hkind, hown]; nofun)
    · exact .inr hkind
  | none =>
    obtain ⟨x, hx, hof⟩ | ⟨hno, hof⟩ := dataEncryption_cases settings.crypto.dataEncryption
    · rw [hof]
      refine .inl ⟨_, rfl, fun kind => ?_⟩
      rw [Capabilities.get_put, get_capabilities]
      by_cases hkind : kind = .encrypts
      · subst hkind
        exact .configured x hown rfl hx
      · rw [if_neg (show Implementation.kind (.encrypts _) ≠ kind from Ne.symm hkind)]
        exact serves_getD settings log suite kind (.inr hkind)
    · rw [hof]
      exact .inr ⟨rfl, hno, rfl⟩

theorem capabilities_eq_ok (c : Capabilities) :
    (installed settings log).capabilities suite = .ok c ↔
      ∀ kind, Serves settings log suite kind (c.get kind) := by
  obtain ⟨c', hc', hserves⟩ | ⟨hown, hno, herror⟩ := capabilities_cases settings log suite
  · rw [hc', Except.ok.injEq]
    refine ⟨fun h => h ▸ hserves, fun h => Capabilities.ext_get c' c fun kind => ?_⟩
    exact serves_unique settings log suite kind _ _ (hserves kind) (h kind)
  · rw [herror]
    exact ⟨nofun, fun h => absurd (h .encrypts)
      (not_serves_encrypts settings log suite hown hno _)⟩

theorem capabilities_eq_error (f : CommandFailure) :
    (installed settings log).capabilities suite = .error f ↔
      own? log settings.identityProvider.peerCode .encrypts = none ∧
      (∀ x : DataEncryption, x.uri ≠ settings.crypto.dataEncryption) ∧
      f = .crypto (.unsupportedAlgorithm settings.crypto.dataEncryption) := by
  obtain ⟨c, hc, hserves⟩ | ⟨hown, hno, herror⟩ := capabilities_cases settings log suite
  · rw [hc]
    exact ⟨nofun, fun ⟨hown, hno, _⟩ => absurd (hserves .encrypts)
      (not_serves_encrypts settings log suite hown hno _)⟩
  · rw [herror, Except.error.injEq, eq_comm]
    exact ⟨fun h => ⟨hown, hno, h⟩, fun h => h.2.2⟩

end

/-- **Overrides.** After any registrations, the peer of the settings is served, kind by kind and no
matter the other kinds, with what was registered for it last, or else with the standard capability,
the encrypter being the one of the settings. That only fails where the encrypter has to be the one
of the settings and its algorithm is unknown. Other registrations count for nothing: two sequences
that agree on those for this peer and a kind agree on the capability of that kind. -/
theorem overrides_isolated (settings : Settings) (log : List Registration) (suite : Suite) :
    let peer := settings.identityProvider.peerCode
    let capabilities := fun log => (installed settings log).capabilities suite
    let concerning := fun kind (log : List Registration) => log.filter fun e => Concerns peer kind e
    (∀ c, capabilities log = .ok c ↔ ∀ kind, Serves settings log suite kind (c.get kind)) ∧
    (∀ f, capabilities log = .error f ↔
      own? log peer .encrypts = none ∧ (∀ x : DataEncryption, x.uri ≠ settings.crypto.dataEncryption) ∧
        f = .crypto (.unsupportedAlgorithm settings.crypto.dataEncryption)) ∧
    ∀ log', (∀ kind c c', concerning kind log = concerning kind log' →
        capabilities log = .ok c → capabilities log' = .ok c' → c.get kind = c'.get kind) ∧
      ((∀ kind, concerning kind log = concerning kind log') → capabilities log = capabilities log') := by
  intro peer capabilities concerning
  have hok (log : List Registration) (c : Capabilities) := capabilities_eq_ok settings log suite c
  have herror (log : List Registration) (f : CommandFailure) :=
    capabilities_eq_error settings log suite f
  have hown (log' : List Registration) (kind : CapabilityKind)
      (h : concerning kind log = concerning kind log') : own? log peer kind = own? log' peer kind :=
    congrArg (fun l : List Registration => l.getLast?.map Prod.snd) h
  refine ⟨hok log, herror log, fun log' => ⟨fun kind c c' hkind hc hc' => ?_, fun hsame => ?_⟩⟩
  · have hserves := serves_of_own?_eq settings log suite log' kind (hown log' kind hkind) _
      ((hok log c).1 hc kind)
    exact serves_unique settings log' suite kind _ _ hserves ((hok log' c').1 hc' kind)
  · cases hlog' : capabilities log' with
    | ok c =>
      exact (hok log c).2 fun kind =>
        serves_of_own?_eq settings log' suite log kind (hown log' kind (hsame kind)).symm _
          ((hok log' c).1 hlog' kind)
    | error f =>
      obtain ⟨hnone, hf⟩ := (herror log' f).1 hlog'
      exact (herror log f).2 ⟨(hown log' _ (hsame _)).trans hnone, hf⟩

/-- Accepts nothing. -/
def sampleVeto : Accepts := ⟨fun _ => .error (.invalidAssertion "peer rejects everything")⟩

/-- Registrations for one peer in several spellings, and for another one. -/
def sampleRegistrations : List Registration :=
  [("ACME", .accepts .standard),
    ("other", .encrypts (.ofEncrypter .standard { placement := .peer })),
    ("acme", .signs (.standard .standard)), ("Acme", .accepts sampleVeto)]

def samplePeerSettings : Settings := { identityProvider := { peerCode := some "aCMe" } }

/-- Of two capabilities under one code the later one serves, and the other codes count for nothing.
Where an algorithm is unknown, a peer that needs it is not served. -/
theorem overrides_isolated_sample :
    (∃ c, (installed samplePeerSettings sampleRegistrations).capabilities .standard = .ok c ∧
      c.accepts = sampleVeto ∧ c.builds = .standard ∧ c.encrypts = .ofEncrypter .standard {}) ∧
    (installed samplePeerSettings sampleRegistrations).capabilities .standard =
      (installed samplePeerSettings (sampleRegistrations.eraseIdx 1)).capabilities .standard ∧
    (installed { samplePeerSettings with crypto := { dataEncryption := "rot13" } }
      sampleRegistrations).capabilities .standard
        = .error (.crypto (.unsupportedAlgorithm "rot13")) := by
  obtain ⟨hok, -, hsame⟩ := overrides_isolated samplePeerSettings sampleRegistrations .standard
  obtain ⟨-, herror, -⟩ := overrides_isolated
    { samplePeerSettings with crypto := { dataEncryption := "rot13" } } sampleRegistrations
    .standard
  refine ⟨⟨⟨.standard, sampleVeto, .ofEncrypter .standard {}, .standard .standard⟩,
    (hok _).2 fun kind => ?_, rfl, rfl, rfl⟩, ?_, ?_⟩
  · cases kind with
    | produces => exact .standard rfl (by decide)
    | consumes => exact .own _ rfl
    | encrypts => exact .configured .aes128Gcm rfl rfl rfl
    | signs => exact .own _ rfl
  · exact (hsame _).2 fun kind => by cases kind <;> rfl
  · exact (herror _).2 ⟨rfl, fun x => by cases x <;> decide, rfl⟩

end Federation.Exchange
