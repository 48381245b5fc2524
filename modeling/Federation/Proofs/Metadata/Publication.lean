import Federation.Proofs.Metadata.Trust
import Mathlib.Data.List.Forall2

/-!
# In order of publication

The keys that a resolver answers for an entity stand at the places where they are published for the
first time, one for each and in the order of the places. So nothing is answered that was not
published, nothing that was published is missing, and no key is answered twice.

    permitted e role use = the keys of publications e role use
    distinctKeys (the keys of l) = the keys of firsts l
    x ∈ firsts l  →  x ∈ l, and no earlier place of l has the key of x

The keys that signatures of an entity may verify with are those of one of its descriptors, and all of
them are among the keys that are answered for signing.
-/

namespace Federation.Metadata

open Federation.Saml
open Federation.Crypto (PublicCredential KeyTransport)

/-! ## Places -/

/-- Where an entity publishes a key: in which of its descriptors, and as which key of it. -/
structure Place where
  descriptor : Nat
  key : Nat

namespace Place

/-- Descriptor by descriptor, and in each of them key by key. -/
def Before (p q : Place) : Prop :=
  p.descriptor < q.descriptor ∨ p.descriptor = q.descriptor ∧ p.key < q.key

theorem not_before_of_before (p q : Place) (h : p.Before q) : ¬ q.Before p := by
  unfold Before at *
  omega

theorem not_before_self (p : Place) : ¬ p.Before p := by
  unfold Before
  omega

end Place

namespace Entity

/-- A key that an entity publishes in a role, for a use or for any. Whoever asks for no use in
particular is shown all keys. -/
def PublishesAt (e : Entity) (role : Role) (use : KeyUse) (p : Place) (c : PublicCredential) :
    Prop :=
  ∃ r, e.roles[p.descriptor]? = some r ∧ r.role = role ∧
    ∃ k, r.keys[p.key]? = some k ∧ k.key = c ∧
      (k.use = use ∨ k.use = .unspecified ∨ use = .unspecified)

/-- It publishes the key there for the first time. -/
structure FirstAt (e : Entity) (role : Role) (use : KeyUse) (p : Place) (c : PublicCredential) :
    Prop where
  published : e.PublishesAt role use p c
  first : ∀ q d, e.PublishesAt role use q d → q.Before p → d.sameKey c = false

end Entity

theorem pairwise_zipIdx {α : Type} (l : List α) (n : Nat) :
    (l.zipIdx n).Pairwise fun x y => x.2 < y.2 := by
  have h : ((l.zipIdx n).map (·.2)).Pairwise (· < ·) := by
    rw [List.zipIdx_map_snd]
    exact List.pairwise_lt_range' 1
  exact List.pairwise_map.1 h

/-- The keys of a descriptor for a use, with their places. -/
def RoleDescriptor.publications (use : KeyUse) (r : RoleDescriptor) (i : Nat) :
    List (Place × PublicCredential) :=
  (r.keys.zipIdx.filter fun x => x.1.use.permits use).map fun x => (⟨i, x.2⟩, x.1.key)

namespace RoleDescriptor

theorem mem_publications (use : KeyUse) (r : RoleDescriptor) (i : Nat) (p : Place)
    (c : PublicCredential) :
    (p, c) ∈ r.publications use i ↔ p.descriptor = i ∧
      ∃ k, r.keys[p.key]? = some k ∧ k.key = c ∧
        (k.use = use ∨ k.use = .unspecified ∨ use = .unspecified) := by
  simp only [publications, List.mem_map, List.mem_filter, List.mem_zipIdx_iff_getElem?, permits_iff]
  constructor
  · rintro ⟨⟨k, j⟩, ⟨hk, huse⟩, heq⟩
    cases heq
    exact ⟨rfl, k, hk, rfl, huse⟩
  · rintro ⟨rfl, k, hk, rfl, huse⟩
    exact ⟨(k, p.key), ⟨hk, huse⟩, rfl⟩

theorem pairwise_publications (use : KeyUse) (r : RoleDescriptor) (i : Nat) :
    (r.publications use i).Pairwise fun x y => x.1.Before y.1 :=
  List.pairwise_map.2 <| ((pairwise_zipIdx r.keys 0).filter _).imp fun h => .inr ⟨rfl, h⟩

theorem map_publications (use : KeyUse) (r : RoleDescriptor) (i : Nat) :
    (r.publications use i).map (·.2) = (r.keys.filter (·.use.permits use)).map (·.key) := by
  conv => rhs; rw [← List.zipIdx_map_fst 0 r.keys]
  rw [publications, List.filter_map, List.map_map, List.map_map]
  rfl

end RoleDescriptor

namespace Entity

/-- The keys that an entity publishes in a role and for a use, with their places. -/
def publications (e : Entity) (role : Role) (use : KeyUse) : List (Place × PublicCredential) :=
  (e.roles.zipIdx.filter fun x => x.1.role = role).flatMap fun x => x.1.publications use x.2

theorem mem_publications (e : Entity) (role : Role) (use : KeyUse) (p : Place)
    (c : PublicCredential) :
    (p, c) ∈ e.publications role use ↔ e.PublishesAt role use p c := by
  simp only [publications, List.mem_flatMap, List.mem_filter, List.mem_zipIdx_iff_getElem?,
    RoleDescriptor.mem_publications, decide_eq_true_eq]
  constructor
  · rintro ⟨⟨r, i⟩, ⟨hr, hrole⟩, rfl, hk⟩
    exact ⟨r, hr, hrole, hk⟩
  · rintro ⟨r, hr, hrole, hk⟩
    exact ⟨(r, p.descriptor), ⟨hr, hrole⟩, rfl, hk⟩

theorem pairwise_publications (e : Entity) (role : Role) (use : KeyUse) :
    (e.publications role use).Pairwise fun x y => x.1.Before y.1 := by
  refine List.pairwise_flatMap.2 ⟨fun x _ => x.1.pairwise_publications use x.2, ?_⟩
  refine ((pairwise_zipIdx e.roles 0).filter _).imp fun {x y} h a ha b hb => .inl ?_
  rw [((RoleDescriptor.mem_publications ..).1 ha).1, ((RoleDescriptor.mem_publications ..).1 hb).1]
  exact h

theorem map_publications (e : Entity) (role : Role) (use : KeyUse) :
    (e.publications role use).map (·.2) = Document.permitted e role use := by
  have hroles : e.rolesOf role = (e.roles.zipIdx.filter fun x => x.1.role = role).map (·.1) := by
    conv => lhs; rw [rolesOf, ← List.zipIdx_map_fst 0 e.roles]
    rw [List.filter_map]
    rfl
  rw [publications, Document.permitted, hroles, List.flatMap_map, List.filter_flatMap,
    List.map_flatMap, List.map_flatMap]
  simp only [RoleDescriptor.map_publications]

end Entity

/-! ## First places -/

/-- The places where a key stands for the first time. -/
def firsts : List (Place × PublicCredential) → List (Place × PublicCredential)
  | [] => []
  | x :: rest => x :: (firsts rest).filter fun y => !x.2.sameKey y.2

theorem distinctKeys_map (l : List (Place × PublicCredential)) :
    Document.distinctKeys (l.map (·.2)) = (firsts l).map (·.2) := by
  induction l with
  | nil => rfl
  | cons x l ih =>
    rw [List.map_cons, Document.distinctKeys, ih, firsts, List.map_cons, List.filter_map]
    rfl

theorem firsts_sublist (l : List (Place × PublicCredential)) : (firsts l).Sublist l := by
  induction l with
  | nil => exact .slnil
  | cons x l ih => exact (List.filter_sublist.trans ih).cons_cons x

theorem pairwise_firsts (l : List (Place × PublicCredential)) :
    (firsts l).Pairwise fun x y => x.2.sameKey y.2 = false := by
  induction l with
  | nil => exact .nil
  | cons x l ih =>
    refine .cons (fun y hy => ?_) (ih.filter _)
    exact Bool.not_eq_true' _ ▸ (List.mem_filter.1 hy).2

/-- What stands before a first place has other keys. -/
theorem sameKey_of_mem_firsts (l : List (Place × PublicCredential))
    (hl : l.Pairwise fun x y => x.1.Before y.1) (x y : Place × PublicCredential)
    (hx : x ∈ firsts l) (hy : y ∈ l) (hbefore : y.1.Before x.1) : y.2.sameKey x.2 = false := by
  induction l with
  | nil => cases hx
  | cons a l ih =>
    obtain ⟨ha, hl⟩ := List.pairwise_cons.1 hl
    obtain rfl | hx := List.mem_cons.1 hx
    · obtain rfl | hy := List.mem_cons.1 hy
      · exact absurd hbefore y.1.not_before_self
      · exact absurd hbefore (Place.not_before_of_before _ _ (ha y hy))
    · obtain ⟨hx, hdiffers⟩ := List.mem_filter.1 hx
      obtain rfl | hy := List.mem_cons.1 hy
      · exact Bool.not_eq_true' _ ▸ hdiffers
      · exact ih hl hx hy

/-! ## Answers -/

/-- The first entity of a document with an identifier. -/
def Document.First (d : Document) (id : String) (e : Entity) : Prop :=
  ∃ before after, d.entities = before ++ e :: after ∧ e.entityId = id ∧
    ∀ x ∈ before, x.entityId ≠ id

theorem Document.entity?_eq_some (d : Document) (id : String) (e : Entity) :
    d.entity? id = some e ↔ d.First id e := by
  unfold Document.entity? Document.First
  rw [List.find?_eq_some_iff_append]
  simp only [beq_iff_eq, Bool.not_eq_true', beq_eq_false_iff_ne]
  constructor
  · rintro ⟨hid, before, after, hsplit, hbefore⟩
    exact ⟨before, after, hsplit, hid, hbefore⟩
  · rintro ⟨before, after, hsplit, hid, hbefore⟩
    exact ⟨hid, before, after, hsplit, hbefore⟩

namespace Document

variable (d : Document) (id : String) (role : Role) (use : KeyUse) (e : Entity)

theorem rolesOf_eq_nil_iff : e.rolesOf role = [] ↔ ∀ x ∈ e.roles, x.role ≠ role := by
  unfold Entity.rolesOf
  simp [List.filter_eq_nil_iff]

theorem credentials_of_first (hfirst : d.First id e) (hrole : ∃ x ∈ e.roles, x.role = role) :
    ∃ keys places, d.credentials id role use = .ok keys ∧
      List.Forall₂ (e.FirstAt role use) places keys ∧ places.Pairwise Place.Before ∧
      keys.Pairwise (fun a b => a.sameKey b = false) ∧
      ∀ p c, e.PublishesAt role use p c → ∃ k ∈ keys, k.sameKey c = true := by
  have hroles : e.rolesOf role ≠ [] := by
    obtain ⟨x, hx, hrole⟩ := hrole
    exact fun hnil => (rolesOf_eq_nil_iff role e).1 hnil x hx hrole
  have hkeys : distinctKeys (permitted e role use) = (firsts (e.publications role use)).map (·.2) := by
    rw [← e.map_publications, distinctKeys_map]
  have hordered := e.pairwise_publications role use
  refine ⟨_, (firsts (e.publications role use)).map (·.1), (credentials_eq_ok ..).2
    ⟨e, (d.entity?_eq_some id e).2 hfirst, hroles, hkeys.symm⟩, ?_, ?_, ?_, fun p c hp => ?_⟩
  · rw [List.forall₂_map_left_iff, List.forall₂_map_right_iff, List.forall₂_same]
    intro x hx
    refine ⟨(e.mem_publications ..).1 ((firsts_sublist _).subset hx), fun q c hq hbefore => ?_⟩
    exact sameKey_of_mem_firsts _ hordered x (q, c) hx ((e.mem_publications ..).2 hq) hbefore
  · exact List.pairwise_map.2 (hordered.sublist (firsts_sublist _))
  · exact List.pairwise_map.2 (pairwise_firsts _)
  · rw [← hkeys]
    refine exists_sameKey_distinctKeys _ c ?_
    rw [← e.map_publications]
    exact List.mem_map.2 ⟨(p, c), (e.mem_publications ..).2 hp, rfl⟩

/-- The keys of one descriptor to verify with, and those of all descriptors of its role. -/
theorem credentials_of_trusted (default : KeyTransport) (p : Protocol) (entity : TrustedEntity)
    (h : d.trusted default id role p = .ok entity) :
    ∃ keys, d.credentials id role .signing = .ok keys ∧
      (∀ c ∈ entity.signingKeys, ∃ k ∈ keys, k.sameKey c = true) ∧
      (entity.mustSign = true → keys ≠ []) := by
  obtain ⟨e, r, he, hr, rfl⟩ := (d.trusted_eq_ok default id role p entity).1 h
  have hmem : r ∈ e.roles := List.mem_of_find?_eq_some hr
  have hrole : r.role = role := by
    have hp := List.find?_some hr
    rw [Bool.and_eq_true, decide_eq_true_eq] at hp
    exact hp.1
  have hroles : e.rolesOf role ≠ [] :=
    fun hnil => (rolesOf_eq_nil_iff role e).1 hnil r hmem hrole
  have hsame (c : PublicCredential) (hc : c ∈ r.signingKeys) :
      ∃ k ∈ distinctKeys (permitted e role .signing), k.sameKey c = true := by
    obtain ⟨k, hk, rfl⟩ := List.mem_map.1 hc
    obtain ⟨hk, huse⟩ := List.mem_filter.1 hk
    exact exists_sameKey_distinctKeys _ _
      ((mem_permitted e role .signing k.key).2 ⟨r, hmem, hrole, k, hk, huse, rfl⟩)
  refine ⟨_, (credentials_eq_ok ..).2 ⟨e, he, hroles, rfl⟩, hsame, fun hsign hnil => ?_⟩
  have hne : r.signingKeys ≠ [] := by
    have hsign : (!r.signingKeys.isEmpty) = true := hsign
    intro hnone
    rw [hnone] at hsign
    cases hsign
  obtain ⟨c, hc⟩ := List.exists_mem_of_ne_nil _ hne
  obtain ⟨k, hk, -⟩ := hsame c hc
  rw [hnil] at hk
  cases hk

theorem credentials_of_no_role (hfirst : d.First id e) (hrole : ∀ x ∈ e.roles, x.role ≠ role) :
    d.credentials id role use = .error (.trustResolution (id ++ " has no " ++ role.descriptor)) := by
  have hentity := (entity_eq_ok d id e).2 ((d.entity?_eq_some id e).2 hfirst)
  have hroles := (rolesOf_eq_nil_iff role e).2 hrole
  rw [credentials, hentity, ok_bind]
  simp only [hroles, List.isEmpty_nil]
  rfl

theorem credentials_of_no_entity (h : ∀ e ∈ d.entities, e.entityId ≠ id) :
    d.credentials id role use
      = .error (.trustResolution ("entity " ++ id ++ " is not in metadata")) := by
  have hnone : d.entity? id = none :=
    List.find?_eq_none.2 fun e he hid => h e he (beq_iff_eq.1 hid)
  rw [credentials, entity, hnone]
  rfl

end Document

/-- **Published keys.** However a resolver came by its document, the keys that it answers for an
entity stand one by one at the places where the entity publishes them for the first time, in the
order of the places. They are pairwise different keys, and each key that is published is one of them.
A key that signatures of the entity may verify with, for whatever protocol, is among those that are
answered for signing, so there is one wherever signatures are asked for. If no entity has the
identifier, or the first one has no such role, the failure says so. -/
theorem credentials_exact (start : Resolver) (hstart : start.snapshot = none)
    (calls : List Resolver.Call) (d : Document) (hd : (start.after calls).document = .ok d)
    (id : String) (role : Role) (use : KeyUse) :
    let r := start.after calls
    (∀ e, d.First id e → (∃ x ∈ e.roles, x.role = role) →
      ∃ keys places, r.credentials id role use = .ok keys ∧
        List.Forall₂ (e.FirstAt role use) places keys ∧ places.Pairwise Place.Before ∧
        keys.Pairwise (fun a b => a.sameKey b = false) ∧
        ∀ p c, e.PublishesAt role use p c → ∃ k ∈ keys, k.sameKey c = true) ∧
    (∀ p entity, (r.resolve ⟨id, role, p⟩).1 = .ok entity →
      ∃ keys, r.credentials id role .signing = .ok keys ∧
        (∀ c ∈ entity.signingKeys, ∃ k ∈ keys, k.sameKey c = true) ∧
        (entity.mustSign = true → keys ≠ [])) ∧
    (∀ e, d.First id e → (∀ x ∈ e.roles, x.role ≠ role) → r.credentials id role use =
      .error (.trustResolution (id ++ " has no " ++ role.descriptor))) ∧
    ((∀ e ∈ d.entities, e.entityId ≠ id) → r.credentials id role use =
      .error (.trustResolution ("entity " ++ id ++ " is not in metadata"))) := by
  intro r
  have hcredentials (use : KeyUse) : r.credentials id role use = d.credentials id role use := by
    rw [Resolver.credentials, hd, ok_bind]
  refine ⟨fun e he hrole => ?_, fun p entity h => ?_, fun e he hrole => ?_, fun h => ?_⟩
  · rw [hcredentials]
    exact d.credentials_of_first id role use e he hrole
  · rw [hcredentials]
    rw [Resolver.resolve_after start hstart, Resolver.trusted, hd, ok_bind] at h
    exact d.credentials_of_trusted id role r.defaultTransport p entity h
  · rw [hcredentials]
    exact d.credentials_of_no_role id role use e he hrole
  · rw [hcredentials]
    exact d.credentials_of_no_entity id role use h

def sampleFirst : PublicCredential := { family := .ecP256, keyInfo := [], key := [1] }

def sampleSecond : PublicCredential := { family := .ecP256, keyInfo := [], key := [2] }

/-- Two descriptors of one role that share a key, and one of another role. -/
def sampleIssuer : Entity where
  entityId := "idp"
  roles := [
    { role := .serviceProvider, protocols := [.saml20], keys := [⟨.signing, sampleSecond, []⟩] },
    { role := .identityProvider, protocols := [.saml11]
      keys := [⟨.encryption, sampleSecond, []⟩, ⟨.unspecified, sampleFirst, []⟩] },
    { role := .identityProvider, protocols := [.saml20]
      keys := [⟨.signing, sampleFirst.withName "again", []⟩, ⟨.signing, sampleSecond, []⟩] }]

def sampleCalls : List Resolver.Call :=
  [.refresh (.ofDocument { entities := [sampleIssuer, { entityId := "idp" }] }) ⟨0⟩,
    .resolve ⟨"idp", .identityProvider, .saml20⟩]

/-- A key that two descriptors publish is answered once, as the first of them publishes it, also for
the one that the other descriptor asks signatures with. -/
theorem credentials_exact_sample :
    let r := Resolver.after {} sampleCalls
    r.credentials "idp" .identityProvider .signing = .ok [sampleFirst, sampleSecond] ∧
    (∃ places, List.Forall₂ (sampleIssuer.FirstAt .identityProvider .signing) places
      [sampleFirst, sampleSecond] ∧ places.Pairwise Place.Before) ∧
    (∃ k ∈ [sampleFirst, sampleSecond], k.sameKey (sampleFirst.withName "again") = true) ∧
    r.credentials "sp" .serviceProvider .signing =
      .error (.trustResolution "entity sp is not in metadata") := by
  intro r
  have hkeys : r.credentials "idp" .identityProvider .signing =
      .ok [sampleFirst, sampleSecond] := by
    rfl
  obtain ⟨hfirst, htrusted, -, -⟩ := credentials_exact {} rfl sampleCalls
    { entities := [sampleIssuer, { entityId := "idp" }] } rfl "idp" .identityProvider .signing
  obtain ⟨-, -, -, hnone⟩ := credentials_exact {} rfl sampleCalls
    { entities := [sampleIssuer, { entityId := "idp" }] } rfl "sp" .serviceProvider .signing
  refine ⟨hkeys, ?_, ?_, hnone (by decide)⟩
  · obtain ⟨keys, places, h, hat, hordered, -⟩ := hfirst sampleIssuer
      ⟨[], [{ entityId := "idp" }], rfl, rfl, nofun⟩ (by decide)
    cases hkeys.symm.trans h
    exact ⟨places, hat, hordered⟩
  · obtain ⟨keys, h, hsame, -⟩ := htrusted .saml20 _ rfl
    cases hkeys.symm.trans h
    exact hsame (sampleFirst.withName "again") List.mem_cons_self

end Federation.Metadata
