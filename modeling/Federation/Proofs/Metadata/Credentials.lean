import Federation.Metadata.Resolver
import Federation.Proofs.Crypto.Credential

/-!
# Published credentials

The credentials that a resolver answers for an entity are keys that the entity publishes, and every
key that it publishes is the same key as one of them: those left out differ from an earlier one in
its certificate or name alone.

    r.credentials id role use = ok keys  →  c ∈ keys → r.Publishes id role use c
    r.Publishes id role use c  →  some key in keys is the same key as c
-/

namespace Federation.Metadata

open Federation.Saml
open Federation.Crypto (PublicCredential)

theorem permits_iff (use wanted : KeyUse) : use.permits wanted = true ↔
    use = wanted ∨ use = .unspecified ∨ wanted = .unspecified := by
  cases use <;> cases wanted <;> decide

namespace Document

theorem mem_of_mem_distinctKeys (l : List PublicCredential) :
    ∀ c ∈ distinctKeys l, c ∈ l := by
  induction l with
  | nil => simp [distinctKeys]
  | cons d l ih =>
    intro c hc
    rw [distinctKeys] at hc
    rcases List.mem_cons.1 hc with rfl | hc
    · exact List.mem_cons_self
    · exact List.mem_cons_of_mem _ (ih c (List.mem_filter.1 hc).1)

theorem exists_sameKey_distinctKeys (l : List PublicCredential) :
    ∀ c ∈ l, ∃ d ∈ distinctKeys l, d.sameKey c = true := by
  induction l with
  | nil => simp
  | cons e l ih =>
    intro c hc
    rw [distinctKeys]
    rcases List.mem_cons.1 hc with rfl | hc
    · exact ⟨c, List.mem_cons_self, c.sameKey_refl⟩
    · obtain ⟨d, hd, hsame⟩ := ih c hc
      cases he : e.sameKey d with
      | true => exact ⟨e, List.mem_cons_self, e.sameKey_trans d c he hsame⟩
      | false => exact ⟨d, List.mem_cons_of_mem _ (List.mem_filter.2 ⟨hd, by simp [he]⟩), hsame⟩

/-- The entity with an identifier publishes a key in a role, for a use. -/
def Publishes (d : Document) (id : String) (role : Role) (use : KeyUse) (c : PublicCredential) :
    Prop :=
  ∃ e, d.entity? id = some e ∧ ∃ r ∈ e.roles, r.role = role ∧
    ∃ k ∈ r.keys, k.use.permits use = true ∧ k.key = c

theorem entity_eq_ok (d : Document) (id : String) (e : Entity) :
    d.entity id = .ok e ↔ d.entity? id = some e := by
  unfold entity
  cases d.entity? id <;> simp

/-- The keys of an entity's descriptors of a role, before repetitions are left out. -/
def permitted (e : Entity) (role : Role) (use : KeyUse) : List PublicCredential :=
  (((e.rolesOf role).flatMap (·.keys)).filter (·.use.permits use)).map (·.key)

theorem mem_permitted (e : Entity) (role : Role) (use : KeyUse) (c : PublicCredential) :
    c ∈ permitted e role use ↔ ∃ r ∈ e.roles, r.role = role ∧
      ∃ k ∈ r.keys, k.use.permits use = true ∧ k.key = c := by
  unfold permitted Entity.rolesOf
  simp only [List.mem_map, List.mem_filter, List.mem_flatMap, decide_eq_true_eq]
  constructor
  · rintro ⟨k, ⟨⟨r, ⟨hr, hrole⟩, hk⟩, huse⟩, rfl⟩
    exact ⟨r, hr, hrole, k, hk, huse, rfl⟩
  · rintro ⟨r, hr, hrole, k, hk, huse, rfl⟩
    exact ⟨k, ⟨⟨r, ⟨hr, hrole⟩, hk⟩, huse⟩, rfl⟩

theorem credentials_eq_ok (d : Document) (id : String) (role : Role) (use : KeyUse)
    (keys : List PublicCredential) :
    d.credentials id role use = .ok keys ↔ ∃ e, d.entity? id = some e ∧ e.rolesOf role ≠ [] ∧
      keys = distinctKeys (permitted e role use) := by
  unfold credentials
  rw [bind_eq_ok]
  constructor
  · rintro ⟨e, he, h⟩
    simp only [List.isEmpty_iff] at h
    by_cases hroles : e.rolesOf role = []
    · rw [if_pos hroles] at h
      cases h
    · rw [if_neg hroles] at h
      cases h
      exact ⟨e, (entity_eq_ok _ _ _).1 he, hroles, rfl⟩
  · rintro ⟨e, he, hroles, rfl⟩
    refine ⟨e, (entity_eq_ok _ _ _).2 he, ?_⟩
    simp only [List.isEmpty_iff]
    rw [if_neg hroles]
    rfl

theorem publishes_of_mem_credentials (d : Document) (id : String) (role : Role) (use : KeyUse)
    (keys : List PublicCredential) (h : d.credentials id role use = .ok keys) :
    ∀ c ∈ keys, d.Publishes id role use c := by
  obtain ⟨e, he, -, rfl⟩ := (credentials_eq_ok d id role use keys).1 h
  intro c hc
  exact ⟨e, he, (mem_permitted e role use c).1 (mem_of_mem_distinctKeys _ c hc)⟩

theorem exists_credentials_of_publishes (d : Document) (id : String) (role : Role) (use : KeyUse)
    (c : PublicCredential) (h : d.Publishes id role use c) :
    ∃ keys, d.credentials id role use = .ok keys ∧ ∃ k ∈ keys, k.sameKey c = true := by
  obtain ⟨e, he, r, hr, hrole, hk⟩ := h
  have hroles : e.rolesOf role ≠ [] := by
    intro hnil
    have : r ∈ e.rolesOf role := List.mem_filter.2 ⟨hr, decide_eq_true hrole⟩
    rw [hnil] at this
    cases this
  refine ⟨_, (credentials_eq_ok d id role use _).2 ⟨e, he, hroles, rfl⟩, ?_⟩
  exact exists_sameKey_distinctKeys _ c ((mem_permitted e role use c).2 ⟨r, hr, hrole, hk⟩)

end Document

namespace Resolver

theorem document_eq_ok (r : Resolver) (d : Document) :
    r.document = .ok d ↔ ∃ s, r.snapshot = some s ∧ s.document = d := by
  unfold document current
  cases r.snapshot <;> simp [Except.map]

/-- The document in force publishes a key of the entity with an identifier. -/
def Publishes (r : Resolver) (id : String) (role : Role) (use : KeyUse) (c : PublicCredential) :
    Prop :=
  ∃ s, r.snapshot = some s ∧ s.document.Publishes id role use c

theorem credentials_eq_ok (r : Resolver) (id : String) (role : Role) (use : KeyUse)
    (keys : List PublicCredential) :
    r.credentials id role use = .ok keys ↔
      ∃ s, r.snapshot = some s ∧ s.document.credentials id role use = .ok keys := by
  unfold credentials
  rw [bind_eq_ok]
  constructor
  · rintro ⟨d, hd, h⟩
    obtain ⟨s, hs, rfl⟩ := (document_eq_ok r d).1 hd
    exact ⟨s, hs, h⟩
  · rintro ⟨s, hs, h⟩
    exact ⟨s.document, (document_eq_ok r _).2 ⟨s, hs, rfl⟩, h⟩

/-- A property of keys that only depends on the key holds of a credential that the resolver answers
exactly if it holds of a published one. -/
theorem exists_credential_iff (r : Resolver) (id : String) (role : Role) (use : KeyUse)
    (p : PublicCredential → Prop)
    (hp : ∀ a b : PublicCredential, a.sameKey b = true → p a → p b) :
    (∃ keys, r.credentials id role use = .ok keys ∧ ∃ c ∈ keys, p c) ↔
      ∃ c, r.Publishes id role use c ∧ p c := by
  constructor
  · rintro ⟨keys, hkeys, c, hc, hpc⟩
    obtain ⟨s, hs, hd⟩ := (credentials_eq_ok r id role use keys).1 hkeys
    exact ⟨c, ⟨s, hs, s.document.publishes_of_mem_credentials id role use keys hd c hc⟩, hpc⟩
  · rintro ⟨c, ⟨s, hs, hpub⟩, hpc⟩
    obtain ⟨keys, hkeys, k, hk, hsame⟩ :=
      s.document.exists_credentials_of_publishes id role use c hpub
    exact ⟨keys, (credentials_eq_ok r id role use keys).2 ⟨s, hs, hkeys⟩, k, hk,
      hp c k (k.sameKey_symm c hsame) hpc⟩

end Resolver

end Federation.Metadata
