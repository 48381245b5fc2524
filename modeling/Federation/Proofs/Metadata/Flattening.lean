import Federation.Metadata.Document
import Federation.Proofs.Result
import Federation.Proofs.Xml.Tree
import Mathlib.Data.List.Forall2

/-!
# Entities in nested groups

A document is read as the list of the entities that its root leads to through groups alone, in the
order of the document. A fault of any of them refuses the whole document; a key or an endpoint that
cannot be used is left out alone.

    Document.parse s = ok doc  →  doc.entities describe the descriptors that are reached, one by one
    Document.parse s fails     ↔  none is reached, or one of them is faulty

- `Reaches` says which descriptors a root leads to, by the positions of children on the way, and
  `places` lists them in order.
- `Describes` says for each level what is read of an element, and `Faulty` when nothing is.
- `Thinned` leaves out what reading skips, from keys up to groups. The elements that are left have
  the same tags, so what is reached is thinned itself and reads the same (`read_thinned`).
-/

namespace Federation.Metadata

open Federation.Saml Federation.Xml
open Federation.Crypto (PublicCredential)

/-! ## Lists -/

section
variable {α β γ ε : Type}

theorem mapM_eq_ok (f : α → Except ε β) (l : List α) (bs : List β) :
    l.mapM f = .ok bs ↔ List.Forall₂ (fun a b => f a = .ok b) l bs := by
  induction l generalizing bs with
  | nil => simp [pure, Except.pure, eq_comm]
  | cons a l ih =>
    rw [List.mapM_cons, List.forall₂_cons_left_iff, bind_eq_ok]
    constructor
    · rintro ⟨b, hb, h⟩
      obtain ⟨bs', hbs', h⟩ := (bind_eq_ok ..).1 h
      exact ⟨b, bs', hb, (ih bs').1 hbs', (Except.ok.inj h).symm⟩
    · rintro ⟨b, bs', hb, hbs', rfl⟩
      exact ⟨b, hb, (bind_eq_ok ..).2 ⟨bs', (ih bs').2 hbs', rfl⟩⟩

theorem exists_forall₂_iff (R : α → β → Prop) (l : List α) :
    (∃ bs, List.Forall₂ R l bs) ↔ ∀ a ∈ l, ∃ b, R a b := by
  induction l with
  | nil => simp
  | cons a l ih =>
    simp only [List.forall₂_cons_left_iff, List.forall_mem_cons, ← ih]
    constructor
    · rintro ⟨_, b, bs, hb, hbs, -⟩
      exact ⟨⟨b, hb⟩, bs, hbs⟩
    · rintro ⟨⟨b, hb⟩, bs, hbs⟩
      exact ⟨_, b, bs, hb, hbs, rfl⟩

theorem exists_mapM_iff (f : α → Except ε β) (l : List α) :
    (∃ bs, l.mapM f = .ok bs) ↔ ∀ a ∈ l, ∃ b, f a = .ok b := by
  simp only [mapM_eq_ok]
  exact exists_forall₂_iff _ l

/-- What is kept of a list belongs to the elements that something comes of. -/
theorem forall₂_filterMap (f : α → Option β) (R : β → γ → Prop) (l : List α) (cs : List γ) :
    List.Forall₂ R (l.filterMap f) cs ↔
      List.Forall₂ (fun a c => ∃ b, f a = some b ∧ R b c) (l.filter fun a => (f a).isSome) cs := by
  induction l generalizing cs with
  | nil => simp
  | cons a l ih =>
    cases h : f a with
    | none => simp [h, ih]
    | some b => simp [h, ih, List.forall₂_cons_left_iff]

/-- What one list describes is described by another that goes with it. -/
theorem forall₂_transfer {R : α → β → Prop} {D : α → γ → Prop} {D' : β → γ → Prop}
    (h : ∀ a b c, R a b → D a c → D' b c) {l : List α} {l' : List β} {cs : List γ}
    (hl : List.Forall₂ R l l') (hcs : List.Forall₂ D l cs) : List.Forall₂ D' l' cs := by
  induction hl generalizing cs with
  | nil =>
    cases hcs
    exact .nil
  | cons hab _ ih =>
    cases hcs with
    | cons hac hrest => exact .cons (h _ _ _ hab hac) (ih hrest)

end

/-! ## Places -/

namespace Document

/-- An element leads through groups alone to a descriptor of an entity, by way of children at these
positions. -/
inductive Reaches : Element → List Nat → Element → Prop
  | here {e : Element} : e.isNamed Ns.metadata "EntityDescriptor" = true → Reaches e [] e
  | under {e c d : Element} {i : Nat} {path : List Nat} :
    e.isNamed Ns.metadata "EntitiesDescriptor" = true → e.children[i]? = some c →
    Reaches c path d → Reaches e (i :: path) d

mutual

/-- The descriptors that an element leads to, each with the way to it. -/
def places : Element → List (List Nat × Element)
  | ⟨ns?, name, attributes, children, text⟩ =>
    if ns? ≠ some Ns.metadata then []
    else if name = "EntitiesDescriptor" then placesOfAll 0 children
    else if name = "EntityDescriptor" then [([], ⟨ns?, name, attributes, children, text⟩)]
    else []

/-- The same for children from a position on. -/
def placesOfAll : Nat → List Element → List (List Nat × Element)
  | _, [] => []
  | i, e :: rest => (places e).map (fun p => (i :: p.1, p.2)) ++ placesOfAll (i + 1) rest

end

theorem isNamed_iff (e : Element) (ns name : String) :
    e.isNamed ns name = true ↔ e.ns? = some ns ∧ e.name = name := by
  simp [Element.isNamed, and_comm]

/-- An element is a group, a descriptor or neither. -/
theorem places_cases (e : Element) :
    (e.isNamed Ns.metadata "EntitiesDescriptor" = true ∧
      e.isNamed Ns.metadata "EntityDescriptor" ≠ true ∧
      places e = placesOfAll 0 e.children ∧ descriptors e = descriptorsOfAll e.children) ∨
    (e.isNamed Ns.metadata "EntitiesDescriptor" ≠ true ∧
      e.isNamed Ns.metadata "EntityDescriptor" = true ∧
      places e = [([], e)] ∧ descriptors e = [e]) ∨
    (e.isNamed Ns.metadata "EntitiesDescriptor" ≠ true ∧
      e.isNamed Ns.metadata "EntityDescriptor" ≠ true ∧ places e = [] ∧ descriptors e = []) := by
  obtain ⟨ns?, name, attributes, children, text⟩ := e
  simp only [ne_eq, isNamed_iff]
  rw [places, descriptors]
  by_cases hns : ns? = some Ns.metadata
  · by_cases hgroup : name = "EntitiesDescriptor"
    · subst hns hgroup
      exact Or.inl ⟨⟨rfl, rfl⟩, by decide, rfl, rfl⟩
    · by_cases hentity : name = "EntityDescriptor" <;> simp [hns, hgroup, hentity]
  · simp [hns]

mutual

theorem descriptors_eq : ∀ e, descriptors e = (places e).map (·.2)
  | ⟨ns?, name, attributes, children, text⟩ => by
    rcases places_cases ⟨ns?, name, attributes, children, text⟩ with
      ⟨-, -, hplaces, hdescriptors⟩ | ⟨-, -, hplaces, hdescriptors⟩ | ⟨-, -, hplaces, hdescriptors⟩
    · rw [hplaces, hdescriptors]
      exact descriptorsOfAll_eq 0 children
    · rw [hplaces, hdescriptors]
      rfl
    · rw [hplaces, hdescriptors]
      rfl

theorem descriptorsOfAll_eq : ∀ i l, descriptorsOfAll l = (placesOfAll i l).map (·.2)
  | _, [] => rfl
  | i, e :: rest => by
    rw [descriptorsOfAll, placesOfAll, List.map_append, List.map_map, descriptors_eq e,
      descriptorsOfAll_eq (i + 1) rest]
    rfl

end

mutual

/-- The list has all descriptors that are reached, and no other. -/
theorem mem_places : ∀ (e : Element) (path : List Nat) (d : Element),
    (path, d) ∈ places e ↔ Reaches e path d
  | ⟨ns?, name, attributes, children, text⟩, path, d => by
    rcases places_cases ⟨ns?, name, attributes, children, text⟩ with
      ⟨hgroup, hentity, hplaces, -⟩ | ⟨hgroup, hentity, hplaces, -⟩ | ⟨hgroup, hentity, hplaces, -⟩
    · rw [hplaces, mem_placesOfAll 0 children]
      constructor
      · rintro ⟨k, c, rest, rfl, hc, hreach⟩
        rw [Nat.zero_add]
        exact .under hgroup hc hreach
      · rintro (h | ⟨-, hc, hreach⟩)
        · exact absurd h hentity
        · exact ⟨_, _, _, by rw [Nat.zero_add], hc, hreach⟩
    · rw [hplaces, List.mem_singleton]
      constructor
      · rintro ⟨⟩
        exact .here hentity
      · rintro (h | ⟨h, -⟩)
        · rfl
        · exact absurd h hgroup
    · rw [hplaces]
      refine iff_of_false List.not_mem_nil ?_
      rintro (h | ⟨h, -⟩)
      · exact hentity h
      · exact hgroup h

theorem mem_placesOfAll : ∀ (i : Nat) (l : List Element) (path : List Nat) (d : Element),
    (path, d) ∈ placesOfAll i l ↔
      ∃ k c rest, path = (i + k) :: rest ∧ l[k]? = some c ∧ Reaches c rest d
  | i, [], path, d => by simp [placesOfAll]
  | i, e :: l, path, d => by
    rw [placesOfAll, List.mem_append, mem_placesOfAll (i + 1) l]
    constructor
    · rintro (h | ⟨k, c, rest, rfl, hc, hreach⟩)
      · obtain ⟨⟨rest, d'⟩, hp, heq⟩ := List.mem_map.1 h
        cases heq
        exact ⟨0, e, rest, rfl, rfl, (mem_places e rest d').1 hp⟩
      · exact ⟨k + 1, c, rest, by rw [Nat.add_assoc, Nat.add_comm 1], hc, hreach⟩
    · rintro ⟨k, c, rest, rfl, hc, hreach⟩
      cases k with
      | zero =>
        cases hc
        exact Or.inl (List.mem_map.2 ⟨(rest, d), (mem_places _ rest d).2 hreach, rfl⟩)
      | succ k =>
        exact Or.inr ⟨k, c, rest, by rw [Nat.add_assoc, Nat.add_comm 1], hc, hreach⟩

end

mutual

/-- The ways are in the order of the document, so none is taken twice. -/
theorem pairwise_places : ∀ e, (places e).Pairwise fun p q => p.1 < q.1
  | ⟨ns?, name, attributes, children, text⟩ => by
    rcases places_cases ⟨ns?, name, attributes, children, text⟩ with
      ⟨-, -, hplaces, -⟩ | ⟨-, -, hplaces, -⟩ | ⟨-, -, hplaces, -⟩
    · rw [hplaces]
      exact pairwise_placesOfAll 0 children
    · rw [hplaces]
      exact List.pairwise_singleton _ _
    · rw [hplaces]
      exact .nil

theorem pairwise_placesOfAll : ∀ i l, (placesOfAll i l).Pairwise fun p q => p.1 < q.1
  | _, [] => .nil
  | i, e :: rest => by
    rw [placesOfAll, List.pairwise_append, List.pairwise_map]
    refine ⟨(pairwise_places e).imp fun h => List.cons_lt_cons_self.2 h,
      pairwise_placesOfAll (i + 1) rest, ?_⟩
    rintro p hp ⟨path, d⟩ hq
    obtain ⟨p', -, rfl⟩ := List.mem_map.1 hp
    obtain ⟨k, c, path', rfl, -⟩ := (mem_placesOfAll ..).1 hq
    exact List.Lex.rel (by omega)

end

end Document

/-! ## Keys and endpoints -/

namespace KeyDescriptor

/-- The key that an element holds, if it can be decoded. -/
def key? (e : Element) : Option PublicCredential := (e.child? "KeyInfo").bind readInfo?

/-- The use of a key is stated, and is none that is known. -/
def UnknownUse (e : Element) : Prop :=
  ∃ use, e.attribute? "use" = some use ∧ use ≠ "signing" ∧ use ≠ "encryption"

/-- What is read of an element that holds a key. -/
structure Describes (e : Element) (k : KeyDescriptor) : Prop where
  use : e.attribute? "use" = k.use.text?
  key : key? e = some k.key
  encryptionMethods :
    k.encryptionMethods = (e.childrenNamed "EncryptionMethod").filterMap (·.attribute? "Algorithm")

/-- What is described is determined. -/
theorem rightUnique : Relator.RightUnique Describes := by
  intro e k k' h h'
  obtain ⟨use, key, methods⟩ := k
  obtain ⟨use', key', methods'⟩ := k'
  have htext : use.text? = use'.text? := h.use.symm.trans h'.use
  have hof (u : KeyUse) : KeyUse.ofText u.text? = .ok u := by cases u <;> rfl
  have huse : use = use' :=
    Except.ok.inj ((hof use).symm.trans ((congrArg _ htext).trans (hof use')))
  have hkey : key = key' := Option.some.inj (h.key.symm.trans h'.key)
  have hmethods : methods = methods' := h.encryptionMethods.trans h'.encryptionMethods.symm
  rw [huse, hkey, hmethods]

theorem use_cases (text? : Option String) :
    (∃ use : KeyUse, text? = use.text? ∧ KeyUse.ofText text? = .ok use) ∨
    ∃ s fault, text? = some s ∧ s ≠ "signing" ∧ s ≠ "encryption" ∧
      KeyUse.ofText text? = .error fault := by
  cases text? with
  | none => exact Or.inl ⟨.unspecified, rfl, rfl⟩
  | some s =>
    by_cases hsigning : s = "signing"
    · subst hsigning
      exact Or.inl ⟨.signing, rfl, rfl⟩
    · by_cases hencryption : s = "encryption"
      · subst hencryption
        exact Or.inl ⟨.encryption, rfl, rfl⟩
      · refine Or.inr ⟨s, .metadata ("unknown key use: " ++ s), rfl, hsigning, hencryption, ?_⟩
        rw [KeyUse.ofText, if_neg hsigning, if_neg hencryption]

theorem not_unknownUse (e : Element) (use : KeyUse) (h : e.attribute? "use" = use.text?) :
    ¬ UnknownUse e := by
  rintro ⟨s, hs, hsigning, hencryption⟩
  rw [hs] at h
  cases use with
  | signing => exact hsigning (Option.some.inj h)
  | encryption => exact hencryption (Option.some.inj h)
  | unspecified => cases h

/-- A key is read as long as its use is known. -/
theorem read_cases (e : Element) : (UnknownUse e ∧ ∃ fault, read e = .error fault) ∨
    (¬ UnknownUse e ∧ ∃ k?, read e = .ok k? ∧ k?.isSome = (key? e).isSome ∧
      ∀ k, k? = some k → Describes e k) := by
  have hread : read e = (KeyUse.ofText (e.attribute? "use") >>= fun use =>
      .ok ((key? e).map fun key => ⟨use, key, (e.childrenNamed "EncryptionMethod").filterMap
        (·.attribute? "Algorithm")⟩)) := rfl
  rcases use_cases (e.attribute? "use") with
    ⟨use, huse, hof⟩ | ⟨s, fault, hs, hsigning, hencryption, hof⟩
  · rw [hof] at hread
    refine Or.inr ⟨not_unknownUse e use huse, _, hread, Option.isSome_map, fun k hk => ?_⟩
    obtain ⟨key, hkey, rfl⟩ := Option.map_eq_some_iff.1 hk
    exact ⟨huse, hkey, rfl⟩
  · rw [hof] at hread
    exact Or.inl ⟨⟨s, hs, hsigning, hencryption⟩, fault, hread⟩

theorem exists_read_iff (e : Element) : (∃ k?, read e = .ok k?) ↔ ¬ UnknownUse e := by
  rcases read_cases e with ⟨hunknown, fault, hread⟩ | ⟨hknown, k?, hread, -⟩
  · rw [hread]
    exact iff_of_false (fun ⟨_, h⟩ => nomatch h) (not_not_intro hunknown)
  · exact iff_of_true ⟨k?, hread⟩ hknown

/-- Keys are read in order, those that cannot be decoded left out. -/
theorem describes_of_mapM (l : List Element) (ks : List (Option KeyDescriptor))
    (h : l.mapM read = .ok ks) :
    List.Forall₂ Describes (l.filter fun e => (key? e).isSome) (ks.filterMap id) := by
  rw [mapM_eq_ok] at h
  induction h with
  | nil => exact .nil
  | @cons e k? l ks hread _ ih =>
    rcases read_cases e with ⟨-, fault, hfault⟩ | ⟨-, k?', hread', hsome, hdescribes⟩
    · rw [hread] at hfault
      cases hfault
    · rw [hread] at hread'
      cases hread'
      cases k? with
      | none =>
        have hkey : ¬ (key? e).isSome = true := by
          rw [← hsome]
          nofun
        rwa [List.filter_cons, if_neg hkey, List.filterMap_cons_none rfl]
      | some k =>
        have hkey : (key? e).isSome = true := hsome.symm
        rw [List.filter_cons, if_pos hkey]
        exact .cons (hdescribes k rfl) ih

end KeyDescriptor

namespace Endpoint

/-- A location or a known binding is missing. -/
def Unusable (e : Element) : Prop :=
  e.attribute? "Location" = none ∨ (e.attribute? "Binding").bind Binding.ofUri? = none

/-- What is read of an endpoint. -/
structure Describes (e : Element) (x : Endpoint) : Prop where
  binding : e.attribute? "Binding" = some x.binding.uri
  location : e.attribute? "Location" = some x.location

theorem rightUnique : Relator.RightUnique Describes := by
  intro e x x' h h'
  obtain ⟨binding, location⟩ := x
  obtain ⟨binding', location'⟩ := x'
  have huri : binding.uri = binding'.uri := Option.some.inj (h.binding.symm.trans h'.binding)
  have hof (b : Binding) : Binding.ofUri? b.uri = some b := by cases b <;> rfl
  have hbinding : binding = binding' :=
    Option.some.inj ((hof binding).symm.trans ((congrArg _ huri).trans (hof binding')))
  have hlocation : location = location' := Option.some.inj (h.location.symm.trans h'.location)
  rw [hbinding, hlocation]

instance (e : Element) : Decidable (Unusable e) := inferInstanceAs (Decidable (_ ∨ _))

theorem read?_cases (e : Element) : (Unusable e ∧ read? e = none) ∨
    (¬ Unusable e ∧ ∃ x, read? e = some x ∧ Describes e x) := by
  unfold Unusable read?
  cases huri : e.attribute? "Binding" with
  | none => exact Or.inl ⟨Or.inr rfl, rfl⟩
  | some uri =>
    cases hlocation : e.attribute? "Location" with
    | none => exact Or.inl ⟨Or.inl rfl, rfl⟩
    | some location =>
      cases hbinding : Binding.ofUri? uri with
      | none => exact Or.inl ⟨Or.inr hbinding, by simp [hbinding]⟩
      | some binding =>
        have hfind : Binding.all.find? (·.uri == uri) = some binding := hbinding
        have hsame : binding.uri = uri := by simpa using List.find?_some hfind
        refine Or.inr ⟨by simp [hbinding], ⟨binding, location⟩, by simp [hbinding], ?_, hlocation⟩
        rw [huri, hsame]

/-- Endpoints are read in order, those that cannot be used left out. -/
theorem describes_filterMap (l : List Element) :
    List.Forall₂ Describes (l.filter fun e => ¬ Unusable e) (l.filterMap read?) := by
  have hsame : (l.filter fun e => ¬ Unusable e) = l.filter fun e => (read? e).isSome := by
    refine List.filter_congr fun e _ => ?_
    rcases read?_cases e with ⟨hunusable, hread⟩ | ⟨husable, x, hread, -⟩
    · simp [hunusable, hread]
    · simp [husable, hread]
  have hread := (forall₂_filterMap read? Eq l _).1 (List.forall₂_same.2 fun x _ => rfl)
  rw [hsame]
  refine hread.imp fun e x => ?_
  rintro ⟨y, hy, rfl⟩
  rcases read?_cases e with ⟨-, hnone⟩ | ⟨-, z, hz, hdescribes⟩
  · rw [hy] at hnone
    cases hnone
  · rw [hy] at hz
    cases hz
    exact hdescribes

end Endpoint

/-! ## Roles and entities -/

namespace RoleDescriptor

/-- What is read of an element that describes a role. -/
structure Describes (e : Element) (r : RoleDescriptor) : Prop where
  role : e.isNamed Ns.metadata r.role.descriptor = true
  protocols :
    r.protocols = readProtocols ((e.attribute? "protocolSupportEnumeration").getD "")
  keys : List.Forall₂ KeyDescriptor.Describes
    ((e.childrenNamed "KeyDescriptor").filter fun k => (KeyDescriptor.key? k).isSome) r.keys
  endpoints : List.Forall₂ Endpoint.Describes
    ((e.childrenNamed (endpointElement r.role)).filter fun c => ¬ Endpoint.Unusable c) r.endpoints

variable (role : Role) (e : Element)

theorem read_eq_ok (r : RoleDescriptor) : read role e = .ok r ↔
    ∃ ks, (e.childrenNamed "KeyDescriptor").mapM KeyDescriptor.read = .ok ks ∧
      r = { role
            protocols := readProtocols ((e.attribute? "protocolSupportEnumeration").getD "")
            keys := ks.filterMap id
            endpoints := (e.childrenNamed (endpointElement role)).filterMap Endpoint.read? } := by
  unfold read
  rw [bind_eq_ok]
  exact exists_congr fun ks => and_congr_right fun _ => ⟨fun h => (Except.ok.inj h).symm,
    fun h => congrArg Except.ok h.symm⟩

theorem exists_read_iff : (∃ r, read role e = .ok r) ↔
    ∀ k ∈ e.childrenNamed "KeyDescriptor", ¬ KeyDescriptor.UnknownUse k := by
  simp only [read_eq_ok, ← KeyDescriptor.exists_read_iff, ← exists_mapM_iff]
  constructor
  · rintro ⟨r, ks, hks, -⟩
    exact ⟨ks, hks⟩
  · rintro ⟨ks, hks⟩
    exact ⟨_, ks, hks, rfl⟩

theorem describes_of_read (r : RoleDescriptor) (hrole : role? e = some role)
    (h : read role e = .ok r) : Describes e r := by
  obtain ⟨ks, hks, rfl⟩ := (read_eq_ok role e r).1 h
  have hnamed : e.isNamed Ns.metadata role.descriptor = true := by
    simpa using List.find?_some hrole
  exact ⟨hnamed, rfl, KeyDescriptor.describes_of_mapM _ ks hks,
    Endpoint.describes_filterMap (e.childrenNamed (endpointElement role))⟩

end RoleDescriptor

namespace Entity

/-- Nothing is read of an element: it names no entity, or describes a role with a key of unknown
use. -/
def Faulty (e : Element) : Prop :=
  e.attribute? "entityID" = none ∨ ∃ c ∈ e.children, (RoleDescriptor.role? c).isSome = true ∧
    ∃ k ∈ c.childrenNamed "KeyDescriptor", KeyDescriptor.UnknownUse k

/-- What is read of an element that describes an entity. -/
structure Describes (e : Element) (x : Entity) : Prop where
  entityId : e.attribute? "entityID" = some x.entityId
  roles : List.Forall₂ RoleDescriptor.Describes
    (e.children.filter fun c => (RoleDescriptor.role? c).isSome) x.roles

variable (e : Element)

theorem read_eq_ok (x : Entity) : read e = .ok x ↔
    e.attribute? "entityID" = some x.entityId ∧
      List.Forall₂ (fun c r => ∃ role, RoleDescriptor.role? c = some role ∧
        RoleDescriptor.read role c = .ok r)
        (e.children.filter fun c => (RoleDescriptor.role? c).isSome) x.roles := by
  let described (c : Element) : Option (Role × Element) := (RoleDescriptor.role? c).map (·, c)
  cases hid : e.attribute? "entityID" with
  | none =>
    have hread : read e = .error (.metadata "EntityDescriptor has no entityID") := by
      unfold read
      rw [hid]
      rfl
    rw [hread]
    exact ⟨nofun, nofun⟩
  | some id =>
    have hread : read e = (e.children.filterMap described).mapM
        (fun p => RoleDescriptor.read p.1 p.2) >>= fun roles => .ok ⟨id, roles⟩ := by
      unfold read
      rw [hid]
      rfl
    have hsome (c : Element) : (described c).isSome = (RoleDescriptor.role? c).isSome :=
      Option.isSome_map
    have hroles (roles : List RoleDescriptor) :
        (e.children.filterMap described).mapM (fun p => RoleDescriptor.read p.1 p.2) = .ok roles ↔
          List.Forall₂ (fun c r => ∃ role, RoleDescriptor.role? c = some role ∧
            RoleDescriptor.read role c = .ok r)
            (e.children.filter fun c => (RoleDescriptor.role? c).isSome) roles := by
      have hrelation : (fun c r => ∃ p, described c = some p ∧
            RoleDescriptor.read p.1 p.2 = .ok r)
          = fun c r => ∃ role, RoleDescriptor.role? c = some role ∧
            RoleDescriptor.read role c = .ok r := by
        funext c r
        simp [described]
      rw [mapM_eq_ok, forall₂_filterMap, hrelation]
      simp only [hsome]
    rw [hread, bind_eq_ok]
    constructor
    · rintro ⟨roles, h, heq⟩
      cases heq
      exact ⟨rfl, (hroles roles).1 h⟩
    · rintro ⟨heq, h⟩
      cases heq
      exact ⟨x.roles, (hroles x.roles).2 h, rfl⟩

theorem exists_read_iff : (∃ x, read e = .ok x) ↔ ¬ Faulty e := by
  have hroles := exists_forall₂_iff (fun c r => ∃ role, RoleDescriptor.role? c = some role ∧
    RoleDescriptor.read role c = .ok r)
    (e.children.filter fun c => (RoleDescriptor.role? c).isSome)
  have hrole (c : Element) (role : Role) (h : RoleDescriptor.role? c = some role) :
      (∃ r, ∃ role, RoleDescriptor.role? c = some role ∧ RoleDescriptor.read role c = .ok r) ↔
        ∀ k ∈ c.childrenNamed "KeyDescriptor", ¬ KeyDescriptor.UnknownUse k := by
    rw [← RoleDescriptor.exists_read_iff role c]
    simp [h]
  constructor
  · rintro ⟨x, hx⟩ hfaulty
    obtain ⟨hid, hx⟩ := (read_eq_ok e x).1 hx
    rcases hfaulty with hnone | ⟨c, hc, hsome, k, hk, hunknown⟩
    · rw [hid] at hnone
      cases hnone
    · obtain ⟨role, hdescribed⟩ := Option.isSome_iff_exists.1 hsome
      exact (hrole c role hdescribed).1 (hroles.1 ⟨_, hx⟩ c (List.mem_filter.2 ⟨hc, hsome⟩)) k hk
        hunknown
  · intro hsound
    cases hid : e.attribute? "entityID" with
    | none => exact absurd (Or.inl hid) hsound
    | some id =>
      obtain ⟨roles, h⟩ := hroles.2 fun c hc => by
        obtain ⟨hc, hsome⟩ := List.mem_filter.1 hc
        obtain ⟨role, hdescribed⟩ := Option.isSome_iff_exists.1 hsome
        exact (hrole c role hdescribed).2 fun k hk hunknown =>
          hsound (Or.inr ⟨c, hc, hsome, k, hk, hunknown⟩)
      exact ⟨⟨id, roles⟩, (read_eq_ok e _).2 ⟨hid, h⟩⟩

theorem describes_of_read (x : Entity) (h : read e = .ok x) : Describes e x := by
  obtain ⟨hid, hroles⟩ := (read_eq_ok e x).1 h
  refine ⟨hid, hroles.imp fun c r => ?_⟩
  rintro ⟨role, hrole, hread⟩
  exact RoleDescriptor.describes_of_read role c r hrole hread

end Entity

/-! ## What reading skips -/

/-- A key that is missing or cannot be decoded, or an endpoint that cannot be used. -/
def Skipped (e : Element) : Prop :=
  (e.name = "KeyDescriptor" ∧ KeyDescriptor.key? e = none) ∨
    ((∃ r, e.name = endpointElement r) ∧ Endpoint.Unusable e)

mutual

/-- An element without some of what reading skips, at any depth. What is in a key stays as it is;
any other text may change, since it is the layout of what stands around it. -/
inductive Thinned : Element → Element → Prop
  | same (e : Element) : Thinned e e
  | inside {ns? : Option String} {name : String} {attributes : List (String × String)}
    {children children' : List Element} {text text' : String} : name ≠ "KeyDescriptor" →
    ThinnedAll children children' →
    Thinned ⟨ns?, name, attributes, children, text⟩ ⟨ns?, name, attributes, children', text'⟩

inductive ThinnedAll : List Element → List Element → Prop
  | nil : ThinnedAll [] []
  | cons {e e' : Element} {l l' : List Element} :
    Thinned e e' → ThinnedAll l l' → ThinnedAll (e :: l) (e' :: l')
  | skip {e : Element} {l l' : List Element} :
    Skipped e → ThinnedAll l l' → ThinnedAll (e :: l) l'

end

theorem ThinnedAll.refl : ∀ l, ThinnedAll l l
  | [] => .nil
  | e :: l => .cons (.same e) (refl l)

theorem Thinned.tag {e e' : Element} (h : Thinned e e') : e'.ns? = e.ns? ∧ e'.name = e.name ∧
    e'.attributes = e.attributes ∧ ThinnedAll e.children e'.children := by
  cases h with
  | same => exact ⟨rfl, rfl, rfl, .refl _⟩
  | inside _ hchildren => exact ⟨rfl, rfl, rfl, hchildren⟩

theorem Thinned.isNamed {e e' : Element} (h : Thinned e e') (ns name : String) :
    e'.isNamed ns name = e.isNamed ns name := by
  obtain ⟨hns, hname, -⟩ := h.tag
  rw [Element.isNamed, Element.isNamed, hns, hname]

theorem Thinned.attribute? {e e' : Element} (h : Thinned e e') (name : String) :
    e'.attribute? name = e.attribute? name := by
  rw [Element.attribute?, Element.attribute?, h.tag.2.2.1]

theorem Thinned.eq_of_key {e e' : Element} (h : Thinned e e') (hname : e.name = "KeyDescriptor") :
    e' = e := by
  cases h with
  | same => rfl
  | inside hother => exact absurd hname hother

/-- What is skipped has no other name. -/
theorem Skipped.name_ne {e : Element} (h : Skipped e) (name : String)
    (hname : name ∉ ["KeyDescriptor", "SingleSignOnService", "AssertionConsumerService"]) :
    e.name ≠ name := by
  rintro rfl
  rcases h with ⟨hkey, -⟩ | ⟨⟨r, hendpoint⟩, -⟩
  · exact hname (by rw [hkey]; decide)
  · exact hname (by rw [hendpoint]; cases r <;> decide)

theorem Skipped.isNamed {e : Element} (h : Skipped e) (ns name : String)
    (hname : name ∉ ["KeyDescriptor", "SingleSignOnService", "AssertionConsumerService"]) :
    e.isNamed ns name ≠ true :=
  fun hnamed => h.name_ne name hname ((Document.isNamed_iff ..).1 hnamed).2

/-- Elements that are never skipped stay, one by one. -/
theorem ThinnedAll.filter {R : Element → Element → Prop} (p : Element → Bool)
    (hthinned : ∀ e e', Thinned e e' → p e' = p e)
    (hkept : ∀ e e', Thinned e e' → p e = true → R e e')
    (hskipped : ∀ e, Skipped e → p e ≠ true) :
    ∀ {l l'}, ThinnedAll l l' → List.Forall₂ R (l.filter p) (l'.filter p)
  | _, _, .nil => .nil
  | e :: l, e' :: l', .cons h hrest => by
    have ih := ThinnedAll.filter p hthinned hkept hskipped hrest
    rw [List.filter_cons, List.filter_cons, hthinned e e' h]
    split
    · next hp => exact .cons (hkept e e' h hp) ih
    · exact ih
  | e :: l, l', .skip h hrest => by
    rw [List.filter_cons, if_neg (hskipped e h)]
    exact ThinnedAll.filter p hthinned hkept hskipped hrest

theorem ThinnedAll.exists_of_mem {e' : Element} :
    ∀ {l l'}, ThinnedAll l l' → e' ∈ l' → ∃ e ∈ l, Thinned e e'
  | _, _, .cons h hrest, hmem => by
    rcases List.mem_cons.1 hmem with rfl | hmem
    · exact ⟨_, List.mem_cons_self, h⟩
    · obtain ⟨e, he, hthinned⟩ := hrest.exists_of_mem hmem
      exact ⟨e, List.mem_cons_of_mem _ he, hthinned⟩
  | _, _, .skip _ hrest, hmem => by
    obtain ⟨e, he, hthinned⟩ := hrest.exists_of_mem hmem
    exact ⟨e, List.mem_cons_of_mem _ he, hthinned⟩

namespace RoleDescriptor

theorem role?_thinned {e e' : Element} (h : Thinned e e') : role? e' = role? e := by
  unfold role?
  simp only [h.isNamed]

theorem role?_skipped {e : Element} (h : Skipped e) : ¬ (role? e).isSome = true := by
  rw [role?, List.find?_isSome]
  rintro ⟨r, -, hnamed⟩
  exact h.isNamed _ _ (by cases r <;> decide) hnamed

/-- Keys that can be decoded are not touched. -/
theorem keys_thinned {e e' : Element} (h : Thinned e e') :
    (e.childrenNamed "KeyDescriptor").filter (fun k => (KeyDescriptor.key? k).isSome)
      = (e'.childrenNamed "KeyDescriptor").filter fun k => (KeyDescriptor.key? k).isSome := by
  rw [Element.childrenNamed, Element.childrenNamed, List.filter_filter, List.filter_filter,
    ← List.forall₂_eq_eq_eq]
  refine ThinnedAll.filter _ (fun c c' hc => ?_) (fun c c' hc hp => ?_) (fun c hc => ?_)
    h.tag.2.2.2
  · by_cases hname : c.name = "KeyDescriptor"
    · rw [hc.eq_of_key hname]
    · rw [hc.tag.2.1, beq_false_of_ne hname, Bool.and_false, Bool.and_false]
  · rw [Bool.and_eq_true, beq_iff_eq] at hp
    exact (hc.eq_of_key hp.2).symm
  · rw [ne_eq, Bool.and_eq_true, beq_iff_eq]
    rintro ⟨hkey, hname⟩
    rcases hc with ⟨-, hnone⟩ | ⟨⟨r, hendpoint⟩, -⟩
    · rw [hnone] at hkey
      cases hkey
    · rw [hname] at hendpoint
      cases r <;> exact absurd hendpoint (by decide)

theorem endpoints_thinned {e e' : Element} (h : Thinned e e') (role : Role) :
    List.Forall₂ Thinned
      ((e.childrenNamed (endpointElement role)).filter fun c => ¬ Endpoint.Unusable c)
      ((e'.childrenNamed (endpointElement role)).filter fun c => ¬ Endpoint.Unusable c) := by
  rw [Element.childrenNamed, Element.childrenNamed, List.filter_filter, List.filter_filter]
  refine ThinnedAll.filter _ (fun c c' hc => ?_) (fun c c' hc _ => hc) (fun c hc => ?_)
    h.tag.2.2.2
  · have hsame : Endpoint.Unusable c' ↔ Endpoint.Unusable c := by
      simp only [Endpoint.Unusable, hc.attribute?]
    rw [hc.tag.2.1, decide_eq_decide.2 (not_congr hsame)]
  · rw [ne_eq, Bool.and_eq_true, beq_iff_eq, decide_eq_true_eq]
    rintro ⟨husable, hname⟩
    rcases hc with ⟨hkey, -⟩ | ⟨-, hunusable⟩
    · rw [hkey] at hname
      cases role <;> exact absurd hname (by decide)
    · exact husable hunusable

theorem Describes.thinned {e e' : Element} {r : RoleDescriptor} (hthinned : Thinned e e')
    (h : Describes e r) : Describes e' r := by
  refine ⟨?_, ?_, ?_, ?_⟩
  · rw [hthinned.isNamed]
    exact h.role
  · rw [hthinned.attribute?]
    exact h.protocols
  · rw [← keys_thinned hthinned]
    exact h.keys
  · refine forall₂_transfer (fun c c' x hc hx => ?_) (endpoints_thinned hthinned r.role) h.endpoints
    exact ⟨(hc.attribute? _).trans hx.binding, (hc.attribute? _).trans hx.location⟩

theorem rightUnique : Relator.RightUnique Describes := by
  intro e r r' h h'
  obtain ⟨role, protocols, keys, endpoints⟩ := r
  obtain ⟨role', protocols', keys', endpoints'⟩ := r'
  have hname : role.descriptor = role'.descriptor :=
    ((Document.isNamed_iff ..).1 h.role).2.symm.trans ((Document.isNamed_iff ..).1 h'.role).2
  have hrole : role = role' := by
    cases role with
    | identityProvider =>
      cases role' with
      | identityProvider => rfl
      | serviceProvider => exact absurd hname (by decide)
    | serviceProvider =>
      cases role' with
      | identityProvider => exact absurd hname (by decide)
      | serviceProvider => rfl
  subst hrole
  have hprotocols : protocols = protocols' := h.protocols.trans h'.protocols.symm
  have hkeys : keys = keys' :=
    List.right_unique_forall₂' KeyDescriptor.rightUnique h.keys h'.keys
  have hendpoints : endpoints = endpoints' :=
    List.right_unique_forall₂' Endpoint.rightUnique h.endpoints h'.endpoints
  rw [hprotocols, hkeys, hendpoints]

end RoleDescriptor

namespace Entity

theorem Describes.thinned {e e' : Element} {x : Entity} (hthinned : Thinned e e')
    (h : Describes e x) : Describes e' x := by
  refine ⟨(hthinned.attribute? _).trans h.entityId, ?_⟩
  have hroles := ThinnedAll.filter (fun c => (RoleDescriptor.role? c).isSome)
    (fun c c' hc => by rw [RoleDescriptor.role?_thinned hc]) (fun c c' hc _ => hc)
    (fun c hc => RoleDescriptor.role?_skipped hc) hthinned.tag.2.2.2
  exact forall₂_transfer (fun c c' r hc hr => hr.thinned hc) hroles h.roles

theorem rightUnique : Relator.RightUnique Describes := by
  intro e x x' h h'
  obtain ⟨id, roles⟩ := x
  obtain ⟨id', roles'⟩ := x'
  have hid : id = id' := Option.some.inj (h.entityId.symm.trans h'.entityId)
  have hroles : roles = roles' :=
    List.right_unique_forall₂' RoleDescriptor.rightUnique h.roles h'.roles
  rw [hid, hroles]

/-- Leaving things out makes nothing faulty. -/
theorem faulty_of_thinned {e e' : Element} (hthinned : Thinned e e') (h : Faulty e') :
    Faulty e := by
  rcases h with hnone | ⟨c', hc', hsome, k', hk', use, huse, hunknown⟩
  · exact Or.inl ((hthinned.attribute? _).symm.trans hnone)
  · obtain ⟨c, hc, hcthinned⟩ := hthinned.tag.2.2.2.exists_of_mem hc'
    obtain ⟨hk', hname⟩ := List.mem_filter.1 hk'
    obtain ⟨k, hk, hkthinned⟩ := hcthinned.tag.2.2.2.exists_of_mem hk'
    rw [hkthinned.tag.2.1] at hname
    rw [RoleDescriptor.role?_thinned hcthinned] at hsome
    rw [hkthinned.attribute?] at huse
    exact Or.inr ⟨c, hc, hsome, k, List.mem_filter.2 ⟨hk, hname⟩, use, huse, hunknown⟩

/-- A thinned entity is read as the same one. -/
theorem read_thinned {e e' : Element} (hthinned : Thinned e e') (x : Entity) (h : read e = .ok x) :
    read e' = .ok x := by
  obtain ⟨x', hx'⟩ := (exists_read_iff e').2 fun hfaulty =>
    (exists_read_iff e).1 ⟨x, h⟩ (faulty_of_thinned hthinned hfaulty)
  have hsame : x' = x := rightUnique (describes_of_read e' x' hx')
    ((describes_of_read e x h).thinned hthinned)
  rw [hx', hsame]

end Entity

namespace Document

mutual

/-- What is reached is thinned itself. -/
theorem descriptors_thinned : ∀ {e e'}, Thinned e e' →
    List.Forall₂ Thinned (descriptors e) (descriptors e')
  | _, _, .same e => List.forall₂_same.2 fun d _ => .same d
  | _, _, @Thinned.inside ns? name attributes children children' text text' hname hchildren => by
    have hthinned : Thinned ⟨ns?, name, attributes, children, text⟩
        ⟨ns?, name, attributes, children', text'⟩ := .inside hname hchildren
    rw [descriptors, descriptors]
    split
    · exact .nil
    · split
      · exact descriptorsOfAll_thinned hchildren
      · split
        · exact .cons hthinned .nil
        · exact .nil

theorem descriptorsOfAll_thinned : ∀ {l l'}, ThinnedAll l l' →
    List.Forall₂ Thinned (descriptorsOfAll l) (descriptorsOfAll l')
  | _, _, .nil => .nil
  | e :: l, e' :: l', .cons h hrest => by
    rw [descriptorsOfAll, descriptorsOfAll]
    exact List.rel_append (descriptors_thinned h) (descriptorsOfAll_thinned hrest)
  | e :: l, l', .skip h hrest => by
    have hnone : descriptors e = [] := by
      rcases places_cases e with ⟨hgroup, -⟩ | ⟨-, hentity, -⟩ | ⟨-, -, -, hnone⟩
      · exact absurd hgroup (h.isNamed _ _ (by decide))
      · exact absurd hentity (h.isNamed _ _ (by decide))
      · exact hnone
    rw [descriptorsOfAll, hnone, List.nil_append]
    exact descriptorsOfAll_thinned hrest

end

/-! ## Main result -/

variable (root : Element)

theorem ofElement_eq_ok (doc : Document) : ofElement root = .ok doc ↔
    doc.entities ≠ [] ∧ List.Forall₂ (fun d x => Entity.read d = .ok x) (descriptors root)
      doc.entities := by
  by_cases hns : root.ns? = some Ns.metadata
  · have hread : ofElement root = (descriptors root).mapM Entity.read >>= fun entities =>
        if entities.isEmpty then .error (.metadata "document contains no entities")
        else .ok ⟨entities⟩ := by
      unfold ofElement
      rw [if_neg (not_not_intro hns)]
      refine bind_congr fun entities => ?_
      cases entities <;> rfl
    rw [hread, bind_eq_ok]
    simp only [← mapM_eq_ok]
    constructor
    · rintro ⟨entities, hentities, h⟩
      split at h
      · cases h
      · next hsome =>
        cases h
        exact ⟨fun hnone => hsome (by rw [show entities = [] from hnone]; rfl), hentities⟩
    · rintro ⟨hsome, hentities⟩
      refine ⟨doc.entities, hentities, ?_⟩
      rw [if_neg (by rwa [List.isEmpty_iff])]
  · have hnone : descriptors root = [] := by
      rcases places_cases root with ⟨hgroup, -⟩ | ⟨-, hentity, -⟩ | ⟨-, -, -, hnone⟩
      · exact absurd ((isNamed_iff ..).1 hgroup).1 hns
      · exact absurd ((isNamed_iff ..).1 hentity).1 hns
      · exact hnone
    have hrefused : ofElement root
        = .error (.metadata ("unexpected metadata root: " ++ root.name)) := by
      unfold ofElement
      rw [if_pos hns]
      rfl
    rw [hrefused, hnone, List.forall₂_nil_left_iff]
    exact iff_of_false nofun fun h => h.1 h.2

/-- A root is read as long as it leads to descriptors and none of them is faulty. -/
theorem exists_ofElement_iff : (∃ doc, ofElement root = .ok doc) ↔
    descriptors root ≠ [] ∧ ∀ d ∈ descriptors root, ¬ Entity.Faulty d := by
  simp only [ofElement_eq_ok, ← Entity.exists_read_iff, ← exists_forall₂_iff]
  constructor
  · rintro ⟨doc, hsome, h⟩
    refine ⟨fun hnone => hsome ?_, doc.entities, h⟩
    rwa [hnone, List.forall₂_nil_left_iff] at h
  · rintro ⟨hsome, entities, h⟩
    refine ⟨⟨entities⟩, fun hnone => hsome ?_, h⟩
    rwa [show entities = [] from hnone, List.forall₂_nil_right_iff] at h

theorem describes_of_ofElement (doc : Document) (h : ofElement root = .ok doc) :
    List.Forall₂ Entity.Describes (descriptors root) doc.entities :=
  ((ofElement_eq_ok root doc).1 h).2.imp fun d x => Entity.describes_of_read d x

/-- A thinned root is read as the same document. -/
theorem ofElement_thinned {root root' : Element} (hthinned : Thinned root root') (doc : Document)
    (h : ofElement root = .ok doc) : ofElement root' = .ok doc := by
  obtain ⟨hsome, hread⟩ := (ofElement_eq_ok root doc).1 h
  have hstep (d d' : Element) (x : Entity) (hd : Thinned d d') (hx : Entity.read d = .ok x) :
      Entity.read d' = .ok x := Entity.read_thinned hd x hx
  exact (ofElement_eq_ok root' doc).2
    ⟨hsome, forall₂_transfer hstep (descriptors_thinned hthinned) hread⟩

theorem parse_eq (s : String) (root : Element) (h : Element.parse s = .ok root) :
    parse s = ofElement root := by
  rw [parse, h]

/-- **Reading flattens groups and keeps faults apart.** A document is read as the entities that its
root leads to through groups alone, in its order and each once. It is refused if there are none or
if one of them is faulty, and for no other reason; and a document that leaves out keys that cannot
be decoded and endpoints that cannot be used, any of them or all, is read as the same entities. -/
theorem parse_flattens (s : String) (root : Element) (h : Element.parse s = .ok root) :
    ∃ places : List (List Nat × Element),
      places.Pairwise (fun p q => p.1 < q.1) ∧
      (∀ path d, (path, d) ∈ places ↔ Reaches root path d) ∧
      ((∃ fault, parse s = .error fault) ↔
        places = [] ∨ ∃ p ∈ places, Entity.Faulty p.2) ∧
      ∀ doc, parse s = .ok doc →
        List.Forall₂ (fun p x => Entity.Describes p.2 x) places doc.entities ∧
        ∀ s' root', Element.parse s' = .ok root' → Thinned root root' → parse s' = .ok doc := by
  have hlisted := descriptors_eq root
  refine ⟨places root, pairwise_places root, mem_places root, ?_, fun doc hdoc => ⟨?_, ?_⟩⟩
  · have hread := exists_ofElement_iff root
    rw [hlisted, ne_eq, List.map_eq_nil_iff, List.forall_mem_map] at hread
    rw [parse_eq s root h, exists_error_iff, hread, not_and_or, not_not]
    simp only [not_forall, not_not, exists_prop]
  · rw [parse_eq s root h] at hdoc
    have hdescribes := describes_of_ofElement root doc hdoc
    rwa [hlisted, List.forall₂_map_left_iff] at hdescribes
  · intro s' root' h' hthinned
    rw [parse_eq s root h] at hdoc
    rw [parse_eq s' root' h']
    exact ofElement_thinned hthinned doc hdoc

/-- A group that holds a group with one entity, a foreign element, and one more entity. The first
has a role with these children. -/
def sampleNode (children : List Node) : Node :=
  .group "md:EntitiesDescriptor" declaration
    [.group "md:EntitiesDescriptor" []
      [.group "md:EntityDescriptor" [("entityID", "idp")]
        [.group "md:IDPSSODescriptor" [("protocolSupportEnumeration", Protocol.saml20.uri)]
          children]],
     .group "o:hidden" [("xmlns:o", "urn:o")] [.empty "md:EntityDescriptor" [("entityID", "x")]],
     .empty "md:EntityDescriptor" [("entityID", "sp")]]

/-- A key of two bytes, with an algorithm. -/
def sampleDecodable : KeyDescriptor where
  use := .signing
  key := { family := .ecP256, keyInfo := Crypto.KeyInfo.encode .ecP256 [4, 255], key := [4, 255] }
  encryptionMethods := ["urn:o"]

/-- Three keys, of which one is missing and one cannot be decoded, and two endpoints, one with a
binding that nobody knows. -/
def sampleChildren : List Node :=
  [.empty "md:KeyDescriptor" [("use", "signing")],
   sampleDecodable.node,
   .group "md:KeyDescriptor" [] [.group "md:KeyInfo" [] [.leaf "md:DEREncodedKeyValue" [] "BP8="]],
   .empty "md:SingleSignOnService" [("Binding", Binding.soap.uri), ("Location", "/sso")],
   .empty "md:SingleSignOnService" [("Binding", "urn:o"), ("Location", "/other")]]

def sampleKept : List Node :=
  [sampleDecodable.node,
   .empty "md:SingleSignOnService" [("Binding", Binding.soap.uri), ("Location", "/sso")]]

def sampleRead : Document where
  entities :=
    [{ entityId := "idp"
       roles := [{ role := .identityProvider, protocols := [.saml20], keys := [sampleDecodable]
                   endpoints := [{ binding := .soap, location := "/sso" }] }] },
     { entityId := "sp" }]

theorem thinned_sample :
    Thinned ((sampleNode sampleChildren).element []) ((sampleNode sampleKept).element []) := by
  refine .inside (by decide) (.cons (.inside (by decide) (.cons (.inside (by decide)
    (.cons (.inside (by decide) ?_) .nil)) .nil)) (.cons (.same _) (.cons (.same _) .nil)))
  refine .skip (Or.inl ⟨rfl, rfl⟩) (.cons (.same _) (.skip (Or.inl ⟨rfl, ?_⟩) (.cons (.same _)
    (.skip (Or.inr ⟨⟨.identityProvider, rfl⟩, ?_⟩) .nil))))
  · decide +kernel
  · decide +kernel

theorem parse_flattens_sample :
    Element.parse (sampleNode sampleChildren).render
      = .ok ((sampleNode sampleChildren).element []) ∧
    parse (sampleNode sampleChildren).render = .ok sampleRead ∧
    parse (sampleNode sampleKept).render = .ok sampleRead := by
  have hwhole := parse_render (sampleNode sampleChildren) (by decide +kernel)
  have hkept := parse_render (sampleNode sampleKept) (by decide +kernel)
  obtain ⟨places, -, -, -, hdocument⟩ := parse_flattens _ _ hwhole
  have hread : parse (sampleNode sampleChildren).render = .ok sampleRead := by
    rw [parse_eq _ _ hwhole]
    rfl
  exact ⟨hwhole, hread, (hdocument sampleRead hread).2 _ _ hkept thinned_sample⟩

end Document

end Federation.Metadata
