import Federation.Metadata.Document
import Federation.Proofs.Crypto.Credential
import Federation.Proofs.Saml.Layout
import Federation.Proofs.Text.Blank

/-!
# Metadata read back

A document that is written and read is the document that was written, whatever its identifiers,
names and locations are, alone or in a group, with every key in its place.

    d.entities ≠ []  →  (every descriptor is publishable)  →  parse d.encode = ok d

- `Publishable` asks that no protocol is listed twice, that the keys were read from a certificate or
  a bare key, and that their names have no blanks around them: reading takes those off.
- Each node reads back as what it was written for (`read_node`) and can be read where it stands
  (`readable_node`), from keys up to entities.
-/

namespace Federation.Metadata

open Federation.Saml Federation.Xml
open Element (Scope)

/-! ## Tags -/

variable (room : Nat) (scopes : List Scope)

/-- A tag that declares nothing can be read where its prefix is bound. -/
theorem tagReadable_of_resolve (name : String) (attributes : List (String × String)) (ns : String)
    (hnames : (isName name.toList && namesWritable attributes && namesDistinct attributes) = true)
    (hprefixes : Node.prefixes attributes = [])
    (hns : Element.resolve scopes (Node.namePrefix name) = some ns) :
    Node.tagReadable scopes name attributes = true := by
  have hresolve : Element.resolve ([] :: scopes) (Node.namePrefix name) = some ns := hns
  unfold Node.tagReadable
  rw [hnames, hprefixes, hresolve, Option.isSome_some, Bool.or_true, Bool.and_true]

/-- The prefix of metadata is bound. -/
def Bound : Prop := Element.resolve scopes "md" = some Ns.metadata

/-! ## Keys -/

namespace KeyDescriptor

/-- The key is one that was published, under a name as it stands in a document. -/
structure Publishable (k : KeyDescriptor) : Prop where
  read : k.key.Read
  name : ∀ name ∈ k.key.name, Text.Unpadded name

/-- The `KeyInfo` of a key. -/
def infoNode (k : KeyDescriptor) : Node :=
  .group "ds:KeyInfo" [("xmlns:ds", Ns.signature)]
    (optionalNode (.leaf "ds:KeyName" []) k.key.name ++ [keyNode k.key])

variable (k : KeyDescriptor)

theorem keyText?_infoNode : keyText? (k.infoNode.element scopes)
    = some (k.key.certificate.isSome,
        Text.Base64.encodeText (k.key.certificate.getD k.key.keyInfo)) := by
  unfold infoNode keyText? keyNode
  cases k.key.name <;> cases k.key.certificate <;> rfl

theorem name_infoNode : (k.infoNode.element scopes).childText? "KeyName" = k.key.name := by
  unfold infoNode keyNode
  cases k.key.name <;> cases k.key.certificate <;> rfl

theorem readInfo?_infoNode (h : k.Publishable) :
    readInfo? (k.infoNode.element scopes) = some k.key := by
  have hreread : (if k.key.certificate.isSome = true then
      Crypto.PublicCredential.ofCertificate (k.key.certificate.getD k.key.keyInfo)
    else Crypto.PublicCredential.ofKeyInfo (k.key.certificate.getD k.key.keyInfo))
      = .ok { k.key with name := none } := by
    rw [← k.key.reread_of_read h.read]
    unfold Crypto.PublicCredential.reread
    cases k.key.certificate <;> rfl
  unfold readInfo?
  rw [keyText?_infoNode, name_infoNode]
  simp only [Option.bind_eq_bind, Option.bind_some, readBytes_encode, Except.toOption, hreread]
  cases hname : k.key.name with
  | none => exact congrArg some (k.key.unnamed_eq_self hname)
  | some name =>
    show some ({ k.key with name := some (Text.trimmed name) } : Crypto.PublicCredential) = _
    rw [Text.trimmed_eq_self name (h.name name hname), ← hname]

theorem use_node : (k.node.element scopes).attribute? "use" = k.use.text? := by
  unfold node
  cases k.use <;> rfl

theorem encryptionMethods_node :
    ((k.node.element scopes).childrenNamed "EncryptionMethod").filterMap (·.attribute? "Algorithm")
      = k.encryptionMethods := by
  have hmethods (scopes : List Scope) :
      (Node.elements scopes (k.encryptionMethods.map (algorithmNode "md:EncryptionMethod"))).filter
        (·.name == "EncryptionMethod")
      = k.encryptionMethods.map fun uri =>
          (algorithmNode "md:EncryptionMethod" uri).element scopes :=
    filter_map scopes _ _ _ fun _ => rfl
  unfold node
  rw [Node.childrenNamed_group, Node.elements_cons, List.filter_cons_of_neg, hmethods,
    List.filterMap_map]
  · exact List.filterMap_some
  · exact Bool.false_ne_true

theorem read_node (h : k.Publishable) : read (k.node.element scopes) = .ok (some k) := by
  have huse : KeyUse.ofText k.use.text? = .ok k.use := by cases k.use <;> rfl
  have hinfo : (k.node.element scopes).child? "KeyInfo"
      = some (k.infoNode.element (Node.prefixes (optionalAttribute "use" k.use.text?) :: scopes)) :=
    rfl
  unfold read
  rw [use_node, encryptionMethods_node, huse, hinfo, Option.bind_some, readInfo?_infoNode _ k h]
  rfl

theorem readable_infoNode : k.infoNode.readable (room + 3) scopes = true := by
  refine (Node.readable_group ..).2 ⟨by omega, rfl, (allReadable_append ..).2 ⟨?_, ?_⟩⟩
  · exact allReadable_optionalNode _ _ _ _ fun _ => rfl
  · unfold keyNode
    cases k.key.certificate <;> rfl

theorem readable_node (hmd : Bound scopes) : k.node.readable (room + 4) scopes = true := by
  have hprefixes : Node.prefixes (optionalAttribute "use" k.use.text?) = [] := by
    cases k.use <;> rfl
  refine (Node.readable_group ..).2 ⟨by omega, ?_, (Node.allReadable_cons ..).2 ⟨?_, ?_⟩⟩
  · refine tagReadable_of_resolve scopes _ _ Ns.metadata ?_ hprefixes hmd
    cases k.use <;> rfl
  · exact k.readable_infoNode _ _
  · rw [hprefixes]
    exact allReadable_map _ _ _ _ fun _ => tagReadable_of_resolve _ _ _ Ns.metadata rfl rfl hmd

end KeyDescriptor

/-! ## Endpoints -/

namespace Endpoint

variable (role : Role) (e : Endpoint)

theorem name_node : ((e.node role).element scopes).name = endpointElement role := by
  cases role <;> rfl

theorem read?_node : read? ((e.node role).element scopes) = some e := by
  have hbinding : Binding.ofUri? e.binding.uri = some e.binding := by cases e.binding <;> rfl
  show (Binding.ofUri? e.binding.uri).bind (fun binding => some ⟨binding, e.location⟩) = some e
  rw [hbinding]
  rfl

theorem readable_node (hmd : Bound scopes) : (e.node role).readable room scopes = true := by
  cases role <;> exact tagReadable_of_resolve scopes _ _ Ns.metadata rfl rfl hmd

end Endpoint

/-! ## Roles -/

namespace RoleDescriptor

/-- No protocol is listed twice, and every key is publishable. -/
structure Publishable (r : RoleDescriptor) : Prop where
  protocols : r.protocols.Nodup
  keys : ∀ k ∈ r.keys, k.Publishable

theorem eraseDups_of_nodup {α : Type} [DecidableEq α] (l : List α) (h : l.Nodup) :
    l.eraseDups = l := by
  induction l with
  | nil => rfl
  | cons a l ih =>
    obtain ⟨ha, hl⟩ := List.nodup_cons.1 h
    have hfilter : l.filter (fun b => !b == a) = l :=
      List.filter_eq_self.2 fun b hb => by
        have hne : b ≠ a := fun hba => ha (hba ▸ hb)
        simpa using hne
    rw [List.eraseDups_cons, hfilter, ih hl]

theorem readProtocols_intercalate (l : List Protocol) (h : l.Nodup) :
    readProtocols (" ".intercalate (l.map (·.uri))) = l := by
  have hwords : Text.words (" ".intercalate (l.map (·.uri))).toList
      = l.map (·.uri.toList) := by
    rw [String.toList_intercalate, List.map_map]
    refine Text.words_intercalate _ fun w hw => ?_
    obtain ⟨p, -, rfl⟩ := List.mem_map.1 hw
    have hall : (p.uri.toList.all fun c => !Text.isBlank c) = true := by cases p <;> decide
    refine ⟨by cases p <;> decide, fun c hc => ?_⟩
    simpa using List.all_eq_true.1 hall c hc
  have huri (p : Protocol) : Protocol.ofUri? (String.ofList p.uri.toList) = some p := by
    cases p <;> decide
  unfold readProtocols
  rw [hwords, List.filterMap_map]
  show (l.filterMap fun p => Protocol.ofUri? (String.ofList p.uri.toList)).eraseDups = l
  simp only [huri, List.filterMap_some]
  exact eraseDups_of_nodup l h

variable (r : RoleDescriptor)

theorem keys_node : (r.node.element scopes).childrenNamed "KeyDescriptor"
    = r.keys.map fun k => k.node.element ([] :: scopes) := by
  have hendpoints (scopes : List Scope) :
      (Node.elements scopes (r.endpoints.map (Endpoint.node r.role))).filter
        (·.name == "KeyDescriptor") = [] :=
    filter_map_ne _ _ _ _ fun e => by
      rw [e.name_node]
      cases r.role <;> rfl
  unfold node
  rw [Node.childrenNamed_group, Node.elements_append, List.filter_append, hendpoints,
    List.append_nil, filter_map _ _ _ _ fun _ => rfl]
  rfl

theorem endpoints_node : (r.node.element scopes).childrenNamed (endpointElement r.role)
    = r.endpoints.map fun e => (e.node r.role).element ([] :: scopes) := by
  have hkeys (scopes : List Scope) : (Node.elements scopes (r.keys.map KeyDescriptor.node)).filter
      (·.name == endpointElement r.role) = [] :=
    filter_map_ne _ _ _ _ fun k => by cases r.role <;> rfl
  unfold node
  rw [Node.childrenNamed_group, Node.elements_append, List.filter_append, hkeys, List.nil_append,
    filter_map _ _ _ _ fun e => by rw [e.name_node, beq_self_eq_true]]
  rfl

theorem read_node (h : r.Publishable) : read r.role (r.node.element scopes) = .ok r := by
  have hprotocols : (r.node.element scopes).attribute? "protocolSupportEnumeration"
      = some (" ".intercalate (r.protocols.map (·.uri))) := rfl
  have hkeys : (r.keys.map fun k => k.node.element ([] :: scopes)).mapM KeyDescriptor.read
      = .ok (r.keys.map some) :=
    mapM_map_eq_ok _ _ _ _ fun k hk => k.read_node _ (h.keys k hk)
  have hendpoints : (r.endpoints.map fun e => (e.node r.role).element ([] :: scopes)).filterMap
      Endpoint.read? = r.endpoints := by
    simp only [List.filterMap_map, Function.comp_def, Endpoint.read?_node, List.filterMap_some]
  unfold read
  rw [keys_node, endpoints_node, hprotocols, hkeys, hendpoints, ok_bind, Option.getD_some,
    readProtocols_intercalate _ h.protocols, List.filterMap_map]
  show Except.ok { r with keys := r.keys.filterMap fun k => some k } = _
  rw [List.filterMap_some]

theorem role?_node (hmd : Bound scopes) : role? (r.node.element scopes) = some r.role := by
  have hns : (r.node.element scopes).ns? = some Ns.metadata := by
    unfold node
    cases r.role <;> exact hmd
  have hname : (r.node.element scopes).name = r.role.descriptor := by
    unfold node
    cases r.role <;> rfl
  unfold role? Element.isNamed
  rw [hns, hname]
  cases r.role <;> decide

theorem readable_node (hmd : Bound scopes) : r.node.readable (room + 5) scopes = true := by
  refine (Node.readable_group ..).2 ⟨by omega, ?_, (allReadable_append ..).2 ⟨?_, ?_⟩⟩
  · cases r.role <;> exact tagReadable_of_resolve scopes _ _ Ns.metadata rfl rfl hmd
  · exact allReadable_map _ _ _ _ fun k => k.readable_node room _ hmd
  · exact allReadable_map _ _ _ _ fun e => e.readable_node _ _ r.role hmd

end RoleDescriptor

/-! ## Entities -/

namespace Entity

section
variable (declared : List (String × String)) (hdeclared : declared = declaration ∨ declared = [])
  (hmd : Bound (Node.prefixes declared :: scopes)) (e : Entity)
include hdeclared

theorem prefixes_node :
    Node.prefixes (declared ++ [("entityID", e.entityId)]) = Node.prefixes declared := by
  rcases hdeclared with rfl | rfl <;> rfl

theorem entityId_node :
    ((e.node declared).element scopes).attribute? "entityID" = some e.entityId := by
  rcases hdeclared with rfl | rfl <;> rfl

include hmd

theorem isDescriptor_node : ((e.node declared).element scopes).ns? = some Ns.metadata ∧
    ((e.node declared).element scopes).name = "EntityDescriptor" := by
  rcases hdeclared with rfl | rfl <;> exact ⟨hmd, rfl⟩

theorem read_node (h : ∀ r ∈ e.roles, r.Publishable) :
    read ((e.node declared).element scopes) = .ok e := by
  have hroles : ((e.node declared).element scopes).children
      = e.roles.map fun r => r.node.element (Node.prefixes declared :: scopes) := by
    show Node.elements (Node.prefixes _ :: scopes) (e.roles.map RoleDescriptor.node) = _
    rw [prefixes_node declared hdeclared e, Node.elements_map]
  have hdescribed :
      (e.roles.map fun r => r.node.element (Node.prefixes declared :: scopes)).filterMap
        (fun c => (RoleDescriptor.role? c).map fun r => (r, c))
      = e.roles.map fun r => (r.role, r.node.element (Node.prefixes declared :: scopes)) := by
    rw [List.filterMap_map, ← List.filterMap_eq_map]
    congr 1
    funext r
    show (RoleDescriptor.role? (r.node.element _)).map _ = _
    rw [r.role?_node _ hmd]
    rfl
  have hread : (e.roles.map fun r =>
      (r.role, r.node.element (Node.prefixes declared :: scopes))).mapM
        (fun rc => RoleDescriptor.read rc.1 rc.2) = .ok (e.roles.map id) :=
    mapM_map_eq_ok _ _ _ _ fun r hr => r.read_node _ (h r hr)
  rw [List.map_id] at hread
  unfold read
  rw [entityId_node scopes declared hdeclared e, hroles, hdescribed]
  simp only
  rw [hread]
  rfl

theorem readable_node : (e.node declared).readable (room + 6) scopes = true := by
  refine (Node.readable_group ..).2 ⟨by omega, ?_, ?_⟩
  · rcases hdeclared with rfl | rfl
    · rfl
    · exact tagReadable_of_resolve scopes _ _ Ns.metadata rfl rfl hmd
  · rw [prefixes_node declared hdeclared e]
    exact allReadable_map _ _ _ _ fun r => r.readable_node room _ hmd

end

end Entity

/-! ## Documents -/

namespace Document

theorem descriptors_eq_self (e : Element) (hns : e.ns? = some Ns.metadata)
    (hname : e.name = "EntityDescriptor") : descriptors e = [e] := by
  obtain ⟨ns?, name, attributes, children, text⟩ := e
  simp only at hns hname
  subst hns hname
  unfold descriptors
  simp

theorem descriptorsOfAll_eq_self (l : List Element)
    (h : ∀ e ∈ l, e.ns? = some Ns.metadata ∧ e.name = "EntityDescriptor") :
    descriptorsOfAll l = l := by
  induction l with
  | nil => rfl
  | cons e l ih =>
    obtain ⟨hns, hname⟩ := h e List.mem_cons_self
    rw [descriptorsOfAll, descriptors_eq_self e hns hname,
      ih fun e' he' => h e' (List.mem_cons_of_mem _ he')]
    rfl

theorem bound_declaration : Bound [Node.prefixes declaration] := rfl

theorem bound_nested : Bound [Node.prefixes [], Node.prefixes declaration] := rfl

/-- A document is written as one entity or as a group. -/
theorem node_cases (d : Document) :
    (∃ e, d.entities = [e] ∧ d.node = e.node declaration) ∨
      d.node = .group "md:EntitiesDescriptor" declaration (d.entities.map (Entity.node [])) := by
  unfold node
  split
  · next e he => exact Or.inl ⟨e, he, rfl⟩
  · exact Or.inr rfl

theorem ns_node (d : Document) : (d.node.element []).ns? = some Ns.metadata := by
  rcases node_cases d with ⟨e, -, hnode⟩ | hnode
  · rw [hnode]
    exact (e.isDescriptor_node [] declaration (Or.inl rfl) bound_declaration).1
  · rw [hnode]
    rfl

theorem readable_node (d : Document) : d.node.readable Element.maxDepth [] = true := by
  rcases node_cases d with ⟨e, -, hnode⟩ | hnode
  · rw [hnode]
    exact e.readable_node 58 [] declaration (Or.inl rfl) bound_declaration
  · rw [hnode]
    refine (Node.readable_group ..).2 ⟨by decide, rfl, allReadable_map _ _ _ _ fun e => ?_⟩
    exact e.readable_node 57 _ [] (Or.inr rfl) bound_nested

/-- Every entity is found in the group, and nothing else. -/
theorem descriptors_group (l : List Entity) :
    descriptors ((Node.group "md:EntitiesDescriptor" declaration
      (l.map (Entity.node []))).element [])
      = l.map fun e => (e.node []).element [Node.prefixes declaration] := by
  have helement : (Node.group "md:EntitiesDescriptor" declaration
      (l.map (Entity.node []))).element []
      = { ns? := some Ns.metadata, name := "EntitiesDescriptor"
          children := Node.elements [Node.prefixes declaration] (l.map (Entity.node [])) } := rfl
  rw [helement, descriptors, if_neg (not_not_intro rfl), if_pos rfl, Node.elements_map]
  refine descriptorsOfAll_eq_self _ fun c hc => ?_
  obtain ⟨e, -, rfl⟩ := List.mem_map.1 hc
  exact e.isDescriptor_node _ [] (Or.inr rfl) bound_nested

theorem read_node (d : Document) (h : ∀ e ∈ d.entities, ∀ r ∈ e.roles, r.Publishable) :
    (descriptors (d.node.element [])).mapM Entity.read = .ok d.entities := by
  rcases node_cases d with ⟨e, he, hnode⟩ | hnode
  · obtain ⟨hns, hname⟩ := e.isDescriptor_node [] declaration (Or.inl rfl) bound_declaration
    have hread := e.read_node [] declaration (Or.inl rfl) bound_declaration
      (h e (by rw [he]; exact List.mem_singleton_self e))
    rw [hnode, descriptors_eq_self _ hns hname, he, List.mapM_cons, hread]
    rfl
  · have hread := mapM_map_eq_ok (fun e : Entity => (e.node []).element [Node.prefixes declaration])
      Entity.read id d.entities fun e he =>
        e.read_node _ [] (Or.inr rfl) bound_nested (h e he)
    rw [hnode, descriptors_group, hread, List.map_id]

/-! ## Main result -/

/-- A written document reads back as it is. -/
theorem parse_encode (d : Document) (hne : d.entities ≠ [])
    (h : ∀ e ∈ d.entities, ∀ r ∈ e.roles, r.Publishable) : parse d.encode = .ok d := by
  unfold parse encode
  rw [parse_render d.node d.readable_node]
  show ofElement (d.node.element []) = _
  have hfound : d.entities.isEmpty = false := by simpa using hne
  unfold ofElement
  rw [if_neg (not_not_intro d.ns_node)]
  simp only [d.read_node h, ok_bind, hfound, Bool.false_eq_true, if_false]
  rfl

/-- A key of two bytes, under a name. -/
def sampleCredential : Crypto.PublicCredential where
  family := .ecP256
  keyInfo := Crypto.KeyInfo.encode .ecP256 [4, 255]
  key := [4, 255]
  name := some "key <1>"

/-- An entity without roles, and one with a role that speaks both protocols. -/
def sampleDocument : Document where
  entities :=
    [{ entityId := " & " },
     { entityId := ""
       roles := [{ role := .serviceProvider, protocols := [.saml20, .saml11]
                   keys := [{ use := .encryption, key := sampleCredential
                              encryptionMethods := ["rsa", "rsa"] }]
                   endpoints := [{ binding := .soap, location := "\"'\n" }] }] }]

theorem parse_encode_sample : sampleDocument.entities ≠ [] ∧
    parse sampleDocument.encode = .ok sampleDocument := by
  have hread : sampleCredential.Read :=
    .named { sampleCredential with name := none } "key <1>"
      (.keyInfo sampleCredential.keyInfo _ rfl)
  refine ⟨List.cons_ne_nil _ _, parse_encode sampleDocument (List.cons_ne_nil _ _) ?_⟩
  intro e he r hr
  rcases List.mem_cons.1 he with rfl | he
  · cases hr
  · cases List.mem_singleton.1 he
    cases List.mem_singleton.1 hr
    refine ⟨by decide, fun k hk => ?_⟩
    cases List.mem_singleton.1 hk
    refine ⟨hread, fun name hname => ?_⟩
    cases hname
    exact ⟨by rintro c ⟨⟩; rfl, by rintro c ⟨⟩; rfl⟩

end Document

end Federation.Metadata
