import Federation.Proofs.Result
import Federation.Proofs.Text.Base64
import Federation.Proofs.Xml.Canonical
import Federation.Saml.Decode
import Federation.Saml.Encode

/-!
# Looking up what was written

Lookups in the element of a written node, for the pieces that messages are put together from:
elements that are there or not, one after another. A lookup passes what has another name and stops
at what has the name.

    (elements scopes (optionalNode write o)).find? p = o.map (element scopes ∘ write)

Whether a piece has the name is a fact about fixed names, so the lemmas leave it to evaluation.
-/

namespace Federation.Xml

open Element (Scope)

namespace Node

/-! ## Elements of nodes -/

section
variable (scopes : List Scope) (name : String) (attributes : List (String × String))
  (children : List Node) (key ns : String)

@[simp] theorem child?_group : ((group name attributes children).element scopes).child? key
    = (elements (prefixes attributes :: scopes) children).find? (·.name == key) := rfl

@[simp] theorem childIn?_group : ((group name attributes children).element scopes).childIn? ns key
    = (elements (prefixes attributes :: scopes) children).find? (·.isNamed ns key) := rfl

@[simp] theorem childrenNamed_group :
    ((group name attributes children).element scopes).childrenNamed key
      = (elements (prefixes attributes :: scopes) children).filter (·.name == key) := rfl

@[simp] theorem childText?_eq (e : Element) :
    e.childText? key = (e.child? key).map (·.text) := rfl

end

@[simp] theorem elements_nil (scopes : List Scope) : elements scopes [] = [] := rfl

@[simp] theorem elements_cons (scopes : List Scope) (n : Node) (l : List Node) :
    elements scopes (n :: l) = n.element scopes :: elements scopes l := rfl

@[simp] theorem elements_append (scopes : List Scope) (l m : List Node) :
    elements scopes (l ++ m) = elements scopes l ++ elements scopes m := by
  induction l with
  | nil => rfl
  | cons n l ih => rw [List.cons_append, elements_cons, ih, elements_cons, List.cons_append]

theorem elements_map {α : Type} (scopes : List Scope) (write : α → Node) (l : List α) :
    elements scopes (l.map write) = l.map fun a => (write a).element scopes := by
  induction l with
  | nil => rfl
  | cons a l ih => rw [List.map_cons, elements_cons, ih, List.map_cons]

end Node

end Federation.Xml

namespace Federation.Saml

open Federation.Xml
open Element (Scope)

/-! ## Elements that are there or not -/

section
variable (scopes : List Scope) (p : Element → Bool)

@[simp] theorem find?_node (n : Node) (l : List Element) (h : p (n.element scopes) = true) :
    (n.element scopes :: l).find? p = some (n.element scopes) := List.find?_cons_of_pos h

@[simp] theorem find?_node_ne (n : Node) (l : List Element) (h : p (n.element scopes) = false) :
    (n.element scopes :: l).find? p = l.find? p := List.find?_cons_of_neg (by simp [h])

variable (present : Bool) (n : Node)

@[simp] theorem find?_nodesIf (h : p (n.element scopes) = true) :
    (Node.elements scopes (nodesIf present [n])).find? p
      = if present then some (n.element scopes) else none := by
  cases present <;> simp [nodesIf, h]

@[simp] theorem find?_nodesIf_ne (h : p (n.element scopes) = false) :
    (Node.elements scopes (nodesIf present [n])).find? p = none := by
  cases present <;> simp [nodesIf, h]

@[simp] theorem filter_nodesIf (h : p (n.element scopes) = true) :
    (Node.elements scopes (nodesIf present [n])).filter p
      = if present then [n.element scopes] else [] := by
  cases present <;> simp [nodesIf, h]

@[simp] theorem filter_nodesIf_ne (h : p (n.element scopes) = false) :
    (Node.elements scopes (nodesIf present [n])).filter p = [] := by
  cases present <;> simp [nodesIf, h]

variable {α : Type} (write : α → Node) (o : Option α)

@[simp] theorem find?_optionalNode (h : ∀ a, p ((write a).element scopes) = true) :
    (Node.elements scopes (optionalNode write o)).find? p
      = o.map fun a => (write a).element scopes := by
  cases o <;> simp [optionalNode, h]

@[simp] theorem find?_optionalNode_ne (h : ∀ a, p ((write a).element scopes) = false) :
    (Node.elements scopes (optionalNode write o)).find? p = none := by
  cases o <;> simp [optionalNode, h]

@[simp] theorem filter_optionalNode_ne (h : ∀ a, p ((write a).element scopes) = false) :
    (Node.elements scopes (optionalNode write o)).filter p = [] := by
  cases o <;> simp [optionalNode, h]

@[simp] theorem find?_map_ne (l : List α) (h : ∀ a, p ((write a).element scopes) = false) :
    (Node.elements scopes (l.map write)).find? p = none := by
  rw [Node.elements_map]
  exact List.find?_eq_none.2 fun e he => by
    obtain ⟨a, -, rfl⟩ := List.mem_map.1 he
    simp [h]

@[simp] theorem filter_map (l : List α) (h : ∀ a, p ((write a).element scopes) = true) :
    (Node.elements scopes (l.map write)).filter p = l.map fun a => (write a).element scopes := by
  rw [Node.elements_map]
  exact List.filter_eq_self.2 fun e he => by
    obtain ⟨a, -, rfl⟩ := List.mem_map.1 he
    exact h a

@[simp] theorem filter_map_ne (l : List α) (h : ∀ a, p ((write a).element scopes) = false) :
    (Node.elements scopes (l.map write)).filter p = [] := by
  rw [Node.elements_map]
  exact List.filter_eq_nil_iff.2 fun e he => by
    obtain ⟨a, -, rfl⟩ := List.mem_map.1 he
    simp [h]

end

/-! ## What can be read -/

theorem allReadable_append (room : Nat) (scopes : List Scope) (l m : List Node) :
    Node.allReadable room scopes (l ++ m) = true ↔
      Node.allReadable room scopes l = true ∧ Node.allReadable room scopes m = true := by
  induction l with
  | nil => simp [Node.allReadable]
  | cons n l ih =>
    rw [List.cons_append, Node.allReadable_cons, ih, Node.allReadable_cons, and_assoc]

theorem allReadable_optionalNode {α : Type} (room : Nat) (scopes : List Scope) (write : α → Node)
    (o : Option α) (h : ∀ a, (write a).readable room scopes = true) :
    Node.allReadable room scopes (optionalNode write o) = true := by
  cases o with
  | none => rfl
  | some a => exact (Node.allReadable_cons ..).2 ⟨h a, rfl⟩

theorem allReadable_nodesIf (room : Nat) (scopes : List Scope) (present : Bool) (n : Node)
    (h : n.readable room scopes = true) :
    Node.allReadable room scopes (nodesIf present [n]) = true := by
  cases present with
  | false => rfl
  | true => exact (Node.allReadable_cons ..).2 ⟨h, rfl⟩

theorem allReadable_map {α : Type} (room : Nat) (scopes : List Scope) (write : α → Node)
    (l : List α) (h : ∀ a, (write a).readable room scopes = true) :
    Node.allReadable room scopes (l.map write) = true := by
  induction l with
  | nil => rfl
  | cons a l ih => exact (Node.allReadable_cons ..).2 ⟨h a, ih⟩

theorem readBytes_encode (b : List UInt8) : readBytes (Text.Base64.encodeText b) = .ok b := by
  unfold readBytes Text.Base64.encodeText
  rw [String.toList_ofList, Text.Base64.decodeSpaced_encode]

end Federation.Saml
