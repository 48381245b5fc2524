import Federation.Proofs.Result
import Federation.Proofs.Xml.Canonical

/-!
# What calls on a writer describe

A writer takes tags one at a time and never sees a tree. Its calls describe one all the same: an end
tag closes the innermost open element and does nothing where none is open, and what is open at the
end is closed. `described` keeps that account, and the text that comes out is the compact text of
the elements in it.

    written calls = renderAll (described calls)

So calls that describe one element write a document that reads as this element, calls that describe
none or several write a text that is refused (`parse_written`), and the text is the canonical form
of itself and of all its layouts (`canonicalize_written`).

- `Outline` is the account of the calls so far, and `writes_foldl` ties it to the writer.
-/

namespace Federation.Xml

open Element (Scope Builder)

/-! ## Calls -/

/-- A call on a writer. -/
inductive Call
  | start (name : String) (attributes : List (String × String))
  | empty (name : String) (attributes : List (String × String))
  | leaf (name : String) (attributes : List (String × String)) (text : String)
  | close
deriving DecidableEq, Repr

def Writer.perform (w : Writer) : Call → Writer
  | .start name attributes => w.start name attributes
  | .empty name attributes => w.empty name attributes
  | .leaf name attributes text => w.leaf name attributes text
  | .close => w.close

/-- The text that calls on a new writer write. -/
def written (calls : List Call) : String := (calls.foldl Writer.perform {}).finish

/-! ## Outlines -/

/-- An element whose end is still to come, with the elements in it so far. -/
structure Started where
  name : String
  attributes : List (String × String)
  children : List Node := []

/-- What calls have described so far. -/
structure Outline where
  /-- The elements that are still open, innermost first. -/
  started : List Started := []
  /-- The complete elements that stand in no other. -/
  roots : List Node := []

namespace Outline

/-- Adds a complete element where the outline stands. -/
def add (o : Outline) (n : Node) : Outline :=
  match o.started with
  | [] => { o with roots := o.roots ++ [n] }
  | s :: rest => { o with started := { s with children := s.children ++ [n] } :: rest }

/-- Completes the innermost open element, if there is one. -/
def close (o : Outline) : Outline :=
  match o.started with
  | [] => o
  | s :: rest => { o with started := rest }.add (.group s.name s.attributes s.children)

def take (o : Outline) : Call → Outline
  | .start name attributes => { o with started := { name, attributes } :: o.started }
  | .empty name attributes => o.add (.empty name attributes)
  | .leaf name attributes text => o.add (.leaf name attributes text)
  | .close => o.close

/-- The elements of an outline once everything is closed. -/
def finish (o : Outline) : List Node := (o.started.foldl (fun o _ => o.close) o).roots

end Outline

/-- The elements that calls describe, in order. -/
def described (calls : List Call) : List Node := (calls.foldl Outline.take {}).finish

/-! ## Text of an outline -/

namespace Outline

/-- The names of the elements that are open. -/
def names (o : Outline) : List String := o.started.map (·.name)

/-- The text of open elements, the outermost first. -/
def startedText : List Started → String
  | [] => ""
  | s :: rest => startedText rest ++ startText s.name s.attributes ++ Node.renderAll s.children

def text (o : Outline) : String := Node.renderAll o.roots ++ startedText o.started

theorem renderAll_append (l m : List Node) :
    Node.renderAll (l ++ m) = Node.renderAll l ++ Node.renderAll m := by
  induction l with
  | nil => exact String.empty_append.symm
  | cons n l ih => rw [List.cons_append, Node.renderAll, Node.renderAll, ih, String.append_assoc]

theorem renderAll_concat (l : List Node) (n : Node) :
    Node.renderAll (l ++ [n]) = Node.renderAll l ++ n.render := by
  rw [renderAll_append, Node.renderAll, Node.renderAll, String.append_empty]

theorem text_add (o : Outline) (n : Node) : (o.add n).text = o.text ++ n.render := by
  obtain ⟨started, roots⟩ := o
  cases started with
  | nil =>
    show Node.renderAll (roots ++ [n]) ++ "" = Node.renderAll roots ++ "" ++ n.render
    rw [renderAll_concat, String.append_empty, String.append_empty]
  | cons s rest =>
    show Node.renderAll roots ++ (startedText rest ++ startText s.name s.attributes
      ++ Node.renderAll (s.children ++ [n])) = _
    rw [renderAll_concat]
    simp only [text, startedText, String.append_assoc]

theorem names_add (o : Outline) (n : Node) : (o.add n).names = o.names := by
  obtain ⟨started, roots⟩ := o
  cases started <;> rfl

theorem text_close (o : Outline) (name : String) (names : List String)
    (h : o.names = name :: names) : o.close.text = o.text ++ endText name := by
  obtain ⟨started, roots⟩ := o
  cases started with
  | nil => cases h
  | cons s rest =>
    obtain ⟨rfl, -⟩ := List.cons.inj h
    show (add { started := rest, roots } (.group s.name s.attributes s.children)).text = _
    rw [text_add]
    simp only [text, startedText, Node.render, String.append_assoc]

theorem names_close (o : Outline) : o.close.names = o.names.tail := by
  obtain ⟨started, roots⟩ := o
  cases started with
  | nil => rfl
  | cons s rest => exact names_add _ _

/-- What is open is closed from the inside out. -/
theorem finish_eq (l : List Started) (o : Outline) (h : o.names = l.map (·.name)) :
    Node.renderAll (l.foldl (fun o _ => o.close) o).roots
      = l.foldl (fun out s => out ++ endText s.name) o.text := by
  induction l generalizing o with
  | nil =>
    have hnone : o.started = [] := List.map_eq_nil_iff.1 h
    rw [List.foldl_nil, List.foldl_nil, text, hnone, startedText, String.append_empty]
  | cons s l ih =>
    have hclose : o.close.names = l.map (·.name) := by
      rw [names_close, h]
      rfl
    rw [List.foldl_cons, List.foldl_cons, ih o.close hclose, text_close o s.name _ h]

end Outline

/-! ## Writers and outlines -/

/-- A writer has written what an outline says. -/
structure Writes (w : Writer) (o : Outline) : Prop where
  out : w.out = o.text
  pending : w.pending = o.names

namespace Writes

variable {w : Writer} {o : Outline}

theorem add (h : Writes w o) (n : Node) : Writes { w with out := w.out ++ n.render } (o.add n) where
  out := by rw [Outline.text_add, h.out]
  pending := h.pending.trans (o.names_add n).symm

theorem close (h : Writes w o) : Writes w.close o.close := by
  obtain ⟨out, pending⟩ := w
  cases pending with
  | nil =>
    have hnone : o.started = [] := List.map_eq_nil_iff.1 h.pending.symm
    have hsame : o.close = o := by rw [Outline.close, hnone]
    rw [hsame]
    exact h
  | cons name names =>
    have hnames : o.names = name :: names := h.pending.symm
    refine ⟨?_, ?_⟩
    · rw [Outline.text_close o name names hnames, ← h.out]
      rfl
    · rw [Outline.names_close, hnames]
      rfl

/-- Each call keeps the account. -/
theorem perform (h : Writes w o) (c : Call) : Writes (w.perform c) (o.take c) := by
  cases c with
  | start name attributes =>
    refine ⟨?_, congrArg (name :: ·) h.pending⟩
    show w.out ++ startText name attributes = Node.renderAll o.roots
      ++ (Outline.startedText o.started ++ startText name attributes ++ "")
    rw [h.out, Outline.text, String.append_empty, String.append_assoc]
  | empty name attributes => exact h.add (.empty name attributes)
  | leaf name attributes text => exact h.add (.leaf name attributes text)
  | close => exact h.close

theorem foldl (h : Writes w o) (calls : List Call) :
    Writes (calls.foldl Writer.perform w) (calls.foldl Outline.take o) := by
  induction calls generalizing w o with
  | nil => exact h
  | cons c calls ih => exact ih (h.perform c)

theorem finish (h : Writes w o) : w.finish = Node.renderAll o.finish := by
  rw [Outline.finish, Outline.finish_eq o.started o rfl, Writer.finish, h.pending, h.out,
    Outline.names, List.foldl_map]

end Writes

/-- A writer writes the compact text of what its calls describe. -/
theorem written_eq (calls : List Call) : written calls = Node.renderAll (described calls) :=
  (Writes.foldl (w := {}) (o := {}) ⟨rfl, rfl⟩ calls).finish

/-! ## Depth -/

namespace Node

mutual

/-- The number of levels of a node; its own is the first. -/
def depth : Node → Nat
  | .empty _ _ | .leaf _ _ _ => 1
  | .group _ _ children => depthOf children + 1

def depthOf : List Node → Nat
  | [] => 0
  | n :: rest => max (depth n) (depthOf rest)

end

mutual

theorem readable_of_depth (room : Nat) (scopes : List Scope) (n : Node)
    (h : n.everyTag tagReadable scopes = true) (hdepth : n.depth ≤ room) :
    n.readable room scopes = true := by
  match n with
  | .empty name attributes => exact h
  | .leaf name attributes text => exact (readable_leaf ..).2 ⟨hdepth, h⟩
  | .group name attributes children =>
    obtain ⟨htag, hchildren⟩ := (everyTag_group ..).1 h
    rw [depth] at hdepth
    exact (readable_group ..).2
      ⟨by omega, htag, allReadable_of_depth (room - 1) _ children hchildren (by omega)⟩

theorem allReadable_of_depth (room : Nat) (scopes : List Scope) (l : List Node)
    (h : everyTagOf tagReadable scopes l = true) (hdepth : depthOf l ≤ room) :
    allReadable room scopes l = true := by
  match l with
  | [] => rfl
  | n :: l =>
    obtain ⟨hn, hl⟩ := (everyTagOf_cons ..).1 h
    rw [depthOf] at hdepth
    exact (allReadable_cons ..).2 ⟨readable_of_depth room scopes n hn (by omega),
      allReadable_of_depth room scopes l hl (by omega)⟩

end

/-! ## One root -/

/-- Of several elements none but the first can become the root. -/
theorem foldlM_several (m n : Node) (l : List Node)
    (h : everyTagOf tagReadable [] (m :: n :: l) = true) :
    (allEvents (m :: n :: l)).foldlM Builder.step {} = .error .secondRoot ∨
      (allEvents (m :: n :: l)).foldlM Builder.step {} = .error .nestedTooDeeply := by
  obtain ⟨hm, hl⟩ := (everyTagOf_cons ..).1 h
  obtain ⟨hn, -⟩ := (everyTagOf_cons ..).1 hl
  have hfirst := foldlM_events Element.maxDepth m {} rfl hm
  by_cases hfits : m.readable Element.maxDepth [] = true
  · have hroot : m.events.foldlM Builder.step {} = .ok { root := some (m.element []) } := by
      rw [hfirst]
      exact if_pos hfits
    have hsecond := foldlM_events Element.maxDepth n { root := some (m.element []) } rfl hn
    rw [allEvents, List.foldlM_append, hroot, ok_bind, allEvents, List.foldlM_append]
    by_cases hfits' : n.readable Element.maxDepth [] = true
    · have hrefused := hsecond.trans (if_pos hfits')
      rw [hrefused]
      exact Or.inl rfl
    · have hrefused := hsecond.trans (if_neg hfits')
      rw [hrefused]
      exact Or.inr rfl
  · have hrefused := hfirst.trans (if_neg hfits)
    rw [allEvents, List.foldlM_append, hrefused]
    exact Or.inr rfl

end Node

theorem parse_renderAll (l : List Node) (h : Node.everyTagOf Node.tagReadable [] l = true) :
    Element.parse (Node.renderAll l)
      = (Node.allEvents l).foldlM Builder.step {} >>= Builder.finish := by
  rw [Element.parse, Node.eventScan_renderAll l
    (Node.everyTagOf_imp Node.tagNamed_of_tagReadable [] l h)]
  rfl

/-! ## Main results -/

/-- **Written text reads as what was described.** Where every tag can be read, that is, its names
are names, no attribute stands twice and its prefix is bound: calls that describe a single element
of no more than 64 levels write a document that reads as this element; calls that describe none or
several write a text that is refused. -/
theorem parse_written (calls : List Call)
    (h : Node.everyTagOf Node.tagReadable [] (described calls) = true) :
    (∀ n, described calls = [n] → n.depth ≤ Element.maxDepth →
      Element.parse (written calls) = .ok (n.element [])) ∧
    (described calls = [] → Element.parse (written calls) = .error .noRoot) ∧
    (1 < (described calls).length →
      Element.parse (written calls) = .error .secondRoot ∨
        Element.parse (written calls) = .error .nestedTooDeeply) := by
  refine ⟨fun n hn hdepth => ?_, fun hnone => ?_, fun hseveral => ?_⟩
  · rw [hn] at h
    rw [written_eq, hn, Node.renderAll, Node.renderAll, String.append_empty]
    exact parse_render n
      (Node.readable_of_depth _ _ n ((Node.everyTagOf_cons ..).1 h).1 hdepth)
  · rw [written_eq, hnone]
    rfl
  · rw [written_eq, parse_renderAll _ h]
    cases hdescribed : described calls with
    | nil => simp [hdescribed] at hseveral
    | cons m l =>
      cases l with
      | nil => simp [hdescribed] at hseveral
      | cons n l =>
        rw [hdescribed] at h
        rcases Node.foldlM_several m n l h with hroot | hdeep
        · exact Or.inl (by rw [hroot]; rfl)
        · exact Or.inr (by rw [hdeep]; rfl)

/-- Calls with an end tag too many in front and two too few at the end. A leaf declares a prefix
anew and a sibling undoes the default namespace, each for itself alone. -/
def sampleCalls : List Call :=
  [.close, .start "p:r" [("xmlns", "urn:d"), ("xmlns:p", "urn:n"), ("p:k", "x\"<")], .start "s" [],
    .leaf "p:t" [("xmlns:p", "urn:m")] " ", .close, .empty "s" [("xmlns", ""), ("a", "1")],
    .start "p:u" []]

def sampleNode : Node :=
  .group "p:r" [("xmlns", "urn:d"), ("xmlns:p", "urn:n"), ("p:k", "x\"<")]
    [.group "s" [] [.leaf "p:t" [("xmlns:p", "urn:m")] " "],
      .empty "s" [("xmlns", ""), ("a", "1")], .group "p:u" [] []]

/-- Calls that use a prefix where it is undone. -/
def sampleUndone : List Call :=
  [.start "p:r" [("xmlns:p", "urn:n")], .empty "p:s" [("xmlns:p", "")]]

theorem parse_written_sample :
    Node.everyTagOf Node.tagReadable [] (described sampleCalls) = true ∧
      (∃ e, Element.parse (written sampleCalls) = .ok e ∧
        (e.ns?, e.name, e.attributes) = (some "urn:n", "r", [("k", "x\"<")]) ∧
        e.children.map (fun c => (c.ns?, c.name, c.attributes, c.children.map (·.text)))
          = [(some "urn:d", "s", [], [" "]), (none, "s", [("a", "1")], []),
              (some "urn:n", "u", [], [])] ∧
        (e.children.flatMap (·.children)).map (fun d => (d.ns?, d.name)) = [(some "urn:m", "t")]) ∧
      Element.parse (written (sampleCalls ++ [.close, .close, .empty "t" []]))
        ≠ .ok (sampleNode.element []) ∧
      Node.everyTagOf Node.tagReadable [] (described sampleUndone) = false ∧
      Element.parse (written sampleUndone) = .error (.unboundPrefix "p") := by
  have htags : Node.everyTagOf Node.tagReadable [] (described sampleCalls) = true := by
    decide +kernel
  have htags' : Node.everyTagOf Node.tagReadable []
      (described (sampleCalls ++ [.close, .close, .empty "t" []])) = true := by
    decide +kernel
  refine ⟨htags, ⟨sampleNode.element [], (parse_written sampleCalls htags).1 sampleNode rfl
    (by decide), by decide +kernel, by decide +kernel, by decide +kernel⟩, ?_, by decide +kernel,
    rfl⟩
  rcases (parse_written _ htags').2.2 (by decide) with hroot | hdeep
  · rw [hroot]
    nofun
  · rw [hdeep]
    nofun

/-- **Layout is all that the canonical form leaves out.** A document that a writer can write, laid
out with blanks between its tags and around its root, and with an XML declaration in front or none,
has the writer's own text as its canonical form. -/
theorem canonicalize_written (calls : List Call) (s : String)
    (hnames : Node.everyTagOf Node.tagNamed [] (described calls) = true)
    (h : Node.LaidDocument (described calls) s) :
    canonicalize s = written calls ∧ canonicalize (written calls) = written calls ∧
      canonicalize (canonicalize s) = canonicalize s := by
  have hcanonical : canonicalize s = written calls := by
    rw [written_eq]
    exact canonicalize_laid _ s hnames h
  have hself : canonicalize (written calls) = written calls := by
    rw [written_eq]
    exact canonicalize_laid _ _ hnames (.bare (Node.laidAll_render _))
  exact ⟨hcanonical, hself, by rw [hcanonical, hself]⟩

/-- A layout of the document that the sample calls write. -/
def sampleLayout : String :=
  " <?xml version='1.0'?>\n<p:r xmlns=\"urn:d\" xmlns:p=\"urn:n\" p:k=\"x&quot;&lt;\">\n "
    ++ "<s><p:t xmlns:p=\"urn:m\"> </p:t> </s><s xmlns=\"\" a=\"1\"/>\t<p:u></p:u></p:r>\n"

theorem laid_sample : Node.LaidDocument (described sampleCalls) sampleLayout := by
  have hinner : Node.LaidAll [.leaf "p:t" [("xmlns:p", "urn:m")] " "]
      ("" ++ leafText "p:t" [("xmlns:p", "urn:m")] " " ++ " ") :=
    .cons (by decide +kernel) .leaf (.nil (by decide +kernel))
  have hlast : Node.LaidAll [.group "p:u" [] []]
      ("\t" ++ (startText "p:u" [] ++ endText "p:u") ++ "") :=
    .cons (by decide +kernel) .childless (.nil (by decide +kernel))
  have hroot : Node.LaidAll [sampleNode] _ :=
    .cons (w := "\n") (t := "\n") (by decide +kernel)
      (.group (.cons (w := "\n ") (by decide +kernel) (.group hinner)
        (.cons (w := "") (by decide +kernel) .empty hlast)))
      (.nil (by decide +kernel))
  have hlaid := Node.LaidDocument.declared (w := " ") (d := " version='1.0'")
    (by decide +kernel) (by decide +kernel) hroot
  refine cast (congrArg _ ?_) hlaid
  decide +kernel

theorem canonicalize_written_sample :
    Node.everyTagOf Node.tagNamed [] (described sampleCalls) = true ∧
      Node.LaidDocument (described sampleCalls) sampleLayout ∧
      canonicalize sampleLayout = written sampleCalls := by
  have hnames : Node.everyTagOf Node.tagNamed [] (described sampleCalls) = true := by
    decide +kernel
  exact ⟨hnames, laid_sample, (canonicalize_written _ _ hnames laid_sample).1⟩

end Federation.Xml
