import Federation.Proofs.Result
import Federation.Proofs.Xml.Escape
import Federation.Xml.Element

/-!
# Documents that differ in layout

Two documents are alike if they go through the same tags in the same order, whatever prefixes they
choose and wherever they declare them, and have the same text between the tags: as it is, with
references, or in CDATA sections, and cut by comments or instructions anywhere. Around child
elements blanks may differ too, and outside the root nothing counts.

    Alike [] (scan s) (scan t)  →  Element.parse s = Element.parse t

or the tag at which both fail has a prefix that is not bound in either document. The builders of
both trees go in step: at every point they have the same elements open (`Matches`), only spelled
differently.

- `Alike` is the relation, with one rule for each way in which two documents go on, and
  `Alike.exchange` lets runs of the same characters stand for each other anywhere.
- `build_inStep` follows the builders along it.
-/

namespace Federation.Xml

open Element (Scope Frame Builder)

/-! ## Tags -/

namespace Tag

/-- The namespaces that a tag declares. -/
def scope (tag : Tag) : Scope := (tag.attributes.map Element.declarations).getD []

/-- The prefix of a tag's name. -/
def namePrefix (tag : Tag) : String := String.ofList (Element.splitName tag.name).1

/-- The name of a tag without its prefix. -/
def baseName (tag : Tag) : String := String.ofList (Element.splitName tag.name).2

/-- The namespace of a tag's element inside tags that declare `scopes`; nothing if its prefix is not
bound. -/
def bound? (scopes : List Scope) (tag : Tag) : Option (Option String) :=
  let ns? := Element.resolve (tag.scope :: scopes) tag.namePrefix
  if tag.namePrefix ≠ "" ∧ ns? = none then none else some ns?

end Tag

theorem start_eq_bound (frames : List Frame) (tag : Tag) : Element.start frames tag =
    match tag.attributes, tag.bound? (frames.map (·.scope)) with
    | none, _ => .error .malformed
    | some _, none => .error (.unboundPrefix tag.namePrefix)
    | some attributes, some ns? => .ok
      { written := tag.name, scope := tag.scope
        element :=
          { ns?, name := tag.baseName, attributes := Element.plainAttributes attributes } } := by
  unfold Element.start
  cases hattributes : tag.attributes with
  | none => rfl
  | some attributes =>
    have hscope : tag.scope = Element.declarations attributes := by
      rw [Tag.scope, hattributes]
      rfl
    unfold Tag.bound?
    simp only [hscope]
    by_cases hunbound : tag.namePrefix ≠ "" ∧ Element.resolve
        (Element.declarations attributes :: frames.map (·.scope)) tag.namePrefix = none
    · rw [if_pos hunbound]
      exact if_pos hunbound
    · rw [if_neg hunbound]
      exact if_neg hunbound

/-! ## Text -/

namespace Event

/-- The characters that an event adds to the element around it; nothing for markup and for text with
an unknown reference. -/
def characters? : Event → Option (List Char)
  | .text raw => unescape raw
  | .cdata content => some content
  | .remark => some []
  | _ => none

/-- All the characters of a run of events between two tags. -/
def charactersOf? : List Event → Option (List Char)
  | [] => some []
  | e :: rest => do
    let s ← e.characters?
    let t ← charactersOf? rest
    return s ++ t

/-- The event is no markup of an element. -/
def isContent : Event → Bool
  | .text _ | .cdata _ | .remark => true
  | _ => false

theorem isContent_of_characters (l : List Event) (s : List Char) (h : charactersOf? l = some s) :
    l.all isContent = true := by
  induction l generalizing s with
  | nil => rfl
  | cons e l ih =>
    obtain ⟨t, ht, h⟩ := Option.bind_eq_some_iff.1 h
    obtain ⟨u, hu, -⟩ := Option.bind_eq_some_iff.1 h
    rw [List.all_cons, ih u hu, Bool.and_true]
    cases e with
    | text _ | cdata _ | remark => rfl
    | opening _ | empty _ | closing _ | doctype | malformed => cases ht

/-- Why no document has this event inside an element, or else outside the root. -/
def refusal? (inside : Bool) : Event → Option Fault
  | .text raw => if inside && (unescape raw).isNone then some .malformed else none
  | .closing _ => if inside then none else some .malformed
  | .doctype => some .documentType
  | .malformed => some .malformed
  | _ => none

end Event

/-! ## Documents -/

/-- What a document writes for an element that is open: the name, the namespaces that the tag
declares, and the text so far. -/
structure Spelling where
  written : List Char
  scope : Scope
  text : String := ""

/-- An element that is open in two documents. -/
structure Pair where
  left : Spelling
  right : Spelling
  /-- It has child elements. -/
  parent : Bool := false

namespace Pair

def ofTags (t t' : Tag) : Pair where
  left := { written := t.name, scope := t.scope }
  right := { written := t'.name, scope := t'.scope }

/-- The element with more text in both documents. -/
def add (p : Pair) (s s' : List Char) : Pair :=
  { p with
    left := { p.left with text := p.left.text ++ String.ofList s }
    right := { p.right with text := p.right.text ++ String.ofList s' } }

/-- The texts are the same, or layout around child elements. -/
def SameText (p : Pair) : Prop :=
  p.left.text = p.right.text ∨ p.parent = true ∧
    Text.allBlank p.left.text.toList = true ∧ Text.allBlank p.right.text.toList = true

/-- The innermost element has a child element. -/
def markParent : List Pair → List Pair
  | p :: ps => { p with parent := true } :: ps
  | [] => []

end Pair

/-- Two tags of the same element: they may differ in the prefixes that they use and declare. -/
structure Tag.Alike (ps : List Pair) (t t' : Tag) : Prop where
  name : t.baseName = t'.baseName
  attributes : t.attributes.map Element.plainAttributes = t'.attributes.map Element.plainAttributes
  bound : t.bound? (ps.map (·.left.scope)) = t'.bound? (ps.map (·.right.scope))

/-- The rest of two documents differs in layout only, inside the elements that are open. -/
inductive Alike : List Pair → List Event → List Event → Prop
  | ended {ps : List Pair} : Alike ps [] []
  /-- Text of an element, in any number of pieces. -/
  | content {p : Pair} {ps : List Pair} {l l' es es' : List Event} {s s' : List Char} :
    Event.charactersOf? l = some s → Event.charactersOf? l' = some s' →
    Alike (p.add s s' :: ps) es es' → Alike (p :: ps) (l ++ es) (l' ++ es')
  /-- Anything but tags outside the root. -/
  | outside {l l' es es' : List Event} :
    l.all Event.isContent = true → l'.all Event.isContent = true →
    Alike [] es es' → Alike [] (l ++ es) (l' ++ es')
  | opening {ps : List Pair} {t t' : Tag} {es es' : List Event} : t.Alike ps t' →
    Alike (Pair.ofTags t t' :: ps) es es' → Alike ps (.opening t :: es) (.opening t' :: es')
  | empty {ps : List Pair} {t t' : Tag} {es es' : List Event} : t.Alike ps t' →
    Alike (Pair.markParent ps) es es' → Alike ps (.empty t :: es) (.empty t' :: es')
  /-- Either document closes the element under the name that it opened it with, or neither does. -/
  | closing {p : Pair} {ps : List Pair} {n n' : List Char} {es es' : List Event} : p.SameText →
    (p.left.written = n ↔ p.right.written = n') → Alike (Pair.markParent ps) es es' →
    Alike (p :: ps) (.closing n :: es) (.closing n' :: es')
  /-- What no document has, for the same reason. -/
  | refused {ps : List Pair} {e e' : Event} {f : Fault} {es es' : List Event} :
    e.refusal? (!ps.isEmpty) = some f → e'.refusal? (!ps.isEmpty) = some f →
    Alike ps (e :: es) (e' :: es')

/-! ## Small changes -/

/-- Both documents spell the elements that are open in one way. -/
def Pair.Same (ps : List Pair) : Prop := ∀ p ∈ ps, p.left = p.right

theorem Pair.same_cons {p : Pair} {ps : List Pair} :
    Same (p :: ps) ↔ p.left = p.right ∧ Same ps := List.forall_mem_cons

section
variable {ps : List Pair} (h : Pair.Same ps)
include h

theorem Pair.same_markParent : Same (markParent ps) := by
  cases ps with
  | nil => exact h
  | cons p ps =>
    obtain ⟨hp, hrest⟩ := same_cons.1 h
    exact same_cons.2 ⟨hp, hrest⟩

theorem Tag.Alike.refl (t : Tag) : t.Alike ps t := by
  refine ⟨rfl, rfl, ?_⟩
  rw [List.map_congr_left fun p hp => congrArg Spelling.scope (h p hp)]

theorem Alike.same_content {e : Event} {es es' : List Event} (hcontent : e.isContent = true)
    (hs : ps ≠ [] → ∃ s, e.characters? = some s) (hes : ∀ ps, Pair.Same ps → Alike ps es es') :
    Alike ps (e :: es) (e :: es') := by
  cases ps with
  | nil =>
    have hall : [e].all Event.isContent = true := by simp [hcontent]
    exact .outside hall hall (hes [] h)
  | cons p ps =>
    obtain ⟨s, hs⟩ := hs (List.cons_ne_nil p ps)
    have hrun : Event.charactersOf? [e] = some s := by simp [Event.charactersOf?, hs]
    obtain ⟨hp, hrest⟩ := Pair.same_cons.1 h
    refine .content hrun hrun (hes _ (Pair.same_cons.2 ⟨?_, hrest⟩))
    rw [Pair.add, hp]

end

/-- Documents that start in the same way are alike if they go on alike. -/
theorem Alike.append {fs fs' : List Event} (hfs : ∀ ps, Pair.Same ps → Alike ps fs fs')
    (es : List Event) (ps : List Pair) (h : Pair.Same ps) : Alike ps (es ++ fs) (es ++ fs') := by
  induction es generalizing ps with
  | nil => exact hfs ps h
  | cons e es ih =>
    cases e with
    | opening t => exact .opening (.refl h t) (ih _ (Pair.same_cons.2 ⟨rfl, h⟩))
    | empty t => exact .empty (.refl h t) (ih _ (Pair.same_markParent h))
    | closing n =>
      cases ps with
      | nil => exact .refused rfl rfl
      | cons p ps =>
        obtain ⟨hp, hrest⟩ := Pair.same_cons.1 h
        have hwritten : p.left.written = n ↔ p.right.written = n := by rw [hp]
        exact .closing (Or.inl (congrArg Spelling.text hp)) hwritten
          (ih _ (Pair.same_markParent hrest))
    | text raw =>
      cases hraw : unescape raw with
      | some s => exact .same_content h rfl (fun _ => ⟨s, hraw⟩) ih
      | none =>
        -- an unknown reference is refused inside an element and skipped outside
        by_cases hps : ps = []
        · exact .same_content h rfl (absurd hps) ih
        · have hrefusal : Event.refusal? (!ps.isEmpty) (.text raw) = some .malformed := by
            simp [Event.refusal?, hraw, hps]
          exact .refused hrefusal hrefusal
    | cdata content => exact .same_content h rfl (fun _ => ⟨content, rfl⟩) ih
    | remark => exact .same_content h rfl (fun _ => ⟨[], rfl⟩) ih
    | doctype | malformed => exact .refused rfl rfl

/-- Every document is alike to itself. -/
theorem Alike.refl (ps : List Pair) (h : Pair.Same ps) (es : List Event) : Alike ps es es := by
  have happend := Alike.append (fun ps _ => Alike.ended) es ps h
  rw [List.append_nil] at happend
  exact happend

/-- Two runs of events with the same characters may stand for each other anywhere. -/
theorem Alike.exchange {l l' : List Event} {s : List Char} (hl : Event.charactersOf? l = some s)
    (hl' : Event.charactersOf? l' = some s) (es fs : List Event) (ps : List Pair)
    (h : Pair.Same ps) : Alike ps (es ++ (l ++ fs)) (es ++ (l' ++ fs)) := by
  refine Alike.append (fun ps h => ?_) es ps h
  cases ps with
  | nil =>
    exact .outside (Event.isContent_of_characters l s hl) (Event.isContent_of_characters l' s hl')
      (.refl [] h fs)
  | cons p ps =>
    obtain ⟨hp, hrest⟩ := Pair.same_cons.1 h
    refine .content hl hl' (.refl _ (Pair.same_cons.2 ⟨?_, hrest⟩) fs)
    rw [Pair.add, hp]

/-- A comment or an instruction may stand anywhere between tags, and inside text. -/
theorem Alike.remark (es fs : List Event) : Alike [] (es ++ fs) (es ++ .remark :: fs) :=
  @Alike.exchange [] [.remark] [] rfl rfl es fs [] nofun

/-- Text may stand in a CDATA section or with references. -/
theorem Alike.cdata (s : List Char) (es fs : List Event) :
    Alike [] (es ++ .cdata s :: fs) (es ++ .text (escape s) :: fs) := by
  have hcdata : Event.charactersOf? [.cdata s] = some s := by
    simp [Event.charactersOf?, Event.characters?]
  have htext : Event.charactersOf? [.text (escape s)] = some s := by
    simp [Event.charactersOf?, Event.characters?, unescape_escape]
  exact Alike.exchange hcdata htext es fs [] nofun

/-- Faults that tell the same, up to the prefix that is not bound. -/
def Fault.Alike (f g : Fault) : Prop :=
  f = g ∨ ∃ pre pre', f = .unboundPrefix pre ∧ g = .unboundPrefix pre'

/-! ## Builders in step -/

/-- The frames of an element that is open in two documents. -/
structure Pair.Holds (p : Pair) (f f' : Frame) : Prop where
  left : p.left = ⟨f.written, f.scope, f.element.text⟩
  right : p.right = ⟨f'.written, f'.scope, f'.element.text⟩
  ns : f.element.ns? = f'.element.ns?
  name : f.element.name = f'.element.name
  attributes : f.element.attributes = f'.element.attributes
  children : f.element.children = f'.element.children
  parent : p.parent = !f.element.children.isEmpty

theorem Element.eq_of_fields {e e' : Element} (hns : e.ns? = e'.ns?) (hname : e.name = e'.name)
    (hattributes : e.attributes = e'.attributes) (hchildren : e.children = e'.children)
    (htext : e.text = e'.text) : e = e' := by
  cases e
  cases e'
  cases hns
  cases hname
  cases hattributes
  cases hchildren
  cases htext
  rfl

namespace Pair.Holds

variable {p : Pair} {f f' : Frame}

theorem element_eq (h : p.Holds f f') (ht : p.left.text = p.right.text) :
    f.element = f'.element := by
  have htext : f.element.text = f'.element.text := by
    rw [h.left, h.right] at ht
    exact ht
  exact Element.eq_of_fields h.ns h.name h.attributes h.children htext

/-- What an element has in the end is the same if its texts are. -/
theorem withoutLayout_eq (h : p.Holds f f') (ht : p.SameText) :
    f.element.withoutLayout = f'.element.withoutLayout := by
  rcases ht with htext | ⟨hparent, hleft, hright⟩
  · rw [h.element_eq htext]
  · rw [h.parent] at hparent
    rw [h.left] at hleft
    rw [h.right] at hright
    unfold Element.withoutLayout
    rw [← h.children, hparent, hleft, hright]
    simp only [h.ns, h.name, h.attributes]
    rfl

end Pair.Holds

/-- The same elements are open, innermost first. -/
inductive Open : List Pair → List Frame → List Frame → Prop
  | none : Open [] [] []
  | some {p : Pair} {f f' : Frame} {ps : List Pair} {fs fs' : List Frame} :
    p.Holds f f' → Open ps fs fs' → Open (p :: ps) (f :: fs) (f' :: fs')

namespace Open

variable {ps : List Pair} {fs fs' : List Frame}

theorem left_scopes (h : Open ps fs fs') : ps.map (·.left.scope) = fs.map (·.scope) := by
  induction h with
  | none => rfl
  | some hp _ ih => rw [List.map_cons, List.map_cons, ih, hp.left]

theorem right_scopes (h : Open ps fs fs') : ps.map (·.right.scope) = fs'.map (·.scope) := by
  induction h with
  | none => rfl
  | some hp _ ih => rw [List.map_cons, List.map_cons, ih, hp.right]

theorem length_eq (h : Open ps fs fs') : fs.length = fs'.length := by
  induction h with
  | none => rfl
  | some _ _ ih => exact congrArg (· + 1) ih

theorem isEmpty_eq (h : Open ps fs fs') :
    ps.isEmpty = fs.isEmpty ∧ ps.isEmpty = fs'.isEmpty := by
  cases h <;> exact ⟨rfl, rfl⟩

theorem ne_nil {p : Pair} (h : Open (p :: ps) fs fs') : fs ≠ [] ∧ fs' ≠ [] := by
  cases h
  exact ⟨nofun, nofun⟩

end Open

/-- Two builders have read the same so far. -/
structure Matches (ps : List Pair) (b b' : Builder) : Prop where
  frames : Open ps b.frames b'.frames
  root : b.root = b'.root

namespace Matches

variable {ps : List Pair} {b b' : Builder}

theorem addText {p : Pair} (h : Matches (p :: ps) b b') (s s' : List Char) :
    Matches (p.add s s' :: ps) (b.addText s) (b'.addText s') := by
  obtain ⟨frames, root⟩ := b
  obtain ⟨frames', root'⟩ := b'
  obtain ⟨hframes, rfl⟩ := h
  cases hframes with
  | some hf hrest =>
    refine ⟨.some ⟨?_, ?_, hf.ns, hf.name, hf.attributes, hf.children, hf.parent⟩ hrest, rfl⟩
    · rw [Pair.add, hf.left]
    · rw [Pair.add, hf.right]

end Matches

/-- Both builders take a step to such a state, or both fail. -/
abbrev Together (ps : List Pair) : Except Fault Builder → Except Fault Builder → Prop :=
  InStep Fault.Alike (Matches ps)

theorem InStep.same {α β : Type} {R : α → β → Prop} (f : Fault) :
    InStep Fault.Alike R (.error f) (.error f) := .error (Or.inl rfl)

section
variable {ps : List Pair} {b b' : Builder}

theorem start_inStep (h : Open ps b.frames b'.frames) (t t' : Tag) (ht : t.Alike ps t') :
    InStep Fault.Alike (Pair.ofTags t t').Holds (Element.start b.frames t)
      (Element.start b'.frames t') := by
  have hbound := ht.bound
  have hattributes := ht.attributes
  rw [h.left_scopes, h.right_scopes] at hbound
  rw [start_eq_bound, start_eq_bound, ← hbound]
  cases ha : t.attributes with
  | none =>
    rw [ha] at hattributes
    rw [Option.map_eq_none_iff.1 hattributes.symm]
    exact InStep.same _
  | some as =>
    rw [ha] at hattributes
    obtain ⟨as', ha', hplain⟩ := Option.map_eq_some_iff.1 hattributes.symm
    rw [ha']
    cases t.bound? (b.frames.map (·.scope)) with
    | none => exact .error (Or.inr ⟨_, _, rfl, rfl⟩)
    | some ns? =>
      exact .ok ⟨rfl, rfl, rfl, ht.name, hplain.symm, rfl, rfl⟩

theorem attach_inStep (h : Matches ps b b') (e : Element) :
    Together (Pair.markParent ps) (b.attach e) (b'.attach e) := by
  obtain ⟨frames, root⟩ := b
  obtain ⟨frames', root'⟩ := b'
  obtain ⟨hframes, rfl⟩ := h
  cases hframes with
  | none =>
    cases root with
    | none => exact .ok ⟨.none, rfl⟩
    | some r => exact InStep.same _
  | some hp hrest =>
    have hchildren := congrArg (· ++ [e]) hp.children
    refine .ok ⟨.some ⟨hp.left, hp.right, hp.ns, hp.name, hp.attributes, hchildren, ?_⟩ hrest,
      rfl⟩
    simp

theorem step_opening_inStep (h : Matches ps b b') (t t' : Tag) (ht : t.Alike ps t') :
    Together (Pair.ofTags t t' :: ps) (b.step (.opening t)) (b'.step (.opening t')) := by
  show Together _ (if _ then _ else _) (if _ then _ else _)
  rw [h.frames.length_eq]
  split
  · exact InStep.same _
  · exact (start_inStep h.frames t t' ht).bind fun f f' hf => .ok ⟨.some hf h.frames, h.root⟩

theorem step_empty_inStep (h : Matches ps b b') (t t' : Tag) (ht : t.Alike ps t') :
    Together (Pair.markParent ps) (b.step (.empty t)) (b'.step (.empty t')) := by
  refine (start_inStep h.frames t t' ht).bind fun f f' hf => ?_
  rw [hf.element_eq rfl]
  exact attach_inStep h f'.element

theorem step_closing_inStep {p : Pair} (h : Matches (p :: ps) b b') (n n' : List Char)
    (hp : p.SameText) (hn : p.left.written = n ↔ p.right.written = n') :
    Together (Pair.markParent ps) (b.step (.closing n)) (b'.step (.closing n')) := by
  obtain ⟨frames, root⟩ := b
  obtain ⟨frames', root'⟩ := b'
  obtain ⟨hframes, rfl⟩ := h
  cases hframes with
  | @some _ f f' _ fs fs' hf hrest =>
    rw [hf.left, hf.right] at hn
    show Together _ (if f.written = n then _ else _) (if f'.written = n' then _ else _)
    by_cases hwritten : f.written = n
    · rw [if_pos hwritten, if_pos (hn.1 hwritten), hf.withoutLayout_eq hp]
      exact @attach_inStep ps ⟨fs, root⟩ ⟨fs', root⟩ ⟨hrest, rfl⟩ _
    · rw [if_neg hwritten, if_neg fun h => hwritten (hn.2 h)]
      exact InStep.same _

end

/-! ## Runs of text -/

theorem Builder.addText_nil (b : Builder) : b.addText [] = b := by
  obtain ⟨frames, root⟩ := b
  cases frames with
  | nil => rfl
  | cons f fs =>
    obtain ⟨written, scope, ns?, name, attributes, children, text⟩ := f
    simp [Builder.addText]

theorem Builder.addText_addText (b : Builder) (s t : List Char) :
    (b.addText s).addText t = b.addText (s ++ t) := by
  obtain ⟨frames, root⟩ := b
  cases frames with
  | nil => rfl
  | cons f fs => simp [Builder.addText, String.append_assoc]

theorem step_characters (b : Builder) (e : Event) (s : List Char) (h : e.characters? = some s)
    (hb : b.frames ≠ []) : b.step e = .ok (b.addText s) := by
  obtain ⟨frames, root⟩ := b
  obtain ⟨f, fs, rfl⟩ := List.exists_cons_of_ne_nil hb
  cases e with
  | text raw =>
    have hraw : unescape raw = some s := h
    simp only [Builder.step, hraw]
  | cdata content =>
    cases h
    rfl
  | remark =>
    cases h
    rw [Builder.addText_nil]
    rfl
  | opening _ | empty _ | closing _ | doctype | malformed => cases h

theorem Builder.addText_ne (b : Builder) (s : List Char) (hb : b.frames ≠ []) :
    (b.addText s).frames ≠ [] := by
  obtain ⟨f, fs, hfs⟩ := List.exists_cons_of_ne_nil hb
  unfold Builder.addText
  rw [hfs]
  exact List.cons_ne_nil _ _

/-- Text goes to the innermost element. -/
theorem foldlM_characters (l : List Event) (s : List Char) (h : Event.charactersOf? l = some s)
    (b : Builder) (hb : b.frames ≠ []) : l.foldlM Builder.step b = .ok (b.addText s) := by
  induction l generalizing b s with
  | nil =>
    cases h
    rw [Builder.addText_nil]
    rfl
  | cons e l ih =>
    obtain ⟨s, hs, h⟩ := Option.bind_eq_some_iff.1 h
    obtain ⟨t, ht, h⟩ := Option.bind_eq_some_iff.1 h
    cases h
    rw [List.foldlM_cons, step_characters b e s hs hb, ok_bind,
      ih t ht _ (Builder.addText_ne b s hb), Builder.addText_addText]

theorem foldlM_outside (l : List Event) (h : l.all Event.isContent = true) (root : Option Element) :
    l.foldlM Builder.step ⟨[], root⟩ = .ok ⟨[], root⟩ := by
  induction l with
  | nil => rfl
  | cons e l ih =>
    rw [List.all_cons, Bool.and_eq_true] at h
    have hstep : Builder.step ⟨[], root⟩ e = .ok ⟨[], root⟩ := by
      cases e with
      | text _ | cdata _ | remark => rfl
      | opening _ | empty _ | closing _ | doctype | malformed => cases h.1
    rw [List.foldlM_cons, hstep]
    exact ih h.2

theorem step_refused (b : Builder) (e : Event) (fault : Fault)
    (h : e.refusal? (!b.frames.isEmpty) = some fault) : b.step e = .error fault := by
  obtain ⟨frames, root⟩ := b
  cases e with
  | text raw =>
    cases frames with
    | nil => cases h
    | cons f fs =>
      cases hraw : unescape raw with
      | none =>
        simp [Event.refusal?, hraw] at h
        simp only [Builder.step, hraw, h]
      | some s => simp [Event.refusal?, hraw] at h
  | closing n =>
    cases frames with
    | nil =>
      cases h
      rfl
    | cons f fs => cases h
  | doctype | malformed =>
    cases h
    rfl
  | opening _ | empty _ | cdata _ | remark => cases h

/-! ## Main result -/

/-- The builders of documents that are alike go in step to the end. -/
theorem build_inStep {ps : List Pair} {es es' : List Event} (h : Alike ps es es') (b b' : Builder)
    (hb : Matches ps b b') :
    InStep Fault.Alike Eq (es.foldlM Builder.step b >>= Builder.finish)
      (es'.foldlM Builder.step b' >>= Builder.finish) := by
  induction h generalizing b b' with
  | ended =>
    obtain ⟨frames, root⟩ := b
    obtain ⟨frames', root'⟩ := b'
    obtain ⟨hframes, rfl⟩ := hb
    cases hframes with
    | none =>
      cases root with
      | none => exact InStep.same _
      | some e => exact .ok rfl
    | some _ _ => exact InStep.same _
  | content hl hl' _ ih =>
    -- the runs differ in length, so each is taken in at once
    rw [List.foldlM_append, List.foldlM_append, foldlM_characters _ _ hl b hb.frames.ne_nil.1,
      foldlM_characters _ _ hl' b' hb.frames.ne_nil.2]
    exact ih _ _ (hb.addText _ _)
  | outside hl hl' _ ih =>
    obtain ⟨frames, root⟩ := b
    obtain ⟨frames', root'⟩ := b'
    have hframes := hb.frames
    cases hframes
    rw [List.foldlM_append, List.foldlM_append, foldlM_outside _ hl, foldlM_outside _ hl']
    exact ih _ _ hb
  | opening ht _ ih =>
    rw [List.foldlM_cons, List.foldlM_cons, bind_assoc, bind_assoc]
    exact (step_opening_inStep hb _ _ ht).bind ih
  | empty ht _ ih =>
    rw [List.foldlM_cons, List.foldlM_cons, bind_assoc, bind_assoc]
    exact (step_empty_inStep hb _ _ ht).bind ih
  | closing hp hn _ ih =>
    rw [List.foldlM_cons, List.foldlM_cons, bind_assoc, bind_assoc]
    exact (step_closing_inStep hb _ _ hp hn).bind ih
  | refused he he' =>
    rw [hb.frames.isEmpty_eq.1] at he
    rw [hb.frames.isEmpty_eq.2] at he'
    rw [List.foldlM_cons, List.foldlM_cons, step_refused b _ _ he, step_refused b' _ _ he']
    exact InStep.same _

/-- **Layout does not count.** Documents that differ in layout only are read as equal trees, or
refused for the same reason, or for the prefix of one element that is not bound in either. -/
theorem parse_alike (s t : String) (h : Alike [] (Event.scan s.toList) (Event.scan t.toList)) :
    Element.parse s = Element.parse t ∨ ∃ pre pre',
      Element.parse s = .error (.unboundPrefix pre) ∧
      Element.parse t = .error (.unboundPrefix pre') := by
  have hbuild : InStep Fault.Alike Eq (Element.parse s) (Element.parse t) :=
    build_inStep h {} {} ⟨.none, rfl⟩
  generalize Element.parse s = x, Element.parse t = y at hbuild ⊢
  cases hbuild with
  | ok he => exact Or.inl (congrArg _ he)
  | error hf =>
    rcases hf with rfl | ⟨pre, pre', rfl, rfl⟩
    · exact Or.inl rfl
    · exact Or.inr ⟨pre, pre', rfl, rfl⟩

end Federation.Xml
