import Federation.Proofs.Xml.Scan
import Federation.Xml.Element

/-!
# Reading what was written

A node that is written and read gives the element that it stands for, if its names can be written,
its prefixes are bound, and it is not nested too deeply.

    n.readable 64 []  →  Element.parse n.render = ok (n.element [])

A written node is scanned as its events (`scan_render`), and the events build its element inside
whatever is open around it, or lead too deep (`foldlM_events`). Both go by the structure of the
node.
-/

namespace Federation.Xml

open Element (Scope Frame Builder)

namespace Node

/-! ## Elements -/

/-- The namespaces that a tag declares. -/
def prefixes (attributes : List (String × String)) : Scope :=
  attributes.filterMap fun (name, value) =>
    (Element.declared? name.toList).map fun pre => (String.ofList pre, value)

/-- The other attributes of a tag, by local name. -/
def plain (attributes : List (String × String)) : List (String × String) :=
  attributes.filterMap fun (name, value) =>
    match Element.declared? name.toList with
    | some _ => none
    | none => some (String.ofList (Element.localName name.toList), value)

/-- The prefix of a name. -/
def namePrefix (name : String) : String := String.ofList (Element.splitName name.toList).1

/-- A name without its prefix. -/
def baseName (name : String) : String := String.ofList (Element.splitName name.toList).2

/-- The element of a tag, without content, inside tags that declare `scopes`. -/
def tagElement (scopes : List Scope) (name : String) (attributes : List (String × String)) :
    Element where
  ns? := Element.resolve (prefixes attributes :: scopes) (namePrefix name)
  name := baseName name
  attributes := plain attributes

mutual

/-- The element that a node stands for inside tags that declare `scopes`. -/
def element (scopes : List Scope) : Node → Element
  | .empty name attributes => tagElement scopes name attributes
  | .leaf name attributes text => { tagElement scopes name attributes with text }
  | .group name attributes children =>
    { tagElement scopes name attributes with
      children := elements (prefixes attributes :: scopes) children }

def elements (scopes : List Scope) : List Node → List Element
  | [] => []
  | n :: rest => element scopes n :: elements scopes rest

end

/-! ## What can be read -/

/-- A tag can be read inside tags that declare `scopes`. -/
def tagReadable (scopes : List Scope) (name : String) (attributes : List (String × String)) :
    Bool :=
  isName name.toList && namesWritable attributes && namesDistinct attributes
    && (namePrefix name == ""
      || (Element.resolve (prefixes attributes :: scopes) (namePrefix name)).isSome)

mutual

/-- A node can be read inside tags that declare `scopes`, with room for `room` tags more. -/
def readable (room : Nat) (scopes : List Scope) : Node → Bool
  | .empty name attributes => tagReadable scopes name attributes
  | .leaf name attributes _ =>
    match room with
    | 0 => false
    | _ + 1 => tagReadable scopes name attributes
  | .group name attributes children =>
    match room with
    | 0 => false
    | room + 1 =>
      tagReadable scopes name attributes
        && allReadable room (prefixes attributes :: scopes) children

def allReadable (room : Nat) (scopes : List Scope) : List Node → Bool
  | [] => true
  | n :: rest => readable room scopes n && allReadable room scopes rest

end

/-- A tag can be written: its name and those of its attributes are names. -/
def tagNamed (_ : List Scope) (name : String) (attributes : List (String × String)) : Bool :=
  isName name.toList && namesWritable attributes

theorem tagNamed_iff (scopes : List Scope) (name : String) (attributes : List (String × String)) :
    tagNamed scopes name attributes = true ↔
      isName name.toList = true ∧ namesWritable attributes = true :=
  Bool.and_eq_true_iff

theorem tagNamed_of_tagReadable (scopes : List Scope) (name : String)
    (attributes : List (String × String)) (h : tagReadable scopes name attributes = true) :
    tagNamed scopes name attributes = true := by
  simp only [tagReadable, Bool.and_eq_true] at h
  exact (tagNamed_iff ..).2 h.1.1

theorem readable_leaf (room : Nat) (scopes : List Scope) (name : String)
    (attributes : List (String × String)) (text : String) :
    (leaf name attributes text).readable room scopes = true ↔
      0 < room ∧ tagReadable scopes name attributes = true := by
  cases room with
  | zero => exact iff_of_false Bool.false_ne_true fun h => absurd h.1 (Nat.lt_irrefl 0)
  | succ room => exact (and_iff_right room.succ_pos).symm

theorem readable_group (room : Nat) (scopes : List Scope) (name : String)
    (attributes : List (String × String)) (children : List Node) :
    (group name attributes children).readable room scopes = true ↔
      0 < room ∧ tagReadable scopes name attributes = true ∧
        allReadable (room - 1) (prefixes attributes :: scopes) children = true := by
  cases room with
  | zero => exact iff_of_false Bool.false_ne_true fun h => absurd h.1 (Nat.lt_irrefl 0)
  | succ room =>
    rw [and_iff_right room.succ_pos]
    exact Bool.and_eq_true_iff

section
variable (p : List Scope → String → List (String × String) → Bool)

mutual

/-- Every tag of a node has a property, which may hang on the namespaces declared around it. -/
def everyTag (scopes : List Scope) : Node → Bool
  | .empty name attributes | .leaf name attributes _ => p scopes name attributes
  | .group name attributes children =>
    p scopes name attributes && everyTagOf (prefixes attributes :: scopes) children

def everyTagOf (scopes : List Scope) : List Node → Bool
  | [] => true
  | n :: rest => everyTag scopes n && everyTagOf scopes rest

end

theorem everyTag_group (scopes : List Scope) (name : String) (attributes : List (String × String))
    (children : List Node) :
    everyTag p scopes (group name attributes children) = true ↔
      p scopes name attributes = true ∧
        everyTagOf p (prefixes attributes :: scopes) children = true :=
  Bool.and_eq_true_iff

theorem everyTagOf_cons (scopes : List Scope) (n : Node) (l : List Node) :
    everyTagOf p scopes (n :: l) = true ↔
      everyTag p scopes n = true ∧ everyTagOf p scopes l = true :=
  Bool.and_eq_true_iff

end

mutual

theorem everyTag_imp {p q : List Scope → String → List (String × String) → Bool}
    (himp : ∀ scopes name attributes, p scopes name attributes = true →
      q scopes name attributes = true)
    (scopes : List Scope) (n : Node) (h : everyTag p scopes n = true) :
    everyTag q scopes n = true := by
  match n with
  | .empty name attributes | .leaf name attributes _ => exact himp _ _ _ h
  | .group name attributes children =>
    obtain ⟨htag, hchildren⟩ := (everyTag_group ..).1 h
    exact (everyTag_group ..).2 ⟨himp _ _ _ htag, everyTagOf_imp himp _ children hchildren⟩

theorem everyTagOf_imp {p q : List Scope → String → List (String × String) → Bool}
    (himp : ∀ scopes name attributes, p scopes name attributes = true →
      q scopes name attributes = true)
    (scopes : List Scope) (l : List Node) (h : everyTagOf p scopes l = true) :
    everyTagOf q scopes l = true := by
  match l with
  | [] => rfl
  | n :: l =>
    obtain ⟨hn, hl⟩ := (everyTagOf_cons ..).1 h
    exact (everyTagOf_cons ..).2 ⟨everyTag_imp himp scopes n hn, everyTagOf_imp himp scopes l hl⟩

end

theorem allReadable_cons (room : Nat) (scopes : List Scope) (n : Node) (l : List Node) :
    allReadable room scopes (n :: l) = true ↔
      n.readable room scopes = true ∧ allReadable room scopes l = true :=
  Bool.and_eq_true_iff

mutual

theorem everyTag_of_readable (room : Nat) (scopes : List Scope) (n : Node)
    (h : n.readable room scopes = true) : n.everyTag tagReadable scopes = true := by
  match n with
  | .empty name attributes => exact h
  | .leaf name attributes text => exact ((readable_leaf ..).1 h).2
  | .group name attributes children =>
    obtain ⟨-, htag, hchildren⟩ := (readable_group ..).1 h
    exact (everyTag_group ..).2 ⟨htag, everyTagOf_of_readable _ _ children hchildren⟩

theorem everyTagOf_of_readable (room : Nat) (scopes : List Scope) (l : List Node)
    (h : allReadable room scopes l = true) : everyTagOf tagReadable scopes l = true := by
  match l with
  | [] => rfl
  | n :: l =>
    obtain ⟨hn, hl⟩ := (allReadable_cons ..).1 h
    exact (everyTagOf_cons ..).2
      ⟨everyTag_of_readable room scopes n hn, everyTagOf_of_readable room scopes l hl⟩

end

/-! ## Events -/

/-- The tag that opens a node. -/
def tag (name : String) (attributes : List (String × String)) : Tag :=
  ⟨name.toList, attributeChars attributes⟩

mutual

/-- The events that a written node is scanned as. -/
def events : Node → List Event
  | .empty name attributes => [.empty (tag name attributes)]
  | .leaf name attributes text =>
    .opening (tag name attributes)
      :: ((if text.toList = [] then [] else [.text (escape text.toList)]) ++ [.closing name.toList])
  | .group name attributes children =>
    .opening (tag name attributes) :: (allEvents children ++ [.closing name.toList])

def allEvents : List Node → List Event
  | [] => []
  | n :: rest => events n ++ allEvents rest

end

theorem scan_leafText (name : String) (attributes : List (String × String)) (text : String)
    (hname : isName name.toList = true) (hattributes : namesWritable attributes = true)
    (rest : List Char) :
    scanFrom (.text []) ((leafText name attributes text).toList ++ rest)
      = events (.leaf name attributes text) ++ scanFrom (.text []) rest := by
  have htext : (leafText name attributes text).toList ++ rest
      = (startText name attributes).toList
        ++ (escape text.toList ++ ((endText name).toList ++ rest)) := by
    simp [leafText, escaped]
  have hend : (endText name).toList ++ rest = '<' :: ('/' :: (name.toList ++ '>' :: rest)) := by
    simp [endText]
  rw [htext, scanFrom_startText name attributes hname hattributes, hend, scanFrom_escape, ← hend,
    scanFrom_endText name hname, events]
  simp [tag]

mutual

/-- A written node is scanned as its events. -/
theorem scan_render (scopes : List Scope) (n : Node) (h : n.everyTag tagNamed scopes = true)
    (rest : List Char) :
    scanFrom (.text []) (n.render.toList ++ rest) = n.events ++ scanFrom (.text []) rest := by
  match n with
  | .empty name attributes =>
    obtain ⟨hname, hattributes⟩ := (tagNamed_iff scopes ..).1 h
    rw [render, scanFrom_emptyText name attributes hname hattributes, events]
    rfl
  | .leaf name attributes text =>
    obtain ⟨hname, hattributes⟩ := (tagNamed_iff scopes ..).1 h
    rw [render]
    exact scan_leafText name attributes text hname hattributes rest
  | .group name attributes children =>
    obtain ⟨htag, hchildren⟩ := (everyTag_group ..).1 h
    obtain ⟨hname, hattributes⟩ := (tagNamed_iff ..).1 htag
    rw [render, String.toList_append, String.toList_append, List.append_assoc, List.append_assoc,
      scanFrom_startText name attributes hname hattributes, scan_renderAll _ children hchildren,
      scanFrom_endText name hname, events]
    simp [tag]

theorem scan_renderAll (scopes : List Scope) (l : List Node)
    (h : everyTagOf tagNamed scopes l = true) (rest : List Char) :
    scanFrom (.text []) ((renderAll l).toList ++ rest)
      = allEvents l ++ scanFrom (.text []) rest := by
  match l with
  | [] => rfl
  | n :: l =>
    obtain ⟨hn, hl⟩ := (everyTagOf_cons ..).1 h
    rw [renderAll, String.toList_append, List.append_assoc, scan_render scopes n hn,
      scan_renderAll scopes l hl, allEvents, List.append_assoc]

end

theorem exists_render (n : Node) : ∃ s, n.render.toList = '<' :: s := by
  cases n <;> simp [render, leafText, startText, emptyText, tagText]

/-- Nothing in front of written text is taken for a byte order mark. -/
theorem dropMark_renderAll (l : List Node) :
    dropMark (renderAll l).toList = (renderAll l).toList := by
  cases l with
  | nil => rfl
  | cons n l =>
    obtain ⟨s, hs⟩ := exists_render n
    rw [renderAll, String.toList_append, hs]
    rfl

/-- Nodes that are written one after another are scanned as their events. -/
theorem eventScan_renderAll (l : List Node) (h : everyTagOf tagNamed [] l = true) :
    Event.scan (renderAll l).toList = allEvents l := by
  have hscan := scan_renderAll [] l h []
  rw [List.append_nil] at hscan
  unfold Event.scan
  rw [dropMark_renderAll, hscan]
  exact List.append_nil _

/-! ## Building -/

theorem declarations_eq (attributes : List (String × String)) :
    Element.declarations (attributes.map fun a => (a.1.toList, a.2.toList))
      = prefixes attributes := by
  unfold Element.declarations prefixes
  rw [List.filterMap_map]
  congr 1
  funext a
  simp

theorem plainAttributes_eq (attributes : List (String × String)) :
    Element.plainAttributes (attributes.map fun a => (a.1.toList, a.2.toList))
      = plain attributes := by
  unfold Element.plainAttributes plain
  rw [List.filterMap_map]
  congr 1
  funext a
  cases h : Element.declared? a.1.toList <;> simp [h]

/-- A frame for a tag, with nothing read of its content yet. -/
def frame (scopes : List Scope) (name : String) (attributes : List (String × String)) : Frame where
  written := name.toList
  scope := prefixes attributes
  element := tagElement scopes name attributes

theorem start_eq (frames : List Frame) (name : String) (attributes : List (String × String))
    (h : tagReadable (frames.map (·.scope)) name attributes = true) :
    Element.start frames (tag name attributes)
      = .ok (frame (frames.map (·.scope)) name attributes) := by
  simp only [tagReadable, Bool.and_eq_true] at h
  obtain ⟨⟨⟨hname, hattributes⟩, hdistinct⟩, hbound⟩ := h
  unfold Element.start tag
  rw [attributes_eq _ _ hattributes hdistinct]
  simp only [declarations_eq, plainAttributes_eq]
  rw [if_neg]
  · rfl
  · rintro ⟨hne, hnone⟩
    rw [Bool.or_eq_true, beq_iff_eq] at hbound
    rcases hbound with hempty | hsome
    · exact hne hempty
    · unfold namePrefix at hsome
      rw [hnone] at hsome
      cases hsome

/-- The frame with more children. -/
def extended (f : Frame) (children : List Element) : Frame :=
  { f with element := { f.element with children := f.element.children ++ children } }

theorem extended_nil (f : Frame) : extended f [] = f := by
  obtain ⟨written, scope, ns?, name, attributes, children, text⟩ := f
  simp [extended]

theorem step_opening_room (b : Builder) (t : Tag) (h : b.frames.length < Element.maxDepth) :
    b.step (.opening t)
      = Element.start b.frames t >>= fun f => .ok { b with frames := f :: b.frames } :=
  if_neg (Nat.not_le.2 h)

theorem step_opening_deep (b : Builder) (t : Tag) (h : Element.maxDepth ≤ b.frames.length) :
    b.step (.opening t) = .error .nestedTooDeeply := if_pos h

section
variable (b : Builder) (name : String) (attributes : List (String × String))
  (h : tagReadable (b.frames.map (·.scope)) name attributes = true)
include h

theorem step_empty : b.step (.empty (tag name attributes))
    = b.attach (tagElement (b.frames.map (·.scope)) name attributes) := by
  show (Element.start b.frames _ >>= fun f => b.attach f.element) = _
  rw [start_eq b.frames name attributes h]
  rfl

theorem step_opening (hroom : b.frames.length < Element.maxDepth) :
    b.step (.opening (tag name attributes))
      = .ok { b with frames := frame (b.frames.map (·.scope)) name attributes :: b.frames } := by
  rw [step_opening_room b _ hroom, start_eq b.frames name attributes h]
  rfl

end

theorem step_closing (b : Builder) (f : Frame) (name : List Char) (hname : f.written = name)
    (h : f.element.withoutLayout = f.element) :
    Builder.step { b with frames := f :: b.frames } (.closing name) = b.attach f.element := by
  show (if f.written = name then b.attach f.element.withoutLayout else _) = _
  rw [if_pos hname, h]

theorem step_text (b : Builder) (f : Frame) (s : List Char) :
    Builder.step { b with frames := f :: b.frames } (.text (escape s))
      = .ok { b with
          frames := { f with element := { f.element with
            text := f.element.text ++ String.ofList s } } :: b.frames } := by
  rw [Builder.step]
  simp only [unescape_escape]
  rfl

/-- The text of a leaf is all the text of its frame. -/
theorem foldlM_text (b : Builder) (f : Frame) (s : String) (h : f.element.text = "") :
    (if s.toList = [] then [] else [Event.text (escape s.toList)]).foldlM Builder.step
        { b with frames := f :: b.frames }
      = .ok { b with
          frames := { f with element := { f.element with text := s } } :: b.frames } := by
  obtain ⟨written, scope, ns?, name, attributes, children, text⟩ := f
  simp only at h
  subst h
  split
  · next hs =>
    rw [String.toList_eq_nil_iff.1 hs, List.foldlM_nil]
    rfl
  · rw [List.foldlM_cons, step_text]
    simp

theorem withoutLayout_of_empty (e : Element) (h : e.children = [] ∨ e.text = "") :
    e.withoutLayout = e := by
  unfold Element.withoutLayout
  obtain ⟨ns?, name, attributes, children, text⟩ := e
  rcases h with h | h
  · simp only at h
    rw [h]
    rfl
  · simp only at h
    rw [h]
    simp

mutual

/-- The events of a node add its element to what is open, unless an element of it has no room. -/
theorem foldlM_events (room : Nat) (n : Node) (b : Builder)
    (hroom : b.frames.length + room = Element.maxDepth)
    (h : n.everyTag tagReadable (b.frames.map (·.scope)) = true) :
    n.events.foldlM Builder.step b =
      if n.readable room (b.frames.map (·.scope)) then
        b.attach (n.element (b.frames.map (·.scope)))
      else .error .nestedTooDeeply := by
  match n with
  | .empty name attributes =>
    have htag : tagReadable (b.frames.map (·.scope)) name attributes = true := h
    have hreadable : (empty name attributes).readable room (b.frames.map (·.scope)) = true := htag
    rw [if_pos hreadable, events, List.foldlM_cons, step_empty b name attributes htag]
    exact bind_pure _
  | .leaf name attributes text =>
    have htag : tagReadable (b.frames.map (·.scope)) name attributes = true := h
    by_cases hpos : 0 < room
    · rw [if_pos ((readable_leaf ..).2 ⟨hpos, htag⟩), events, List.foldlM_cons,
        step_opening b name attributes htag (by omega)]
      show List.foldlM _ _ _ = _
      rw [List.foldlM_append, foldlM_text b _ text rfl]
      show List.foldlM _ _ _ = _
      rw [List.foldlM_cons,
        step_closing b _ name.toList rfl (withoutLayout_of_empty _ (Or.inl rfl))]
      exact bind_pure _
    · rw [if_neg fun hr => hpos ((readable_leaf ..).1 hr).1, events, List.foldlM_cons,
        step_opening_deep b _ (by omega)]
      rfl
  | .group name attributes children =>
    obtain ⟨htag, hchildren⟩ := (everyTag_group ..).1 h
    by_cases hpos : 0 < room
    · rw [events, List.foldlM_cons, step_opening b name attributes htag (by omega)]
      show List.foldlM _ _ _ = _
      rw [List.foldlM_append, foldlM_allEvents (room - 1) children _ b (by omega) hchildren]
      by_cases hfits : allReadable (room - 1) (prefixes attributes :: b.frames.map (·.scope))
          children = true
      · rw [if_pos ((readable_group ..).2 ⟨hpos, htag, hfits⟩)]
        show (if allReadable _ (prefixes attributes :: _) _ = true then _ else _) >>= _ = _
        rw [if_pos hfits]
        show List.foldlM _ _ _ = _
        rw [List.foldlM_cons,
          step_closing b _ name.toList rfl (withoutLayout_of_empty _ (Or.inr rfl))]
        exact bind_pure _
      · rw [if_neg fun hr => hfits ((readable_group ..).1 hr).2.2]
        show (if allReadable _ (prefixes attributes :: _) _ = true then _ else _) >>= _ = _
        rw [if_neg hfits]
        rfl
    · rw [if_neg fun hr => hpos ((readable_group ..).1 hr).1, events, List.foldlM_cons,
        step_opening_deep b _ (by omega)]
      rfl

theorem foldlM_allEvents (room : Nat) (l : List Node) (f : Frame) (b : Builder)
    (hroom : b.frames.length + 1 + room = Element.maxDepth)
    (h : everyTagOf tagReadable (f.scope :: b.frames.map (·.scope)) l = true) :
    (allEvents l).foldlM Builder.step { b with frames := f :: b.frames } =
      if allReadable room (f.scope :: b.frames.map (·.scope)) l then
        .ok { b with frames := extended f (elements (f.scope :: b.frames.map (·.scope)) l)
                :: b.frames }
      else .error .nestedTooDeeply := by
  match l with
  | [] =>
    rw [elements, extended_nil, allEvents, List.foldlM_nil]
    rfl
  | n :: l =>
    obtain ⟨hn, hl⟩ := (everyTagOf_cons ..).1 h
    rw [allEvents, List.foldlM_append,
      foldlM_events room n { b with frames := f :: b.frames } hroom hn]
    by_cases hfits : n.readable room (f.scope :: b.frames.map (·.scope)) = true
    · show (if n.readable room (f.scope :: _) = true then _ else _) >>= _ = _
      rw [if_pos hfits]
      show List.foldlM _ { b with frames := extended f [_] :: b.frames } _ = _
      rw [foldlM_allEvents room l (extended f [_]) b hroom hl, elements, allReadable]
      simp [extended, hfits]
    · show (if n.readable room (f.scope :: _) = true then _ else _) >>= _ = _
      rw [if_neg hfits, if_neg fun hr => hfits ((allReadable_cons ..).1 hr).1]
      rfl

end

end Node

/-! ## Main result -/

/-- A readable node reads back. -/
theorem parse_render (n : Node) (h : n.readable Element.maxDepth [] = true) :
    Element.parse n.render = .ok (n.element []) := by
  have htags : n.everyTag Node.tagReadable [] = true := Node.everyTag_of_readable _ _ n h
  have hnamed : Node.everyTagOf Node.tagNamed [] [n] = true :=
    (Node.everyTagOf_cons ..).2 ⟨Node.everyTag_imp Node.tagNamed_of_tagReadable [] n htags, rfl⟩
  have hscan := Node.eventScan_renderAll [n] hnamed
  rw [Node.renderAll, Node.renderAll, String.append_empty, Node.allEvents, Node.allEvents,
    List.append_nil] at hscan
  unfold Element.parse Element.ofEvents
  rw [hscan, Node.foldlM_events Element.maxDepth n {} rfl htags]
  show (if n.readable Element.maxDepth [] = true then _ else _) >>= _ = _
  rw [if_pos h]
  rfl

end Federation.Xml
