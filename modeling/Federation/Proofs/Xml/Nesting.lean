import Federation.Proofs.Result
import Federation.Proofs.Xml.Tree

/-!
# How deep documents are nested

No start tag may stand inside 64 open elements, so an element with a start tag of its own is on one
of the first 64 levels. The tag of an element without content opens nothing and is not counted: such
an element may be one level below.

    Element.parse s = ok root  →  root.depth = nesting 0 (Event.scan s) ≤ 65

So a document may be refused once an empty element of it is written as a start tag and an end tag,
and this happens in the one place where 64 elements are open (`parse_levels`).

- `Builder.depth` measures what has been built so far, open elements included. A start tag and the
  tag of an empty element reach one level below the elements that are open (`depth_step`); an end
  tag reaches nothing new, since what it completes was counted while it was open.
- `exists_slash` finds the place in the text that an event of an empty element comes from.
-/

namespace Federation.Xml

open Element (Frame Builder)

/-! ## Depth -/

namespace Element

mutual

/-- The number of levels of an element; its own is the first. -/
def depth : Element → Nat
  | ⟨_, _, _, children, _⟩ => depthOf children + 1

def depthOf : List Element → Nat
  | [] => 0
  | e :: rest => max (depth e) (depthOf rest)

end

theorem depth_eq (e : Element) : e.depth = depthOf e.children + 1 := by
  cases e
  rw [depth]

theorem depthOf_concat (l : List Element) (e : Element) :
    depthOf (l ++ [e]) = max (depthOf l) e.depth := by
  induction l with
  | nil => simp [depthOf]
  | cons d l ih => rw [List.cons_append, depthOf, depthOf, ih, Nat.max_assoc]

theorem children_withoutLayout (e : Element) : e.withoutLayout.children = e.children := by
  unfold withoutLayout
  split <;> rfl

/-- The deepest level in open elements, which are there innermost first. -/
def framesDepth : List Frame → Nat
  | [] => 0
  | f :: rest => max (rest.length + 1 + depthOf f.element.children) (framesDepth rest)

/-- The deepest level of what has been built. -/
def Builder.depth (b : Builder) : Nat :=
  max (framesDepth b.frames) (b.root.elim 0 Element.depth)

end Element

namespace Event

/-- How many elements are open after an event, where so many were before. -/
def levelAfter (level : Nat) : Event → Nat
  | .opening _ => level + 1
  | .closing _ => level - 1
  | _ => level

/-- The level of the element whose tag an event is; none for an end tag and for what is no tag. -/
def reach (level : Nat) : Event → Nat
  | .opening _ | .empty _ => level + 1
  | _ => 0

/-- How many elements are open after events. -/
def level (es : List Event) : Nat := es.foldl levelAfter 0

/-- The deepest level that events reach, where so many elements are open before. -/
def nesting : Nat → List Event → Nat
  | _, [] => 0
  | level, e :: rest => max (e.reach level) (nesting (e.levelAfter level) rest)

theorem lt_nesting_iff (n level : Nat) (es : List Event) : n < nesting level es ↔
    ∃ front e back, es = front ++ e :: back ∧ n < e.reach (front.foldl levelAfter level) := by
  induction es generalizing level with
  | nil =>
    refine iff_of_false (Nat.not_lt_zero n) ?_
    rintro ⟨front, e, back, h, -⟩
    cases front <;> cases h
  | cons e es ih =>
    have hmax : n < nesting level (e :: es) ↔
        n < e.reach level ∨ n < nesting (e.levelAfter level) es := by
      rw [nesting]
      omega
    rw [hmax, ih]
    constructor
    · rintro (h | ⟨front, d, back, rfl, h⟩)
      · exact ⟨[], e, es, rfl, h⟩
      · exact ⟨e :: front, d, back, rfl, h⟩
    · rintro ⟨front, d, back, heq, h⟩
      cases front with
      | nil =>
        obtain ⟨rfl, rfl⟩ := List.cons.inj heq
        exact Or.inl h
      | cons c front =>
        obtain ⟨rfl, rfl⟩ := List.cons.inj heq
        exact Or.inr ⟨front, d, back, rfl, h⟩

end Event

/-! ## Steps -/

theorem start_eq_ok (frames : List Frame) (tag : Tag) (f : Frame)
    (h : Element.start frames tag = .ok f) :
    f.written = tag.name ∧ f.element.children = [] := by
  unfold Element.start at h
  cases hattributes : tag.attributes with
  | none =>
    rw [hattributes] at h
    cases h
  | some attributes =>
    rw [hattributes] at h
    simp only at h
    split at h
    · cases h
    · cases h
      exact ⟨rfl, rfl⟩

/-- An added element is one level below the elements that are open. -/
theorem depth_attach (b b' : Builder) (e : Element) (h : b.attach e = .ok b') :
    b'.frames.length = b.frames.length ∧ b'.depth = max b.depth (b.frames.length + e.depth) := by
  obtain ⟨frames, root⟩ := b
  cases frames with
  | cons f rest =>
    cases h
    refine ⟨rfl, ?_⟩
    simp only [Builder.depth, Element.framesDepth, Element.depthOf_concat, List.length_cons]
    omega
  | nil =>
    cases root with
    | none =>
      cases h
      refine ⟨rfl, ?_⟩
      simp [Builder.depth, Element.framesDepth]
    | some _ => cases h

theorem depth_addText (b : Builder) (s : List Char) :
    (b.addText s).frames.length = b.frames.length ∧ (b.addText s).depth = b.depth := by
  obtain ⟨frames, root⟩ := b
  cases frames <;> exact ⟨rfl, rfl⟩

section
variable (b b' : Builder)

theorem depth_opening (t : Tag) (h : b.step (.opening t) = .ok b') :
    b.frames.length < Element.maxDepth ∧ b'.frames.length = b.frames.length + 1 ∧
      b'.depth = max b.depth (b.frames.length + 1) := by
  by_cases hdeep : Element.maxDepth ≤ b.frames.length
  · rw [Node.step_opening_deep b t hdeep] at h
    cases h
  · have hroom : b.frames.length < Element.maxDepth := Nat.lt_of_not_le hdeep
    rw [Node.step_opening_room b t hroom, bind_eq_ok] at h
    obtain ⟨f, hf, h⟩ := h
    cases h
    obtain ⟨-, hchildren⟩ := start_eq_ok b.frames t f hf
    refine ⟨hroom, rfl, ?_⟩
    simp only [Builder.depth, Element.framesDepth, hchildren, Element.depthOf]
    omega

theorem depth_empty (t : Tag) (h : b.step (.empty t) = .ok b') :
    b'.frames.length = b.frames.length ∧ b'.depth = max b.depth (b.frames.length + 1) := by
  obtain ⟨f, hf, hattach⟩ := (bind_eq_ok ..).1 h
  obtain ⟨-, hchildren⟩ := start_eq_ok b.frames t f hf
  have hone : f.element.depth = 1 := by rw [Element.depth_eq, hchildren, Element.depthOf]
  obtain ⟨hlength, hdepth⟩ := depth_attach b b' f.element hattach
  exact ⟨hlength, by rw [hdepth, hone]⟩

/-- An end tag completes an element that was counted when it was opened. -/
theorem depth_closing (n : List Char) (h : b.step (.closing n) = .ok b') :
    b'.frames.length = b.frames.length - 1 ∧ b'.depth = b.depth := by
  obtain ⟨frames, root⟩ := b
  cases frames with
  | nil => cases h
  | cons f rest =>
    by_cases hname : f.written = n
    · have hstep : Builder.step ⟨f :: rest, root⟩ (.closing n)
          = Builder.attach ⟨rest, root⟩ f.element.withoutLayout := if_pos hname
      rw [hstep] at h
      obtain ⟨hlength, hdepth⟩ := depth_attach _ _ _ h
      refine ⟨hlength, ?_⟩
      rw [hdepth, Element.depth_eq, Element.children_withoutLayout]
      simp only [Builder.depth, Element.framesDepth]
      omega
    · have hstep : Builder.step ⟨f :: rest, root⟩ (.closing n) = .error .malformed :=
        if_neg hname
      rw [hstep] at h
      cases h

/-- What one event does to the elements that are open and to the depth. -/
theorem depth_step (e : Event) (h : b.step e = .ok b') :
    b'.frames.length = e.levelAfter b.frames.length ∧
      b'.depth = max b.depth (e.reach b.frames.length) := by
  cases e with
  | opening t => exact (depth_opening b b' t h).2
  | empty t => exact depth_empty b b' t h
  | closing n =>
    obtain ⟨hlength, hdepth⟩ := depth_closing b b' n h
    exact ⟨hlength, by rw [hdepth]; exact (Nat.max_zero _).symm⟩
  | text raw =>
    obtain ⟨frames, root⟩ := b
    cases frames with
    | nil =>
      cases h
      exact ⟨rfl, (Nat.max_zero _).symm⟩
    | cons f rest =>
      cases hraw : unescape raw with
      | none =>
        simp only [Builder.step, hraw] at h
        cases h
      | some s =>
        simp only [Builder.step, hraw] at h
        cases h
        exact ⟨rfl, (Nat.max_zero _).symm⟩
  | cdata content =>
    cases h
    obtain ⟨hlength, hdepth⟩ := depth_addText b content
    exact ⟨hlength, by rw [hdepth]; exact (Nat.max_zero _).symm⟩
  | remark =>
    cases h
    exact ⟨rfl, (Nat.max_zero _).symm⟩
  | doctype | malformed => cases h

end

/-! ## Runs -/

/-- The depth of what events build is read off their tags. -/
theorem depth_foldlM (es : List Event) (b b' : Builder) (h : es.foldlM Builder.step b = .ok b') :
    b'.frames.length = es.foldl Event.levelAfter b.frames.length ∧
      b'.depth = max b.depth (Event.nesting b.frames.length es) := by
  induction es generalizing b with
  | nil =>
    cases h
    exact ⟨rfl, (Nat.max_zero _).symm⟩
  | cons e es ih =>
    rw [List.foldlM_cons] at h
    obtain ⟨c, hc, hrest⟩ := (bind_eq_ok ..).1 h
    obtain ⟨hlength, hdepth⟩ := depth_step b c e hc
    obtain ⟨hlength', hdepth'⟩ := ih c hrest
    rw [hlength] at hlength' hdepth'
    refine ⟨hlength', ?_⟩
    rw [hdepth', hdepth, Event.nesting, Nat.max_assoc]

/-- Never are more elements open than may be. -/
theorem length_frames_le (es : List Event) (b b' : Builder)
    (hb : b.frames.length ≤ Element.maxDepth) (h : es.foldlM Builder.step b = .ok b') :
    b'.frames.length ≤ Element.maxDepth := by
  induction es generalizing b with
  | nil =>
    cases h
    exact hb
  | cons e es ih =>
    rw [List.foldlM_cons] at h
    obtain ⟨c, hc, hrest⟩ := (bind_eq_ok ..).1 h
    refine ih c ?_ hrest
    cases e with
    | opening t =>
      obtain ⟨hroom, hlength, -⟩ := depth_opening b c t hc
      omega
    | closing n =>
      have hlength := (depth_closing b c n hc).1
      omega
    | empty _ | text _ | cdata _ | remark | doctype | malformed =>
      rw [(depth_step b c _ hc).1]
      exact hb

/-- Of the events that are taken in, start tags stand inside fewer than 64 elements, and others
inside 64 at most. -/
theorem level_of_foldlM (front back : List Event) (e : Event) (b : Builder)
    (h : (front ++ e :: back).foldlM Builder.step {} = .ok b) :
    Event.level front ≤ Element.maxDepth ∧
      ((∃ t, e = .opening t) → Event.level front < Element.maxDepth) := by
  rw [List.foldlM_append] at h
  obtain ⟨c, hc, h⟩ := (bind_eq_ok ..).1 h
  rw [List.foldlM_cons] at h
  obtain ⟨d, hd, -⟩ := (bind_eq_ok ..).1 h
  have hlevel : c.frames.length = Event.level front := (depth_foldlM front {} c hc).1
  rw [← hlevel]
  refine ⟨length_frames_le front {} c (Nat.zero_le _) hc, ?_⟩
  rintro ⟨t, rfl⟩
  exact (depth_opening c d t hd).1

theorem parse_eq_ok (s : String) (root : Element) (h : Element.parse s = .ok root) :
    (Event.scan s.toList).foldlM Builder.step {} = .ok { root := some root } := by
  obtain ⟨b, hb, hfinish⟩ := (bind_eq_ok ..).1 h
  rw [hb]
  obtain ⟨frames, root?⟩ := b
  cases frames with
  | cons f rest => cases hfinish
  | nil =>
    cases root? with
    | none => cases hfinish
    | some e =>
      cases hfinish
      rfl

/-- The depth of a document is read off its tags. -/
theorem depth_of_parse (s : String) (root : Element) (h : Element.parse s = .ok root) :
    root.depth = Event.nesting 0 (Event.scan s.toList) := by
  have hdepth := (depth_foldlM _ {} _ (parse_eq_ok s root h)).2
  have hroot : Builder.depth { root := some root } = root.depth := Nat.zero_max _
  rw [hroot] at hdepth
  rw [hdepth]
  exact Nat.zero_max _

section
variable (s : String) (root : Element) (h : Element.parse s = .ok root)
include h

theorem lt_depth_iff (n : Nat) : n < root.depth ↔ ∃ es e fs,
    Event.scan s.toList = es ++ e :: fs ∧ n < e.reach (Event.level es) := by
  rw [depth_of_parse s root h]
  exact Event.lt_nesting_iff n 0 _

/-- No tag of an accepted document reaches below level 65, and none but that of an empty element
inside 64 open ones reaches it. -/
theorem reach_of_parse (es fs : List Event) (e : Event)
    (hes : Event.scan s.toList = es ++ e :: fs) :
    e.reach (Event.level es) ≤ Element.maxDepth + 1 ∧
      (Element.maxDepth < e.reach (Event.level es) ↔
        (∃ t, e = .empty t) ∧ Event.level es = Element.maxDepth) := by
  obtain ⟨hbound, hopening⟩ := level_of_foldlM es fs e _ (hes ▸ parse_eq_ok s root h)
  cases e with
  | empty t =>
    refine ⟨Nat.succ_le_succ hbound, fun hreach => ⟨⟨t, rfl⟩, ?_⟩, fun heq => ?_⟩
    · exact Nat.le_antisymm hbound (Nat.le_of_lt_succ hreach)
    · exact Nat.lt_succ_of_le (Nat.le_of_eq heq.2.symm)
  | opening t =>
    have hroom := hopening ⟨t, rfl⟩
    refine ⟨Nat.le_succ_of_le hroom, fun hreach => ?_, fun heq => ?_⟩
    · exact absurd hroom (Nat.not_lt.2 (Nat.le_of_lt_succ hreach))
    · exact absurd hroom (Nat.not_lt.2 (Nat.le_of_eq heq.2.symm))
  | closing _ | text _ | cdata _ | remark | doctype | malformed =>
    exact ⟨Nat.zero_le _, fun hreach => absurd hreach (Nat.not_lt_zero _),
      fun ⟨⟨t, ht⟩, _⟩ => nomatch ht⟩

end

/-! ## Two spellings of an element without content -/

/-- A start tag with its end tag does what the tag of the empty element does, if there is room. -/
theorem foldlM_spelled (b : Builder) (t : Tag) (h : b.frames.length < Element.maxDepth) :
    [Event.opening t, .closing t.name].foldlM Builder.step b = b.step (.empty t) := by
  have hempty : b.step (.empty t) = Element.start b.frames t >>= fun f => b.attach f.element := rfl
  rw [List.foldlM_cons, Node.step_opening_room b t h, hempty, bind_assoc]
  cases hstart : Element.start b.frames t with
  | error fault => rfl
  | ok f =>
    obtain ⟨hwritten, hchildren⟩ := start_eq_ok b.frames t f hstart
    have hsame : f.element.withoutLayout = f.element := by
      rw [Element.withoutLayout, hchildren]
      rfl
    have hclosing : Builder.step { b with frames := f :: b.frames } (.closing t.name)
        = b.attach f.element := by
      show (if f.written = t.name then b.attach f.element.withoutLayout else _) = _
      rw [if_pos hwritten, hsame]
    rw [ok_bind, ok_bind, ok_bind, List.foldlM_cons, hclosing]
    exact bind_pure _

theorem parse_eq (s : String) :
    Element.parse s = (Event.scan s.toList).foldlM Builder.step {} >>= Builder.finish := rfl

section
variable (s s' : String) (es fs : List Event) (t : Tag)
  (hs : Event.scan s.toList = es ++ .empty t :: fs)
  (hs' : Event.scan s'.toList = es ++ .opening t :: .closing t.name :: fs)
include hs'

theorem parse_deep (h : Element.maxDepth ≤ Event.level es) :
    ∃ fault, Element.parse s' = .error fault := by
  rw [parse_eq, hs', List.foldlM_append]
  cases hes : es.foldlM Builder.step {} with
  | error fault => exact ⟨fault, rfl⟩
  | ok b =>
    have hlevel : b.frames.length = Event.level es := (depth_foldlM es {} b hes).1
    refine ⟨.nestedTooDeeply, ?_⟩
    rw [ok_bind, List.foldlM_cons, Node.step_opening_deep b t (hlevel ▸ h)]
    rfl

include hs

theorem parse_spelled (h : Event.level es < Element.maxDepth) :
    Element.parse s' = Element.parse s := by
  have hsplit : es ++ .opening t :: .closing t.name :: fs
      = es ++ ([.opening t, .closing t.name] ++ fs) := rfl
  rw [parse_eq, parse_eq, hs, hs', hsplit, List.foldlM_append, List.foldlM_append]
  cases hes : es.foldlM Builder.step {} with
  | error fault => rfl
  | ok b =>
    have hlevel : b.frames.length = Event.level es := (depth_foldlM es {} b hes).1
    rw [ok_bind, ok_bind, List.foldlM_append, foldlM_spelled b t (hlevel ▸ h), List.foldlM_cons]

end

/-! ## The place of a tag in the text -/

/-- An event that is no tag of an empty element stands before any such tag. -/
theorem exists_of_cons {e : Event} {l es fs : List Event} {t : Tag} (he : ∀ u, e ≠ .empty u)
    (h : e :: l = es ++ .empty t :: fs) : ∃ es', es = e :: es' ∧ l = es' ++ .empty t :: fs := by
  cases es with
  | nil => exact absurd (List.cons.inj h).1 (he t)
  | cons d es =>
    obtain ⟨rfl, hl⟩ := List.cons.inj h
    exact ⟨es, rfl, hl⟩

theorem not_single {e : Event} {es fs : List Event} {t : Tag} (he : ∀ u, e ≠ .empty u) :
    [e] ≠ es ++ .empty t :: fs := by
  intro h
  obtain ⟨es', -, hl⟩ := exists_of_cons he h
  cases es' <;> cases hl

theorem declarationEvent?_ne (seen : List Char) (e : Event) (h : declarationEvent? seen = some e) :
    ∀ u, e ≠ .empty u := by
  rintro u rfl
  unfold declarationEvent? at h
  simp only at h
  (repeat' split at h) <;> cases h

/-- What has been read of a tag, in reverse, is the content of a tag. -/
structure Holds (seen : List Char) (t : Tag) : Prop where
  ne_nil : seen ≠ []
  head : seen.reverse.head? ≠ some '/'
  tag : t = Tag.ofContent seen.reverse

theorem exists_of_tagEvent (seen : List Char) (t : Tag) (h : tagEvent seen.reverse = .empty t) :
    ∃ front, seen = '/' :: front ∧ Holds front t := by
  unfold tagEvent at h
  split at h
  · cases h
  · next hhead =>
    rw [List.reverse_reverse] at h
    split at h
    · next front =>
      cases h
      refine ⟨front, rfl, ?_, ?_, rfl⟩
      · rintro rfl
        exact hhead [] rfl
      · intro hslash
        obtain ⟨rest, hrest⟩ : ∃ rest, front.reverse = '/' :: rest := by
          cases hfront : front.reverse with
          | nil =>
            rw [hfront] at hslash
            cases hslash
          | cons c rest =>
            rw [hfront] at hslash
            exact ⟨rest, by rw [Option.some.inj hslash]⟩
        exact hhead (rest ++ ['/']) (by rw [List.reverse_cons, hrest]; rfl)
    · cases h

/-- The scanner stands in a tag. -/
def ScanState.inTag : ScanState → Bool
  | .tag _ _ => true
  | _ => false

/-- A slash ends no quoted value. -/
def ScanState.quoteFits : ScanState → Bool
  | .tag (some quote) _ => quote ≠ '/'
  | _ => true

theorem quoteFits_tag (c : Char) (seen : List Char) :
    (ScanState.tag (if c = '"' ∨ c = '\'' then some c else none) seen).quoteFits = true := by
  split
  · next hc =>
    rcases hc with rfl | rfl <;> rfl
  · rfl

/-- A text leads into the tag of an empty element after some events, up to the slash that ends it.
-/
def Leads (st : ScanState) (s : List Char) (es : List Event) (t : Tag) (fs : List Event) : Prop :=
  ∃ front back seen, s = front ++ '/' :: '>' :: back ∧ Holds seen t ∧
    (∀ rest, scanFrom st (front ++ rest) = es ++ scanFrom (.tag none seen) rest) ∧
    scanFrom (.text []) back = fs

/-- The slash that ends the tag of an empty element has been read. -/
def Slashed (st : ScanState) (s : List Char) (es : List Event) (t : Tag) (fs : List Event) : Prop :=
  ∃ seen back, st = .tag none ('/' :: seen) ∧ s = '>' :: back ∧ es = [] ∧ Holds seen t ∧
    scanFrom (.text []) back = fs

section
variable {st st' : ScanState} {c : Char} {s : List Char} {es fs : List Event} {t : Tag}

/-- A step of the scanner does not lead away from the tag. -/
theorem Leads.cons (l : List Event)
    (hstep : ∀ rest, scanFrom st (c :: rest) = l ++ scanFrom st' rest)
    (h : Leads st' s es t fs) : Leads st (c :: s) (l ++ es) t fs := by
  obtain ⟨front, back, seen, rfl, hseen, hlead, hback⟩ := h
  refine ⟨c :: front, back, seen, rfl, hseen, fun rest => ?_, hback⟩
  rw [List.cons_append, hstep, hlead, List.append_assoc]

theorem Slashed.of_tag {quote? : Option Char} {seen : List Char}
    (h : Slashed (.tag quote? (c :: seen)) s es t fs) :
    quote? = none ∧ c = '/' ∧ Holds seen t ∧ es = [] ∧
      ∃ back, s = '>' :: back ∧ scanFrom (.text []) back = fs := by
  obtain ⟨seen', back, hst, hs, hes, hseen, hback⟩ := h
  obtain ⟨hquote, hcons⟩ := ScanState.tag.inj hst
  obtain ⟨hc, rfl⟩ := List.cons.inj hcons
  exact ⟨hquote, hc, hseen, hes, back, hs, hback⟩

/-- Outside a tag no slash has been read that ends one. -/
theorem Leads.of_or (hst : st.inTag = false)
    (h : Leads st s es t fs ∨ Slashed st s es t fs) : Leads st s es t fs := by
  rcases h with h | ⟨seen, back, rfl, -⟩
  · exact h
  · cases hst

theorem leads_of_silent (hst : st'.inTag = false)
    (hstep : ∀ rest, scanFrom st (c :: rest) = scanFrom st' rest)
    (ih : ∀ es, scanFrom st' s = es ++ .empty t :: fs →
      Leads st' s es t fs ∨ Slashed st' s es t fs)
    (h : scanFrom st (c :: s) = es ++ .empty t :: fs) : Leads st (c :: s) es t fs :=
  Leads.cons [] hstep (.of_or hst (ih es ((hstep s).symm.trans h)))

theorem leads_of_event {e : Event} (hst : st'.inTag = false)
    (he : ∀ u, e ≠ .empty u) (hstep : ∀ rest, scanFrom st (c :: rest) = e :: scanFrom st' rest)
    (ih : ∀ es, scanFrom st' s = es ++ .empty t :: fs →
      Leads st' s es t fs ∨ Slashed st' s es t fs)
    (h : scanFrom st (c :: s) = es ++ .empty t :: fs) : Leads st (c :: s) es t fs := by
  obtain ⟨es', rfl, hrest⟩ := exists_of_cons he ((hstep s).symm.trans h)
  exact Leads.cons [e] hstep (.of_or hst (ih es' hrest))

end

/-- What makes a declaration of markup stands right after its exclamation mark, and is no slash. -/
theorem leads_of_declaration {c : Char} {s : List Char} {es fs : List Event} {t : Tag}
    (hc : c ≠ '/')
    (hstep : ∀ rest, scanFrom .opened ('!' :: c :: rest)
      = scanFrom (.declaration ['!']) (c :: rest))
    (ih : ∀ es, ScanState.quoteFits (.declaration ['!']) = true →
      scanFrom (.declaration ['!']) (c :: s) = es ++ .empty t :: fs →
      Leads (.declaration ['!']) (c :: s) es t fs ∨ Slashed (.declaration ['!']) (c :: s) es t fs)
    (h : scanFrom .opened ('!' :: c :: s) = es ++ .empty t :: fs) :
    Leads .opened ('!' :: c :: s) es t fs := by
  obtain ⟨front, back, seen, hs, hseen, hlead, hback⟩ :=
    Leads.of_or rfl (ih es rfl ((hstep s).symm.trans h))
  cases front with
  | nil => exact absurd (List.cons.inj hs).1 hc
  | cons d front =>
    obtain ⟨rfl, hs⟩ := List.cons.inj hs
    refine ⟨'!' :: c :: front, back, seen, by rw [hs]; rfl, hseen, fun rest => ?_, hback⟩
    rw [List.cons_append, List.cons_append, hstep]
    exact hlead rest

/-- The scanner finds a tag of an empty element in front of it, or has read all of it but the
bracket. -/
theorem leads_or_slashed (st : ScanState) (s : List Char) (es fs : List Event) (t : Tag)
    (hst : st.quoteFits = true) (h : scanFrom st s = es ++ .empty t :: fs) :
    Leads st s es t fs ∨ Slashed st s es t fs := by
  induction st, s using scanFrom.induct generalizing es with
  | case1 seen hseen =>
    rw [scanFrom, if_pos hseen] at h
    cases es <;> cases h
  | case2 seen hseen =>
    rw [scanFrom, if_neg hseen] at h
    exact absurd h (not_single fun _ => nofun)
  | case3 seen rest hseen ih =>
    refine Or.inl (leads_of_silent rfl (fun rest => ?_) (fun es => ih es rfl) h)
    rw [scanFrom_text_cons, if_pos rfl, if_pos hseen]
  | case4 seen rest hseen ih =>
    refine Or.inl (leads_of_event (e := .text seen.reverse) rfl (fun _ => nofun) (fun rest => ?_)
      (fun es => ih es rfl) h)
    rw [scanFrom_text_cons, if_pos rfl, if_neg hseen]
  | case5 seen c rest hc ih =>
    refine Or.inl (leads_of_silent rfl (fun rest => ?_) (fun es => ih es rfl) h)
    rw [scanFrom_text_cons, if_neg hc]
  | case6 tail ih | case7 tail ih | case8 tail ih | case9 tail ih =>
    exact Or.inl (leads_of_declaration (by decide) (fun _ => rfl) ih h)
  | case10 rest h1 h2 h3 h4 =>
    rw [scanFrom, if_pos rfl] at h
    · exact absurd h (not_single fun _ => nofun)
    all_goals assumption
  | case11 rest h1 ih =>
    exact Or.inl (leads_of_silent rfl (fun _ => rfl) (fun es => ih es rfl) h)
  | case12 rest h1 h2 ih =>
    exact Or.inl (leads_of_event (e := tagEvent []) rfl (fun _ => nofun) (fun _ => rfl)
      (fun es => ih es rfl) h)
  | case13 c rest h1 h2 h3 ih =>
    have hstep (rest : List Char) : scanFrom .opened (c :: rest)
        = scanFrom (.tag (if c = '"' ∨ c = '\'' then some c else none) [c]) rest := by
      show (if c = '!' then _ else _) = _
      rw [if_neg h1, if_neg h2, if_neg h3]
    rcases ih es (quoteFits_tag c _) ((hstep rest).symm.trans h) with hlead | hslash
    · exact Or.inl (Leads.cons [] hstep hlead)
    · exact absurd rfl hslash.of_tag.2.2.1.ne_nil
  | case14 seen rest ih =>
    rw [scanFrom_tag_cons, if_pos rfl] at h
    cases es with
    | nil =>
      obtain ⟨htag, hback⟩ := List.cons.inj h
      obtain ⟨front, rfl, hfront⟩ := exists_of_tagEvent seen t htag
      exact Or.inr ⟨front, rest, rfl, rfl, rfl, hfront, hback⟩
    | cons e es =>
      obtain ⟨rfl, hrest⟩ := List.cons.inj h
      have hstep (rest : List Char) : scanFrom (.tag none seen) ('>' :: rest)
          = [tagEvent seen.reverse] ++ scanFrom (.text []) rest := rfl
      exact Or.inl (Leads.cons _ hstep (.of_or rfl (ih es rfl hrest)))
  | case15 seen c rest hc ih =>
    have hstep (rest : List Char) : scanFrom (.tag none seen) (c :: rest)
        = scanFrom (.tag (if c = '"' ∨ c = '\'' then some c else none) (c :: seen)) rest := by
      rw [scanFrom_tag_cons, if_neg hc]
    rcases ih es (quoteFits_tag c _) ((hstep rest).symm.trans h) with hlead | hslash
    · exact Or.inl (Leads.cons [] hstep hlead)
    · obtain ⟨-, rfl, hseen, rfl, back, rfl, hback⟩ := hslash.of_tag
      exact Or.inl ⟨[], back, seen, rfl, hseen, fun _ => rfl, hback⟩
  | case16 quote seen c rest ih =>
    have hquote : quote ≠ '/' := of_decide_eq_true hst
    have hfits : (ScanState.tag (if c = quote then none else some quote) (c :: seen)).quoteFits
        = true := by
      split
      · rfl
      · exact hst
    rcases ih es hfits h with hlead | hslash
    · exact Or.inl (Leads.cons [] (fun _ => rfl) hlead)
    · -- a slash would have to end the value
      obtain ⟨hnone, rfl, -⟩ := hslash.of_tag
      rw [if_neg (Ne.symm hquote)] at hnone
      cases hnone
  | case17 rest => exact absurd h (not_single fun _ => nofun)
  | case18 rest tail htail ih =>
    refine Or.inl (leads_of_event (e := .remark) rfl (fun _ => nofun) (fun rest => ?_)
      (fun es => ih es rfl) h)
    rw [scanFrom]
    exact htail
  | case19 seen c rest h1 h2 ih =>
    refine Or.inl (leads_of_silent rfl (fun rest => ?_) (fun es => ih es rfl) h)
    rw [scanFrom]
    · exact h1
    · exact h2
  | case20 seen rest hseen =>
    rw [scanFrom, if_pos rfl, hseen] at h
    exact absurd h (not_single fun _ => nofun)
  | case21 seen rest event hevent hseen ih =>
    refine Or.inl (leads_of_event (e := event) rfl (declarationEvent?_ne seen event hseen)
      (fun rest => ?_) (fun es => ih es rfl) h)
    rw [scanFrom, if_pos rfl, hseen]
    cases event with
    | malformed => exact absurd rfl hevent
    | _ => rfl
  | case22 seen rest hseen ih =>
    refine Or.inl (leads_of_silent rfl (fun rest => ?_) (fun es => ih es rfl) h)
    rw [scanFrom, if_pos rfl, hseen]
  | case23 seen c rest hc ih =>
    refine Or.inl (leads_of_silent rfl (fun rest => ?_) (fun es => ih es rfl) h)
    rw [scanFrom, if_neg hc]
  | case24 st htext =>
    rw [scanFrom] at h
    · exact absurd h (not_single fun _ => nofun)
    · exact htext

/-- The tag of an empty element ends in `/>`, and there the text can be changed to hold a start tag
and an end tag instead. -/
theorem exists_slash (s : List Char) (es fs : List Event) (t : Tag)
    (h : Event.scan s = es ++ .empty t :: fs) (hname : isName t.name = true)
    (hlast : t.rest.getLast? ≠ some '/') :
    ∃ front back, s = front ++ '/' :: '>' :: back ∧
      Event.scan (front ++ '>' :: ((endText (String.ofList t.name)).toList ++ back))
        = es ++ .opening t :: .closing t.name :: fs := by
  obtain ⟨front, back, seen, hs, hseen, hlead, hback⟩ :=
    Leads.of_or rfl (leads_or_slashed (.text []) (dropMark s) es fs t rfl h)
  have hcontent : t.name ++ t.rest = seen.reverse := by
    rw [hseen.tag]
    exact List.takeWhile_append_dropWhile
  have hopening : tagEvent seen.reverse = .opening t := by
    have hend := getLast?_append_ne t.name t.rest hname hlast
    rw [hcontent] at hend
    rw [tagEvent_opening _ hseen.head hend, ← hseen.tag]
  have hclosing := scanFrom_endText (String.ofList t.name) (by rwa [String.toList_ofList]) back
  rw [String.toList_ofList, hback] at hclosing
  have hscan : scanFrom (.text [])
        (front ++ '>' :: ((endText (String.ofList t.name)).toList ++ back))
      = es ++ .opening t :: .closing t.name :: fs := by
    rw [hlead, scanFrom_tag_cons, if_pos rfl, hopening, hclosing]
  -- a byte order mark stays in front
  cases s with
  | nil => cases front <;> cases hs
  | cons c rest =>
    by_cases hc : c = Char.ofNat 0xFEFF
    · have hdrop (l : List Char) : dropMark (c :: l) = l := if_pos hc
      refine ⟨c :: front, back, ?_, ?_⟩
      · rw [hdrop] at hs
        rw [hs, List.cons_append]
      · rw [Event.scan, List.cons_append, hdrop, hscan]
    · have hdrop (l : List Char) : dropMark (c :: l) = c :: l := if_neg hc
      rw [hdrop] at hs
      refine ⟨front, back, hs, ?_⟩
      rw [Event.scan]
      cases front with
      | nil => exact hscan
      | cons d front =>
        obtain ⟨rfl, -⟩ := List.cons.inj hs
        rw [List.cons_append, hdrop, ← List.cons_append, hscan]

/-! ## Documents -/

/-- **Only the tag of an empty element goes uncounted.** An accepted document has at most 65 levels,
and on the last one there are only empty elements with one tag each, inside 64 open elements. In
every document, such a tag can be changed into a start tag and an end tag; this changes nothing if
fewer elements are open there, and otherwise the document is refused. The tag has a name, and no
slash before the one that ends it, as in `<x //>`, which is not well formed. -/
theorem parse_levels (s : String) :
    (∀ root, Element.parse s = .ok root →
      root.depth ≤ Element.maxDepth + 1 ∧
      (Element.maxDepth < root.depth ↔ ∃ es t fs,
        Event.scan s.toList = es ++ .empty t :: fs ∧ Event.level es = Element.maxDepth)) ∧
    (∀ es t fs, Event.scan s.toList = es ++ .empty t :: fs → isName t.name = true →
      t.rest.getLast? ≠ some '/' →
      ∃ front back : String, s = front ++ "/>" ++ back ∧
        Event.scan (front ++ ">" ++ endText (String.ofList t.name) ++ back).toList
          = es ++ .opening t :: .closing t.name :: fs ∧
        (Event.level es < Element.maxDepth →
          Element.parse (front ++ ">" ++ endText (String.ofList t.name) ++ back)
            = Element.parse s) ∧
        (Element.maxDepth ≤ Event.level es → ∃ fault,
          Element.parse (front ++ ">" ++ endText (String.ofList t.name) ++ back)
            = .error fault)) := by
  constructor
  · intro root hparse
    constructor
    · refine Nat.le_of_not_lt fun hlt => ?_
      obtain ⟨es, e, fs, hes, hreach⟩ := (lt_depth_iff s root hparse _).1 hlt
      exact Nat.not_lt.2 (reach_of_parse s root hparse es fs e hes).1 hreach
    · rw [lt_depth_iff s root hparse]
      constructor
      · rintro ⟨es, e, fs, hes, hreach⟩
        obtain ⟨⟨t, rfl⟩, hlevel⟩ := (reach_of_parse s root hparse es fs e hes).2.1 hreach
        exact ⟨es, t, fs, hes, hlevel⟩
      · rintro ⟨es, t, fs, hes, hlevel⟩
        exact ⟨es, .empty t, fs, hes,
          (reach_of_parse s root hparse es fs _ hes).2.2 ⟨⟨t, rfl⟩, hlevel⟩⟩
  · intro es t fs hes hname hlast
    obtain ⟨front, back, hs, hscan⟩ := exists_slash s.toList es fs t hes hname hlast
    have hlong : Event.scan (String.ofList front ++ ">" ++ endText (String.ofList t.name)
          ++ String.ofList back).toList
        = es ++ .opening t :: .closing t.name :: fs := by
      rw [← hscan]
      simp
    refine ⟨String.ofList front, String.ofList back, ?_, hlong, ?_, ?_⟩
    · rw [← String.toList_inj, hs]
      simp
    · exact parse_spelled s _ es fs t hes hlong
    · exact parse_deep _ es fs t hlong

/-- A text inside so many elements. -/
def nested : Nat → String → String
  | 0, s => s
  | levels + 1, s => startText "a" [] ++ nested levels s ++ endText "a"

/-- The events of a text inside so many elements, given its own. -/
def nestedEvents (levels : Nat) (es : List Event) : List Event :=
  List.replicate levels (.opening ⟨['a'], []⟩)
    ++ (es ++ List.replicate levels (.closing ['a']))

theorem scanFrom_nested (levels : Nat) (s : String) (es : List Event)
    (h : ∀ rest, scanFrom (.text []) (s.toList ++ rest) = es ++ scanFrom (.text []) rest)
    (rest : List Char) : scanFrom (.text []) ((nested levels s).toList ++ rest)
      = nestedEvents levels es ++ scanFrom (.text []) rest := by
  induction levels generalizing rest with
  | zero =>
    rw [nested, h, nestedEvents]
    simp
  | succ n ih =>
    have htext : (nested (n + 1) s).toList ++ rest = (startText "a" []).toList
        ++ ((nested n s).toList ++ ((endText "a").toList ++ rest)) := by
      simp [nested]
    rw [htext, scanFrom_startText "a" [] rfl rfl, ih, scanFrom_endText "a" rfl, nestedEvents,
      nestedEvents, List.replicate_succ, List.replicate_succ']
    simp [attributeChars]

theorem scan_nested (levels : Nat) (s : String) (es : List Event)
    (h : ∀ rest, scanFrom (.text []) (s.toList ++ rest) = es ++ scanFrom (.text []) rest) :
    Event.scan (nested (levels + 1) s).toList = nestedEvents (levels + 1) es := by
  have hscan := scanFrom_nested (levels + 1) s es h []
  rw [List.append_nil] at hscan
  have hmark : dropMark (nested (levels + 1) s).toList = (nested (levels + 1) s).toList := by
    simp [nested, startText, tagText, dropMark]
  rw [Event.scan, hmark, hscan]
  exact List.append_nil _

theorem scan_nested_empty (levels : Nat) :
    Event.scan (nested (levels + 1) (emptyText "b" [])).toList
      = nestedEvents (levels + 1) [.empty ⟨['b'], []⟩] :=
  scan_nested levels _ _ (scanFrom_emptyText "b" [] rfl rfl)

theorem exists_parse_nested :
    ∃ root, Element.parse (nested 64 (emptyText "b" [])) = .ok root := by
  refine exists_ok _ ?_
  rw [parse_eq, scan_nested_empty]
  decide +kernel

theorem parse_levels_sample :
    (∃ root, Element.parse (nested 64 (emptyText "b" [])) = .ok root ∧
      root.depth ≤ 65 ∧ 64 < root.depth) ∧
    (∃ front back, nested 63 (emptyText "b" []) = front ++ "/>" ++ back ∧
      Element.parse (front ++ ">" ++ endText "b" ++ back)
        = Element.parse (nested 63 (emptyText "b" []))) ∧
    (∃ front back fault, nested 64 (emptyText "b" []) = front ++ "/>" ++ back ∧
      Element.parse (front ++ ">" ++ endText "b" ++ back) = .error fault) := by
  let opened (levels : Nat) : List Event := List.replicate levels (.opening ⟨['a'], []⟩)
  refine ⟨?_, ?_, ?_⟩
  · obtain ⟨root, hparse⟩ := exists_parse_nested
    obtain ⟨hmost, hdeep⟩ := (parse_levels _).1 root hparse
    exact ⟨root, hparse, hmost, hdeep.2 ⟨opened 64, _, _, scan_nested_empty 63, by decide⟩⟩
  · obtain ⟨front, back, hs, -, hsame, -⟩ := (parse_levels _).2 (opened 63) _ _
      (scan_nested_empty 62) (by decide) (by decide)
    exact ⟨front, back, hs, hsame (by decide)⟩
  · obtain ⟨front, back, hs, -, -, hrefused⟩ := (parse_levels _).2 (opened 64) _ _
      (scan_nested_empty 63) (by decide) (by decide)
    obtain ⟨fault, hfault⟩ := hrefused (by decide)
    exact ⟨front, back, fault, hs, hfault⟩

/-- An element on the sixty-fifth level is read when it has one tag, and refused when it has two. -/
theorem spelling_decides :
    (∃ root, Element.parse (nested 64 (emptyText "b" [])) = .ok root ∧
      root.depth = Element.maxDepth + 1) ∧
    ∃ fault, Element.parse (nested 64 (startText "b" [] ++ endText "b")) = .error fault := by
  constructor
  · obtain ⟨root, hparse⟩ := exists_parse_nested
    refine ⟨root, hparse, ?_⟩
    rw [depth_of_parse _ root hparse, scan_nested_empty]
    decide +kernel
  · refine parse_deep _ (List.replicate 64 (.opening ⟨['a'], []⟩)) _ ⟨['b'], []⟩
      (scan_nested 63 _ [.opening ⟨['b'], []⟩, .closing ['b']] fun rest => ?_) (by decide)
    rw [String.toList_append, List.append_assoc, scanFrom_startText "b" [] rfl rfl,
      scanFrom_endText "b" rfl]
    rfl

end Federation.Xml
