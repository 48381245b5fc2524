import Federation.Proofs.Xml.Tree
import Federation.Xml.Canonical

/-!
# Canonical form of what was written

The canonical form of a document is the compact text of its elements. An XML declaration in front
and blanks between tags are left out, and the text of a leaf is kept even if it is blank.

    LaidDocument l s  →  canonicalize s = renderAll l

Written text is canonical already. So two nodes with the same canonical text stand for the same
element (`element_eq_of_canonical`).

- `Laid` relates a node to its texts with layout, as `LaidAll` does for nodes one after another.
- `canonicalFrom_laid` follows the scanner through such a text. After each node the last tag opened
  nothing, so only the blanks that follow a start tag are in doubt, and there a child comes next.
-/

namespace Federation.Xml

namespace Node

/-! ## Tags -/

theorem canonicalFrom_tag (opened : Bool) (seen s rest : List Char) (h : '>' ∉ s) :
    canonicalFrom opened (.tag seen) (s ++ '>' :: rest)
      = seen.reverse ++ s ++ '>' :: canonicalFrom (opensElement (seen.reverse ++ s ++ ['>']))
          (.text []) rest := by
  induction s generalizing seen with
  | nil => simp [canonicalFrom]
  | cons c s ih =>
    rw [List.mem_cons, not_or] at h
    rw [List.cons_append, canonicalFrom, if_neg (Ne.symm h.1), ih _ h.2]
    simp

theorem canonicalFrom_markup (opened : Bool) (s rest : List Char) (h : '>' ∉ s) :
    canonicalFrom opened (.text []) ('<' :: (s ++ '>' :: rest))
      = '<' :: (s ++ '>' ::
        canonicalFrom (opensElement ('<' :: (s ++ ['>']))) (.text []) rest) := by
  have hopen : canonicalFrom opened (.text []) ('<' :: (s ++ '>' :: rest))
      = canonicalFrom opened (.tag ['<']) (s ++ '>' :: rest) := by
    simp [canonicalFrom, Text.allBlank]
  rw [hopen, canonicalFrom_tag _ _ _ _ h]
  simp

theorem close_not_mem_name (name : List Char) (h : isName name = true) : '>' ∉ name := by
  intro hmem
  obtain ⟨-, -, -, -, hall⟩ := exists_cons_of_isName _ h
  obtain ⟨-, -, hclose, -⟩ := of_isNameChar _ (hall _ hmem)
  exact hclose rfl

theorem close_not_mem_attributeChars (attributes : List (String × String))
    (h : namesWritable attributes = true) : '>' ∉ attributeChars attributes := by
  induction attributes with
  | nil => exact List.not_mem_nil
  | cons a rest ih =>
    obtain ⟨name, value⟩ := a
    obtain ⟨hname, hrest⟩ := (namesWritable_cons _ _ _).1 h
    have hvalue : '>' ∉ escape value.toList := not_mem_escape _ _ rfl
    simp [attributeChars, close_not_mem_name _ hname, hvalue, ih hrest]

/-- A tag that is none of an end tag, an instruction and a declaration opens an element unless it
ends in a slash. -/
theorem opensElement_eq (content : List Char) (hne : content ≠ [])
    (hhead : ∀ c, content.head? = some c → c ≠ '/' ∧ c ≠ '?' ∧ c ≠ '!') :
    opensElement ('<' :: (content ++ ['>'])) = decide (content.getLast? ≠ some '/') := by
  obtain ⟨c, t, rfl⟩ := List.exists_cons_of_ne_nil hne
  obtain ⟨h1, h2, h3⟩ := hhead c rfl
  rw [List.getLast?_eq_head?_reverse]
  unfold opensElement
  split
  · next h => simp [h1] at h
  · next h => simp [h2] at h
  · next h => simp [h3] at h
  · rw [List.reverse_cons, List.reverse_append]
    cases hrev : (c :: t).reverse with
    | nil => simp at hrev
    | cons d s => by_cases hd : d = '/' <;> simp [hd]

section
variable (name : String) (hname : isName name.toList = true)
include hname

theorem head?_content (s : List Char) : ∀ c, (name.toList ++ s).head? = some c →
    c ≠ '/' ∧ c ≠ '?' ∧ c ≠ '!' := by
  obtain ⟨c, t, hct, hc, -⟩ := exists_cons_of_isName _ hname
  obtain ⟨-, -, -, -, -, h1, -, h2, h3⟩ := of_isNameChar c hc
  intro d hd
  rw [hct] at hd
  cases hd
  exact ⟨h1, h3, h2⟩

theorem canonicalFrom_endText (opened : Bool) (rest : List Char) :
    canonicalFrom opened (.text []) ((endText name).toList ++ rest)
      = (endText name).toList ++ canonicalFrom false (.text []) rest := by
  have htext (s : List Char) : (endText name).toList ++ s
      = '<' :: ('/' :: name.toList ++ '>' :: s) := by
    simp [endText]
  have hclose : '>' ∉ '/' :: name.toList := by
    simp [close_not_mem_name _ hname]
  rw [htext, htext, canonicalFrom_markup _ _ _ hclose]
  rfl

variable (attributes : List (String × String)) (hattributes : namesWritable attributes = true)
include hattributes

theorem canonicalFrom_startText (opened : Bool) (rest : List Char) :
    canonicalFrom opened (.text []) ((startText name attributes).toList ++ rest)
      = (startText name attributes).toList ++ canonicalFrom true (.text []) rest := by
  have htext (s : List Char) : (startText name attributes).toList ++ s
      = '<' :: ((name.toList ++ attributeChars attributes) ++ '>' :: s) := by
    simp [startText, tagText, toList_attributeText]
  have hclose : '>' ∉ name.toList ++ attributeChars attributes := by
    simp [close_not_mem_name _ hname, close_not_mem_attributeChars _ hattributes]
  have hopens : opensElement ('<' :: ((name.toList ++ attributeChars attributes) ++ ['>']))
      = true := by
    rw [opensElement_eq _ (content_ne_nil name attributes hname) (head?_content name hname _)]
    exact decide_eq_true (getLast?_content_ne name attributes hname)
  rw [htext, htext, canonicalFrom_markup _ _ _ hclose, hopens]

theorem canonicalFrom_emptyText (opened : Bool) (rest : List Char) :
    canonicalFrom opened (.text []) ((emptyText name attributes).toList ++ rest)
      = (emptyText name attributes).toList ++ canonicalFrom false (.text []) rest := by
  have htext (s : List Char) : (emptyText name attributes).toList ++ s
      = '<' :: ((name.toList ++ attributeChars attributes ++ ['/']) ++ '>' :: s) := by
    simp [emptyText, tagText, toList_attributeText]
  have hclose : '>' ∉ name.toList ++ attributeChars attributes ++ ['/'] := by
    simp [close_not_mem_name _ hname, close_not_mem_attributeChars _ hattributes]
  have hopens : opensElement ('<' :: ((name.toList ++ attributeChars attributes ++ ['/']) ++ ['>']))
      = false := by
    rw [List.append_assoc name.toList, opensElement_eq _ (by simp) (head?_content name hname _)]
    simp
  rw [htext, htext, canonicalFrom_markup _ _ _ hclose, hopens]

end

/-! ## Text -/

/-- The text of a leaf stands between a start tag and an end tag, so blanks in it are kept. -/
theorem canonicalFrom_text (seen s rest : List Char) (h : '<' ∉ s) :
    canonicalFrom true (.text seen) (s ++ '<' :: '/' :: rest)
      = seen.reverse ++ s ++ canonicalFrom true (.text []) ('<' :: '/' :: rest) := by
  induction s generalizing seen with
  | nil => simp [canonicalFrom]
  | cons c s ih =>
    rw [List.mem_cons, not_or] at h
    rw [List.cons_append, canonicalFrom, if_neg (Ne.symm h.1), ih _ h.2]
    simp

theorem canonicalFrom_leafText (name : String) (attributes : List (String × String))
    (text : String) (hname : isName name.toList = true)
    (hattributes : namesWritable attributes = true) (opened : Bool) (rest : List Char) :
    canonicalFrom opened (.text []) ((leafText name attributes text).toList ++ rest)
      = (leafText name attributes text).toList ++ canonicalFrom false (.text []) rest := by
  have htext (s : List Char) : (leafText name attributes text).toList ++ s
      = (startText name attributes).toList
        ++ (escape text.toList ++ ((endText name).toList ++ s)) := by
    simp [leafText, escaped]
  have hend : (endText name).toList ++ rest = '<' :: '/' :: (name.toList ++ '>' :: rest) := by
    simp [endText]
  have hopen : '<' ∉ escape text.toList := not_mem_escape _ _ rfl
  rw [htext, htext, canonicalFrom_startText name hname attributes hattributes, hend,
    canonicalFrom_text _ _ _ hopen, ← hend, canonicalFrom_endText name hname]
  simp

/-! ## Layout -/

/-- Blanks before a tag are left out, unless they are the content of an element. -/
theorem canonicalFrom_blank (opened : Bool) (w rest : List Char) (hw : Text.allBlank w = true)
    (hrest : opened = true → rest.head? ≠ some '/') :
    canonicalFrom opened (.text []) (w ++ '<' :: rest)
      = canonicalFrom opened (.text []) ('<' :: rest) := by
  have hleaf : (opened && rest.head? == some '/') = false := by
    cases opened with
    | false => rfl
    | true => simpa using hrest rfl
  have hseen (seen : List Char) (hseen : Text.allBlank seen = true) :
      canonicalFrom opened (.text seen) (w ++ '<' :: rest)
        = canonicalFrom opened (.tag ['<']) rest := by
    induction w generalizing seen with
    | nil => simp [canonicalFrom, hleaf, hseen]
    | cons c w ih =>
      obtain ⟨hc, hw⟩ := Bool.and_eq_true_iff.1 (List.all_cons.symm.trans hw)
      have hne : c ≠ '<' := by
        rintro rfl
        cases hc
      rw [List.cons_append, canonicalFrom, if_neg hne]
      exact ih hw (c :: seen) (Bool.and_eq_true_iff.2 ⟨hc, hseen⟩)
  rw [hseen [] rfl]
  simp [canonicalFrom, hleaf]

theorem canonicalFrom_of_blank (opened : Bool) (w : List Char) (hw : Text.allBlank w = true) :
    canonicalFrom opened (.text []) w = [] := by
  have hseen (seen : List Char) (hseen : Text.allBlank seen = true) :
      canonicalFrom opened (.text seen) w = [] := by
    induction w generalizing seen with
    | nil => simp [canonicalFrom, hseen]
    | cons c w ih =>
      obtain ⟨hc, hw⟩ := Bool.and_eq_true_iff.1 (List.all_cons.symm.trans hw)
      have hne : c ≠ '<' := by
        rintro rfl
        cases hc
      rw [canonicalFrom, if_neg hne]
      exact ih hw (c :: seen) (Bool.and_eq_true_iff.2 ⟨hc, hseen⟩)
  exact hseen [] rfl

mutual

/-- A text of a node with blanks between its tags, wherever two tags are neighbours and are not the
start and the end of an element without children. -/
inductive Laid : Node → String → Prop
  | empty {name : String} {attributes : List (String × String)} :
    Laid (.empty name attributes) (emptyText name attributes)
  | leaf {name : String} {attributes : List (String × String)} {text : String} :
    Laid (.leaf name attributes text) (leafText name attributes text)
  | childless {name : String} {attributes : List (String × String)} :
    Laid (.group name attributes []) (startText name attributes ++ endText name)
  | group {name : String} {attributes : List (String × String)} {n : Node} {children : List Node}
      {s : String} :
    LaidAll (n :: children) s →
    Laid (.group name attributes (n :: children)) (startText name attributes ++ s ++ endText name)

/-- A text of nodes one after another, with blanks before, between and after them. -/
inductive LaidAll : List Node → String → Prop
  | nil {w : String} : Text.allBlank w.toList = true → LaidAll [] w
  | cons {n : Node} {l : List Node} {w s t : String} :
    Text.allBlank w.toList = true → Laid n s → LaidAll l t → LaidAll (n :: l) (w ++ s ++ t)

end

/-- A text of a node starts with a tag that is no end tag, instruction or declaration. -/
theorem exists_laid (scopes : List Element.Scope) (n : Node) (s : String)
    (hn : n.everyTag tagNamed scopes = true) (h : Laid n s) :
    ∃ c t, s.toList = '<' :: c :: t ∧ c ≠ '/' ∧ c ≠ '?' := by
  have htag (name : String) (attributes : List (String × String)) (rest : String)
      (h : tagNamed scopes name attributes = true) :
      ∃ c t, (tagText name attributes ++ rest).toList = '<' :: c :: t ∧ c ≠ '/' ∧ c ≠ '?' := by
    obtain ⟨c, t, hct, hc, -⟩ := exists_cons_of_isName _ ((tagNamed_iff ..).1 h).1
    obtain ⟨-, -, -, -, -, hslash, -, -, hquestion⟩ := of_isNameChar c hc
    exact ⟨c, t ++ ((attributeText attributes).toList ++ rest.toList),
      by simp [tagText, hct], hslash, hquestion⟩
  cases h with
  | empty => exact htag _ _ _ hn
  | leaf =>
    rw [leafText, startText, String.append_assoc, String.append_assoc]
    exact htag _ _ _ hn
  | childless =>
    rw [startText, String.append_assoc]
    exact htag _ _ _ ((everyTag_group ..).1 hn).1
  | group _ =>
    rw [startText, String.append_assoc, String.append_assoc]
    exact htag _ _ _ ((everyTag_group ..).1 hn).1

mutual

/-- Blanks between the tags of a node are left out, and nothing else. -/
theorem canonicalFrom_laid (scopes : List Element.Scope) (n : Node) (s : String)
    (hn : n.everyTag tagNamed scopes = true) (h : Laid n s) (opened : Bool) (rest : List Char) :
    canonicalFrom opened (.text []) (s.toList ++ rest)
      = n.render.toList ++ canonicalFrom false (.text []) rest := by
  match n, h with
  | .empty name attributes, .empty =>
    obtain ⟨hname, hattributes⟩ := (tagNamed_iff scopes ..).1 hn
    exact canonicalFrom_emptyText name hname attributes hattributes opened rest
  | .leaf name attributes text, .leaf =>
    obtain ⟨hname, hattributes⟩ := (tagNamed_iff scopes ..).1 hn
    exact canonicalFrom_leafText name attributes text hname hattributes opened rest
  | .group name attributes [], .childless =>
    obtain ⟨htag, -⟩ := (everyTag_group ..).1 hn
    obtain ⟨hname, hattributes⟩ := (tagNamed_iff ..).1 htag
    rw [String.toList_append, List.append_assoc,
      canonicalFrom_startText name hname attributes hattributes, canonicalFrom_endText name hname]
    simp [render, renderAll]
  | .group name attributes (m :: children), .group (s := s) hs =>
    obtain ⟨htag, hchildren⟩ := (everyTag_group ..).1 hn
    obtain ⟨hname, hattributes⟩ := (tagNamed_iff ..).1 htag
    have hend : ((endText name).toList ++ rest).head? = some '<' := by simp [endText]
    rw [String.toList_append, String.toList_append, List.append_assoc, List.append_assoc,
      canonicalFrom_startText name hname attributes hattributes,
      canonicalFrom_laidAll _ (m :: children) s hchildren hs true _ (fun _ => nofun)
        (Or.inr hend), canonicalFrom_endText name hname, render]
    simp

theorem canonicalFrom_laidAll (scopes : List Element.Scope) (l : List Node) (s : String)
    (hl : everyTagOf tagNamed scopes l = true) (h : LaidAll l s) (opened : Bool)
    (rest : List Char) (hopened : opened = true → l ≠ [])
    (hrest : rest = [] ∨ rest.head? = some '<') :
    canonicalFrom opened (.text []) (s.toList ++ rest)
      = (renderAll l).toList ++ canonicalFrom false (.text []) rest := by
  match l, h with
  | [], .nil hw =>
    have hfalse : opened = false := by
      cases opened with
      | false => rfl
      | true => exact absurd rfl (hopened rfl)
    subst hfalse
    rcases hrest with rfl | hrest
    · rw [List.append_nil, canonicalFrom_of_blank _ _ hw]
      rfl
    · obtain ⟨t, rfl⟩ : ∃ t, rest = '<' :: t := by
        cases rest with
        | nil => cases hrest
        | cons c t => exact ⟨t, by rw [Option.some.inj hrest]⟩
      rw [canonicalFrom_blank false _ _ hw nofun]
      rfl
  | n :: l, .cons (w := w) (s := s) (t := t) hw hs ht =>
    obtain ⟨hn, hl⟩ := (everyTagOf_cons ..).1 hl
    obtain ⟨c, u, hcu, hslash, -⟩ := exists_laid scopes n s hn hs
    have hblank : canonicalFrom opened (.text []) ((w ++ s ++ t).toList ++ rest)
        = canonicalFrom opened (.text []) (s.toList ++ (t.toList ++ rest)) := by
      simp only [String.toList_append, List.append_assoc, hcu, List.cons_append]
      exact canonicalFrom_blank _ _ _ hw fun _ => by simpa using hslash
    rw [hblank, canonicalFrom_laid scopes n s hn hs,
      canonicalFrom_laidAll scopes l t hl ht false rest nofun hrest, renderAll,
      String.toList_append, List.append_assoc]

end

mutual

/-- Compact text has no layout. -/
theorem laid_render (n : Node) : Laid n n.render := by
  match n with
  | .empty name attributes => exact .empty
  | .leaf name attributes text => exact .leaf
  | .group name attributes [] =>
    rw [render, renderAll, String.append_empty]
    exact .childless
  | .group name attributes (m :: children) =>
    rw [render]
    exact .group (laidAll_render (m :: children))

theorem laidAll_render (l : List Node) : LaidAll l (renderAll l) := by
  match l with
  | [] => exact .nil rfl
  | n :: l =>
    have hcons := LaidAll.cons (w := "") rfl (laid_render n) (laidAll_render l)
    rwa [String.empty_append] at hcons

end

/-! ## Documents -/

/-- A text of nodes with blanks around them, and maybe an XML declaration in front. -/
inductive LaidDocument (l : List Node) : String → Prop
  | bare {s : String} : LaidAll l s → LaidDocument l s
  | declared {w d s : String} :
    Text.allBlank w.toList = true → ¬ "?>".toList <:+: d.toList → LaidAll l s →
    LaidDocument l (w ++ "<?xml" ++ d ++ "?>" ++ s)

theorem trimStart_append (w rest : List Char) (hw : Text.allBlank w = true) :
    Text.trimStart (w ++ rest) = Text.trimStart rest :=
  List.dropWhile_append_of_pos (List.all_eq_true.1 hw)

theorem afterDeclaration?_append (s rest : List Char) (h : ¬ "?>".toList <:+: s) :
    afterDeclaration? (s ++ '?' :: '>' :: rest) = some rest := by
  induction s with
  | nil => rfl
  | cons c s ih =>
    have hs : ¬ "?>".toList <:+: s := fun hs => h (List.infix_cons hs)
    rw [List.cons_append]
    unfold afterDeclaration?
    split
    · next hcons =>
      obtain ⟨rfl, hgt⟩ := List.cons.inj hcons
      cases s with
      | nil => simp at hgt
      | cons d s =>
        obtain ⟨rfl, -⟩ := List.cons.inj hgt
        exact absurd ⟨[], s, rfl⟩ h
    · next hcons =>
      rw [← (List.cons.inj hcons).2]
      exact ih hs
    · next hnil => cases hnil

/-- What is in front of the first tag is dropped. -/
theorem exists_dropDeclaration (l : List Node) (s : String)
    (hl : everyTagOf tagNamed [] l = true) (h : LaidDocument l s) :
    ∃ t, LaidAll l t ∧ dropDeclaration s.toList = t.toList := by
  cases h with
  | bare h =>
    cases h with
    | nil hw =>
      have htrim := trimStart_append _ [] hw
      rw [List.append_nil] at htrim
      refine ⟨"", .nil rfl, ?_⟩
      unfold dropDeclaration
      rw [htrim]
      rfl
    | @cons n l w s t hw hs ht =>
      obtain ⟨c, u, hcu, -, hquestion⟩ := exists_laid [] n s ((everyTagOf_cons ..).1 hl).1 hs
      have hmark : "<?xml".toList.isPrefixOf ('<' :: c :: (u ++ t.toList)) = false := by
        show ('<' == '<' && ('?' == c && _)) = false
        rw [beq_eq_false_iff_ne.2 (Ne.symm hquestion), Bool.false_and, Bool.and_false]
      refine ⟨"" ++ s ++ t, .cons rfl hs ht, ?_⟩
      unfold dropDeclaration
      simp only [String.toList_append, List.append_assoc, trimStart_append _ _ hw, hcu,
        List.cons_append, Text.trimStart_of_head (show Text.isBlank '<' = false from rfl)]
      rw [hmark, if_neg Bool.false_ne_true]
      rfl
  | @declared w d s hw hd hs =>
    refine ⟨s, hs, ?_⟩
    have htext : (w ++ "<?xml" ++ d ++ "?>" ++ s).toList
        = w.toList ++ '<' :: '?' :: 'x' :: 'm' :: 'l' :: (d.toList ++ '?' :: '>' :: s.toList) := by
      simp
    have hafter : afterDeclaration?
        ('<' :: '?' :: 'x' :: 'm' :: 'l' :: (d.toList ++ '?' :: '>' :: s.toList))
          = some s.toList := afterDeclaration?_append _ _ hd
    unfold dropDeclaration
    rw [htext, trimStart_append _ _ hw,
      Text.trimStart_of_head (show Text.isBlank '<' = false from rfl)]
    simp only
    rw [hafter]
    rfl

end Node

/-! ## Main results -/

/-- The canonical form of a document is its compact text, whatever its layout. -/
theorem canonicalize_laid (l : List Node) (s : String)
    (hl : Node.everyTagOf Node.tagNamed [] l = true) (h : Node.LaidDocument l s) :
    canonicalize s = Node.renderAll l := by
  obtain ⟨t, ht, hdrop⟩ := Node.exists_dropDeclaration l s hl h
  have hcanonical := Node.canonicalFrom_laidAll [] l t hl ht false [] nofun (Or.inl rfl)
  have hnil : canonicalFrom false (.text []) [] = [] := rfl
  rw [List.append_nil, hnil, List.append_nil] at hcanonical
  unfold canonicalize
  rw [hdrop, hcanonical, String.ofList_toList]

/-- Written text is canonical. -/
theorem canonicalize_render (n : Node) (h : n.readable Element.maxDepth [] = true) :
    canonicalize n.render = n.render := by
  have hnamed : Node.everyTagOf Node.tagNamed [] [n] = true :=
    (Node.everyTagOf_cons ..).2 ⟨Node.everyTag_imp Node.tagNamed_of_tagReadable [] n
      (Node.everyTag_of_readable _ _ n h), rfl⟩
  have hcanonical := canonicalize_laid [n] _ hnamed (.bare (Node.laidAll_render [n]))
  rw [Node.renderAll, Node.renderAll, String.append_empty] at hcanonical
  exact hcanonical

/-- Nodes with one canonical text stand for one element. -/
theorem element_eq_of_canonical (m n : Node) (hm : m.readable Element.maxDepth [] = true)
    (hn : n.readable Element.maxDepth [] = true)
    (h : canonicalize m.render = canonicalize n.render) : m.element [] = n.element [] := by
  rw [canonicalize_render m hm, canonicalize_render n hn] at h
  have hparse := parse_render m hm
  rw [h, parse_render n hn] at hparse
  exact (Except.ok.inj hparse).symm

end Federation.Xml
