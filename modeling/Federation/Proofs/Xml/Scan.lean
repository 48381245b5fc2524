import Federation.Proofs.Xml.Escape
import Federation.Xml.Event
import Federation.Xml.Writer

/-!
# Scanning what was written

A written tag is scanned as one event, and its attributes read back as they were given, if names are
made of ordinary characters and no attribute name stands twice.

    scanFrom (text []) (startText name attributes ++ rest)
      = opening ⟨name, attributeChars attributes⟩ :: scanFrom (text []) rest
    Tag.attributes ⟨name, attributeChars attributes⟩ = some attributes
-/

namespace Federation.Xml

/-! ## Names -/

/-- A character that neither ends a name nor gives the markup around it another meaning. -/
def isNameChar (c : Char) : Bool :=
  !isTagSpace c && !isDelimiter c && c ≠ '/' && c ≠ '=' && c ≠ '!' && c ≠ '?'

/-- A name that a tag or an attribute can be written under. -/
def isName (s : List Char) : Bool := !s.isEmpty && s.all isNameChar

/-- What a character of a name is not. -/
theorem of_isNameChar (c : Char) (h : isNameChar c = true) :
    isTagSpace c = false ∧ c ≠ '<' ∧ c ≠ '>' ∧ c ≠ '\'' ∧ c ≠ '"' ∧ c ≠ '/' ∧ c ≠ '=' ∧ c ≠ '!' ∧
      c ≠ '?' := by
  unfold isNameChar isDelimiter at h
  simpa [and_assoc] using h

theorem exists_cons_of_isName (s : List Char) (h : isName s = true) :
    ∃ c t, s = c :: t ∧ isNameChar c = true ∧ ∀ d ∈ s, isNameChar d = true := by
  unfold isName at h
  rw [Bool.and_eq_true, List.all_eq_true] at h
  cases s with
  | nil => exact absurd h.1 (by decide)
  | cons c t => exact ⟨c, t, rfl, h.2 c List.mem_cons_self, h.2⟩

/-! ## Characters of a tag -/

/-- The attributes of a tag as they are written. -/
def attributeChars : List (String × String) → List Char
  | [] => []
  | (name, value) :: rest =>
    ' ' :: (name.toList ++ '=' :: '"' :: (escape value.toList ++ '"' :: attributeChars rest))

theorem toList_attributeText (attributes : List (String × String)) :
    (attributeText attributes).toList = attributeChars attributes := by
  induction attributes with
  | nil => rfl
  | cons a rest ih =>
    simp [attributeText, attributeChars, ih, escaped]

/-- The names of attributes can be written. -/
def namesWritable : List (String × String) → Bool
  | [] => true
  | (name, _) :: rest => isName name.toList && namesWritable rest

theorem namesWritable_cons (name value : String) (rest : List (String × String)) :
    namesWritable ((name, value) :: rest) = true ↔
      isName name.toList = true ∧ namesWritable rest = true := by
  rw [namesWritable, Bool.and_eq_true]

theorem attributeChars_cases (attributes : List (String × String)) :
    attributeChars attributes = [] ∨
      ∃ s, attributeChars attributes = ' ' :: s ∧ (' ' :: s).getLast? = some '"' := by
  induction attributes with
  | nil => exact Or.inl rfl
  | cons a rest ih =>
    obtain ⟨name, value⟩ := a
    have hfront (s : List Char) : ' ' :: (name.toList ++ '=' :: '"' :: (escape value.toList ++ s))
        = (' ' :: (name.toList ++ '=' :: '"' :: escape value.toList)) ++ s := by
      simp
    refine Or.inr ⟨_, rfl, ?_⟩
    rw [hfront, List.getLast?_append]
    rcases ih with h | ⟨s, hs, hlast⟩
    · rw [h]
      rfl
    · rw [hs, List.getLast?_cons_cons, hlast]
      rfl

/-! ## Steps -/

section
variable (seen rest : List Char) (c : Char)

theorem scanFrom_text_cons : scanFrom (.text seen) (c :: rest)
    = if c = '<' then
        if seen.isEmpty then scanFrom .opened rest
        else .text seen.reverse :: scanFrom .opened rest
      else scanFrom (.text (c :: seen)) rest := rfl

theorem scanFrom_opened_cons (h1 : c ≠ '!') (h2 : c ≠ '?') (h3 : c ≠ '>') (h4 : c ≠ '"')
    (h5 : c ≠ '\'') : scanFrom .opened (c :: rest) = scanFrom (.tag none [c]) rest := by
  have hnone : (if c = '"' ∨ c = '\'' then some c else none) = none := if_neg (by simp [h4, h5])
  rw [← hnone]
  show (if c = '!' then _ else _) = _
  rw [if_neg h1, if_neg h2, if_neg h3]

theorem scanFrom_tag_cons : scanFrom (.tag none seen) (c :: rest)
    = if c = '>' then tagEvent seen.reverse :: scanFrom (.text []) rest
      else scanFrom (.tag (if c = '"' ∨ c = '\'' then some c else none) (c :: seen)) rest := rfl

theorem scanFrom_quote_cons (quote : Char) : scanFrom (.tag (some quote) seen) (c :: rest)
    = scanFrom (.tag (if c = quote then none else some quote) (c :: seen)) rest := rfl

theorem attributesFrom_between_cons : attributesFrom .between (c :: rest)
    = if isTagSpace c then attributesFrom .between rest
      else attributesFrom (.name [c]) rest := rfl

theorem attributesFrom_name_cons : attributesFrom (.name seen) (c :: rest)
    = if c = '=' then attributesFrom (.equals seen.reverse) rest
      else if isTagSpace c then attributesFrom (.named seen.reverse) rest
      else attributesFrom (.name (c :: seen)) rest := rfl

theorem attributesFrom_equals_quote (name : List Char) :
    attributesFrom (.equals name) ('"' :: rest) = attributesFrom (.value name '"' []) rest := rfl

theorem attributesFrom_value_cons (name : List Char) (quote : Char) :
    attributesFrom (.value name quote seen) (c :: rest)
      = if c = quote then (attributesFrom .between rest).map ((name, seen.reverse) :: ·)
        else attributesFrom (.value name quote (c :: seen)) rest := rfl

end

/-! ## Scanning a tag -/

theorem scanFrom_unquoted (seen s rest : List Char)
    (h : ∀ c ∈ s, c ≠ '>' ∧ c ≠ '"' ∧ c ≠ '\'') :
    scanFrom (.tag none seen) (s ++ rest) = scanFrom (.tag none (s.reverse ++ seen)) rest := by
  induction s generalizing seen with
  | nil => rfl
  | cons c s ih =>
    obtain ⟨h1, h2, h3⟩ := h c List.mem_cons_self
    rw [List.cons_append, scanFrom_tag_cons, if_neg h1, if_neg (by simp [h2, h3]),
      ih _ fun d hd => h d (List.mem_cons_of_mem _ hd)]
    simp

theorem scanFrom_quoted (seen s rest : List Char) (h : '"' ∉ s) :
    scanFrom (.tag (some '"') seen) (s ++ '"' :: rest)
      = scanFrom (.tag none ('"' :: (s.reverse ++ seen))) rest := by
  induction s generalizing seen with
  | nil => rfl
  | cons c s ih =>
    rw [List.mem_cons, not_or] at h
    rw [List.cons_append, scanFrom_quote_cons, if_neg (Ne.symm h.1), ih _ h.2]
    simp

theorem scanFrom_name (seen s rest : List Char) (h : ∀ c ∈ s, isNameChar c = true) :
    scanFrom (.tag none seen) (s ++ rest) = scanFrom (.tag none (s.reverse ++ seen)) rest := by
  refine scanFrom_unquoted seen s rest fun c hc => ?_
  obtain ⟨-, -, h1, h2, h3, -⟩ := of_isNameChar c (h c hc)
  exact ⟨h1, h3, h2⟩

theorem scanFrom_attributeChars (attributes : List (String × String))
    (h : namesWritable attributes = true) (seen rest : List Char) :
    scanFrom (.tag none seen) (attributeChars attributes ++ rest)
      = scanFrom (.tag none ((attributeChars attributes).reverse ++ seen)) rest := by
  induction attributes generalizing seen with
  | nil => rfl
  | cons a attributes ih =>
    obtain ⟨name, value⟩ := a
    obtain ⟨hname, hrest⟩ := (namesWritable_cons _ _ _).1 h
    obtain ⟨-, -, -, -, hname⟩ := exists_cons_of_isName _ hname
    have hvalue : '"' ∉ escape value.toList := not_mem_escape _ _ rfl
    have hspace : scanFrom (.tag none seen) (attributeChars ((name, value) :: attributes) ++ rest)
        = scanFrom (.tag none (' ' :: seen)) (name.toList ++ '=' :: '"' ::
          (escape value.toList ++ '"' :: (attributeChars attributes ++ rest))) := by
      simp [attributeChars, scanFrom_tag_cons]
    have hequals (seen s : List Char) : scanFrom (.tag none seen) ('=' :: '"' :: s)
        = scanFrom (.tag (some '"') ('"' :: '=' :: seen)) s := by
      simp [scanFrom_tag_cons]
    rw [hspace, scanFrom_name _ _ _ hname, hequals, scanFrom_quoted _ _ _ hvalue, ih hrest]
    simp [attributeChars]

theorem scanFrom_open (name : List Char) (h : isName name = true) (rest : List Char) :
    scanFrom (.text []) ('<' :: (name ++ rest)) = scanFrom (.tag none name.reverse) rest := by
  obtain ⟨c, t, rfl, hc, hall⟩ := exists_cons_of_isName name h
  obtain ⟨-, -, h1, h2, h3, -, -, h4, h5⟩ := of_isNameChar c hc
  have hfirst : scanFrom (.text []) ('<' :: (c :: t ++ rest))
      = scanFrom (.tag none [c]) (t ++ rest) := by
    simp [scanFrom_text_cons, scanFrom_opened_cons, h1, h2, h3, h4, h5]
  rw [hfirst, scanFrom_name _ _ _ fun d hd => hall d (List.mem_cons_of_mem _ hd)]
  simp

/-! ## Events of tags -/

theorem tagEvent_opening (content : List Char) (hhead : content.head? ≠ some '/')
    (hlast : content.getLast? ≠ some '/') :
    tagEvent content = .opening (Tag.ofContent content) := by
  rw [List.getLast?_eq_head?_reverse] at hlast
  unfold tagEvent
  split
  · exact absurd rfl hhead
  · split
    · next h => rw [h] at hlast; exact absurd rfl hlast
    · rfl

theorem tagEvent_empty (content : List Char) (hhead : content.head? ≠ some '/')
    (hne : content ≠ []) : tagEvent (content ++ ['/']) = .empty (Tag.ofContent content) := by
  unfold tagEvent
  split
  · next h =>
    cases content with
    | nil => exact absurd rfl hne
    | cons c t =>
      rw [List.cons_append, List.cons.injEq] at h
      exact absurd (congrArg some h.1) hhead
  · rw [List.reverse_append]
    simp

theorem closingName_eq (name : List Char) (h : isName name = true) : closingName name = name := by
  obtain ⟨c, t, rfl, hc, hall⟩ := exists_cons_of_isName name h
  have hspace (d : Char) (hd : d ∈ c :: t) : isTagSpace d = false := (of_isNameChar d (hall d hd)).1
  have hno : (c :: t).all isTagSpace = false := by
    rw [List.all_cons, hspace c List.mem_cons_self, Bool.false_and]
  unfold closingName
  rw [hno, if_neg Bool.false_ne_true]
  cases hrev : (c :: t).reverse with
  | nil => simp at hrev
  | cons d s =>
    have hd : isTagSpace d = false := hspace d (by
      rw [← List.mem_reverse, hrev]
      exact List.mem_cons_self)
    rw [List.dropWhile_cons, hd, if_neg Bool.false_ne_true, ← hrev, List.reverse_reverse]

/-- A tag ends in a slash only if what follows its name does. -/
theorem getLast?_append_ne (name rest : List Char) (hname : isName name = true)
    (hrest : rest.getLast? ≠ some '/') : (name ++ rest).getLast? ≠ some '/' := by
  obtain ⟨-, -, -, -, hall⟩ := exists_cons_of_isName _ hname
  rw [List.getLast?_append]
  cases hlast : rest.getLast? with
  | none =>
    rw [Option.none_or]
    intro hslash
    obtain ⟨-, -, -, -, -, hne, -⟩ := of_isNameChar _ (hall _ (List.mem_of_getLast? hslash))
    exact hne rfl
  | some c => exact fun hslash => hrest (hlast.trans hslash)

section
variable (name : String) (attributes : List (String × String)) (hname : isName name.toList = true)
include hname

theorem ofContent_eq : Tag.ofContent (name.toList ++ attributeChars attributes)
    = ⟨name.toList, attributeChars attributes⟩ := by
  obtain ⟨-, -, -, -, hall⟩ := exists_cons_of_isName _ hname
  have hspace (c : Char) (hc : c ∈ name.toList) : (!isTagSpace c) = true := by
    rw [(of_isNameChar c (hall c hc)).1]
    rfl
  unfold Tag.ofContent
  rw [List.takeWhile_append_of_pos hspace, List.dropWhile_append_of_pos hspace]
  rcases attributeChars_cases attributes with h | ⟨s, h, -⟩ <;> rw [h] <;> simp [isTagSpace]

theorem head?_content_ne : (name.toList ++ attributeChars attributes).head? ≠ some '/' := by
  obtain ⟨c, t, hct, hc, -⟩ := exists_cons_of_isName _ hname
  obtain ⟨-, -, -, -, -, hslash, -⟩ := of_isNameChar c hc
  rw [hct]
  simpa using hslash

theorem getLast?_content_ne : (name.toList ++ attributeChars attributes).getLast? ≠ some '/' := by
  refine getLast?_append_ne _ _ hname ?_
  rcases attributeChars_cases attributes with h | ⟨s, h, hlast⟩
  · rw [h]
    nofun
  · rw [h, hlast]
    decide

theorem content_ne_nil : name.toList ++ attributeChars attributes ≠ [] := by
  obtain ⟨c, t, hct, -⟩ := exists_cons_of_isName _ hname
  rw [hct]
  exact List.cons_ne_nil _ _

theorem scanFrom_endText (rest : List Char) :
    scanFrom (.text []) ((endText name).toList ++ rest)
      = .closing name.toList :: scanFrom (.text []) rest := by
  obtain ⟨-, -, -, -, hall⟩ := exists_cons_of_isName _ hname
  have hslash : scanFrom (.text []) ((endText name).toList ++ rest)
      = scanFrom (.tag none ['/']) (name.toList ++ '>' :: rest) := by
    simp [endText, scanFrom_text_cons, scanFrom_opened_cons]
  rw [hslash, scanFrom_name _ _ _ hall, scanFrom_tag_cons, if_pos rfl]
  simp [tagEvent, closingName_eq _ hname]

variable (hattributes : namesWritable attributes = true)
include hattributes

theorem scanFrom_tagText (rest : List Char) :
    scanFrom (.text []) ((tagText name attributes).toList ++ rest)
      = scanFrom (.tag none (name.toList ++ attributeChars attributes).reverse) rest := by
  have htext : (tagText name attributes).toList ++ rest
      = '<' :: (name.toList ++ (attributeChars attributes ++ rest)) := by
    simp [tagText, toList_attributeText]
  rw [htext, scanFrom_open _ hname, scanFrom_attributeChars _ hattributes, List.reverse_append]

theorem scanFrom_startText (rest : List Char) :
    scanFrom (.text []) ((startText name attributes).toList ++ rest)
      = .opening ⟨name.toList, attributeChars attributes⟩ :: scanFrom (.text []) rest := by
  have htext : (startText name attributes).toList ++ rest
      = (tagText name attributes).toList ++ '>' :: rest := by
    simp [startText]
  rw [htext, scanFrom_tagText name attributes hname hattributes, scanFrom_tag_cons, if_pos rfl,
    List.reverse_reverse, tagEvent_opening _ (head?_content_ne name attributes hname)
      (getLast?_content_ne name attributes hname), ofContent_eq name attributes hname]

theorem scanFrom_emptyText (rest : List Char) :
    scanFrom (.text []) ((emptyText name attributes).toList ++ rest)
      = .empty ⟨name.toList, attributeChars attributes⟩ :: scanFrom (.text []) rest := by
  have htext : (emptyText name attributes).toList ++ rest
      = (tagText name attributes).toList ++ (['/'] ++ '>' :: rest) := by
    simp [emptyText]
  rw [htext, scanFrom_tagText name attributes hname hattributes,
    scanFrom_unquoted _ ['/'] _ (by simp), scanFrom_tag_cons, if_pos rfl, List.reverse_append,
    List.reverse_reverse, List.reverse_reverse,
    tagEvent_empty _ (head?_content_ne name attributes hname)
      (content_ne_nil name attributes hname), ofContent_eq name attributes hname]

end

/-! ## Text -/

theorem scanFrom_text (seen s rest : List Char) (hs : '<' ∉ s) :
    scanFrom (.text seen) (s ++ rest) = scanFrom (.text (s.reverse ++ seen)) rest := by
  induction s generalizing seen with
  | nil => rfl
  | cons c s ih =>
    rw [List.mem_cons, not_or] at hs
    rw [List.cons_append, scanFrom_text_cons, if_neg (Ne.symm hs.1), ih _ hs.2]
    simp

/-- Escaped text before a tag is an event of its own, unless it is empty. -/
theorem scanFrom_escape (s rest : List Char) :
    scanFrom (.text []) (escape s ++ '<' :: rest)
      = (if s = [] then [] else [.text (escape s)]) ++ scanFrom (.text []) ('<' :: rest) := by
  have hopen : '<' ∉ escape s := not_mem_escape _ _ rfl
  cases s with
  | nil => rfl
  | cons c s =>
    have hne : (escape (c :: s)).isEmpty = false := by
      rw [← Bool.not_eq_true, List.isEmpty_iff]
      exact escape_ne_nil c s
    rw [scanFrom_text _ _ _ hopen]
    simp [scanFrom_text_cons, escape_ne_nil]

/-! ## Attributes -/

theorem attributesFrom_name (seen s rest : List Char) (h : ∀ c ∈ s, isNameChar c = true) :
    attributesFrom (.name seen) (s ++ '=' :: rest)
      = attributesFrom (.equals (s.reverse ++ seen).reverse) rest := by
  induction s generalizing seen with
  | nil => simp [attributesFrom_name_cons]
  | cons c s ih =>
    obtain ⟨hspace, -, -, -, -, -, hequals, -⟩ := of_isNameChar c (h c List.mem_cons_self)
    rw [List.cons_append, attributesFrom_name_cons, if_neg hequals, hspace,
      if_neg Bool.false_ne_true, ih _ fun d hd => h d (List.mem_cons_of_mem _ hd)]
    simp

theorem attributesFrom_value (name seen s rest : List Char) (h : '"' ∉ s) :
    attributesFrom (.value name '"' seen) (s ++ '"' :: rest)
      = (attributesFrom .between rest).map ((name, (s.reverse ++ seen).reverse) :: ·) := by
  induction s generalizing seen with
  | nil => simp [attributesFrom_value_cons]
  | cons c s ih =>
    rw [List.mem_cons, not_or] at h
    rw [List.cons_append, attributesFrom_value_cons, if_neg (Ne.symm h.1), ih _ h.2]
    simp

theorem attributesFrom_attributeChars (attributes : List (String × String))
    (h : namesWritable attributes = true) :
    attributesFrom .between (attributeChars attributes)
      = some (attributes.map fun a => (a.1.toList, escape a.2.toList)) := by
  induction attributes with
  | nil => rfl
  | cons a rest ih =>
    obtain ⟨name, value⟩ := a
    obtain ⟨hname, hrest⟩ := (namesWritable_cons _ _ _).1 h
    obtain ⟨c, t, hct, hc, hall⟩ := exists_cons_of_isName _ hname
    have hvalue : '"' ∉ escape value.toList := not_mem_escape _ _ rfl
    have hfirst : attributesFrom .between (attributeChars ((name, value) :: rest))
        = attributesFrom (.name [c])
          (t ++ '=' :: '"' :: (escape value.toList ++ '"' :: attributeChars rest)) := by
      have hspace := (of_isNameChar c hc).1
      have hblank : isTagSpace ' ' = true := rfl
      simp [attributeChars, attributesFrom_between_cons, hct, hspace, hblank]
    rw [hfirst, attributesFrom_name _ _ _ fun d hd => hall d (hct ▸ List.mem_cons_of_mem _ hd),
      attributesFrom_equals_quote, attributesFrom_value _ _ _ _ hvalue, ih hrest]
    simp [hct]

/-- No attribute name stands twice. -/
def namesDistinct : List (String × String) → Bool
  | [] => true
  | (name, _) :: rest => rest.all (fun a => a.1 != name) && namesDistinct rest

theorem distinctNames_map (attributes : List (String × String))
    (value : String × String → List Char) :
    distinctNames (attributes.map fun a => (a.1.toList, value a)) = namesDistinct attributes := by
  induction attributes with
  | nil => rfl
  | cons a rest ih =>
    obtain ⟨name, v⟩ := a
    rw [List.map_cons, distinctNames, namesDistinct, ih, List.all_map]
    congr 2
    funext b
    show (b.1.toList != name.toList) = (b.1 != name)
    rw [Bool.eq_iff_iff, bne_iff_ne, bne_iff_ne, ne_eq, ne_eq, String.toList_inj]

theorem mapM_unescape (attributes : List (String × String)) :
    (attributes.map fun a => (a.1.toList, escape a.2.toList)).mapM
      (fun (name, value) => (unescape value).map (name, ·))
      = some (attributes.map fun a => (a.1.toList, a.2.toList)) := by
  induction attributes with
  | nil => rfl
  | cons a rest ih =>
    rw [List.map_cons, List.mapM_cons, ih]
    simp [unescape_escape]

/-- The attributes of a tag read back. -/
theorem attributes_eq (name : List Char) (attributes : List (String × String))
    (hnames : namesWritable attributes = true) (hdistinct : namesDistinct attributes = true) :
    Tag.attributes ⟨name, attributeChars attributes⟩
      = some (attributes.map fun a => (a.1.toList, a.2.toList)) := by
  unfold Tag.attributes
  rw [attributesFrom_attributeChars _ hnames]
  simp only [Option.bind_eq_bind, Option.bind_some]
  rw [distinctNames_map, if_pos hdistinct, mapM_unescape]

end Federation.Xml
