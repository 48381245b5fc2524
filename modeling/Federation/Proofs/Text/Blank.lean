import Federation.Text.Blank

/-!
# Text and the blanks in it

Trimming keeps a text that has no blank at either end, cutting a text at its blanks undoes the
joining of words by blanks, and dropping all blanks undoes putting blanks in anywhere.

    Unpadded s  →  trimmed s = s
    words ([' '].intercalate l) = l     (words that are not empty and hold no blank)
    Spaced s t ↔ dropBlanks t = s       (s without blanks)
-/

namespace Federation.Text

/-! ## Trimming -/

/-- No blank stands at either end. -/
def Unpadded (s : String) : Prop :=
  (∀ c ∈ s.toList.head?, isBlank c = false) ∧ ∀ c ∈ s.toList.getLast?, isBlank c = false

theorem trimStart_eq_self (s : List Char) (h : ∀ c ∈ s.head?, isBlank c = false) :
    trimStart s = s := by
  cases s with
  | nil => rfl
  | cons c s => exact trimStart_of_head (h c rfl)

theorem trimmed_eq_self (s : String) (h : Unpadded s) : trimmed s = s := by
  have hreverse : trimStart s.toList.reverse = s.toList.reverse :=
    trimStart_eq_self _ fun c hc => h.2 c (by rwa [List.head?_reverse] at hc)
  unfold trimmed trim trimEnd
  rw [trimStart_eq_self _ h.1]
  show String.ofList (trimStart s.toList.reverse).reverse = s
  rw [hreverse, List.reverse_reverse, String.ofList_toList]

/-! ## Words -/

theorem wordsFrom_append (seen w rest : List Char) (h : ∀ c ∈ w, isBlank c = false) :
    wordsFrom seen (w ++ rest) = wordsFrom (w.reverse ++ seen) rest := by
  induction w generalizing seen with
  | nil => rfl
  | cons c w ih =>
    rw [List.cons_append, wordsFrom, h c List.mem_cons_self]
    rw [if_neg (by simp), ih _ fun d hd => h d (List.mem_cons_of_mem _ hd)]
    simp

/-- Words with a blank between each two of them are read as those words. -/
theorem words_intercalate (l : List (List Char))
    (h : ∀ w ∈ l, w ≠ [] ∧ ∀ c ∈ w, isBlank c = false) : words ([' '].intercalate l) = l := by
  induction l with
  | nil => rfl
  | cons w l ih =>
    obtain ⟨hne, hw⟩ := h w List.mem_cons_self
    have hseen : (w.reverse ++ []).isEmpty = false := by simp [hne]
    have hrest := ih fun v hv => h v (List.mem_cons_of_mem _ hv)
    cases l with
    | nil =>
      rw [List.intercalate_singleton, ← List.append_nil w]
      unfold words
      rw [wordsFrom_append [] w [] hw, wordsFrom, hseen]
      simp
    | cons v l =>
      rw [List.intercalate_cons_cons, List.append_assoc]
      unfold words at hrest ⊢
      rw [wordsFrom_append [] w _ hw, List.singleton_append, wordsFrom]
      rw [if_pos (show isBlank ' ' = true from rfl), hseen, hrest]
      simp

/-! ## Blanks anywhere -/

/-- The second text is the first with blanks put in, any number of them anywhere. -/
inductive Spaced : List Char → List Char → Prop
  | nil : Spaced [] []
  | keep {s t : List Char} (c : Char) : Spaced s t → Spaced (c :: s) (c :: t)
  | blank {s t : List Char} {c : Char} : isBlank c = true → Spaced s t → Spaced s (c :: t)

theorem spaced_dropBlanks (t : List Char) : Spaced (dropBlanks t) t := by
  induction t with
  | nil => exact .nil
  | cons c t ih =>
    rw [dropBlanks, List.filter_cons]
    cases hc : isBlank c with
    | true => exact .blank hc ih
    | false => exact .keep c ih

theorem spaced_iff (s t : List Char) (hs : ∀ c ∈ s, isBlank c = false) :
    Spaced s t ↔ dropBlanks t = s := by
  constructor
  · intro h
    induction h with
    | nil => rfl
    | keep c _ ih =>
      rw [List.forall_mem_cons] at hs
      have hrest := ih hs.2
      unfold dropBlanks at hrest ⊢
      rw [List.filter_cons, hs.1, hrest]
      rfl
    | blank hc _ ih =>
      have hrest := ih hs
      unfold dropBlanks at hrest ⊢
      rw [List.filter_cons, hc, hrest]
      rfl
  · rintro rfl
    exact spaced_dropBlanks t

end Federation.Text
