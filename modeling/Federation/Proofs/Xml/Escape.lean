import Federation.Xml.Escape

/-!
# What escaping keeps

Escaped text holds no character that could open or close markup or a quoted value, and it stands
for the text that was escaped.

    unescape (escape s) = some s
-/

namespace Federation.Xml

/-- A character that markup gives no meaning. -/
def isPlain (c : Char) : Bool := c ≠ '<' && c ≠ '>' && c ≠ '&' && c ≠ '\'' && c ≠ '"'

theorem escapeChar_of_plain (c : Char) (h : isPlain c = true) : escapeChar c = [c] := by
  unfold isPlain at h
  simp only [Bool.and_eq_true, decide_eq_true_eq] at h
  obtain ⟨⟨⟨⟨h1, h2⟩, h3⟩, h4⟩, h5⟩ := h
  unfold escapeChar
  rw [if_neg h1, if_neg h2, if_neg h3, if_neg h4, if_neg h5]

theorem eq_of_not_plain (c : Char) (h : ¬ isPlain c = true) :
    c = '<' ∨ c = '>' ∨ c = '&' ∨ c = '\'' ∨ c = '"' := by
  unfold isPlain at h
  simp only [Bool.and_eq_true, decide_eq_true_eq] at h
  by_cases h1 : c = '<'
  · exact Or.inl h1
  by_cases h2 : c = '>'
  · exact Or.inr (Or.inl h2)
  by_cases h3 : c = '&'
  · exact Or.inr (Or.inr (Or.inl h3))
  by_cases h4 : c = '\''
  · exact Or.inr (Or.inr (Or.inr (Or.inl h4)))
  by_cases h5 : c = '"'
  · exact Or.inr (Or.inr (Or.inr (Or.inr h5)))
  exact absurd ⟨⟨⟨⟨h1, h2⟩, h3⟩, h4⟩, h5⟩ h

/-- A character that opens or closes markup or a quoted value. -/
def isDelimiter (c : Char) : Bool := c = '<' || c = '>' || c = '\'' || c = '"'

theorem isDelimiter_of_mem_escape (s : List Char) : ∀ c ∈ escape s, isDelimiter c = false := by
  have hchar (c : Char) : ∀ d ∈ escapeChar c, isDelimiter d = false := by
    by_cases hc : isPlain c = true
    · rw [escapeChar_of_plain c hc]
      intro d hd
      rw [List.mem_singleton] at hd
      subst hd
      unfold isPlain at hc
      unfold isDelimiter
      simp only [Bool.and_eq_true, decide_eq_true_eq] at hc
      simp only [hc, decide_false, Bool.or_false]
    · have hall : (escapeChar c).all (isDelimiter · == false) = true := by
        rcases eq_of_not_plain c hc with rfl | rfl | rfl | rfl | rfl <;> rfl
      intro d hd
      exact beq_iff_eq.1 (List.all_eq_true.1 hall d hd)
  intro d hd
  obtain ⟨c, -, hc⟩ := List.mem_flatMap.1 hd
  exact hchar c d hc

theorem not_mem_escape (s : List Char) (c : Char) (h : isDelimiter c = true) : c ∉ escape s := by
  intro hmem
  rw [isDelimiter_of_mem_escape s c hmem] at h
  cases h

theorem unescapeFrom_escapeChar (c : Char) (rest : List Char) :
    unescapeFrom none (escapeChar c ++ rest) = (unescapeFrom none rest).map (c :: ·) := by
  by_cases hc : isPlain c = true
  · have hamp : c ≠ '&' := by
      rintro rfl
      revert hc
      decide
    rw [escapeChar_of_plain c hc, List.singleton_append, unescapeFrom, if_neg hamp]
  · rcases eq_of_not_plain c hc with rfl | rfl | rfl | rfl | rfl <;>
      show (unescapeFrom none rest).bind _ = _ <;> cases unescapeFrom none rest <;> rfl

/-- Escaped text stands for the text that was escaped. -/
theorem unescape_escape (s : List Char) : unescape (escape s) = some s := by
  unfold unescape escape
  induction s with
  | nil => rfl
  | cons c s ih => rw [List.flatMap_cons, unescapeFrom_escapeChar, ih]; rfl

theorem escape_ne_nil (c : Char) (s : List Char) : escape (c :: s) ≠ [] := by
  have hchar : escapeChar c ≠ [] := by
    unfold escapeChar
    (repeat' split) <;> simp
  unfold escape
  rw [List.flatMap_cons]
  exact fun h => hchar (List.append_eq_nil_iff.1 h).1

end Federation.Xml
