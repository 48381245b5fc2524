/-!
# Lists of entries

What is found under a key in a list of entries, where the first entry of a key counts.
-/

namespace Federation

variable {κ β : Type} [BEq κ] [LawfulBEq κ]

theorem mem_of_lookup (l : List (κ × β)) (k : κ) (b : β) (h : l.lookup k = some b) :
    (k, b) ∈ l := by
  obtain ⟨before, after, hl, -⟩ := List.lookup_eq_some_iff.1 h
  rw [hl]
  exact List.mem_append_right _ List.mem_cons_self

/-- Where no key stands twice, what is found under a key is what stands there. -/
theorem lookup_eq_some_of_nodup (l : List (κ × β)) (hl : (l.map (·.1)).Nodup) (k : κ) (b : β) :
    l.lookup k = some b ↔ (k, b) ∈ l := by
  refine ⟨mem_of_lookup l k b, fun h => ?_⟩
  induction l with
  | nil => cases h
  | cons e l ih =>
    obtain ⟨hhead, hl⟩ := List.nodup_cons.1 hl
    rw [List.lookup_cons]
    obtain rfl | h := List.mem_cons.1 h
    · rw [beq_self_eq_true]
    · have hk : (k == e.1) = false :=
        beq_eq_false_iff_ne.2 fun hk => hhead (List.mem_map.2 ⟨(k, b), h, hk⟩)
      rw [hk]
      exact ih hl h

/-- Entries left out under other keys are not missed under this one. -/
theorem lookup_filter (l : List (κ × β)) (p : κ × β → Bool) (k : κ) (h : ∀ b, p (k, b) = true) :
    (l.filter p).lookup k = l.lookup k := by
  induction l with
  | nil => rfl
  | cons e l ih =>
    obtain ⟨k', b⟩ := e
    rw [List.lookup_cons]
    by_cases hk : k = k'
    · subst hk
      rw [List.filter_cons_of_pos (h b), List.lookup_cons, beq_self_eq_true]
    · rw [beq_eq_false_iff_ne.2 hk]
      by_cases hp : p (k', b) = true
      · rw [List.filter_cons_of_pos hp, List.lookup_cons, beq_eq_false_iff_ne.2 hk, ih]
      · rw [List.filter_cons_of_neg hp, ih]

end Federation
