/-!
# Results

When a computation that may fail succeeds: each step of it does. With these lemmas a chain of checks
is taken apart one by one, first to last. And what it may fail with: what one of its steps may fail
with (`FailsOnly`). Two computations go together if each step of the one goes with a step of the
other (`InStep`).
-/

namespace Federation

section
variable {ε ε' α β : Type}

theorem ok_bind (a : α) (f : α → Except ε β) : Except.ok a >>= f = f a := rfl

theorem bind_eq_ok (x : Except ε α) (f : α → Except ε β) (b : β) :
    x >>= f = .ok b ↔ ∃ a, x = .ok a ∧ f a = .ok b := by
  cases x <;> simp [bind, Except.bind]

theorem map_eq_ok (f : α → β) (x : Except ε α) (b : β) :
    f <$> x = .ok b ↔ ∃ a, x = .ok a ∧ f a = b := by
  cases x <;> simp [Functor.map, Except.map]

theorem except_map_eq_ok (f : α → β) (x : Except ε α) (b : β) :
    x.map f = .ok b ↔ ∃ a, x = .ok a ∧ f a = b := by
  cases x <;> simp [Except.map]

theorem mapError_eq_ok (f : ε → ε') (x : Except ε α) (a : α) :
    x.mapError f = .ok a ↔ x = .ok a := by
  cases x with
  | ok b =>
    show Except.ok b = .ok a ↔ _
    rw [Except.ok.injEq, Except.ok.injEq]
  | error e => exact ⟨nofun, nofun⟩

theorem exists_ok (x : Except ε α) (h : x.toBool = true) : ∃ a, x = .ok a := by
  cases x with
  | ok a => exact ⟨a, rfl⟩
  | error e => cases h

theorem exists_error_iff (x : Except ε α) : (∃ e, x = .error e) ↔ ¬ ∃ a, x = .ok a := by
  cases x <;> simp

/-- A check that answers nothing but whether it passes. -/
theorem unit_bind_eq_ok (x : Except ε Unit) (y : Except ε β) (b : β) :
    (x >>= fun _ => y) = .ok b ↔ x = .ok () ∧ y = .ok b := by
  cases x <;> simp [bind, Except.bind]

/-- A check that is only made under a condition. -/
theorem ite_bind_eq_ok (c : Prop) [Decidable c] (x : Except ε Unit) (y : Except ε β) (b : β) :
    (if c then x >>= fun _ => y else y) = .ok b ↔ (c → x = .ok ()) ∧ y = .ok b := by
  by_cases h : c <;> simp [h, unit_bind_eq_ok]

theorem ite_ok_eq_ok (c : Prop) [Decidable c] (e : ε) :
    (if c then .ok () else .error e : Except ε Unit) = .ok () ↔ c := by
  by_cases h : c <;> simp [h]

/-- Whatever is read back one by one is read back together. -/
theorem mapM_map_eq_ok {γ : Type} (write : α → β) (read : β → Except ε γ) (f : α → γ)
    (l : List α) (h : ∀ a ∈ l, read (write a) = .ok (f a)) :
    (l.map write).mapM read = .ok (l.map f) := by
  induction l with
  | nil => rfl
  | cons a l ih =>
    rw [List.map_cons, List.mapM_cons, h a List.mem_cons_self,
      ih fun b hb => h b (List.mem_cons_of_mem _ hb)]
    rfl

/-! ## What a computation fails with -/

/-- Whatever a computation fails with has a property. -/
def FailsOnly (P : ε → Prop) (x : Except ε α) : Prop := ∀ f, x = .error f → P f

namespace FailsOnly

variable {P : ε → Prop} {x : Except ε α}

theorem ok (a : α) : FailsOnly P (.ok a : Except ε α) := fun _ h => nomatch h

theorem error {f : ε} (h : P f) : FailsOnly P (.error f : Except ε α) := by
  intro g hg
  cases hg
  exact h

theorem bind {g : α → Except ε β} (hx : FailsOnly P x) (hg : ∀ a, FailsOnly P (g a)) :
    FailsOnly P (x >>= g) := by
  cases x with
  | ok a => exact hg a
  | error f => exact error (hx f rfl)

theorem map (f : α → β) (hx : FailsOnly P x) : FailsOnly P (f <$> x) := by
  cases x with
  | ok a => exact ok (f a)
  | error g => exact error (hx g rfl)

theorem mapError {Q : ε' → Prop} {g : ε → ε'} (hx : ∀ f, x = .error f → Q (g f)) :
    FailsOnly Q (x.mapError g) := by
  cases x with
  | ok a => exact ok a
  | error f => exact error (hx f rfl)

theorem mapM {f : α → Except ε β} (hf : ∀ a, FailsOnly P (f a)) (l : List α) :
    FailsOnly P (l.mapM f) := by
  induction l with
  | nil => exact ok []
  | cons a l ih =>
    rw [List.mapM_cons]
    exact (hf a).bind fun b => ih.bind fun rest => ok (b :: rest)

end FailsOnly

/-! ## Two computations -/

/-- Two computations both succeed, with related answers, or both fail, with related errors. -/
inductive InStep (E : ε → ε → Prop) (R : α → β → Prop) : Except ε α → Except ε β → Prop
  | ok {a : α} {b : β} : R a b → InStep E R (.ok a) (.ok b)
  | error {f g : ε} : E f g → InStep E R (.error f) (.error g)

theorem InStep.bind {γ δ : Type} {E : ε → ε → Prop} {R : α → β → Prop} {S : γ → δ → Prop}
    {x : Except ε α} {y : Except ε β} {k : α → Except ε γ} {l : β → Except ε δ}
    (h : InStep E R x y) (hk : ∀ a b, R a b → InStep E S (k a) (l b)) :
    InStep E S (x >>= k) (y >>= l) := by
  cases h with
  | ok hab => exact hk _ _ hab
  | error hfg => exact error hfg

end

end Federation
