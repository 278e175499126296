/-!
# Results that may be faults

What a result that is not a fault says about the steps that lead to it.
-/

namespace Conventions

variable {ε α β : Type}

theorem Except.bind_eq_ok {x : Except ε α} {f : α → Except ε β} {b : β} :
    (x >>= f) = .ok b ↔ ∃ a, x = .ok a ∧ f a = .ok b := by
  cases x <;> simp [bind, Except.bind]

theorem Except.map_eq_ok {x : Except ε α} {f : α → β} {b : β} :
    x.map f = .ok b ↔ ∃ a, x = .ok a ∧ f a = b := by
  cases x <;> simp [Except.map]

theorem Except.exists_of_any_toOption {x : Except ε α} {p : α → Bool} (h : x.toOption.any p = true) :
    ∃ a, x = .ok a ∧ p a = true := by
  cases x with
  | error e => cases h
  | ok a => exact ⟨a, rfl, h⟩

/-- What every step of a fold keeps of the elements so far, the whole fold keeps of all of them. -/
theorem Except.foldlM_keeps_prefix {f : β → α → Except ε β} {P : List α → β → Prop}
    (step : ∀ done b a c, P done b → f b a = .ok c → P (done ++ [a]) c) {as : List α} {b c : β} (hb : P [] b)
    (h : as.foldlM f b = .ok c) : P as c := by
  suffices hdone : ∀ done, P done b → P (done ++ as) c from hdone [] hb
  clear hb
  induction as generalizing b with
  | nil =>
      cases h
      intro done hb
      rwa [List.append_nil]
  | cons a as ih =>
      rw [List.foldlM_cons, bind_eq_ok] at h
      obtain ⟨d, hd, h⟩ := h
      intro done hb
      rw [← List.singleton_append, ← List.append_assoc]
      exact ih h (done ++ [a]) (step done b a d hb hd)

/-- What every step of a fold keeps, the whole fold keeps. -/
theorem Except.foldlM_keeps {f : β → α → Except ε β} {P : β → Prop}
    (step : ∀ b a c, P b → f b a = .ok c → P c) {as : List α} {b c : β} (hb : P b)
    (h : as.foldlM f b = .ok c) : P c :=
  foldlM_keeps_prefix (P := fun _ => P) (fun _ => step) hb h

/-- A fold gives a result if every step does and leads to where the next one does. -/
theorem Except.exists_foldlM {f : β → α → Except ε β} {P : β → Prop} {as : List α}
    (step : ∀ b, ∀ a ∈ as, P b → ∃ c, f b a = .ok c ∧ P c) {b : β} (hb : P b) :
    ∃ c, as.foldlM f b = .ok c := by
  induction as generalizing b with
  | nil => exact ⟨b, rfl⟩
  | cons a as ih =>
      obtain ⟨c, hc, hP⟩ := step b a List.mem_cons_self hb
      obtain ⟨d, hd⟩ := ih (fun b x hx => step b x (List.mem_cons_of_mem a hx)) hP
      exact ⟨d, by rw [List.foldlM_cons, hc]; exact hd⟩

/-- A fold whose steps are refused by a condition on their elements alone is the plain fold of accepted
elements. -/
theorem Except.foldlM_eq_ok_iff {f : β → α → Except ε β} {g : β → α → β} {P : α → Prop}
    (step : ∀ b a c, f b a = .ok c ↔ P a ∧ c = g b a) {as : List α} {b c : β} :
    as.foldlM f b = .ok c ↔ (∀ a ∈ as, P a) ∧ c = as.foldl g b := by
  induction as generalizing b with
  | nil => simp [pure, Except.pure, eq_comm]
  | cons a as ih =>
      rw [List.foldlM_cons, bind_eq_ok, List.forall_mem_cons, List.foldl_cons]
      constructor
      · rintro ⟨d, hd, h⟩
        obtain ⟨ha, rfl⟩ := (step b a d).1 hd
        obtain ⟨has, rfl⟩ := ih.1 h
        exact ⟨⟨ha, has⟩, rfl⟩
      · rintro ⟨⟨ha, has⟩, rfl⟩
        exact ⟨g b a, (step b a _).2 ⟨ha, rfl⟩, ih.2 ⟨has, rfl⟩⟩

/-- What every step gives, all results have. -/
theorem Except.forall_mapM {f : α → Except ε β} {P : β → Prop} (step : ∀ a b, f a = .ok b → P b)
    {as : List α} {bs : List β} (h : as.mapM f = .ok bs) : ∀ b ∈ bs, P b := by
  induction as generalizing bs with
  | nil => cases h; exact List.forall_mem_nil P
  | cons a as ih =>
      rw [List.mapM_cons, bind_eq_ok] at h
      obtain ⟨b, hb, h⟩ := h
      obtain ⟨cs, hcs, h⟩ := bind_eq_ok.1 h
      cases h
      exact List.forall_mem_cons.2 ⟨step a b hb, ih hcs⟩

theorem Except.mapM_eq_ok_map {f : α → Except ε β} {g : α → β} {as : List α}
    (h : ∀ a ∈ as, f a = .ok (g a)) : as.mapM f = .ok (as.map g) := by
  induction as with
  | nil => rfl
  | cons a as ih =>
      rw [List.mapM_cons, h a (by simp), ih fun x hx => h x (by simp [hx])]
      rfl

/-! ## Faults of one form -/

/-- Whether a result, if it is a fault, is one of a given form. -/
def Except.FailsIn (P : ε → Prop) (x : Except ε α) : Prop := ∀ e, x = .error e → P e

namespace Except.FailsIn

variable {P : ε → Prop} {x : Except ε α}

theorem of_ok {a : α} : FailsIn P (.ok a : Except ε α) := nofun

theorem of_error {e : ε} (h : P e) : FailsIn P (.error e : Except ε α) := by
  rintro _ ⟨⟩
  exact h

theorem bind {f : α → Except ε β} (hx : FailsIn P x) (hf : ∀ a, x = .ok a → FailsIn P (f a)) :
    FailsIn P (x >>= f) := by
  cases x with
  | error e => exact of_error (hx e rfl)
  | ok a => exact hf a rfl

theorem map {f : α → β} (hx : FailsIn P x) : FailsIn P (x.map f) := by
  cases x with
  | error e => exact of_error (hx e rfl)
  | ok a => exact of_ok

theorem mapM {f : α → Except ε β} {as : List α} (h : ∀ a ∈ as, FailsIn P (f a)) :
    FailsIn P (as.mapM f) := by
  induction as with
  | nil => exact of_ok
  | cons a as ih =>
      rw [List.forall_mem_cons] at h
      rw [List.mapM_cons]
      exact h.1.bind fun _ _ => (ih h.2).bind fun _ _ => of_ok

theorem foldlM {f : β → α → Except ε β} {as : List α} (h : ∀ a ∈ as, ∀ b, FailsIn P (f b a)) (b : β) :
    FailsIn P (as.foldlM f b) := by
  induction as generalizing b with
  | nil => exact of_ok
  | cons a as ih =>
      rw [List.forall_mem_cons] at h
      rw [List.foldlM_cons]
      exact (h.1 b).bind fun c _ => ih h.2 c

end Except.FailsIn

end Conventions
