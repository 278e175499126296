/-!
# Entries

A table is a list of keys with values, in the order in which the keys first appeared, at most one
entry for a key when it is built with `set`. Setting a key keeps its place or adds it at the end.
-/

namespace Conventions.Entries

variable {α β : Type} [DecidableEq α]

/-- The value of a key. -/
def get? (k : α) : List (α × β) → Option β
  | [] => none
  | e :: es => if e.1 = k then some e.2 else get? k es

/-- The table with a key set to a value. -/
def set (k : α) (v : β) : List (α × β) → List (α × β)
  | [] => [(k, v)]
  | e :: es => if e.1 = k then (k, v) :: es else e :: set k v es

/-- The table with all entries of a second table set, in order. -/
def overlay (es new : List (α × β)) : List (α × β) := new.foldl (fun t e => set e.1 e.2 t) es

/-- The keys of a table. -/
def keys (es : List (α × β)) : List α := es.map Prod.fst

theorem get?_set_self (k : α) (v : β) (es : List (α × β)) : get? k (set k v es) = some v := by
  induction es with
  | nil => simp [set, get?]
  | cons e es ih =>
      unfold set
      split
      · simp [get?]
      · rename_i h
        simp [get?, h, ih]

theorem get?_set_of_ne {k l : α} (v : β) (h : k ≠ l) (es : List (α × β)) :
    get? l (set k v es) = get? l es := by
  induction es with
  | nil => simp [set, get?, h]
  | cons e es ih =>
      unfold set
      split
      · rename_i hk
        simp [get?, hk, h]
      · by_cases hl : e.1 = l <;> simp [get?, hl, ih]

theorem keys_set_of_mem {k : α} (v : β) {es : List (α × β)} (h : k ∈ keys es) :
    keys (set k v es) = keys es := by
  induction es with
  | nil => simp [keys] at h
  | cons e es ih =>
      unfold set
      split
      · rename_i hk
        simp [keys, hk]
      · rename_i hk
        have h' : k ∈ keys es := by
          rcases List.mem_cons.1 h with h | h
          · exact absurd h.symm hk
          · exact h
        have ih' := ih h'
        simp only [keys] at ih' ⊢
        simp [ih']

theorem keys_set_of_not_mem {k : α} (v : β) {es : List (α × β)} (h : k ∉ keys es) :
    keys (set k v es) = keys es ++ [k] := by
  induction es with
  | nil => rfl
  | cons e es ih =>
      rw [keys, List.map_cons, List.mem_cons, not_or] at h
      have ih' := ih h.2
      simp only [keys] at ih' ⊢
      simp [set, Ne.symm h.1, ih']

theorem nodup_keys_set {es : List (α × β)} (k : α) (v : β) (h : (keys es).Nodup) :
    (keys (set k v es)).Nodup := by
  by_cases hk : k ∈ keys es
  · rwa [keys_set_of_mem v hk]
  · rw [keys_set_of_not_mem v hk, List.nodup_append]
    refine ⟨h, by simp, ?_⟩
    intro a ha b hb hab
    rw [hab, List.mem_singleton.1 hb] at ha
    exact hk ha

theorem forall_set {P : α × β → Prop} {es : List (α × β)} {k : α} {v : β} (hv : P (k, v))
    (h : ∀ e ∈ es, P e) : ∀ e ∈ set k v es, P e := by
  induction es with
  | nil => exact List.forall_mem_singleton.2 hv
  | cons e es ih =>
      rw [List.forall_mem_cons] at h
      unfold set
      split
      · exact List.forall_mem_cons.2 ⟨hv, h.2⟩
      · exact List.forall_mem_cons.2 ⟨h.1, ih h.2⟩

theorem forall_overlay {P : α × β → Prop} {es new : List (α × β)} (h : ∀ e ∈ es, P e)
    (hnew : ∀ e ∈ new, P e) : ∀ e ∈ overlay es new, P e := by
  induction new generalizing es with
  | nil => exact h
  | cons e new ih =>
      rw [List.forall_mem_cons] at hnew
      exact ih (forall_set hnew.1 h) hnew.2

theorem get?_isSome_iff {k : α} {es : List (α × β)} : (get? k es).isSome ↔ k ∈ keys es := by
  induction es with
  | nil => simp [get?, keys]
  | cons e es ih =>
      simp only [keys] at ih
      by_cases he : e.1 = k
      · simp [get?, keys, he]
      · simp [get?, keys, he, ih, Ne.symm he]

end Conventions.Entries
