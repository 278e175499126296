import Conventions.Entries

/-!
# The last value counts

Of values that are given one after the other, the last one counts. A table that is laid over another one holds for every
key the last value that is set, and what the other one holds if none is.
-/

namespace Conventions

variable {α β γ : Type}

/-- The last value that some elements give. -/
def lastGiven (field : α → Option β) (xs : List α) : Option β := xs.reverse.findSome? field

section LastGiven

variable {field : α → Option β} {xs ys : List α}

theorem lastGiven_nil : lastGiven field [] = none := rfl

theorem lastGiven_append : lastGiven field (xs ++ ys) = (lastGiven field ys).or (lastGiven field xs) := by
  simp [lastGiven, List.findSome?_append]

theorem lastGiven_singleton {x : α} : lastGiven field [x] = field x := by
  cases h : field x <;> simp [lastGiven, h]

theorem lastGiven_cons {x : α} : lastGiven field (x :: xs) = (lastGiven field xs).or (field x) := by
  rw [← List.singleton_append, lastGiven_append, lastGiven_singleton]

theorem lastGiven_snoc {x : α} : lastGiven field (xs ++ [x]) = (field x).or (lastGiven field xs) := by
  rw [lastGiven_append, lastGiven_singleton]

theorem isSome_lastGiven_iff : (lastGiven field xs).isSome ↔ ∃ x ∈ xs, (field x).isSome := by
  simp [lastGiven, List.findSome?_isSome_iff]

end LastGiven

/-- Of elements with distinct keys only one has its key. -/
theorem filter_key_eq_of_nodup {key : α → String} {xs : List α} {x : α} (hd : (xs.map key).Nodup) (h : x ∈ xs) :
    xs.filter (fun y => key y == key x) = [x] := by
  induction xs with
  | nil => cases h
  | cons y xs ih =>
      rw [List.map_cons, List.nodup_cons] at hd
      rcases List.mem_cons.1 h with rfl | h
      · have hrest : xs.filter (fun y => key y == key x) = [] := by
          rw [List.filter_eq_nil_iff]
          intro y hy he
          exact hd.1 (beq_iff_eq.1 he ▸ List.mem_map_of_mem hy)
        rw [List.filter_cons_of_pos (by simp), hrest]
      · have hy : key y ≠ key x := fun he => hd.1 (he ▸ List.mem_map_of_mem h)
        rw [List.filter_cons_of_neg (by simpa using hy), ih hd.2 h]

namespace Entries

variable [DecidableEq α] {k : α} {es fs : List (α × β)}

theorem get?_append : get? k (es ++ fs) = (get? k es).or (get? k fs) := by
  induction es with
  | nil => rfl
  | cons e es ih =>
      by_cases h : e.1 = k
      · simp [get?, h]
      · simp [get?, h, ih]

theorem get?_flatMap {f : γ → List (α × β)} {xs : List γ} :
    get? k (xs.flatMap f) = xs.findSome? fun x => get? k (f x) := by
  induction xs with
  | nil => rfl
  | cons x xs ih => cases h : get? k (f x) <;> simp [get?_append, ih, h]

theorem get?_map (f : β → γ) : get? k (es.map fun e => (e.1, f e.2)) = (get? k es).map f := by
  induction es with
  | nil => rfl
  | cons e es ih =>
      by_cases h : e.1 = k
      · simp [get?, h]
      · simp [get?, h, ih]

theorem set_of_not_mem {v : β} (h : k ∉ keys es) : set k v es = es ++ [(k, v)] := by
  induction es with
  | nil => rfl
  | cons e es ih =>
      rw [keys, List.map_cons, List.mem_cons, not_or] at h
      rw [set, if_neg (Ne.symm h.1), ih h.2, List.cons_append]

/-- Entries with new and distinct keys are put behind a table as they are. -/
theorem overlay_of_nodup (h : (keys (es ++ fs)).Nodup) : overlay es fs = es ++ fs := by
  induction fs generalizing es with
  | nil => exact (List.append_nil es).symm
  | cons f fs ih =>
      have hkey : f.1 ∉ keys es := by
        rw [keys, List.map_append, List.map_cons, List.nodup_append] at h
        exact fun hf => h.2.2 f.1 hf f.1 List.mem_cons_self rfl
      have hstep : overlay es (f :: fs) = overlay (set f.1 f.2 es) fs := rfl
      rw [hstep, set_of_not_mem hkey, ih (by simpa using h), List.append_assoc, List.singleton_append]

theorem overlay_nil_of_nodup (h : (keys fs).Nodup) : overlay [] fs = fs := overlay_of_nodup h

theorem overlay_append {gs : List (α × β)} : overlay es (fs ++ gs) = overlay (overlay es fs) gs := List.foldl_append

theorem get?_overlay : get? k (overlay es fs) =
    (lastGiven (fun e => if e.1 = k then some e.2 else none) fs).or (get? k es) := by
  induction fs generalizing es with
  | nil => rfl
  | cons e fs ih =>
      have hstep : overlay es (e :: fs) = overlay (set e.1 e.2 es) fs := rfl
      rw [hstep, ih, lastGiven_cons]
      by_cases h : e.1 = k
      · simp [h, get?_set_self]
      · simp [h, get?_set_of_ne]

end Entries

end Conventions
