import Conventions.Proofs.Branch
import Conventions.Proofs.Span

/-!
# The first fault of a title

What the scan of a title reports is where the title leaves the grammar: what stands in front of the offset can be
extended to a title in kebab case, and with the character at the offset it cannot. Only a hyphen at the end is reported
although it could be extended, as nothing follows it.
-/

namespace Conventions.Branch

/-- Whether a text can be extended to a title in kebab case. -/
def IsViable (cs : List Char) : Prop := ∃ rest, IsKebab (cs ++ rest)

/-- Whether a title has its first fault at an index. -/
structure IsFirstFault (title : List Char) (i : Nat) : Prop where
  viable : IsViable (title.take i)
  stops : (title = [] ∧ i = 0) ∨ ¬IsViable (title.take (i + 1)) ∨ (i + 1 = title.length ∧ title[i]? = some '-')

/-- Where the title of a name stands: behind the issue number and a hyphen, or at the start if there is no number. -/
inductive TitleAt : List Char → Nat → List Char → Prop
  | whole {name : List Char} : (∀ c, name.head? = some c → c.isDigit = false) → TitleAt name 0 name
  | numbered {digits title : List Char} : digits ≠ [] → (∀ c ∈ digits, c.isDigit = true) →
      TitleAt (digits ++ '-' :: title) (digits.length + 1) title

variable {p : Option Char} {c : Char} {cs rest title : List Char} {i : Nat} {f : TitleFault}

/-! ## Viable texts -/

theorem charFault?_false {isLast : Bool} (h : charFault? p c isLast = none) : charFault? p c false = none := by
  by_cases hc : c = '-'
  · subst hc
    rw [charFault?_hyphen] at h ⊢
    exact ⟨h.1, h.2.1, rfl⟩
  · rw [charFault?_of_ne hc] at h ⊢
    exact h

theorem faultFrom_letter (p : Option Char) : faultFrom p ['a'] = none := by
  rw [faultFrom_cons_eq_none_iff]
  exact ⟨(charFault?_of_ne (by decide)).2 (by decide), rfl⟩

theorem faultFrom_cons_append_letter : faultFrom p (c :: cs ++ ['a']) = none ↔
    charFault? p c false = none ∧ faultFrom (some c) (cs ++ ['a']) = none := by
  have hempty : (cs ++ ['a']).isEmpty = false := by cases cs <;> rfl
  rw [List.cons_append, faultFrom_cons_eq_none_iff, hempty]

/-- What begins a text without a fault has none in front of a letter. -/
theorem faultFrom_append_letter (h : faultFrom p (cs ++ rest) = none) : faultFrom p (cs ++ ['a']) = none := by
  induction cs generalizing p with
  | nil => exact faultFrom_letter p
  | cons c cs ih =>
      rw [List.cons_append, faultFrom_cons_eq_none_iff] at h
      exact faultFrom_cons_append_letter.2 ⟨charFault?_false h.1, ih h.2⟩

theorem titleFault?_of_ne_nil (h : cs ≠ []) : titleFault? cs = faultFrom none cs := by
  rw [titleFault?, if_neg (by simpa using h)]

theorem isKebab_iff_faultFrom (h : cs ≠ []) : IsKebab cs ↔ faultFrom none cs = none := by
  rw [← titleFault?_eq_none_iff, titleFault?_of_ne_nil h]

theorem isKebab_ne_nil (h : IsKebab cs) : cs ≠ [] := by
  rintro rfl
  cases titleFault?_eq_none_iff.2 h

/-- A text can be extended exactly if a letter behind it makes a title. -/
theorem isViable_iff : IsViable cs ↔ faultFrom none (cs ++ ['a']) = none := by
  constructor
  · rintro ⟨rest, h⟩
    exact faultFrom_append_letter ((isKebab_iff_faultFrom (isKebab_ne_nil h)).1 h)
  · intro h
    exact ⟨['a'], (isKebab_iff_faultFrom (by simp)).2 h⟩

/-! ## The fault of the scan -/

/-- Only a hyphen is at fault because nothing follows it. -/
theorem eq_hyphen_of_charFault? (h : charFault? p c cs.isEmpty = some f) (hfalse : charFault? p c false = none) :
    cs = [] ∧ c = '-' := by
  constructor
  · cases cs with
    | nil => rfl
    | cons d cs => cases hfalse.symm.trans h
  · by_contra hc
    rw [charFault?_of_ne hc, ← @charFault?_of_ne p c cs.isEmpty hc, h] at hfalse
    cases hfalse

theorem faultFrom_eq_some (h : faultFrom p title = some (i, f)) :
    faultFrom p (title.take i ++ ['a']) = none ∧
      (faultFrom p (title.take (i + 1) ++ ['a']) ≠ none ∨ (i + 1 = title.length ∧ title[i]? = some '-')) := by
  -- The scan keeps the character before the rest, and so does the scan of every start of the title.
  induction title generalizing p i with
  | nil => cases h
  | cons c cs ih =>
      rw [faultFrom] at h
      split at h
      · rename_i g hg
        cases h
        refine ⟨faultFrom_letter p, ?_⟩
        by_cases hfalse : charFault? p c false = none
        · obtain ⟨rfl, rfl⟩ := eq_hyphen_of_charFault? hg hfalse
          exact Or.inr ⟨rfl, rfl⟩
        · exact Or.inl fun hnone => hfalse (faultFrom_cons_append_letter.1 hnone).1
      · rename_i hnone
        obtain ⟨⟨j, g⟩, hj, heq⟩ := Option.map_eq_some_iff.1 h
        cases heq
        obtain ⟨hviable, hstops⟩ := ih hj
        rw [List.take_succ_cons, List.take_succ_cons, faultFrom_cons_append_letter, ne_eq, faultFrom_cons_append_letter]
        refine ⟨⟨charFault?_false hnone, hviable⟩, ?_⟩
        rcases hstops with hstuck | ⟨hlast, hhyphen⟩
        · exact Or.inl fun hboth => hstuck hboth.2
        · exact Or.inr ⟨congrArg Nat.succ hlast, hhyphen⟩

theorem isFirstFault_of_titleFault? (h : titleFault? title = some (i, f)) : IsFirstFault title i := by
  by_cases hempty : title = []
  · subst hempty
    cases h
    exact ⟨isViable_iff.2 (faultFrom_letter none), Or.inl ⟨rfl, rfl⟩⟩
  · rw [titleFault?_of_ne_nil hempty] at h
    obtain ⟨hviable, hstops⟩ := faultFrom_eq_some h
    exact ⟨isViable_iff.2 hviable, Or.inr (hstops.imp_left (mt isViable_iff.1))⟩

/-! ## The check of titles -/

theorem TitleAt.length_eq {name : List Char} {offset : Nat} (h : TitleAt name offset title) :
    offset + title.length = name.length := by
  cases h with
  | whole => exact Nat.zero_add _
  | numbered =>
      rw [List.length_append, List.length_cons]
      omega

theorem titleMismatch_of_titleAt {name : String} {offset : Nat} (h : TitleAt name.toList offset title) :
    titleMismatch name = (titleFault? title).map fun r =>
      ⟨name, pattern, some (charSpan (offset + r.1) name.toList.length), r.2.message⟩ := by
  simp only [titleMismatch]
  generalize name.toList = cs at h ⊢
  cases h with
  | whole hdigit => simp [leadingDigits_eq_nil_iff.2 hdigit]
  | numbered hne hdigits =>
      have hlength := List.length_pos_of_ne_nil hne
      have hdrop (digits : List Char) : (digits ++ '-' :: title).drop (digits.length + 1) = title := by
        rw [List.drop_append, List.drop_eq_nil_of_le (Nat.le_succ _), Nat.add_sub_cancel_left]
        rfl
      rw [leadingDigits_append hdigits, List.drop_left, if_neg (by simp), if_neg hlength.ne', hdrop]

/-- The check of a name that is not exempt rejects the title exactly if it is not in kebab case, and points at the first
character at fault: the title can be extended from in front of it but not from behind it, unless it is a hyphen at the
end. The span has one character, or none at the end of the name. -/
theorem isFirstFault_of_checkTitle {name : String} {ps : Params} {offset : Nat}
    (hexempt : isExempt name ps = .ok false) (htitle : TitleAt name.toList offset title) :
    ((∃ x, checkTitle name ps = .ok (some x)) ↔ ¬IsKebab title) ∧
      ∀ x, checkTitle name ps = .ok (some x) → ∃ i stop, x.span = some (.between (offset + i) stop) ∧
        IsFirstFault title i ∧
        (stop = offset + i + 1 ∨ (stop = offset + i ∧ offset + i = name.toList.length)) := by
  have hcheck : checkTitle name ps = .ok (titleMismatch name) := by
    rw [checkTitle, hexempt]
    rfl
  rw [hcheck, titleMismatch_of_titleAt htitle, ← titleFault?_eq_none_iff]
  constructor
  · cases titleFault? title <;> simp
  · intro x hx
    obtain ⟨⟨i, f⟩, hfault, rfl⟩ := Option.map_eq_some_iff.1 (Except.ok.inj hx)
    refine ⟨i, _, rfl, isFirstFault_of_titleFault? hfault, ?_⟩
    have hi := le_length_of_titleFault? hfault
    have hlength := htitle.length_eq
    omega

/-- The second of two hyphens is at fault, as behind the first one the title could go on. -/
theorem isFirstFault_of_checkTitle_hyphens : isExempt "12-add--page" [] = .ok false ∧
    TitleAt "12-add--page".toList 3 "add--page".toList ∧
    ∃ x, checkTitle "12-add--page" [] = .ok (some x) ∧ x.span = some (.between 7 8) ∧
      IsFirstFault "add--page".toList 4 := by
  have hexempt : isExempt "12-add--page" [] = .ok false := by decide
  have htitle : TitleAt "12-add--page".toList 3 "add--page".toList :=
    @TitleAt.numbered ['1', '2'] _ (List.cons_ne_nil _ _) (List.all_eq_true.1 (by decide))
  have hcheck : checkTitle "12-add--page" [] =
      .ok (some ⟨"12-add--page", pattern, some (.between 7 8), "consecutive hyphens"⟩) := by decide
  obtain ⟨_, hpoints⟩ := isFirstFault_of_checkTitle hexempt htitle
  obtain ⟨i, stop, hspan, hfault, _⟩ := hpoints _ hcheck
  have hi : i = 4 := by
    simp only [Option.some.injEq, Span.between, Span.mk.injEq] at hspan
    omega
  exact ⟨hexempt, htitle, _, hcheck, rfl, hi ▸ hfault⟩

end Conventions.Branch
