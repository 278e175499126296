import Mathlib.Data.List.TakeWhile
import Conventions.Rule
import Conventions.Proofs.Except

/-!
# Accepted templates can be filled in

A template that a rule accepts has bare names of known fields only, so rendering it gives its literal
characters and, once for each field, the value of the field.
-/

namespace Conventions

namespace Template

/-! ## Pieces of accepted templates -/

/-- What a piece becomes if its field has a value and no format. -/
def fill (values : String → Option String) : Piece → List Char
  | .literal c => [c]
  | .field name _ _ => ((values (String.ofList name)).getD "").toList

theorem flatMap_fill_literals (values : String → Option String) (cs : List Char) :
    (cs.map Piece.literal).flatMap (fill values) = cs := by
  induction cs with
  | nil => rfl
  | cons c cs ih => rw [List.map_cons, List.flatMap_cons, ih, fill, List.singleton_append]

/-- A template is filled in from one field to the next. -/
theorem flatMap_fill_append (values : String → Option String) (cs : List Char) (name : String)
    (ps : List Piece) :
    (cs.map Piece.literal ++ .field name.toList none [] :: ps).flatMap (fill values) =
      cs ++ (((values name).getD "").toList ++ ps.flatMap (fill values)) := by
  rw [List.flatMap_append, flatMap_fill_literals, List.flatMap_cons, fill, String.ofList_toList]

/-- A piece that is a character or a bare field with one of the names. -/
def IsBare (names : List String) : Piece → Prop
  | .literal _ => True
  | .field name conversion format => String.ofList name ∈ names ∧ conversion = none ∧ format = []

theorem IsBare.mono {ns ms : List String} (h : ∀ n ∈ ns, n ∈ ms) {p : Piece} (hp : IsBare ns p) :
    IsBare ms p := by
  cases p with
  | literal c => trivial
  | field n c f => exact ⟨h _ hp.1, hp.2⟩

theorem isBare_of_names {ps : List Piece} {ns : List String} (h : names ps = .ok ns) :
    ∀ p ∈ ps, IsBare ns p := by
  induction ps generalizing ns with
  | nil => simp
  | cons p ps ih =>
      cases p with
      | literal c =>
          simp only [names] at h
          intro x hx
          rcases List.mem_cons.1 hx with rfl | hx
          · trivial
          · exact ih h x hx
      | field n c f =>
          simp only [names] at h
          split at h
          · cases h
          split at h
          · cases h
          rename_i hformat
          obtain ⟨ms, hms, rfl⟩ := Except.map_eq_ok.1 h
          simp only [Bool.or_eq_true, not_or, Bool.not_eq_true, Option.isSome_eq_false_iff,
            Option.isNone_iff_eq_none, Bool.not_eq_false', List.isEmpty_iff] at hformat
          intro x hx
          rcases List.mem_cons.1 hx with rfl | hx
          · exact ⟨by simp, hformat⟩
          · exact (ih hms x hx).mono (by simp +contextual)

theorem fieldNames_eq_ok {t : String} {ns : List String} (h : fieldNames t = .ok ns) :
    names (read t.toList).pieces = .ok ns ∧ (read t.toList).fault = none := by
  simp only [fieldNames] at h
  split at h
  · cases h
  · cases h
  · rename_i hn hf
    cases h
    exact ⟨hn, hf⟩

/-! ## Known fields -/

/-- A known name is neither a position nor followed by an attribute. -/
theorem isPlain_known : ∀ n ∈ Rule.templateFields,
    n.toList ≠ [] ∧ (n.toList.all fun c => c ≠ '.' && c ≠ '[') = true ∧ Text.decimal? n.toList = none := by
  decide +kernel

theorem lookUp_known {values : String → Option String} {n : List Char} {v : String}
    (hn : String.ofList n ∈ Rule.templateFields) (hv : values (String.ofList n) = some v) :
    lookUp values n = .ok v.toList := by
  obtain ⟨hne, hall, hindex⟩ := isPlain_known _ hn
  rw [String.toList_ofList] at hne hall hindex
  have htake : n.takeWhile (fun c => c ≠ '.' && c ≠ '[') = n :=
    List.takeWhile_eq_self_iff.2 (List.all_eq_true.1 hall)
  have hdrop : n.dropWhile (fun c => c ≠ '.' && c ≠ '[') = [] :=
    List.dropWhile_eq_nil_iff.2 (List.all_eq_true.1 hall)
  have hempty : n.isEmpty = false := by simpa using hne
  simp only [lookUp, htake, hdrop, hempty, Bool.false_eq_true, if_false, index?, hindex, hv, bind,
    Except.bind, follow]

theorem renderPiece_of_isBare {values : String → Option String}
    {expand : List Char → Except RenderFailure (List Char)} {p : Piece}
    (hp : IsBare Rule.templateFields p) (hv : ∀ n ∈ Rule.templateFields, (values n).isSome) :
    renderPiece values expand p = .ok (fill values p) := by
  cases p with
  | literal c => rfl
  | field n c f =>
      obtain ⟨hn, rfl, rfl⟩ := hp
      obtain ⟨v, hv⟩ := Option.isSome_iff_exists.1 (hv _ hn)
      simp only [renderPiece, lookUp_known hn hv, convert, List.not_mem_nil, if_false, fill, hv,
        Option.getD_some]
      rfl

/-- An accepted template is filled in piece by piece. -/
theorem render_eq_ok {values : String → Option String} {t : String} {ns : List String}
    (h : fieldNames t = .ok ns) (hn : ∀ n ∈ ns, n ∈ Rule.templateFields)
    (hv : ∀ n ∈ Rule.templateFields, (values n).isSome) :
    render values t = .ok (String.ofList ((read t.toList).pieces.flatMap (fill values))) := by
  obtain ⟨hnames, hfault⟩ := fieldNames_eq_ok h
  have hpieces : (read t.toList).pieces.mapM (renderPiece values (renderAt values 1)) =
      .ok ((read t.toList).pieces.map (fill values)) := by
    refine Except.mapM_eq_ok_map fun p hp => ?_
    exact renderPiece_of_isBare ((isBare_of_names hnames p hp).mono hn) hv
  unfold render renderAt
  simp only [hpieces, hfault, Except.map, List.flatMap]

end Template

namespace Rule

/-! ## Rules with accepted templates -/

theorem fieldNames_of_templateFault? {r : Rule} (h : r.templateFault? = none) :
    ∃ ns, Template.fieldNames r.message = .ok ns ∧ ∀ n ∈ ns, n ∈ templateFields := by
  unfold templateFault? at h
  split at h
  · cases h
  · rename_i ns hns
    refine ⟨ns, hns, ?_⟩
    simpa [List.filter_eq_nil_iff] using h

theorem fieldValue_value (r : Rule) (m : Mismatch) : r.fieldValue m "value" = some m.value := if_pos rfl

theorem fieldValue_expected (r : Rule) (m : Mismatch) : r.fieldValue m "expected" = some m.expected := by
  rw [fieldValue, if_neg (by decide), if_pos rfl]

theorem fieldValue_detail (r : Rule) (m : Mismatch) : r.fieldValue m "detail" = some m.detail := by
  rw [fieldValue, if_neg (by decide), if_neg (by decide), if_pos rfl]

theorem fieldValue_isSome (r : Rule) (m : Mismatch) :
    ∀ n ∈ templateFields, (r.fieldValue m n).isSome := by
  simp [templateFields, fieldValue]

theorem render_eq_ok {r : Rule} (h : r.templateFault? = none) (m : Mismatch) :
    r.render m =
      .ok (String.ofList ((Template.read r.message.toList).pieces.flatMap (Template.fill (r.fieldValue m)))) := by
  obtain ⟨ns, hns, hknown⟩ := fieldNames_of_templateFault? h
  exact Template.render_eq_ok hns hknown (r.fieldValue_isSome m)

end Rule

end Conventions
