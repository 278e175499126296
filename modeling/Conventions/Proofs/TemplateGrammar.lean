import Mathlib.Data.List.Basic
import Conventions.Proofs.Matcher
import Conventions.Proofs.RuleSet
import Conventions.Proofs.Template

/-!
# The grammar of message templates

The templates that a rule accepts are those of a small grammar: a character other than a brace, a doubled brace, or the
name of a field in braces, where a conversion that asks for none and an empty format may follow the name. The reader finds
the parts that were written, and whatever it finds and a rule accepts was written, so that a template has its parts in one
way. A message is then what the parts show, one after the other: the values of the fields are not read again.
-/

namespace Conventions

namespace Template

/-! ## The grammar -/

/-- What a field of an accepted template shows. -/
inductive Slot where
  | value
  | expected
  | detail
  | ruleId
deriving DecidableEq, Repr

/-- The name of a field. -/
def Slot.name : Slot → String
  | .value => "value"
  | .expected => "expected"
  | .detail => "detail"
  | .ruleId => "rule_id"

/-- What a field shows in the message of a rule about a mismatch. -/
def Slot.text (id : String) (m : Mismatch) : Slot → String
  | .value => m.value
  | .expected => m.expected
  | .detail => m.detail
  | .ruleId => id

/-- A part of an accepted template: a character that stands for itself, or a field. -/
inductive Part where
  | char (c : Char)
  | slot (s : Slot)
deriving DecidableEq, Repr

/-- What a part shows in the message of a rule about a mismatch. -/
def Part.text (id : String) (m : Mismatch) : Part → List Char
  | .char c => [c]
  | .slot s => (s.text id m).toList

/-- What may stand behind the name of a field: a conversion that asks for none, and an empty format. -/
def marks : List (List Char) := [[], [':'], ['!', '\x00'], ['!', '\x00', ':']]

/-- The accepted templates, with their parts. -/
inductive Written : List Char → List Part → Prop
  | nil : Written [] []
  | char {c cs ps} : c ≠ '{' → c ≠ '}' → Written cs ps → Written (c :: cs) (.char c :: ps)
  | opening {cs ps} : Written cs ps → Written ('{' :: '{' :: cs) (.char '{' :: ps)
  | closing {cs ps} : Written cs ps → Written ('}' :: '}' :: cs) (.char '}' :: ps)
  | slot {cs ps} (s : Slot) {mark : List Char} : mark ∈ marks → Written cs ps →
      Written ('{' :: (s.name.toList ++ (mark ++ '}' :: cs))) (.slot s :: ps)

/-! ## What is written is read -/

/-- The piece that the reader makes of a part. -/
def Part.piece : Part → Piece
  | .char c => .literal c
  | .slot s => .field s.name.toList none []

/-- Whether a character belongs to the name of a field wherever it stands. -/
def isNameChar (c : Char) : Bool := !(['{', '}', '!', ':', '['].contains c)

variable {c : Char} {n cs rest : List Char} {ps qs : List Part}

theorem readFrom_text_char (h : c ≠ '{') (h' : c ≠ '}') :
    readFrom .text (c :: cs) = cons (.literal c) (readFrom .text cs) :=
  readFrom.eq_8 c cs (fun he => absurd he h) (fun he => absurd he h') (fun _ he => absurd he h)
    (fun _ he => absurd he h') h h'

theorem readFrom_text_open (h : cs ≠ []) (h' : cs.head? ≠ some '{') :
    readFrom .text ('{' :: cs) = readFrom (.name []) cs :=
  readFrom.eq_6 cs h fun rest he => h' (by rw [he]; rfl)

theorem readFrom_name_char (h : isNameChar c = true) (n cs : List Char) :
    readFrom (.name n) (c :: cs) = readFrom (.name (n ++ [c])) cs := by
  have hc : c ≠ '{' ∧ c ≠ '}' ∧ c ≠ '!' ∧ c ≠ ':' ∧ c ≠ '[' := by simpa [isNameChar] using h
  obtain ⟨hopen, hclose, hbang, hcolon, hbracket⟩ := hc
  exact readFrom.eq_15 n c cs hopen hclose hbang hcolon hbracket

theorem readFrom_name_append {w : List Char} (hw : w.all isNameChar = true) (n cs : List Char) :
    readFrom (.name n) (w ++ cs) = readFrom (.name (n ++ w)) cs := by
  induction w generalizing n with
  | nil => rw [List.nil_append, List.append_nil]
  | cons c w ih =>
      rw [List.all_cons, Bool.and_eq_true] at hw
      rw [List.cons_append, readFrom_name_char hw.1, ih hw.2, List.append_assoc, List.singleton_append]

theorem readFrom_mark {mark : List Char} (hmark : mark ∈ marks) (n cs : List Char) :
    readFrom (.name n) (mark ++ '}' :: cs) = cons (.field n none []) (readFrom .text cs) := by
  simp only [marks, List.mem_cons, List.not_mem_nil, or_false] at hmark
  rcases hmark with rfl | rfl | rfl | rfl <;> rfl

theorem Slot.all_isNameChar (s : Slot) : s.name.toList.all isNameChar = true := by
  cases s <;> decide

theorem Slot.head?_name (s : Slot) (cs : List Char) : (s.name.toList ++ cs).head? ≠ some '{' := by
  cases s <;> exact fun h => absurd (Option.some.inj h) (by decide)

theorem Slot.name_ne_nil (s : Slot) : s.name.toList ≠ [] := by
  cases s <;> decide

/-- The reader finds the parts of a template that is written by the grammar. -/
theorem read_of_written (h : Written cs ps) : read cs = ⟨ps.map Part.piece, none⟩ := by
  induction h with
  | nil => rfl
  | char hopen hclose h ih =>
      rw [read] at ih ⊢
      rw [readFrom_text_char hopen hclose, ih]
      rfl
  | opening h ih => exact congrArg (cons (.literal '{')) ih
  | closing h ih => exact congrArg (cons (.literal '}')) ih
  | slot s hmark h ih =>
      rw [read] at ih ⊢
      rw [readFrom_text_open (List.append_ne_nil_of_left_ne_nil s.name_ne_nil _) (s.head?_name _),
        readFrom_name_append s.all_isNameChar, readFrom_mark hmark, ih]
      rfl

theorem Slot.name_injective {s t : Slot} (h : s.name = t.name) : s = t := by
  cases s <;> cases t <;> first | rfl | exact absurd h (by decide)

theorem Part.piece_injective : Function.Injective Part.piece := by
  intro p q h
  cases p with
  | char c => cases q <;> cases h; rfl
  | slot s =>
      cases q with
      | char c => cases h
      | slot t =>
          rw [Part.piece, Part.piece, Piece.field.injEq] at h
          exact congrArg Part.slot (Slot.name_injective (String.toList_inj.1 h.1))

/-- A template has its parts in one way only. -/
theorem Written.unique (h : Written cs ps) (h' : Written cs qs) : ps = qs := by
  have hread := (read_of_written h).symm.trans (read_of_written h')
  rw [Template.mk.injEq] at hread
  exact (List.map_injective_iff.2 Part.piece_injective) hread.1

/-! ## What is accepted is written -/

/-- Whether a template can be read and has no other fields than those of the grammar. -/
structure IsAccepted (t : Template) : Prop where
  fault : t.fault = none
  bare : ∀ p ∈ t.pieces, IsBare Rule.templateFields p

theorem not_isAccepted_broken (f : TemplateFault) : ¬IsAccepted (broken f) := fun h => nomatch h.fault

theorem isAccepted_cons {p : Piece} {t : Template} (h : IsAccepted (cons p t)) :
    IsBare Rule.templateFields p ∧ IsAccepted t :=
  ⟨h.bare p List.mem_cons_self, h.fault, fun q hq => h.bare q (List.mem_cons_of_mem p hq)⟩

theorem exists_slot_of_mem {name : List Char} (h : String.ofList name ∈ Rule.templateFields) :
    ∃ s : Slot, s.name.toList = name := by
  suffices ∃ s : Slot, s.name = String.ofList name from
    this.imp fun s hs => by rw [hs, String.toList_ofList]
  simp only [Rule.templateFields, List.mem_cons, List.not_mem_nil, or_false] at h
  rcases h with h | h | h | h
  · exact ⟨.detail, h.symm⟩
  · exact ⟨.expected, h.symm⟩
  · exact ⟨.ruleId, h.symm⟩
  · exact ⟨.value, h.symm⟩

theorem not_mem_templateFields {name : List Char} (h : '[' ∈ name) :
    String.ofList name ∉ Rule.templateFields := by
  intro hmem
  obtain ⟨s, rfl⟩ := exists_slot_of_mem hmem
  exact absurd (List.all_eq_true.1 s.all_isNameChar _ h) (by decide)

/-- The states behind which no accepted template is read: the name of the field has an index, or the field has
a conversion or a format. -/
def State.IsLost : State → Prop
  | .text => False
  | .name n => '[' ∈ n
  | .bracket n => '[' ∈ n
  | .conversion n => '[' ∈ n
  | .afterConversion n c => '[' ∈ n ∨ conversionOf c ≠ none
  | .format n c _ f => '[' ∈ n ∨ c ≠ none ∨ f ≠ []

theorem not_isAccepted_of_isLost (st : State) (h : st.IsLost) : ¬IsAccepted (readFrom st cs) := by
  fun_induction readFrom st cs
  -- Outside of fields nothing is lost, and a fault is never accepted.
  case case1 | case2 | case3 | case4 | case5 | case6 | case7 | case8 => exact h.elim
  case case9 | case10 | case16 | case19 | case21 | case24 | case25 => exact not_isAccepted_broken _
  -- A field that ends is not bare, and what is lost stays so up to the end of the field.
  case case11 => exact fun ha => not_mem_templateFields h (isAccepted_cons ha).1.1
  case case12 ih => exact ih h
  case case13 ih | case20 ih => exact ih (.inl h)
  case case14 ih | case15 ih | case17 ih | case18 ih => exact ih (List.mem_append_left _ h)
  case case22 =>
    intro ha
    obtain ⟨hname, hconversion, -⟩ := (isAccepted_cons ha).1
    exact h.elim (fun h => not_mem_templateFields h hname) fun h => h hconversion
  case case23 ih => exact ih (h.imp_right .inl)
  case case26 =>
    intro ha
    obtain ⟨hname, hconversion, hformat⟩ := (isAccepted_cons ha).1
    exact h.elim (fun h => not_mem_templateFields h hname) fun h => h.elim (· hconversion) (· hformat)
  case case27 ih | case28 ih | case29 ih =>
    exact ih (h.imp_right (Or.imp_right fun _ => List.append_ne_nil_of_right_ne_nil _ (by simp)))

theorem conversionOf_eq_none : conversionOf c = none ↔ c = '\x00' := by
  simp [conversionOf]

/-- Nothing but the closing brace comes after the colon of an accepted field. -/
theorem exists_of_isAccepted_format (h : IsAccepted (readFrom (.format n none 0 []) cs)) :
    ∃ rest, cs = '}' :: rest ∧ IsAccepted (cons (.field n none []) (readFrom .text rest)) := by
  cases cs with
  | nil => exact absurd h (not_isAccepted_broken _)
  | cons c cs =>
      by_cases hclose : c = '}'
      · subst hclose
        exact ⟨cs, rfl, h⟩
      · have hstep : ∃ d, readFrom (.format n none 0 []) (c :: cs) = readFrom (.format n none d [c]) cs := by
          by_cases hopen : c = '{'
          · subst hopen
            exact ⟨1, rfl⟩
          · exact ⟨0, readFrom.eq_29 n none 0 [] c cs (fun _ => hclose) (fun _ _ => hclose) hopen⟩
        obtain ⟨d, hstep⟩ := hstep
        rw [hstep] at h
        exact absurd h (not_isAccepted_of_isLost _ (.inr (.inr (List.cons_ne_nil _ _))))

/-- The conversion of an accepted field is the null character. -/
theorem exists_of_isAccepted_conversion (h : IsAccepted (readFrom (.conversion n) cs)) :
    ∃ mark, '!' :: mark ∈ marks ∧ ∃ rest, cs = mark ++ '}' :: rest ∧
      IsAccepted (cons (.field n none []) (readFrom .text rest)) := by
  match cs with
  | [] => exact absurd h (not_isAccepted_broken _)
  | [c] => exact absurd h (not_isAccepted_broken _)
  | c :: d :: cs =>
      have hc : conversionOf c = none :=
        by_contra fun hc => not_isAccepted_of_isLost (.afterConversion n c) (.inr hc) h
      rw [conversionOf_eq_none] at hc
      subst hc
      by_cases hclose : d = '}'
      · subst hclose
        exact ⟨['\x00'], by simp [marks], cs, rfl, h⟩
      by_cases hcolon : d = ':'
      · subst hcolon
        obtain ⟨rest, rfl, hrest⟩ := exists_of_isAccepted_format h
        exact ⟨['\x00', ':'], by simp [marks], rest, rfl, hrest⟩
      · have hbroken : readFrom (.conversion n) ('\x00' :: d :: cs) = broken .noColon :=
          readFrom.eq_24 n '\x00' d cs hclose hcolon
        rw [hbroken] at h
        exact absurd h (not_isAccepted_broken _)

/-- Behind the name of an accepted field comes a mark, and then the closing brace. -/
theorem exists_of_isAccepted_name (h : IsAccepted (readFrom (.name n) cs)) :
    ∃ w, ∃ mark ∈ marks, ∃ rest, cs = w ++ (mark ++ '}' :: rest) ∧
      IsAccepted (cons (.field (n ++ w) none []) (readFrom .text rest)) := by
  induction cs generalizing n with
  | nil => exact absurd h (not_isAccepted_broken _)
  | cons c cs ih =>
      by_cases hc : isNameChar c = true
      · rw [readFrom_name_char hc] at h
        obtain ⟨w, mark, hmark, rest, rfl, hrest⟩ := ih h
        rw [List.append_assoc, List.singleton_append] at hrest
        exact ⟨c :: w, mark, hmark, rest, rfl, hrest⟩
      · have hmem : c = '{' ∨ c = '}' ∨ c = '!' ∨ c = ':' ∨ c = '[' := by
          simpa [isNameChar, or_iff_not_imp_left] using hc
        refine ⟨[], ?_⟩
        rw [List.append_nil]
        rcases hmem with rfl | rfl | rfl | rfl | rfl
        · exact absurd h (not_isAccepted_broken _)
        · exact ⟨[], by simp [marks], cs, rfl, h⟩
        · obtain ⟨mark, hmark, rest, rfl, hrest⟩ := exists_of_isAccepted_conversion h
          exact ⟨'!' :: mark, hmark, rest, rfl, hrest⟩
        · obtain ⟨rest, rfl, hrest⟩ := exists_of_isAccepted_format h
          exact ⟨[':'], by simp [marks], rest, rfl, hrest⟩
        · exact absurd h (not_isAccepted_of_isLost (.bracket (n ++ ['['])) (List.mem_append_right n (by simp)))

/-- A field of an accepted template is a slot of the grammar, and the rest is accepted. -/
theorem exists_slot_of_isAccepted (h : IsAccepted (readFrom (.name []) cs)) :
    ∃ s : Slot, ∃ mark ∈ marks, ∃ rest, cs = s.name.toList ++ (mark ++ '}' :: rest) ∧ IsAccepted (read rest) := by
  obtain ⟨w, mark, hmark, rest, rfl, hfield⟩ := exists_of_isAccepted_name h
  obtain ⟨hbare, hrest⟩ := isAccepted_cons hfield
  obtain ⟨s, rfl⟩ := exists_slot_of_mem hbare.1
  exact ⟨s, mark, hmark, rest, rfl, hrest⟩

theorem exists_of_isAccepted_close (h : IsAccepted (read ('}' :: cs))) :
    ∃ rest, cs = '}' :: rest ∧ IsAccepted (read rest) := by
  by_cases hhead : cs.head? = some '}'
  · obtain ⟨rest, rfl⟩ := List.head?_eq_some_iff.1 hhead
    exact ⟨rest, rfl, (isAccepted_cons h).2⟩
  · have hbroken : read ('}' :: cs) = broken .singleClose := by
      cases cs with
      | nil => rfl
      | cons d cs => exact readFrom.eq_7 (d :: cs) (List.cons_ne_nil d cs) fun rest he => hhead (by rw [he]; rfl)
    rw [hbroken] at h
    exact absurd h (not_isAccepted_broken _)

theorem exists_of_isAccepted_open (h : IsAccepted (read ('{' :: cs))) :
    (∃ rest, cs = '{' :: rest ∧ IsAccepted (read rest)) ∨ IsAccepted (readFrom (.name []) cs) := by
  by_cases hhead : cs.head? = some '{'
  · obtain ⟨rest, rfl⟩ := List.head?_eq_some_iff.1 hhead
    exact .inl ⟨rest, rfl, (isAccepted_cons h).2⟩
  · refine .inr ?_
    cases cs with
    | nil => exact absurd h (not_isAccepted_broken _)
    | cons d cs => rwa [read, readFrom_text_open (List.cons_ne_nil d cs) hhead] at h

/-- An accepted template is written by the grammar. -/
theorem exists_written_of_isAccepted (h : IsAccepted (read cs)) : ∃ ps, Written cs ps := by
  -- A field takes more than one character, so that the induction is on the length of the text.
  induction hlength : cs.length using Nat.strong_induction_on generalizing cs with
  | _ length ih =>
      subst hlength
      cases cs with
      | nil => exact ⟨[], .nil⟩
      | cons c cs =>
          by_cases hopen : c = '{'
          · subst hopen
            rcases exists_of_isAccepted_open h with ⟨rest, rfl, hrest⟩ | hname
            · obtain ⟨ps, hps⟩ := ih rest.length (by simp only [List.length_cons]; omega) hrest rfl
              exact ⟨_, .opening hps⟩
            · obtain ⟨s, mark, hmark, rest, rfl, hrest⟩ := exists_slot_of_isAccepted hname
              obtain ⟨ps, hps⟩ := ih rest.length (by simp; omega) hrest rfl
              exact ⟨_, .slot s hmark hps⟩
          by_cases hclose : c = '}'
          · subst hclose
            obtain ⟨rest, rfl, hrest⟩ := exists_of_isAccepted_close h
            obtain ⟨ps, hps⟩ := ih rest.length (by simp only [List.length_cons]; omega) hrest rfl
            exact ⟨_, .closing hps⟩
          · rw [read, readFrom_text_char hopen hclose] at h
            obtain ⟨ps, hps⟩ := ih cs.length (by simp) (isAccepted_cons h).2 rfl
            exact ⟨_, .char hopen hclose hps⟩

/-! ## The fields of written templates -/

theorem Slot.isBareName (s : Slot) : Text.isBareName s.name.toList = true := by
  cases s <;> decide

theorem Slot.name_mem (s : Slot) : s.name ∈ Rule.templateFields := by
  cases s <;> decide

theorem exists_names_eq_ok (ps : List Part) :
    ∃ ns, names (ps.map Part.piece) = .ok ns ∧ ∀ n ∈ ns, n ∈ Rule.templateFields := by
  induction ps with
  | nil => exact ⟨[], rfl, by simp⟩
  | cons p ps ih =>
      obtain ⟨ns, hns, hknown⟩ := ih
      cases p with
      | char c => exact ⟨ns, hns, hknown⟩
      | slot s =>
          have hnames : names ((Part.slot s :: ps).map Part.piece) = .ok (s.name :: ns) := by
            rw [List.map_cons, Part.piece, names, s.isBareName, hns, String.ofList_toList]
            rfl
          exact ⟨s.name :: ns, hnames, List.forall_mem_cons.2 ⟨s.name_mem, hknown⟩⟩

end Template

namespace Rule

open Template

/-- A template is accepted exactly if it is written by the grammar. -/
theorem templateFault?_eq_none_iff {r : Rule} :
    r.templateFault? = none ↔ ∃ ps, Written r.message.toList ps := by
  constructor
  · intro h
    obtain ⟨ns, hns, hknown⟩ := fieldNames_of_templateFault? h
    obtain ⟨hnames, hfault⟩ := fieldNames_eq_ok hns
    exact exists_written_of_isAccepted ⟨hfault, fun p hp => (isBare_of_names hnames p hp).mono hknown⟩
  · rintro ⟨ps, h⟩
    obtain ⟨ns, hns, hknown⟩ := exists_names_eq_ok ps
    have hfields : fieldNames r.message = .ok ns := by
      simp only [fieldNames, read_of_written h, hns]
    simpa [templateFault?, hfields, List.filter_eq_nil_iff] using hknown

theorem fieldValue_name (r : Rule) (m : Mismatch) (s : Slot) : r.fieldValue m s.name = some (s.text r.id m) := by
  cases s with
  | value => exact r.fieldValue_value m
  | expected => exact r.fieldValue_expected m
  | detail => exact r.fieldValue_detail m
  | ruleId => simp [fieldValue, Slot.name, Slot.text]

theorem fill_piece (r : Rule) (m : Mismatch) (p : Part) : fill (r.fieldValue m) p.piece = p.text r.id m := by
  cases p with
  | char c => rfl
  | slot s => rw [Part.piece, fill, String.ofList_toList, fieldValue_name, Option.getD_some, Part.text]

/-- A message shows the parts of its template, each of them once. -/
theorem render_of_written {r : Rule} {ps : List Part} (h : Written r.message.toList ps) (m : Mismatch) :
    r.render m = .ok (String.ofList (ps.flatMap (Part.text r.id m))) := by
  rw [render_eq_ok (templateFault?_eq_none_iff.2 ⟨ps, h⟩), read_of_written h, List.flatMap_map]
  simp only [fill_piece]

end Rule

namespace RuleSet

open Template

/-- The template of a rule of a rule set has its parts in one way, and the message about a mismatch is what the parts
show: the characters that stand for themselves, a doubled brace as one, and the values of the fields as they are. -/
theorem render_of_ofRules {rs : List Rule} {s : RuleSet} (h : ofRules rs = .ok s) {r : Rule} (hr : r ∈ rs) :
    ∃ ps, (∀ qs, Written r.message.toList qs ↔ qs = ps) ∧
      ∀ m, r.render m = .ok (String.ofList (ps.flatMap (Part.text r.id m))) := by
  obtain rfl := rules_of_ofRules h
  obtain ⟨-, htemplate, -⟩ := Rule.eq_none_of_fault? (s.sound r hr)
  obtain ⟨ps, hps⟩ := Rule.templateFault?_eq_none_iff.1 htemplate
  refine ⟨ps, fun qs => ⟨fun hqs => hqs.unique hps, fun he => he ▸ hps⟩, fun m => ?_⟩
  exact Rule.render_of_written hps m

/-- A rule with a template of braces and adjacent fields. -/
def bracesRule : Rule :=
  { id := "Braces", category := .commitMessage, matcher := "commit_separator"
    message := "\x7b\x7b\x7bvalue:\x7d\x7bdetail\x7d\x7d\x7d", severity := .warning, description := ""
    params := [], enabled := true }

theorem render_bracesRule : (∃ s, ofRules [bracesRule] = .ok s) ∧
    bracesRule.render ⟨"\x7bexpected\x7d", "x", none, "\x7d\x7b"⟩ =
      .ok "\x7b\x7bexpected\x7d\x7d\x7b\x7d" := by
  have hd : ([bracesRule].map Rule.id).Nodup := by decide
  have hs : ∀ r ∈ [bracesRule], r.fault? = none := by decide +kernel
  have h := ofRules_of_sound hd hs
  obtain ⟨ps, hps, hrender⟩ := render_of_ofRules h (List.mem_singleton_self bracesRule)
  have hwritten : Written bracesRule.message.toList [.char '{', .slot .value, .slot .detail, .char '}'] :=
    .opening (.slot .value (by decide : [':'] ∈ marks) (.slot .detail (by decide : [] ∈ marks) (.closing .nil)))
  obtain rfl := (hps _).1 hwritten
  exact ⟨⟨_, h⟩, (hrender _).trans (by decide)⟩

end RuleSet

end Conventions
