import Conventions.RuleSet.Default
import Conventions.Proofs.Validation
import Mathlib.Data.List.Nodup

/-!
# Verdicts of diagnostics in another order

Aggregating sorts diagnostics by rule, span and message, and keeps the first one of each rule and span. Diagnostics
that tie stay in the order in which they come. So the order matters exactly if two different diagnostics tie and neither
of them gives way to one of its rule and span that is sorted before it. What never depends on the order are the rules,
spans and messages of a verdict; the severities may.
-/

namespace Conventions.RuleSet

variable {s : RuleSet} {ds es : List Diagnostic} {a b d e : Diagnostic}

/-! ## The order of diagnostics -/

theorem compareDiagnostics_eq_compareLex (s : RuleSet) : s.compareDiagnostics =
    compareLex (compareOn fun d => s.indexOf d.ruleId)
      (compareLex
        (compareLex (compareOn fun d => (d.span.getD ⟨-1, -1⟩).start)
          (compareOn fun d => (d.span.getD ⟨-1, -1⟩).stop))
        (compareOn Diagnostic.message)) := rfl

instance (s : RuleSet) : Std.TransCmp s.compareDiagnostics := by
  rw [compareDiagnostics_eq_compareLex]
  infer_instance

theorem notAfter_eq_isLE (s : RuleSet) (a b : Diagnostic) :
    s.notAfter a b = (s.compareDiagnostics a b).isLE := by
  unfold notAfter
  cases s.compareDiagnostics a b <;> rfl

theorem notAfter_trans (s : RuleSet) (a b c : Diagnostic) (hab : s.notAfter a b = true)
    (hbc : s.notAfter b c = true) : s.notAfter a c = true := by
  rw [notAfter_eq_isLE] at *
  exact Std.TransCmp.isLE_trans hab hbc

theorem notAfter_total (s : RuleSet) (a b : Diagnostic) : (s.notAfter a b || s.notAfter b a) = true := by
  have hswap : s.compareDiagnostics b a = (s.compareDiagnostics a b).swap := Std.OrientedCmp.eq_swap
  rw [notAfter_eq_isLE, notAfter_eq_isLE, hswap]
  cases s.compareDiagnostics a b <;> rfl

theorem compareDiagnostics_lt_of_notAfter_eq_false (h : s.notAfter a b = false) :
    s.compareDiagnostics b a = .lt := by
  rw [notAfter_eq_isLE] at h
  exact Std.OrientedCmp.lt_of_not_isLE (by simp [h])

/-- Diagnostics of which neither comes before the other one tie. -/
theorem compareDiagnostics_eq_of_not_lt (hab : s.compareDiagnostics a b ≠ .lt)
    (hba : s.compareDiagnostics b a ≠ .lt) : s.compareDiagnostics a b = .eq := by
  cases h : s.compareDiagnostics a b with
  | lt => exact absurd h hab
  | eq => rfl
  | gt => exact absurd (Std.OrientedCmp.gt_iff_lt.1 h) hba

theorem of_compareDiagnostics_eq (h : s.compareDiagnostics a b = .eq) :
    s.indexOf a.ruleId = s.indexOf b.ruleId ∧ a.span.getD ⟨-1, -1⟩ = b.span.getD ⟨-1, -1⟩ ∧
      a.message = b.message := by
  simp only [compareDiagnostics, compareSpans, Ordering.then_eq_eq, Std.LawfulEqCmp.compare_eq_iff_eq] at h
  obtain ⟨hindex, ⟨hstart, hstop⟩, hmessage⟩ := h
  refine ⟨hindex, ?_, hmessage⟩
  cases ha : a.span.getD ⟨-1, -1⟩
  cases hb : b.span.getD ⟨-1, -1⟩
  simp_all

/-! ## Dropping duplicates -/

section DropDuplicates

variable {taken : List (String × Option Span)}

theorem dropDuplicates_sublist : (dropDuplicates taken ds).Sublist ds := by
  induction ds generalizing taken with
  | nil => exact List.Sublist.refl _
  | cons a ds ih =>
      unfold dropDuplicates
      split
      · exact ih.cons a
      · exact ih.cons_cons a

theorem not_mem_of_mem_dropDuplicates (h : d ∈ dropDuplicates taken ds) : duplicateKey d ∉ taken := by
  induction ds generalizing taken with
  | nil => cases h
  | cons a ds ih =>
      unfold dropDuplicates at h
      split at h
      · exact ih h
      · rcases List.mem_cons.1 h with rfl | h
        · assumption
        · exact fun hd => ih h (List.mem_cons_of_mem _ hd)

theorem nodup_dropDuplicates : ((dropDuplicates taken ds).map duplicateKey).Nodup := by
  induction ds generalizing taken with
  | nil => exact List.nodup_nil
  | cons a ds ih =>
      unfold dropDuplicates
      split
      · exact ih
      · rw [List.map_cons, List.nodup_cons]
        refine ⟨?_, ih⟩
        intro hmem
        obtain ⟨d, hd, hkey⟩ := List.mem_map.1 hmem
        exact not_mem_of_mem_dropDuplicates hd (by simp [hkey])

theorem exists_mem_dropDuplicates (hd : d ∈ ds) (ht : duplicateKey d ∉ taken) :
    ∃ e ∈ dropDuplicates taken ds, duplicateKey e = duplicateKey d := by
  induction ds generalizing taken with
  | nil => cases hd
  | cons a ds ih =>
      unfold dropDuplicates
      by_cases ha : duplicateKey a = duplicateKey d
      · rw [if_neg (ha ▸ ht)]
        exact ⟨a, List.mem_cons_self, ha⟩
      · have hmem : d ∈ ds := (List.mem_cons.1 hd).resolve_left fun he => ha (he ▸ rfl)
        split
        · exact ih hmem ht
        · have ht' : duplicateKey d ∉ duplicateKey a :: taken := by simp [ht, Ne.symm ha]
          obtain ⟨e, he, hkey⟩ := ih hmem ht'
          exact ⟨e, List.mem_cons_of_mem a he, hkey⟩

/-- What is kept comes before everything else of its rule and span. -/
theorem rel_of_mem_dropDuplicates {R : Diagnostic → Diagnostic → Prop} (hR : ds.Pairwise R)
    (hd : d ∈ dropDuplicates taken ds) (he : e ∈ ds) (hkey : duplicateKey e = duplicateKey d) :
    e = d ∨ R d e := by
  induction ds generalizing taken with
  | nil => cases he
  | cons a ds ih =>
      obtain ⟨ha, hds⟩ := List.pairwise_cons.1 hR
      have ht := not_mem_of_mem_dropDuplicates hd
      unfold dropDuplicates at hd
      split at hd
      · rename_i hmem
        rcases List.mem_cons.1 he with rfl | he
        · exact absurd (hkey ▸ hmem) ht
        · exact ih hds hd he
      · rcases List.mem_cons.1 hd with rfl | hd
        · exact (List.mem_cons.1 he).imp_right (ha e)
        · rcases List.mem_cons.1 he with rfl | he
          · exact absurd (by simp [hkey]) (not_mem_of_mem_dropDuplicates hd)
          · exact ih hds hd he

theorem dropDuplicates_append_cons {before : List Diagnostic} (after : List Diagnostic)
    (ht : duplicateKey d ∉ taken) (hbefore : ∀ e ∈ before, duplicateKey e ≠ duplicateKey d) :
    ∃ xs ys, dropDuplicates taken (before ++ d :: after) = xs ++ d :: ys ∧ ∀ x ∈ xs, x ∈ before := by
  induction before generalizing taken with
  | nil =>
      refine ⟨[], dropDuplicates (duplicateKey d :: taken) after, ?_, nofun⟩
      rw [List.nil_append, dropDuplicates, if_neg ht, List.nil_append]
  | cons a before ih =>
      rw [List.forall_mem_cons] at hbefore
      rw [List.cons_append, dropDuplicates]
      split
      · obtain ⟨xs, ys, heq, hxs⟩ := ih ht hbefore.2
        exact ⟨xs, ys, heq, fun x hx => List.mem_cons_of_mem a (hxs x hx)⟩
      · have ht' : duplicateKey d ∉ duplicateKey a :: taken := by simp [ht, Ne.symm hbefore.1]
        obtain ⟨xs, ys, heq, hxs⟩ := ih ht' hbefore.2
        exact ⟨a :: xs, ys, by rw [heq, List.cons_append],
          List.forall_mem_cons.2 ⟨List.mem_cons_self, fun x hx => List.mem_cons_of_mem a (hxs x hx)⟩⟩

end DropDuplicates

/-! ## What a verdict keeps -/

/-- Whether a diagnostic is dropped in every order: another one of its rule and span is sorted before it. -/
def GivesWay (s : RuleSet) (ds : List Diagnostic) (d : Diagnostic) : Prop :=
  ∃ e ∈ ds, duplicateKey e = duplicateKey d ∧ s.compareDiagnostics e d = .lt

/-- Whether diagnostics that tie are the same, apart from those that give way. -/
def TiesAgree (s : RuleSet) (ds : List Diagnostic) : Prop :=
  ∀ a ∈ ds, ∀ b ∈ ds, s.compareDiagnostics a b = .eq → ¬s.GivesWay ds a → ¬s.GivesWay ds b → a = b

/-- What a diagnostic says, apart from its severity. -/
def content (d : Diagnostic) : String × Option Span × String := (d.ruleId, d.span, d.message)

theorem givesWay_perm (h : es.Perm ds) : s.GivesWay es d ↔ s.GivesWay ds d := by
  simp only [GivesWay, h.mem_iff]

theorem mem_of_mem_aggregate (h : d ∈ (s.aggregate ds).diagnostics) : d ∈ ds :=
  List.mem_mergeSort.1 (dropDuplicates_sublist.subset h)

theorem not_givesWay_of_mem_aggregate (h : d ∈ (s.aggregate ds).diagnostics) : ¬s.GivesWay ds d := by
  rintro ⟨e, he, hkey, hlt⟩
  have hsorted := List.pairwise_mergeSort s.notAfter_trans s.notAfter_total ds
  rcases rel_of_mem_dropDuplicates hsorted h (List.mem_mergeSort.2 he) hkey with rfl | hle
  · have hself : s.compareDiagnostics e e = .eq := Std.ReflCmp.compare_self
    simp [hself] at hlt
  · rw [notAfter_eq_isLE] at hle
    exact Std.OrientedCmp.not_isLE_of_lt hlt hle

theorem exists_mem_aggregate (s : RuleSet) (h : d ∈ ds) :
    ∃ e ∈ (s.aggregate ds).diagnostics, duplicateKey e = duplicateKey d :=
  exists_mem_dropDuplicates (List.mem_mergeSort.2 h) (by simp)

theorem pairwise_aggregate (s : RuleSet) (ds : List Diagnostic) :
    (s.aggregate ds).diagnostics.Pairwise fun a b => s.notAfter a b = true :=
  (List.pairwise_mergeSort s.notAfter_trans s.notAfter_total ds).sublist dropDuplicates_sublist

/-- Two orders keep diagnostics that tie, of each rule and span. -/
theorem tie_of_mem_aggregate (h : es.Perm ds) (hd : d ∈ (s.aggregate es).diagnostics)
    (he : e ∈ (s.aggregate ds).diagnostics) (hkey : duplicateKey d = duplicateKey e) :
    s.compareDiagnostics d e = .eq := by
  apply compareDiagnostics_eq_of_not_lt
  · intro hlt
    exact not_givesWay_of_mem_aggregate he ⟨d, h.subset (mem_of_mem_aggregate hd), hkey, hlt⟩
  · intro hlt
    exact not_givesWay_of_mem_aggregate hd ⟨e, h.symm.subset (mem_of_mem_aggregate he), hkey.symm, hlt⟩

theorem content_mem_of_perm (h : es.Perm ds) (hd : d ∈ (s.aggregate es).diagnostics) :
    content d ∈ (s.aggregate ds).diagnostics.map content := by
  obtain ⟨e, he, hkey⟩ := s.exists_mem_aggregate (h.subset (mem_of_mem_aggregate hd))
  obtain ⟨_, _, hmessage⟩ := of_compareDiagnostics_eq (tie_of_mem_aggregate h hd he hkey.symm)
  obtain ⟨hid, hspan⟩ := Prod.mk.inj hkey
  exact List.mem_map.2 ⟨e, he, by rw [content, content, hid, hspan, hmessage]⟩

theorem nodup_content_aggregate (s : RuleSet) (ds : List Diagnostic) :
    ((s.aggregate ds).diagnostics.map content).Nodup := by
  have hkeys : ((s.aggregate ds).diagnostics.map duplicateKey).Nodup := nodup_dropDuplicates
  rw [List.nodup_iff_pairwise_ne, List.pairwise_map] at hkeys ⊢
  apply hkeys.imp
  intro a b hne heq
  obtain ⟨hid, hrest⟩ := Prod.mk.inj heq
  exact hne (Prod.ext hid (Prod.mk.inj hrest).1)

/-- The rules, spans and messages of a verdict are the same in every order. -/
theorem content_aggregate_perm (h : es.Perm ds) :
    ((s.aggregate es).diagnostics.map content).Perm ((s.aggregate ds).diagnostics.map content) := by
  rw [List.perm_ext_iff_of_nodup (s.nodup_content_aggregate es) (s.nodup_content_aggregate ds)]
  intro c
  constructor
  · intro hc
    obtain ⟨d, hd, rfl⟩ := List.mem_map.1 hc
    exact content_mem_of_perm h hd
  · intro hc
    obtain ⟨d, hd, rfl⟩ := List.mem_map.1 hc
    exact content_mem_of_perm h.symm hd

/-! ## Orders that give the same verdict -/

theorem mem_aggregate_of_tiesAgree (hties : s.TiesAgree ds) (h : es.Perm ds)
    (hd : d ∈ (s.aggregate es).diagnostics) : d ∈ (s.aggregate ds).diagnostics := by
  have hmem := h.subset (mem_of_mem_aggregate hd)
  obtain ⟨e, he, hkey⟩ := s.exists_mem_aggregate hmem
  have heq : d = e := hties d hmem e (mem_of_mem_aggregate he) (tie_of_mem_aggregate h hd he hkey.symm)
    (fun hw => not_givesWay_of_mem_aggregate hd ((givesWay_perm h).2 hw)) (not_givesWay_of_mem_aggregate he)
  exact heq ▸ he

theorem tiesAgree_perm (h : es.Perm ds) : s.TiesAgree es ↔ s.TiesAgree ds := by
  simp only [TiesAgree, h.mem_iff, givesWay_perm h]

theorem aggregate_eq_of_tiesAgree (hties : s.TiesAgree ds) (h : es.Perm ds) :
    s.aggregate es = s.aggregate ds := by
  have hnodup (fs : List Diagnostic) : (s.aggregate fs).diagnostics.Nodup :=
    (s.nodup_content_aggregate fs).of_map content
  have hperm : (s.aggregate es).diagnostics.Perm (s.aggregate ds).diagnostics := by
    rw [List.perm_ext_iff_of_nodup (hnodup es) (hnodup ds)]
    intro d
    exact ⟨mem_aggregate_of_tiesAgree hties h, mem_aggregate_of_tiesAgree ((tiesAgree_perm h).2 hties) h.symm⟩
  -- two lists in order with the same diagnostics are the same, as those that tie are
  have heq : (s.aggregate es).diagnostics = (s.aggregate ds).diagnostics := by
    refine List.Perm.eq_of_pairwise ?_ (s.pairwise_aggregate es) (s.pairwise_aggregate ds) hperm
    intro a b ha hb hab hba
    rw [notAfter_eq_isLE] at hab hba
    refine hties a (mem_of_mem_aggregate (hperm.subset ha)) b (mem_of_mem_aggregate hb) ?_ ?_ ?_
    · exact Std.OrientedCmp.isLE_antisymm hab hba
    · exact not_givesWay_of_mem_aggregate (hperm.subset ha)
    · exact not_givesWay_of_mem_aggregate hb
  exact congrArg Verdict.mk heq

/-- Of the diagnostics that tie, the one that comes first stays first. -/
theorem aggregate_cons (h : ¬s.GivesWay (d :: ds) d) : ∃ xs ys,
    (s.aggregate (d :: ds)).diagnostics = xs ++ d :: ys ∧ ∀ x ∈ xs, s.compareDiagnostics x d = .lt := by
  obtain ⟨before, after, hsort, hrest, hbefore⟩ :=
    List.mergeSort_cons s.notAfter_trans s.notAfter_total d ds
  have hlt : ∀ e ∈ before, s.compareDiagnostics e d = .lt := by
    intro e he
    exact compareDiagnostics_lt_of_notAfter_eq_false (by simpa using hbefore e he)
  have hkeys : ∀ e ∈ before, duplicateKey e ≠ duplicateKey d := by
    intro e he hkey
    have hmem : e ∈ ds := List.mem_mergeSort.1 (hrest ▸ List.mem_append_left after he)
    exact h ⟨e, List.mem_cons_of_mem d hmem, hkey, hlt e he⟩
  obtain ⟨xs, ys, heq, hxs⟩ := dropDuplicates_append_cons after List.not_mem_nil hkeys
  refine ⟨xs, ys, ?_, fun x hx => hlt x (hxs x hx)⟩
  rw [← heq, ← hsort]
  rfl

theorem eq_of_first_of_tie {fs as bs xs ys : List Diagnostic} (ha : fs = as ++ a :: xs)
    (hb : fs = bs ++ b :: ys) (has : ∀ x ∈ as, s.compareDiagnostics x a = .lt)
    (hbs : ∀ x ∈ bs, s.compareDiagnostics x b = .lt) (h : s.compareDiagnostics a b = .eq) : a = b := by
  have hba : s.compareDiagnostics b a = .eq := Std.OrientedCmp.eq_comm.1 h
  have hb' : b ∉ as := fun hmem => by simp [has b hmem] at hba
  have ha' : a ∉ bs := fun hmem => by simp [hbs a hmem] at h
  rw [ha] at hb
  rcases List.append_eq_append_iff.1 hb with ⟨cs, rfl, hcs⟩ | ⟨cs, rfl, hcs⟩
  · cases cs with
    | nil => exact (List.cons.inj hcs).1
    | cons c cs =>
        rw [(List.cons.inj hcs).1] at ha'
        exact absurd (by simp) ha'
  · cases cs with
    | nil => exact (List.cons.inj hcs).1.symm
    | cons c cs =>
        rw [(List.cons.inj hcs).1] at hb'
        exact absurd (by simp) hb'

theorem tiesAgree_of_forall_perm (h : ∀ es, es.Perm ds → s.aggregate es = s.aggregate ds) :
    s.TiesAgree ds := by
  intro a ha b hb htie hawins hbwins
  have hpa := (List.perm_cons_erase ha).symm
  have hpb := (List.perm_cons_erase hb).symm
  obtain ⟨as, xs, heqa, has⟩ := aggregate_cons (s := s) fun hw => hawins ((givesWay_perm hpa).1 hw)
  obtain ⟨bs, ys, heqb, hbs⟩ := aggregate_cons (s := s) fun hw => hbwins ((givesWay_perm hpb).1 hw)
  rw [h _ hpa] at heqa
  rw [h _ hpb] at heqb
  exact eq_of_first_of_tie heqa heqb has hbs htie

/-! ## Diagnostics of known rules -/

theorem ruleId_eq_of_indexOf_eq (ha : s.contains a.ruleId = true)
    (h : s.indexOf a.ruleId = s.indexOf b.ruleId) : a.ruleId = b.ruleId :=
  (List.idxOf_inj (List.contains_iff_mem.1 ha)).1 h

theorem content_eq_of_tie (hida : s.contains a.ruleId = true) (ha : a.span ≠ some ⟨-1, -1⟩)
    (hb : b.span ≠ some ⟨-1, -1⟩) (h : s.compareDiagnostics a b = .eq) : content a = content b := by
  obtain ⟨hindex, hspan, hmessage⟩ := of_compareDiagnostics_eq h
  have hspans : a.span = b.span := by
    cases hsa : a.span <;> cases hsb : b.span <;> simp_all
  rw [content, content, ruleId_eq_of_indexOf_eq hida hindex, hspans, hmessage]

theorem tiesAgree_of_known (hknown : ∀ d ∈ ds, s.contains d.ruleId = true ∧ d.span ≠ some ⟨-1, -1⟩)
    (hseverity : ∀ a ∈ ds, ∀ b ∈ ds, content a = content b → a.severity = b.severity) :
    s.TiesAgree ds := by
  intro a ha b hb htie _ _
  have hcontent := content_eq_of_tie (hknown a ha).1 (hknown a ha).2 (hknown b hb).2 htie
  have hsame := hseverity a ha b hb hcontent
  cases a
  cases b
  simp_all [content]

/-- Diagnostics have the same verdict in every order exactly if those that tie agree, which they do if their rules are
known, their spans are parts of a text, and diagnostics that say the same have one severity. In every order the verdict
has the same rules, spans and messages. -/
theorem aggregate_of_perm (s : RuleSet) (ds : List Diagnostic) :
    ((∀ es, es.Perm ds → s.aggregate es = s.aggregate ds) ↔ s.TiesAgree ds) ∧
      ((∀ d ∈ ds, s.contains d.ruleId = true ∧ d.span ≠ some ⟨-1, -1⟩) →
        (∀ a ∈ ds, ∀ b ∈ ds, content a = content b → a.severity = b.severity) →
          ∀ es, es.Perm ds → s.aggregate es = s.aggregate ds) ∧
      ∀ es, es.Perm ds →
        ((s.aggregate es).diagnostics.map content).Perm ((s.aggregate ds).diagnostics.map content) := by
  refine ⟨⟨tiesAgree_of_forall_perm, fun h es hperm => aggregate_eq_of_tiesAgree h hperm⟩, ?_, ?_⟩
  · intro hknown hseverity es hperm
    exact aggregate_eq_of_tiesAgree (tiesAgree_of_known hknown hseverity) hperm
  · intro es hperm
    exact content_aggregate_perm hperm

/-- Findings of two default rules, one of them reported twice. -/
def mixedFindings : List Diagnostic :=
  [⟨"Path.UnknownRoot", .error, "lost", none⟩, ⟨"Commit.UnknownType", .warning, "late", some ⟨4, 5⟩⟩,
    ⟨"Commit.UnknownType", .error, "early", some ⟨0, 3⟩⟩, ⟨"Path.UnknownRoot", .error, "lost", none⟩]

theorem aggregate_mixedFindings :
    RuleSet.default.aggregate mixedFindings.reverse = RuleSet.default.aggregate mixedFindings := by
  obtain ⟨_, hknown, _⟩ := aggregate_of_perm RuleSet.default mixedFindings
  exact hknown (by decide +kernel) (by decide +kernel) _ (List.reverse_perm _)

theorem aggregate_pair (hkey : duplicateKey a = duplicateKey b) (htie : s.compareDiagnostics a b = .eq) :
    s.aggregate [a, b] = ⟨[a]⟩ := by
  have hsort : [a, b].mergeSort s.notAfter = [a, b] := by
    apply List.mergeSort_of_pairwise
    simp [notAfter, htie]
  rw [aggregate, hsort]
  simp [dropDuplicates, hkey]

/-- The same finding as an error and as a warning: the one that comes first is kept, so that one order blocks and the
other one does not. -/
theorem aggregate_swapped : ¬∀ (s : RuleSet) (ds es : List Diagnostic), es.Perm ds →
    (s.aggregate es).ok = (s.aggregate ds).ok ∧
      (s.aggregate es).diagnostics = (s.aggregate ds).diagnostics := by
  intro h
  have herror := aggregate_pair (s := RuleSet.default) (a := ⟨"Commit.UnknownType", .error, "x", none⟩)
    (b := ⟨"Commit.UnknownType", .warning, "x", none⟩) rfl (by simp [compareDiagnostics, compareSpans])
  have hwarning := aggregate_pair (s := RuleSet.default) (a := ⟨"Commit.UnknownType", .warning, "x", none⟩)
    (b := ⟨"Commit.UnknownType", .error, "x", none⟩) rfl (by simp [compareDiagnostics, compareSpans])
  have hok := (h RuleSet.default _ _ (List.Perm.swap ⟨"Commit.UnknownType", .error, "x", none⟩
    ⟨"Commit.UnknownType", .warning, "x", none⟩ [])).1
  rw [herror, hwarning] at hok
  cases hok

end Conventions.RuleSet
