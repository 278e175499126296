import Conventions.Proofs.Lines

/-!
# Workflow commands

A workflow command is read back from its line: the file is the text from `file=` on up to a comma, and the message is
what follows the second pair of colons, with its escapes undone. The message and the title are escaped, so that they do
not break the line. The file is not, and neither are the colons of the title.
-/

namespace Conventions

/-! ## Texts behind a word -/

namespace Text

/-- What follows the first occurrence of a word, if there is one. -/
def afterWord? (w : List Char) : List Char → Option (List Char)
  | [] => if w = [] then some [] else none
  | c :: cs => if w <+: c :: cs then some ((c :: cs).drop w.length) else afterWord? w cs

variable {w cs rest : List Char}

/-- A word follows a text in which it does not begin. -/
theorem afterWord?_append (hne : w ≠ []) (h : ¬w <:+: cs ++ w.dropLast) :
    afterWord? w (cs ++ (w ++ rest)) = some rest := by
  induction cs with
  | nil =>
      obtain ⟨c, w, rfl⟩ := List.exists_cons_of_ne_nil hne
      rw [List.nil_append, List.cons_append, afterWord?, ← List.cons_append, if_pos (List.prefix_append _ _),
        List.drop_left]
  | cons c cs ih =>
      rw [List.cons_append, List.infix_cons_iff, not_or] at h
      have hprefix : ¬w <+: c :: (cs ++ (w ++ rest)) := by
        intro hw
        -- the word is no longer than the text with all but its last character
        have htext : c :: (cs ++ w.dropLast) <+: c :: (cs ++ (w ++ rest)) := by
          rw [List.cons_prefix_cons, List.prefix_append_right_inj]
          exact ⟨rfl, (List.dropLast_prefix w).trans (List.prefix_append w rest)⟩
        refine h.1 (List.prefix_of_prefix_length_le hw htext ?_)
        rw [List.length_cons, List.length_append, List.length_dropLast]
        omega
      rw [List.cons_append, afterWord?, if_neg hprefix, ih h.2]

/-- What follows the first occurrence in a text grows with the text. -/
theorem exists_afterWord?_append (hne : w ≠ []) (h : w <:+: cs) :
    ∃ t, ∀ rest, afterWord? w (cs ++ rest) = some (t ++ rest) := by
  induction cs with
  | nil => exact absurd (List.infix_nil.1 h) hne
  | cons c cs ih =>
      by_cases hw : w <+: c :: cs
      · refine ⟨(c :: cs).drop w.length, fun rest => ?_⟩
        rw [List.cons_append, afterWord?, ← List.cons_append, if_pos (hw.trans (List.prefix_append _ _)),
          List.drop_append_of_le_length hw.length_le]
      · have hin : w <:+: cs := (List.infix_cons_iff.1 h).resolve_left hw
        obtain ⟨t, ht⟩ := ih hin
        refine ⟨t, fun rest => ?_⟩
        have hnot : ¬w <+: c :: (cs ++ rest) := by
          intro hprefix
          refine hw (List.prefix_of_prefix_length_le hprefix (List.prefix_append (c :: cs) rest) ?_)
          exact hin.length_le.trans (Nat.le_succ _)
        rw [List.cons_append, afterWord?, if_neg hnot, ht]

end Text

namespace Report

/-! ## Escapes -/

/-- Undoes the escapes of a text in a workflow command, from left to right. -/
def undoEscapes : List Char → List Char
  | [] => []
  | '%' :: '2' :: '5' :: cs => '%' :: undoEscapes cs
  | '%' :: '0' :: 'D' :: cs => '\r' :: undoEscapes cs
  | '%' :: '0' :: 'A' :: cs => '\n' :: undoEscapes cs
  | c :: cs => c :: undoEscapes cs

theorem undoEscapes_cons_of_ne {c : Char} (h : c ≠ '%') (cs : List Char) :
    undoEscapes (c :: cs) = c :: undoEscapes cs := by
  rw [undoEscapes] <;> (intros; contradiction)

theorem escapeDataChar_of_plain {c : Char} (h : ¬(c = '%' ∨ c = '\r' ∨ c = '\n')) :
    escapeDataChar c = [c] := by
  simp only [not_or] at h
  rw [escapeDataChar, if_neg h.1, if_neg h.2.1, if_neg h.2.2]

theorem undoEscapes_escapeDataChar (c : Char) (rest : List Char) :
    undoEscapes (escapeDataChar c ++ rest) = c :: undoEscapes rest := by
  by_cases h : c = '%' ∨ c = '\r' ∨ c = '\n'
  · rcases h with rfl | rfl | rfl <;> rfl
  · rw [escapeDataChar_of_plain h, List.singleton_append, undoEscapes_cons_of_ne fun hc => h (Or.inl hc)]

theorem undoEscapes_escape (cs : List Char) : undoEscapes (cs.flatMap escapeDataChar) = cs := by
  induction cs with
  | nil => rfl
  | cons c cs ih => rw [List.flatMap_cons, undoEscapes_escapeDataChar, ih]

theorem exists_eq_of_append_colon {a b : Char} {cs ds rest : List Char} (ha : a ≠ ':') (hb : b ≠ ':')
    (h : cs ++ ':' :: rest = a :: b :: ds) : ∃ es, cs = a :: b :: es := by
  match cs with
  | [] => exact absurd (List.cons.inj h).1.symm ha
  | [c] =>
      obtain ⟨_, htail⟩ := List.cons.inj h
      exact absurd (List.cons.inj htail).1.symm hb
  | c :: d :: es =>
      obtain ⟨rfl, htail⟩ := List.cons.inj h
      obtain ⟨rfl, _⟩ := List.cons.inj htail
      exact ⟨es, rfl⟩

/-- No escape goes across a colon. -/
theorem undoEscapes_append_colon (cs rest : List Char) :
    undoEscapes (cs ++ ':' :: rest) = undoEscapes cs ++ ':' :: undoEscapes rest := by
  fun_induction undoEscapes cs with
  | case1 => exact undoEscapes_cons_of_ne (by decide) rest
  | case2 cs ih => simp [undoEscapes, ih]
  | case3 cs ih => simp [undoEscapes, ih]
  | case4 cs ih => simp [undoEscapes, ih]
  | case5 c cs hpercent hreturn hnewline ih =>
      -- a character in front of a colon begins no escape that it did not begin without it
      have hnone {a b : Char} (hab : a ≠ ':' ∧ b ≠ ':') (h : ∀ es, c = '%' → cs = a :: b :: es → False) :
          ∀ ds, c = '%' → cs ++ ':' :: rest = a :: b :: ds → False := by
        intro ds hc hds
        obtain ⟨es, hcs⟩ := exists_eq_of_append_colon hab.1 hab.2 hds
        exact h es hc hcs
      rw [List.cons_append, undoEscapes, ih]
      · rfl
      · exact hnone (by decide) hpercent
      · exact hnone (by decide) hreturn
      · exact hnone (by decide) hnewline

theorem not_mem_escapeDataChar {c : Char} (h : c = '\n' ∨ c = '\r') (d : Char) :
    c ∉ escapeDataChar d := by
  by_cases hd : d = '%' ∨ d = '\r' ∨ d = '\n'
  · rcases h with rfl | rfl <;> rcases hd with rfl | rfl | rfl <;> decide
  · rw [escapeDataChar_of_plain hd, List.mem_singleton]
    rintro rfl
    exact hd (Or.inr h.symm)

theorem not_mem_escape {c : Char} (h : c = '\n' ∨ c = '\r') (cs : List Char) : c ∉ cs.flatMap escapeDataChar := by
  rw [List.mem_flatMap]
  rintro ⟨d, _, hd⟩
  exact not_mem_escapeDataChar h d hd

/-! ## Pairs of colons -/

/-- Whether two colons stand next to each other in a text. -/
def HasColons (cs : List Char) : Prop := [':', ':'] <:+: cs

variable {c : Char} {f cs rest : List Char}

theorem hasColons_cons_iff : HasColons (c :: cs) ↔ (c = ':' ∧ cs.head? = some ':') ∨ HasColons cs := by
  rw [HasColons, List.infix_cons_iff, List.cons_prefix_cons, eq_comm]
  cases cs with
  | nil => simp [HasColons]
  | cons d cs => simp [HasColons, eq_comm]

theorem hasColons_append_cons_iff (h : c ≠ ':') : HasColons (f ++ c :: rest) ↔ HasColons f ∨ HasColons rest :=
  Text.isInfix_append_sep_iff (by simpa using h) (List.cons_ne_nil _ _)

theorem hasColons_append_iff (h : ':' ∉ f) : HasColons (f ++ rest) ↔ HasColons rest := by
  induction f with
  | nil => rfl
  | cons c f ih =>
      rw [List.mem_cons, not_or] at h
      rw [List.cons_append, hasColons_cons_iff, ih h.2, or_iff_right fun hc => h.1 hc.1.symm]

theorem head?_escape_append (cs : List Char) :
    (cs.flatMap escapeDataChar ++ [':']).head? = some ':' ↔ (cs ++ [':']).head? = some ':' := by
  cases cs with
  | nil => rfl
  | cons c cs =>
      by_cases hc : c = '%' ∨ c = '\r' ∨ c = '\n'
      · rcases hc with rfl | rfl | rfl <;> simp [escapeDataChar]
      · simp [escapeDataChar_of_plain hc]

/-- Escaping neither makes nor breaks pairs of colons. -/
theorem hasColons_escape_iff (cs : List Char) :
    HasColons (cs.flatMap escapeDataChar ++ [':']) ↔ HasColons (cs ++ [':']) := by
  induction cs with
  | nil => rfl
  | cons c cs ih =>
      rw [List.flatMap_cons, List.append_assoc, List.cons_append, hasColons_cons_iff, ← ih]
      by_cases hc : c = '%' ∨ c = '\r' ∨ c = '\n'
      · have hescape : ':' ∉ escapeDataChar c := by rcases hc with rfl | rfl | rfl <;> decide
        have hcolon : c ≠ ':' := by rcases hc with rfl | rfl | rfl <;> decide
        rw [hasColons_append_iff hescape, or_iff_right fun h => hcolon h.1]
      · rw [escapeDataChar_of_plain hc, List.singleton_append, hasColons_cons_iff, head?_escape_append]

/-! ## The text of a command -/

variable {t : Target} {d : Diagnostic}

/-- How the command for a diagnostic begins. -/
def commandStart : Severity → List Char
  | .error => "::error ".toList
  | .warning => "::warning ".toList

/-- The properties in front of the title. -/
def placeText (t : Target) : List Char :=
  match t.file, t.line with
  | none, _ => []
  | some f, none => "file=".toList ++ (f.toList ++ [','])
  | some f, some n => "file=".toList ++ (f.toList ++ ',' :: ("line=".toList ++ ((toString n).toList ++ [','])))

/-- The characters of the command for a diagnostic. -/
def commandText (t : Target) (d : Diagnostic) : List Char :=
  commandStart d.severity ++ (placeText t ++ ("title=".toList ++ (d.ruleId.toList.flatMap escapeDataChar ++
    ':' :: ':' :: d.message.toList.flatMap escapeDataChar)))

theorem toList_command (t : Target) (d : Diagnostic) : (workflowCommand t d).toList = commandText t d := by
  have htext (s : String) : toString s = s := rfl
  have hproperties : (",".intercalate (commandProperties t d)).toList =
      placeText t ++ ("title=".toList ++ d.ruleId.toList.flatMap escapeDataChar) := by
    rw [Text.toList_intercalate_eq_join]
    unfold commandProperties placeText
    cases t.file with
    | none => simp [Text.join, escapeData, htext]
    | some f => cases t.line <;> simp [Text.join, escapeData, htext]
  have hstart (s : Severity) : "::" ++ (match s with | .error => "error" | .warning => "warning") ++ " " =
      String.ofList (commandStart s) := by
    cases s <;> decide
  have hcommand : workflowCommand t d = String.ofList (commandStart d.severity) ++
      ",".intercalate (commandProperties t d) ++ "::" ++ escapeData d.message :=
    congrArg (· ++ ",".intercalate (commandProperties t d) ++ "::" ++ escapeData d.message) (hstart d.severity)
  have hcolons : "::".toList = [':', ':'] := rfl
  rw [hcommand, String.toList_append, String.toList_append, String.toList_append, hproperties, hcolons,
    escapeData, commandText]
  simp only [String.toList_ofList, List.append_assoc, List.cons_append, List.nil_append]

theorem placeText_of_none (h : t.file = none) : placeText t = [] := by
  rw [placeText, h]

/-- Between the file and the title, nothing but a line number may stand. -/
theorem exists_placeText {f : String} (h : t.file = some f) :
    ∃ rest, placeText t = "file=".toList ++ (f.toList ++ ',' :: rest) ∧
      ∀ c, c = ':' ∨ c = '\n' ∨ c = '\r' → c ∉ rest := by
  rw [placeText, h]
  cases t.line with
  | none => exact ⟨[], rfl, fun _ _ => List.not_mem_nil⟩
  | some n =>
      refine ⟨"line=".toList ++ ((toString n).toList ++ [',']), rfl, fun c hc hmem => ?_⟩
      rw [List.mem_append, List.mem_append] at hmem
      rcases hmem with hname | hnumber | hcomma
      · rcases hc with rfl | rfl | rfl <;> exact absurd hname (by decide)
      · have hdigit := Scalar.isDigit_or_hyphen_of_mem_int hnumber
        rcases hc with rfl | rfl | rfl <;> exact absurd hdigit (by decide)
      · rcases hc with rfl | rfl | rfl <;> exact absurd hcomma (by decide)

theorem mem_placeText_iff (h : c = '\n' ∨ c = '\r') : c ∈ placeText t ↔ ∃ f ∈ t.file, c ∈ f.toList := by
  cases hfile : t.file with
  | none => simp [placeText_of_none hfile]
  | some f =>
      obtain ⟨rest, hplace, hrest⟩ := exists_placeText hfile
      have hname : c ∉ "file=".toList := by rcases h with rfl | rfl <;> decide
      have hcomma : c ≠ ',' := by rcases h with rfl | rfl <;> decide
      rw [hplace, List.mem_append, List.mem_append, List.mem_cons, or_iff_right hname,
        or_iff_left (not_or.2 ⟨hcomma, hrest c (Or.inr h)⟩)]
      simp

/-- The end of a line stands in a command only if it stands in the file. -/
theorem mem_commandText_iff (h : c = '\n' ∨ c = '\r') : c ∈ commandText t d ↔ ∃ f ∈ t.file, c ∈ f.toList := by
  have hstart : c ∉ commandStart d.severity := by
    cases d.severity <;> rcases h with rfl | rfl <;> decide
  have htitle : c ∉ "title=".toList := by rcases h with rfl | rfl <;> decide
  have hcolon : c ≠ ':' := by rcases h with rfl | rfl <;> decide
  have hrest : c ∉ "title=".toList ++ (d.ruleId.toList.flatMap escapeDataChar ++
      ':' :: ':' :: d.message.toList.flatMap escapeDataChar) := by
    simp only [List.mem_append, List.mem_cons, htitle, not_mem_escape h, hcolon, or_self, not_false_eq_true]
  rw [commandText, List.mem_append, or_iff_right hstart, List.mem_append, or_iff_left hrest, mem_placeText_iff h]

/-- What stands between the first and the second pair of colons, if there are no others. -/
def commandBody (t : Target) (d : Diagnostic) : List Char :=
  (commandStart d.severity).drop 2 ++
    (placeText t ++ ("title=".toList ++ d.ruleId.toList.flatMap escapeDataChar))

theorem commandText_eq (t : Target) (d : Diagnostic) : commandText t d =
    [':', ':'] ++ (commandBody t d ++ ([':', ':'] ++ d.message.toList.flatMap escapeDataChar)) := by
  have hstart : commandStart d.severity = [':', ':'] ++ (commandStart d.severity).drop 2 := by
    cases d.severity <;> decide
  rw [commandText, commandBody, hstart]
  simp only [List.append_assoc, List.cons_append, List.nil_append, List.drop_succ_cons, List.drop_zero]

theorem hasColons_commandBody_iff : HasColons (commandBody t d ++ [':']) ↔
    (∃ f ∈ t.file, HasColons f.toList) ∨ HasColons (d.ruleId.toList ++ [':']) := by
  have hstart : ':' ∉ (commandStart d.severity).drop 2 := by cases d.severity <;> decide
  have htitle : ':' ∉ "title=".toList := by decide
  have hid : HasColons ("title=".toList ++ (d.ruleId.toList.flatMap escapeDataChar ++ [':'])) ↔
      HasColons (d.ruleId.toList ++ [':']) := by
    rw [hasColons_append_iff htitle, hasColons_escape_iff]
  rw [commandBody, List.append_assoc, List.append_assoc, List.append_assoc, hasColons_append_iff hstart]
  cases hfile : t.file with
  | none =>
      rw [placeText_of_none hfile, List.nil_append, hid]
      simp
  | some f =>
      obtain ⟨rest, hplace, hrest⟩ := exists_placeText hfile
      have hname : ':' ∉ "file=".toList := by decide
      have hcolon : ':' ∉ rest := hrest ':' (Or.inl rfl)
      rw [hplace, List.append_assoc, List.append_assoc, List.cons_append, hasColons_append_iff hname,
        hasColons_append_cons_iff (by decide), hasColons_append_iff hcolon, hid]
      simp

/-! ## Reading commands -/

/-- The file in a workflow command. -/
def fileProperty? (line : List Char) : Option (List Char) :=
  (Text.afterWord? "file=".toList line).map (Text.before ',')

/-- The message in a workflow command. -/
def messagePart? (line : List Char) : Option (List Char) :=
  ((Text.afterWord? [':', ':'] line).bind (Text.afterWord? [':', ':'])).map undoEscapes

theorem fileProperty?_commandText {f : String} (h : t.file = some f) :
    fileProperty? (commandText t d) = some f.toList ↔ ',' ∉ f.toList := by
  obtain ⟨rest, hplace, _⟩ := exists_placeText h
  have hstart : ¬"file=".toList <:+: commandStart d.severity ++ "file=".toList.dropLast := by
    cases d.severity <;> decide
  rw [fileProperty?, commandText, hplace, List.append_assoc, Text.afterWord?_append (by decide) hstart,
    Option.map_some, Option.some.injEq, List.append_assoc, List.cons_append]
  constructor
  · intro hbefore
    rw [← hbefore]
    exact Text.not_mem_before ',' _
  · exact Text.before_append

theorem messagePart?_commandText :
    messagePart? (commandText t d) = some d.message.toList ↔ ¬HasColons (commandBody t d ++ [':']) := by
  have hfirst : ¬[':', ':'] <:+: [] ++ [':', ':'].dropLast := by decide
  have hbody : Text.afterWord? [':', ':'] (commandText t d) =
      some (commandBody t d ++ ([':', ':'] ++ d.message.toList.flatMap escapeDataChar)) := by
    rw [commandText_eq]
    exact Text.afterWord?_append (List.cons_ne_nil _ _) hfirst
  rw [messagePart?, hbody, Option.bind_some]
  constructor
  · intro hmessage hcolons
    obtain ⟨text, htext⟩ := Text.exists_afterWord?_append (List.cons_ne_nil _ _) hcolons
    have hrest := htext (':' :: d.message.toList.flatMap escapeDataChar)
    rw [List.append_assoc, List.singleton_append] at hrest
    rw [List.cons_append, List.singleton_append, hrest, Option.map_some, Option.some.injEq,
      undoEscapes_append_colon, undoEscapes_escape] at hmessage
    -- the colon is one character too many
    have hlength := congrArg List.length hmessage
    rw [List.length_append, List.length_cons] at hlength
    omega
  · intro hcolons
    rw [Text.afterWord?_append (List.cons_ne_nil _ _) hcolons, Option.map_some, undoEscapes_escape]

/-- Whether a line is the workflow command for a diagnostic. -/
structure IsCommandFor (t : Target) (d : Diagnostic) (line : List Char) : Prop where
  noReturn : '\r' ∉ line
  start : commandStart d.severity <+: line
  file : ∀ f ∈ t.file, fileProperty? line = some f.toList
  message : messagePart? line = some d.message.toList

/-- Whether the lines of an output are workflow commands, one for each diagnostic of a report and in order. -/
def Annotates (r : Report) (text : String) : Prop :=
  List.Forall₂ (fun x line => IsCommandFor x.1 x.2 line) r.diagnosed (outputLines text)

/-- Whether the file and the rule of a diagnostic need no escapes: the file has no end of a line, no comma and no pair of
colons, and the rule makes no pair of colons before the message. -/
structure NeedsNoEscapes (t : Target) (d : Diagnostic) : Prop where
  file : ∀ f ∈ t.file, '\n' ∉ f.toList ∧ '\r' ∉ f.toList ∧ ',' ∉ f.toList ∧ ¬HasColons f.toList
  rule : ¬HasColons (d.ruleId.toList ++ [':'])

theorem isCommandFor_commandText_iff :
    '\n' ∉ commandText t d ∧ IsCommandFor t d (commandText t d) ↔ NeedsNoEscapes t d := by
  have hnewline := mem_commandText_iff (t := t) (d := d) (c := '\n') (Or.inl rfl)
  have hreturn := mem_commandText_iff (t := t) (d := d) (c := '\r') (Or.inr rfl)
  have hmessage := messagePart?_commandText (t := t) (d := d)
  rw [hasColons_commandBody_iff, not_or] at hmessage
  constructor
  · rintro ⟨hn, hr, _, hfile, hm⟩
    obtain ⟨hcolons, hrule⟩ := hmessage.1 hm
    rw [hnewline] at hn
    rw [hreturn] at hr
    refine ⟨fun f hf => ⟨fun h => hn ⟨f, hf, h⟩, fun h => hr ⟨f, hf, h⟩, ?_, fun h => hcolons ⟨f, hf, h⟩⟩, hrule⟩
    exact (fileProperty?_commandText hf).1 (hfile f hf)
  · rintro ⟨hfile, hrule⟩
    refine ⟨?_, ?_, ?_, ?_, ?_⟩
    · rw [hnewline]
      rintro ⟨f, hf, h⟩
      exact (hfile f hf).1 h
    · rw [hreturn]
      rintro ⟨f, hf, h⟩
      exact (hfile f hf).2.1 h
    · rw [commandText]
      exact List.prefix_append _ _
    · intro f hf
      exact (fileProperty?_commandText hf).2 (hfile f hf).2.2.1
    · refine hmessage.2 ⟨?_, hrule⟩
      rintro ⟨f, hf, h⟩
      exact (hfile f hf).2.2.2 h

theorem command_ne_empty (t : Target) (d : Diagnostic) : workflowCommand t d ≠ "" := by
  rw [← String.toList_eq_nil_iff.ne, toList_command, commandText_eq]
  exact List.cons_ne_nil _ _

theorem annotates_github_iff {r : Report} : r.Annotates r.github ↔ ∀ x ∈ r.diagnosed, NeedsNoEscapes x.1 x.2 := by
  rw [Annotates, github, diagnosticLines_eq, forall₂_outputLines_iff fun x _ => command_ne_empty x.1 x.2]
  refine forall₂_congr fun x _ => ?_
  rw [toList_command, isCommandFor_commandText_iff]

/-- A report as workflow commands is empty exactly if it has no diagnostics. It has one command for each diagnostic, and
in order, exactly if no file and no rule of a diagnostic needs the escapes that only the message and the title get. -/
theorem github_commands (r : Report) :
    (r.github = "" ↔ r.errorCount + r.warningCount = 0) ∧
      (r.Annotates r.github ↔ ∀ x ∈ r.diagnosed, NeedsNoEscapes x.1 x.2) :=
  ⟨joinLines_diagnosticLines_eq_empty_iff command_ne_empty, annotates_github_iff⟩

/-- A file may have a line feed in its name, and the command about it is cut there. -/
theorem not_annotates_path : ¬∀ (c : Config) (items : List CheckItem) (skipped : Nat),
    (c.report items skipped).Annotates (c.report items skipped).github := by
  intro hannotates
  have hrules : Config.default.ruleSet.rules = rulesWith defaultParams := rfl
  have hsegments : Path.segments "levels/a\nb.txt" = ["levels", "a\nb.txt"] := by decide +kernel
  have hfinds : (Config.default.ruleSet.validate (.ofPath "levels/a\nb.txt" none)).diagnostics ≠ [] := by
    rw [Request.ofPath, hsegments, ne_eq, RuleSet.validate_default_eq_nil_iff hrules]
    intro hpasses
    exact absurd (hpasses .placementExtension (by decide)) (by decide)
  obtain ⟨d, hd⟩ := exists_mem_diagnosed (Config.pathItem none "levels/a\nb.txt") hfinds
  have hplain := annotates_github_iff.1 (hannotates .default [Config.pathItem none "levels/a\nb.txt"] 0) _ hd
  have hnewline : '\n' ∈ "levels/a\nb.txt".toList := by decide
  exact (hplain.file _ rfl).1 hnewline

end Report

end Conventions
