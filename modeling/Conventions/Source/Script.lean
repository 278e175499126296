import Conventions.Source.Declaration
import Conventions.Text.Blank
import Conventions.Text.Lines
import Conventions.Text.Word

/-!
# Scripts

A line of a script declares an identifier if, after blanks, it starts with a keyword, blanks and a word.
A variable or a function may have annotations and the word `static` in front of the keyword.
-/

namespace Conventions.Script

/-- The rest of a text after a word at its start. -/
def after? (word cs : List Char) : Option (List Char) :=
  if word.isPrefixOf cs then some (cs.drop word.length) else none

/-- The rest of a text after one or more blanks. -/
def blanks? : List Char → Option (List Char)
  | [] => none
  | c :: cs => if Text.isBlank c then some (Text.trimStart cs) else none

/-- The rest of a text after parentheses at its start, or all of it if there are none. -/
def skipArguments : List Char → List Char
  | '(' :: cs =>
    match cs.dropWhile (· ≠ ')') with
    | _ :: rest => rest
    | [] => '(' :: cs
  | cs => cs

/-- The rest of a text after an annotation: a word after `@`, optional arguments, and blanks. -/
def annotation? : List Char → Option (List Char)
  | '@' :: cs =>
    if (cs.takeWhile Text.isWord).isEmpty then none
    else blanks? (skipArguments (cs.dropWhile Text.isWord))
  | _ => none

theorem length_blanks? {cs rest : List Char} (h : blanks? cs = some rest) : rest.length < cs.length := by
  cases cs with
  | nil => cases h
  | cons c cs =>
      simp only [blanks?] at h
      split at h
      · obtain rfl := Option.some.inj h
        have := (List.dropWhile_suffix (l := cs) Text.isBlank).length_le
        simp only [Text.trimStart, List.length_cons]
        omega
      · cases h

theorem length_skipArguments (cs : List Char) : (skipArguments cs).length ≤ cs.length := by
  unfold skipArguments
  split
  · rename_i cs
    split
    · rename_i c rest h
      have := (List.dropWhile_suffix (l := cs) (· ≠ ')')).length_le
      rw [h] at this
      simp only [List.length_cons] at this ⊢
      omega
    · exact Nat.le_refl _
  · exact Nat.le_refl _

theorem length_annotation? {cs rest : List Char} (h : annotation? cs = some rest) :
    rest.length < cs.length := by
  unfold annotation? at h
  split at h
  · rename_i cs
    split at h
    · cases h
    · have h1 := length_blanks? h
      have h2 := length_skipArguments (cs.dropWhile Text.isWord)
      have h3 := (List.dropWhile_suffix (l := cs) Text.isWord).length_le
      simp only [List.length_cons]
      omega
  · cases h

/-- The rest of a text after all annotations at its start. -/
def skipAnnotations (cs : List Char) : List Char :=
  match _h : annotation? cs with
  | none => cs
  | some rest => skipAnnotations rest
termination_by cs.length
decreasing_by exact length_annotation? _h

/-- The rest of a text after the word `static` and blanks, or all of it if they are not there. -/
def skipStatic (cs : List Char) : List Char := ((after? "static".toList cs).bind blanks?).getD cs

/-- The word after a keyword and blanks. -/
def named? (keyword : String) (cs : List Char) : Option (List Char) :=
  ((after? keyword.toList cs).bind blanks?).bind fun rest =>
    let name := rest.takeWhile Text.isWord
    if name.isEmpty then none else some name

/-- A form of declarations: a keyword, what it declares, and whether annotations and the word `static` may
stand in front of it. -/
structure Form where
  keyword : String
  kind : IdentifierKind
  isAnnotated : Bool
deriving DecidableEq, Repr

/-- The forms of declarations, in the order in which they are tried. -/
def forms : List Form :=
  [⟨"var", .variable, true⟩, ⟨"const", .constant, false⟩, ⟨"func", .function, true⟩,
   ⟨"signal", .signal, false⟩, ⟨"class_name", .className, false⟩, ⟨"class", .className, false⟩]

/-- The name that a line declares in a form. -/
def Form.name? (f : Form) (line : List Char) : Option (List Char) :=
  let cs := Text.trimStart line
  named? f.keyword (if f.isAnnotated then skipStatic (skipAnnotations cs) else cs)

/-- The identifier that a line declares in the first of some forms. -/
def declaredIn? (fs : List Form) (line : List Char) : Option (List Char × IdentifierKind) :=
  fs.findSome? fun f => (f.name? line).map fun n => (n, f.kind)

/-- The identifier that a line declares; a blank line and a comment declare none. -/
def declared? (line : List Char) : Option (List Char × IdentifierKind) :=
  match Text.trimStart line with
  | [] => none
  | '#' :: _ => none
  | _ => declaredIn? forms line

/-- The declarations of a script. -/
def declarations (text : String) : List Declaration :=
  Declaration.ofLinesFrom declared? 1 (Text.lines text.toList)

end Conventions.Script
