/-!
# Splitting and joining

Fields between separators, the part before the first separator, and the search for a text inside
another one. Splitting at a character always gives at least one field, and joining the fields with
that character gives the text back.
-/

namespace Conventions.Text

/-- The fields of a text between the occurrences of a separator. -/
def splitOn (sep : Char) : List Char → List (List Char)
  | [] => [[]]
  | c :: cs =>
    match splitOn sep cs with
    | [] => [[c]]
    | f :: fs => if c = sep then [] :: f :: fs else (c :: f) :: fs

/-- Joins fields with a separator between them. -/
def join (sep : List Char) : List (List Char) → List Char
  | [] => []
  | [f] => f
  | f :: fs => f ++ sep ++ join sep fs

/-- The part before the first occurrence of a character, or everything. -/
def before (sep : Char) (cs : List Char) : List Char := cs.takeWhile (· ≠ sep)

/-- The part after the first occurrence of a character, or nothing. -/
def after (sep : Char) (cs : List Char) : List Char := (cs.dropWhile (· ≠ sep)).drop 1

/-- Whether a text occurs inside another one. -/
def occursIn (needle : List Char) : List Char → Bool
  | [] => needle.isEmpty
  | c :: cs => needle.isPrefixOf (c :: cs) || occursIn needle cs

/-- Replaces every occurrence of a character by a text. -/
def replaceChar (c : Char) (by_ : List Char) (cs : List Char) : List Char :=
  cs.flatMap fun x => if x = c then by_ else [x]

/-- Lower case for the letters `A` to `Z`; every other character stays. -/
def lower (cs : List Char) : List Char := cs.map Char.toLower

theorem splitOn_ne_nil (sep : Char) (cs : List Char) : splitOn sep cs ≠ [] := by
  cases cs with
  | nil => simp [splitOn]
  | cons c cs =>
      unfold splitOn
      split
      · simp
      · split <;> simp

theorem join_splitOn (sep : Char) (cs : List Char) : join [sep] (splitOn sep cs) = cs := by
  induction cs with
  | nil => rfl
  | cons c cs ih =>
      unfold splitOn
      split
      · rename_i h
        exact absurd h (splitOn_ne_nil sep cs)
      · rename_i f fs h
        rw [h] at ih
        by_cases hc : c = sep
        · subst hc
          simp [join, ih]
        · cases fs with
          | nil => simp_all [join]
          | cons g gs => simp_all [join]

end Conventions.Text
