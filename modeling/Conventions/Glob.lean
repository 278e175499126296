import Conventions.Path

/-!
# Globs

A glob is matched against a whole text: `*` stands for any text, `?` for any character, and brackets for
one character of a set, or outside of it after `!`. A set holds single characters and ranges; a range
whose ends are in the wrong order is empty. A bracket that is never closed stands for itself.

What a glob stands for is defined by trying every end of the text at a star (`accepts`). It is decided
by working through the glob from its end, with one verdict for each end of the text (`acceptedEnds`), in
time proportional to the lengths of glob and text.

Main statement: both agree (`matchesText_eq`).
-/

namespace Conventions

/-- A piece of a glob. -/
inductive GlobItem where
  | char (c : Char)
  | any
  | star
  | set (negated : Bool) (chars : List Char) (ranges : List (Char × Char))
deriving DecidableEq, Repr

namespace GlobItem

/-- Whether a set, given by its characters and ranges, holds a character. -/
def holds (chars : List Char) (ranges : List (Char × Char)) (c : Char) : Bool :=
  chars.contains c || ranges.any fun r => r.1 ≤ c && c ≤ r.2

/-- Whether a piece for one character stands for a given one. -/
def accepts : GlobItem → Char → Bool
  | .char d, c => d = c
  | .any, _ => true
  | .star, _ => false
  | .set negated chars ranges, c => holds chars ranges c != negated

end GlobItem

/-- A glob. -/
abbrev Glob := List GlobItem

namespace Glob

/-- The text between the brackets that follow an open bracket, and the rest: a closing bracket that comes
first, or first after `!`, belongs to the text. -/
def bracketed (cs : List Char) : Option (List Char × List Char) :=
  let (mark, r) := match cs with
    | '!' :: r => (['!'], r)
    | r => ([], r)
  let (first, r) := match r with
    | ']' :: r => ([']'], r)
    | r => ([], r)
  match r.dropWhile (· ≠ ']') with
  | [] => none
  | _ :: rest => some (mark ++ first ++ r.takeWhile (· ≠ ']'), rest)

theorem length_of_bracketed {cs text rest : List Char} (h : bracketed cs = some (text, rest)) :
    rest.length < cs.length := by
  have key (r : List Char) (c : Char) (s : List Char) (hr : r.dropWhile (· ≠ ']') = c :: s) :
      s.length < r.length := by
    have := (List.dropWhile_suffix (l := r) (· ≠ ']')).length_le
    rw [hr] at this
    simp only [List.length_cons] at this
    omega
  unfold bracketed at h
  split at h
  rename_i mark r hm
  split at h
  rename_i first s hf
  have hr : r.length ≤ cs.length := by
    split at hm <;> simp only [Prod.mk.injEq] at hm <;> obtain ⟨-, rfl⟩ := hm <;> simp
  have hs : s.length ≤ r.length := by
    split at hf <;> simp only [Prod.mk.injEq] at hf <;> obtain ⟨-, rfl⟩ := hf <;> simp
  split at h
  · cases h
  · rename_i c t ht
    simp only [Option.some.injEq, Prod.mk.injEq] at h
    obtain ⟨-, rfl⟩ := h
    have := key s c t ht
    omega

/-- The position of the first hyphen of a text at or after a position. -/
def hyphenFrom? (n : Nat) (cs : List Char) : Option Nat :=
  ((cs.drop n).findIdx? (· = '-')).map (· + n)

/-- The chunks of a set between the hyphens of its ranges: no hyphen among the first `skip`
characters of a chunk makes a range. -/
def chunks (skip : Nat) (cs : List Char) : List (List Char) :=
  match hyphenFrom? skip cs with
  | none => [cs]
  | some k => if cs.length ≤ k then [cs] else cs.take k :: chunks 2 (cs.drop (k + 1))
termination_by cs.length
decreasing_by simp only [List.length_drop]; omega

/-- A hyphen at the end belongs to the last chunk. -/
def closeLast : List (List Char) → List (List Char)
  | [c, []] => [c ++ ['-']]
  | c :: cs => c :: closeLast cs
  | [] => []

/-- Puts a chunk in front of chunks; a range in the wrong order is dropped with both of its ends. -/
def joinChunk (c : List Char) : List (List Char) → List (List Char)
  | [] => [c]
  | d :: ds =>
    match c.getLast?, d.head? with
    | some hi, some lo => if lo < hi then (c.dropLast ++ d.drop 1) :: ds else c :: d :: ds
    | _, _ => c :: d :: ds

/-- The ranges between chunks: from the last character of one to the first one of the next. -/
def rangesOf : List (List Char) → List (Char × Char)
  | c :: d :: ds =>
    match c.getLast?, d.head? with
    | some lo, some hi => (lo, hi) :: rangesOf (d :: ds)
    | _, _ => rangesOf (d :: ds)
  | _ => []

/-- The set of the text between brackets. -/
def setOf (text : List Char) : GlobItem :=
  let raw := chunks (if text.head? = some '!' then 2 else 1) text
  match (closeLast raw).foldr joinChunk [] with
  | ('!' :: c) :: cs => .set true (c ++ cs.flatten) (rangesOf (c :: cs))
  | cs => .set false cs.flatten (rangesOf cs)

/-- Reads a glob. -/
def parse : List Char → Glob
  | [] => []
  | '*' :: cs => .star :: parse cs
  | '?' :: cs => .any :: parse cs
  | '[' :: cs =>
    match _h : bracketed cs with
    | none => .char '[' :: parse cs
    | some (text, rest) => setOf text :: parse rest
  | c :: cs => .char c :: parse cs
termination_by cs => cs.length
decreasing_by
  all_goals simp_wf
  have := length_of_bracketed _h
  omega

/-- Whether a text or one of its ends satisfies `p`. -/
def anyTail (p : List Char → Bool) : List Char → Bool
  | [] => p []
  | c :: cs => p (c :: cs) || anyTail p cs

/-- Whether a glob stands for a text. -/
def accepts : Glob → List Char → Bool
  | [], cs => cs.isEmpty
  | .star :: g, cs => anyTail (accepts g) cs
  | i :: g, c :: cs => i.accepts c && accepts g cs
  | _ :: _, [] => false

/-- The ends of a text: the text itself, and the ends of what follows its first character. -/
def ends : List Char → List (List Char)
  | [] => [[]]
  | c :: cs => (c :: cs) :: ends cs

/-- For each place of a list, whether something holds there or at a later place. -/
def anyFrom : List Bool → List Bool
  | [] => []
  | b :: bs =>
    let later := anyFrom bs
    (b || later.headD false) :: later

/-- For each end of a text, whether a piece stands for its first character and the rest satisfies what is
known about the ends. -/
def oneFrom (i : GlobItem) : List Char → List Bool → List Bool
  | [], _ => [false]
  | c :: cs, known => (i.accepts c && (known.drop 1).headD false) :: oneFrom i cs (known.drop 1)

/-- For each end of a text, whether a glob stands for it. -/
def acceptedEnds (cs : List Char) : Glob → List Bool
  | [] => (ends cs).map List.isEmpty
  | .star :: g => anyFrom (acceptedEnds cs g)
  | i :: g => oneFrom i cs (acceptedEnds cs g)

theorem ends_eq_cons (cs : List Char) : ∃ rest, ends cs = cs :: rest := by
  cases cs with
  | nil => exact ⟨[], rfl⟩
  | cons c cs => exact ⟨ends cs, rfl⟩

theorem anyFrom_map_ends (p : List Char → Bool) (cs : List Char) :
    anyFrom ((ends cs).map p) = (ends cs).map (anyTail p) := by
  induction cs with
  | nil => simp [ends, anyFrom, anyTail]
  | cons c cs ih =>
      obtain ⟨rest, h⟩ := ends_eq_cons cs
      simp only [ends, List.map_cons, anyFrom, ih, anyTail]
      simp [h]

theorem oneFrom_map_ends {i : GlobItem} (h : i ≠ .star) (g : Glob) (cs : List Char) :
    oneFrom i cs ((ends cs).map (accepts g)) = (ends cs).map (accepts (i :: g)) := by
  induction cs with
  | nil => cases i <;> simp_all [ends, oneFrom, accepts]
  | cons c cs ih =>
      obtain ⟨rest, hr⟩ := ends_eq_cons cs
      have : accepts (i :: g) (c :: cs) = (i.accepts c && accepts g cs) := by
        cases i <;> simp_all [accepts]
      simp only [ends, List.map_cons, oneFrom, List.drop_one, List.tail_cons, ih, this]
      simp [hr]

theorem acceptedEnds_eq (cs : List Char) (g : Glob) :
    acceptedEnds cs g = (ends cs).map (accepts g) := by
  induction g with
  | nil =>
      simp only [acceptedEnds]
      exact List.map_congr_left fun t _ => by simp [accepts]
  | cons i g ih =>
      by_cases h : i = .star
      · subst h
        simp only [acceptedEnds, ih, anyFrom_map_ends]
        exact List.map_congr_left fun t _ => by simp [accepts]
      · rw [← oneFrom_map_ends h, ← ih]
        cases i <;> simp_all [acceptedEnds]

/-- Whether a glob, given as text, stands for a text. -/
def matchesText (glob text : String) : Bool :=
  (acceptedEnds text.toList (parse glob.toList)).headD false

theorem matchesText_eq (glob text : String) :
    matchesText glob text = accepts (parse glob.toList) text.toList := by
  obtain ⟨rest, h⟩ := ends_eq_cons text.toList
  simp [matchesText, acceptedEnds_eq, h]

/-- Whether a path is ignored: a glob stands for it or for its last component. -/
def ignores (globs : List String) (path : String) : Bool :=
  let name := (Path.parse path).name
  globs.any fun g => matchesText g path || matchesText g name

end Glob

end Conventions
