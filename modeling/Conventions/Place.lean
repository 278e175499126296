import Conventions.Request
import Conventions.Matcher.Failure
import Conventions.Diagnostic

/-!
# Places of files

Three checks look at the path of a file: whether its top-level directory is known, whether its kind is
allowed where it lies, and whether its kind can be told at all. The last segment is the name of the
file and is not looked up in the schema.
-/

namespace Conventions.Place

/-- The span of the segments from `first` up to `last` in the displayed path. -/
def segmentSpan (segments : List String) (first last : Nat) : Span :=
  let start := ((segments.take first).flatMap fun s => s.toList ++ ['/']).length
  .between start (start + (displayPath ((segments.take last).drop first)).length)

/-- The kind of a file: the declared one, or the one that its extension tells. -/
def effectiveKind (segments : List String) (kind : Option ArtifactKind) : Option ArtifactKind :=
  kind.or (ArtifactKind.infer? segments)

/-- The kinds that a set names in a message. -/
def kindList (ks : KindSet) : String :=
  if ks.members.isEmpty then "nothing" else ", ".intercalate ks.words

/-- Reports a path without segments, or one whose top-level directory is not in the schema. -/
def rootMismatch (schema : Schema) (segments : List String) : Option Mismatch :=
  match segments with
  | [] => some ⟨"", "a path", none, "empty path"⟩
  | first :: rest =>
    if (schema.walk segments.dropLast).rootKnown then none
    else some ⟨displayPath segments, "a path under one of: " ++ ", ".intercalate schema.roots,
      some (segmentSpan segments 0 1),
      if rest.isEmpty then "file is not under any known top-level directory"
      else s!"unknown top-level directory '{first}'"⟩

/-- Reports a file of a kind that is not allowed where it lies. -/
def kindMismatch (schema : Schema) (segments : List String) (kind : Option ArtifactKind) :
    Option Mismatch :=
  if segments.isEmpty then none
  else (effectiveKind segments kind).bind fun k =>
    let p := schema.walk segments.dropLast
    if !p.rootKnown || p.allowed.contains k then none
    else
      let place := displayPath (segments.take p.depth)
      let declared := displayPath p.declaredAt
      let shown := if declared.isEmpty then place else declared
      some ⟨displayPath segments, s!"{shown}/ accepts {kindList p.allowed}",
        some (segmentSpan segments 0 p.depth),
        s!"{k.word} files are not allowed under '{place}'"⟩

/-- Reports a file whose kind is neither declared nor told by its extension. -/
def extensionMismatch (segments : List String) (kind : Option ArtifactKind) : Option Mismatch :=
  match segments.getLast? with
  | none => none
  | some name =>
    if (effectiveKind segments kind).isSome then none
    else
      let last := segments.length - 1
      some ⟨displayPath segments, "a known artifact extension",
        some (segmentSpan segments last (last + 1)),
        s!"cannot infer artifact kind of '{name}'"⟩

/-- The schema of a rule about places. -/
def schemaOf (ps : Params) : Except MatchFailure Schema :=
  match ps.schema? with
  | some s => .ok s
  | none => .error .noSchema

/-- Checks that the top-level directory of a path is known. -/
def checkRoot (segments : List String) (ps : Params) : Except MatchFailure (Option Mismatch) :=
  (schemaOf ps).map fun s => rootMismatch s segments

/-- Checks that the kind of a file is allowed where it lies. -/
def checkKind (segments : List String) (kind : Option ArtifactKind) (ps : Params) :
    Except MatchFailure (Option Mismatch) :=
  (schemaOf ps).map fun s => kindMismatch s segments kind

end Conventions.Place
