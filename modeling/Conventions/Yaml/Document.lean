import Conventions.Value.Basic
import Conventions.Yaml.Node

/-!
# Documents

A YAML text holds at most one document, whose node gives a value. The entries of a merge key come before
the other entries of its mapping; of several entries for a key the last one counts, and a key is a scalar.
-/

namespace Conventions.Yaml

/-- The entries of a mapping with those of merge keys in front, for nodes at most `fuel` deep. -/
def flatten : Nat → List (Node × Node) → Except Fault (List (Node × Node))
  | 0, _ => .error .invalid
  | n + 1, es => do
    let own := es.filterMap fun
      | (.scalar .merge _, _) => none
      | (.scalar .value s, v) => some (.scalar .text s, v)
      | e => some e
    let merged ← es.mapM fun
      | (.scalar .merge _, .mapping _ fs) => flatten n fs
      | (.scalar .merge _, .sequence _ vs) => do
        let groups ← vs.mapM fun
          | .mapping _ fs => flatten n fs
          | _ => .error .invalid
        return groups.reverse.flatten
      | (.scalar .merge _, .scalar _ _) => .error .invalid
      | _ => .ok []
    return merged.flatten ++ own

/-- The value of a node at most `fuel` deep. -/
def construct : Nat → Node → Except Fault Value
  | 0, _ => .error .invalid
  | _, .scalar tag s => (readScalar tag s).map .scalar
  | n + 1, .sequence .sequence vs => (vs.mapM (construct n)).map .list
  | n + 1, .mapping .mapping es => do
    let entries ← (← flatten (n + 1) es).mapM fun e => do
      match ← construct n e.1 with
      | .scalar k => return (k, ← construct n e.2)
      | _ => throw .invalid
    return .ofEntries entries
  | _, _ => .error .invalid

/-- Whether a character may stand in a text. -/
def isAllowed (c : Char) : Bool :=
  let n := c.toNat
  n = 9 || n = 10 || n = 13 || (32 ≤ n && n ≤ 126) || n = 0x85 || (0xA0 ≤ n && n ≤ 0xFFFD)
    || 0x10000 ≤ n

/-- The value of a text. -/
def load (text : String) : Except Fault Value := do
  let cs := text.toList
  if !cs.all isAllowed then throw .invalid
  let tokens ← Token.ofText cs
  match ← Node.ofTokens tokens with
  | none => return .null
  | some v => construct (tokens.length + 2) v

end Conventions.Yaml
