import Conventions.Value.Scalar
import Conventions.Text.Split

/-!
# Configuration values

What a configuration file holds before anything is known about it: a scalar, a list, or a mapping
from scalars to values in the order in which its keys first appeared. A value has a text for messages,
counts as true or false, may be gone through item by item, and may hold a name.
-/

namespace Conventions

/-- A configuration value. -/
inductive Value where
  | scalar (s : Scalar)
  | list (items : List Value)
  | map (entries : List (Scalar × Value))
deriving Repr, Inhabited

namespace Value

/-- The value of a text. -/
def text (s : String) : Value := .scalar (.text s)

/-- The value of a truth value. -/
def bool (b : Bool) : Value := .scalar (.bool b)

/-- The value of nothing. -/
def null : Value := .scalar .null

mutual
/-- The text of a value inside a list or a mapping. -/
def quoted : Value → String
  | .scalar s => s.quoted
  | .list items => "[" ++ ", ".intercalate (quotedItems items) ++ "]"
  | .map entries => "\x7b" ++ ", ".intercalate (quotedEntries entries) ++ "\x7d"

/-- The texts of the items of a list. -/
def quotedItems : List Value → List String
  | [] => []
  | v :: vs => v.quoted :: quotedItems vs

/-- The texts of the entries of a mapping. -/
def quotedEntries : List (Scalar × Value) → List String
  | [] => []
  | (k, v) :: es => (k.quoted ++ ": " ++ v.quoted) :: quotedEntries es
end

/-- The text of a value as a message shows it. -/
def plain : Value → String
  | .scalar s => s.plain
  | v => v.quoted

/-- The name of the kind of a value. -/
def kindName : Value → String
  | .scalar s => s.kindName
  | .list _ => "list"
  | .map _ => "dict"

/-- Whether a value counts as true: an empty list and an empty mapping do not. -/
def isTrue : Value → Bool
  | .scalar s => s.isTrue
  | .list items => !items.isEmpty
  | .map entries => !entries.isEmpty

/-- The items of a value: of a list its elements, of a text its characters, of a mapping its keys. -/
def items? : Value → Option (List Value)
  | .scalar (.text s) => some (s.toList.map fun c => text (String.singleton c))
  | .scalar _ => none
  | .list items => some items
  | .map entries => some (entries.map fun e => .scalar e.1)

/-- Whether a value is a given text. -/
def isText (s : String) : Value → Bool
  | .scalar (.text t) => s == t
  | _ => false

/-- Whether a value holds a name: as an element, as a key, or inside a text. -/
def holds? (name : String) : Value → Option Bool
  | .scalar (.text s) => some (Text.occursIn name.toList s.toList)
  | .scalar _ => none
  | .list items => some (items.any (isText name))
  | .map entries => some (entries.any fun e => e.1 == .text name)

/-- The value under a text key of a mapping. -/
def field? (entries : List (Scalar × Value)) (name : String) : Option Value :=
  (entries.find? fun e => e.1 == .text name).map Prod.snd

/-- A mapping with a key set: an existing key keeps its place, a new one goes to the end. -/
def setKey (k : Scalar) (v : Value) : List (Scalar × Value) → List (Scalar × Value)
  | [] => [(k, v)]
  | e :: es => if e.1.same k then (e.1, v) :: es else e :: setKey k v es

/-- The mapping of a list of entries, of which the last one for a key counts. -/
def ofEntries (entries : List (Scalar × Value)) : Value :=
  .map (entries.foldl (fun m e => setKey e.1 e.2 m) [])

end Value

end Conventions
