import Conventions.Template
import Conventions.Template.Padding

/-!
# Filling in templates

Rendering replaces each field of a template by its value, once: what a value holds is not read as a
template. Fields of accepted templates are bare names; the other forms, such as a single character of a
value, an attribute or a position, are read too, and mostly fail.
-/

namespace Conventions

/-- Why a template cannot be filled in. -/
inductive RenderFailure where
  | malformed (f : TemplateFault)
  | format (f : FormatFault)
  | unknownField (name : List Char)
  | noPosition (n : Nat)
  | outOfRange
  | noAttribute (name : List Char)
  | textIndex
  | emptyAttribute
  | afterBracket
  | unknownConversion (c : Char)
  | tooDeep
deriving DecidableEq, Repr

namespace RenderFailure

/-- The name of the kind of a failure. -/
def kindName : RenderFailure → String
  | .unknownField _ => "KeyError"
  | .noPosition _ | .outOfRange => "IndexError"
  | .noAttribute _ => "AttributeError"
  | .textIndex => "TypeError"
  | _ => "ValueError"

/-- The message about a template that cannot be filled in. -/
def message : RenderFailure → String
  | .malformed f => f.message
  | .format f => f.message
  | .unknownField n => String.ofList n
  | .noPosition n => s!"Replacement index {n} out of range for positional args tuple"
  | .outOfRange => "string index out of range"
  | .noAttribute n => s!"'str' object has no attribute '{String.ofList n}'"
  | .textIndex => "string indices must be integers, not 'str'"
  | .emptyAttribute => "Empty attribute in format string"
  | .afterBracket => "Only '.' or '[' may follow ']' in format field specifier"
  | .unknownConversion c => s!"Unknown conversion specifier {FormatFault.shown 127 c}"
  | .tooDeep => "Max string recursion exceeded"

/-- A failure as a note shows it: an unknown field is named between quotes. -/
def text : RenderFailure → String
  | .unknownField n => Text.quoted (String.ofList n)
  | f => f.message

/-- A failure as a diagnostic shows it: its kind, and its message between quotes. -/
def shown (f : RenderFailure) : String := f.kindName ++ "(" ++ Text.quoted f.message ++ ")"

end RenderFailure

namespace Template

/-- The number that a text of digits stands for, within the bounds of numbers in templates. -/
def index? (cs : List Char) : Except RenderFailure (Option Nat) :=
  match Text.decimal? cs with
  | some n => if n > greatestNumber then .error (.format .tooManyDigits) else .ok (some n)
  | none => .ok none

/-- One character of a value. -/
def charAt (value key : List Char) : Except RenderFailure (List Char) := do
  if key.isEmpty then throw .emptyAttribute
  match ← index? key with
  | none => throw .textIndex
  | some n =>
    match value[n]? with
    | some c => return [c]
    | none => throw .outOfRange

/-- Follows the attributes and positions after the name of a field, at most `fuel` of them. -/
def follow : Nat → List Char → List Char → Except RenderFailure (List Char)
  | _, value, [] => .ok value
  | 0, value, _ => .ok value
  | n + 1, value, '[' :: cs => do
    follow n (← charAt value (cs.takeWhile (· ≠ ']'))) ((cs.dropWhile (· ≠ ']')).drop 1)
  | _, _, '.' :: cs =>
    let name := cs.takeWhile fun c => c ≠ '.' && c ≠ '['
    .error (if name.isEmpty then .emptyAttribute else .noAttribute name)
  | _, _, _ => .error .afterBracket

/-- The value of a field. -/
def lookUp (values : String → Option String) (field : List Char) : Except RenderFailure (List Char) := do
  let isNameChar := fun c => c ≠ '.' && c ≠ '['
  let name := field.takeWhile isNameChar
  if name.isEmpty then throw (.noPosition 0)
  match ← index? name with
  | some n => throw (.noPosition n)
  | none =>
    match values (String.ofList name) with
    | some v => follow field.length v.toList (field.dropWhile isNameChar)
    | none => throw (.unknownField name)

/-- A value between quotes with the characters beyond ASCII given by their codes. -/
def asciiQuote (cs : List Char) : List Char :=
  (Text.quote cs).flatMap fun c =>
    if c.toNat < 128 then [c]
    else if c.toNat < 0x100 then '\\' :: 'x' :: Text.hex 2 c.toNat
    else if c.toNat < 0x10000 then '\\' :: 'u' :: Text.hex 4 c.toNat
    else '\\' :: 'U' :: Text.hex 8 c.toNat

/-- A value after a conversion. -/
def convert (cs : List Char) : Option Char → Except RenderFailure (List Char)
  | none => .ok cs
  | some 's' => .ok cs
  | some 'r' => .ok (Text.quote cs)
  | some 'a' => .ok (asciiQuote cs)
  | some c => .error (.unknownConversion c)

/-- Fills in a piece; `expand` fills in a format that has fields of its own. -/
def renderPiece (values : String → Option String)
    (expand : List Char → Except RenderFailure (List Char)) :
    Piece → Except RenderFailure (List Char)
  | .literal c => .ok [c]
  | .field name conversion format => do
    let v ← convert (← lookUp values name) conversion
    let f ← if '{' ∈ format then expand format else .ok format
    match pad f v with
    | .ok r => return r
    | .error e => throw (.format e)

/-- Fills in a template whose formats have fields at most `depth` deep. -/
def renderAt (values : String → Option String) : Nat → List Char → Except RenderFailure (List Char)
  | 0, _ => .error .tooDeep
  | depth + 1, cs =>
    let t := read cs
    match t.pieces.mapM (renderPiece values (renderAt values depth)), t.fault with
    | .error e, _ => .error e
    | .ok _, some f => .error (.malformed f)
    | .ok rs, none => .ok rs.flatten

/-- Fills in a template. -/
def render (values : String → Option String) (template : String) : Except RenderFailure String :=
  (renderAt values 2 template.toList).map String.ofList

end Template

end Conventions
