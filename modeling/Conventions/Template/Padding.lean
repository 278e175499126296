import Conventions.Text.Digit
import Conventions.Text.Quoted

/-!
# Formats of texts

The format of a replacement field cuts a text to a greatest length and fills it up to a width. Options
that make sense only for numbers are refused.
-/

namespace Conventions

/-- Why a text cannot be shown in a format. -/
inductive FormatFault where
  | tooManyDigits
  | bothSeparators
  | noPrecision
  | invalid (format : List Char)
  | separator (mark type : Char)
  | unknownType (type : Char)
  | space
  | sign
  | negativeZero
  | alternate
  | equalsAlign
deriving DecidableEq, Repr

namespace FormatFault

/-- A character in a message about a format, by its code if it is not a visible one. -/
def shown (limit : Nat) (c : Char) : String :=
  if 32 < c.toNat && c.toNat < limit then String.singleton c
  else "\\x" ++ String.ofList (Nat.toDigits 16 c.toNat)

/-- The message about a format. -/
def message : FormatFault → String
  | .tooManyDigits => "Too many decimal digits in format string"
  | .bothSeparators => "Cannot specify both ',' and '_'."
  | .noPrecision => "Format specifier missing precision"
  | .invalid f => s!"Invalid format specifier '{String.ofList f}' for object of type 'str'"
  | .separator m t => s!"Cannot specify '{m}' with '{shown 128 t}'."
  | .unknownType t => s!"Unknown format code '{shown 128 t}' for object of type 'str'"
  | .space => "Space not allowed in string format specifier"
  | .sign => "Sign not allowed in string format specifier"
  | .negativeZero => "Negative zero coercion (z) not allowed in string format specifier"
  | .alternate => "Alternate form (#) not allowed in string format specifier"
  | .equalsAlign => "'=' alignment not allowed in string format specifier"

end FormatFault

namespace Template

/-- The greatest number that a template may hold. -/
def greatestNumber : Nat := Nat.pow 2 63 - 1

/-- The number at the start of a text, if digits stand there, and the rest. -/
def readNumber (cs : List Char) : Except FormatFault (Option Nat × List Char) :=
  let digits := cs.takeWhile fun c => (Text.decimalDigit? c).isSome
  let n := Text.decimal? digits
  if n.getD 0 > greatestNumber then .error .tooManyDigits else .ok (n, cs.drop digits.length)

/-- Whether a character says on which side a text is filled up. -/
def isAlign (c : Char) : Bool := c = '<' || c = '>' || c = '=' || c = '^'

/-- Takes a character from the start of a text if it satisfies `p`. -/
def takeOne (p : Char → Bool) : List Char → Option Char × List Char
  | c :: cs => if p c then (some c, cs) else (none, c :: cs)
  | [] => (none, [])

/-- The filling character, the side, and the rest of a format. -/
def readAlign : List Char → Option Char × Option Char × List Char
  | f :: a :: cs =>
    if isAlign a then (some f, some a, cs)
    else if isAlign f then (none, some f, a :: cs) else (none, none, f :: a :: cs)
  | [a] => if isAlign a then (none, some a, []) else (none, none, [a])
  | [] => (none, none, [])

/-- Whether a separator of thousands goes with a type. -/
def separates (mark type : Char) : Bool :=
  "defgEG%F".toList.contains type || (mark = '_' && "boxX".toList.contains type)

/-- A text filled up to a width on the side that `align` says. -/
def fillUp (fill align : Char) (width : Nat) (cs : List Char) : List Char :=
  let missing := width - cs.length
  let left := if align = '>' then missing else if align = '^' then missing / 2 else 0
  List.replicate left fill ++ cs ++ List.replicate (missing - left) fill

/-- A text in a format. -/
def pad (format cs : List Char) : Except FormatFault (List Char) :=
  if format.isEmpty then .ok cs
  else do
    let (fill, align, r) := readAlign format
    let (sign, r) := takeOne (fun c => c = ' ' || c = '+' || c = '-') r
    let (zero, r) := takeOne (· = 'z') r
    let (alternate, r) := takeOne (· = '#') r
    let (filled, r) := if fill.isNone then takeOne (· = '0') r else (none, r)
    let (width, r) ← readNumber r
    let (comma, r) := takeOne (· = ',') r
    let (low, r) := takeOne (· = '_') r
    if comma.isSome && low.isSome || low.isSome && r.head? = some ',' then throw .bothSeparators
    let (point, r) := takeOne (· = '.') r
    let (precision, r) ← if point.isSome then readNumber r else .ok (none, r)
    if point.isSome && precision.isNone then throw .noPrecision
    if r.length > 1 then throw (.invalid format)
    let type := r.head?.getD 's'
    if let some mark := comma.or low then
      if !separates mark type then throw (.separator mark type)
    if type ≠ 's' then throw (.unknownType type)
    if sign = some ' ' then throw .space
    if sign.isSome then throw .sign
    if zero.isSome then throw .negativeZero
    if alternate.isSome then throw .alternate
    if align = some '=' then throw .equalsAlign
    return fillUp ((fill.or filled).getD ' ') (align.getD '<') (width.getD 0)
      (cs.take (precision.getD cs.length))

end Template

end Conventions
