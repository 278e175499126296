import Conventions.Text.Blank
import Conventions.Text.Digit
import Conventions.Text.Split
import Conventions.Value.Scalar
import Conventions.Yaml.Token.Quoted

/-!
# Scalars of YAML

A plain scalar is nothing, a truth value, an integer, a floating-point number, a time, a merge key or a
value key by its form, and a text otherwise. Integers may be binary, octal, hexadecimal or in base 60;
low lines between digits do not count.
-/

namespace Conventions.Yaml

/-- What a node is. -/
inductive Tag where
  | null
  | bool
  | int
  | float
  | time
  | merge
  | value
  | text
  | sequence
  | mapping
  | unknown
deriving DecidableEq, Repr

namespace Tag

/-- What the texts of tags begin with. -/
def scheme : String := "tag:yaml.org,2002:"

/-- The tag of a full text. -/
def ofText (s : String) : Tag :=
  (([("null", .null), ("bool", .bool), ("int", .int), ("float", .float), ("timestamp", .time),
    ("str", .text), ("seq", .sequence), ("map", .mapping)] : List (String × Tag)).find? fun e =>
      scheme ++ e.1 == s).elim .unknown Prod.snd

end Tag

namespace Form

/-- Whether a text is one or more characters that satisfy `p`. -/
def some_ (p : Char → Bool) (cs : List Char) : Bool := !cs.isEmpty && cs.all p

/-- Whether a character is a digit or a low line. -/
def isLoose (c : Char) : Bool := c.isDigit || c = '_'

/-- Whether a text starts with a digit and goes on with digits and low lines. -/
def isWhole : List Char → Bool
  | c :: cs => c.isDigit && cs.all isLoose
  | [] => false

/-- Whether a text is a whole number that does not start with zero. -/
def isCount (cs : List Char) : Bool := isWhole cs && cs.head? ≠ some '0'

/-- The text without a sign at its start. -/
def unsigned : List Char → List Char
  | '+' :: cs | '-' :: cs => cs
  | cs => cs

/-- Whether a text is a number below 60. -/
def isSixtieth : List Char → Bool
  | [c] => c.isDigit
  | [c, d] => '0' ≤ c && c ≤ '5' && d.isDigit
  | _ => false

/-- Whether a text is an integer. -/
def isInt (cs : List Char) : Bool :=
  match unsigned cs with
  | ['0'] => true
  | '0' :: 'b' :: ds => some_ (fun c => c = '0' || c = '1' || c = '_') ds
  | '0' :: 'x' :: ds => some_ (fun c => isHexDigit c || c = '_') ds
  | '0' :: ds => some_ (fun c => ('0' ≤ c && c ≤ '7') || c = '_') ds
  | ds =>
    match Text.splitOn ':' ds with
    | [d] => isCount d
    | d :: rest => isCount d && rest.all isSixtieth
    | [] => false

/-- Whether a text is an exponent with a sign, or nothing. -/
def isExponent : List Char → Bool
  | [] => true
  | _ :: sign :: ds => (sign = '+' || sign = '-') && some_ Char.isDigit ds
  | _ => false

/-- Whether a text is digits and low lines with an optional exponent. -/
def isFraction (cs : List Char) : Bool :=
  let digits := cs.takeWhile isLoose
  let rest := cs.drop digits.length
  (rest.isEmpty || rest.head? = some 'e' || rest.head? = some 'E') && isExponent rest

/-- Whether a text is digits below 60, a point, and digits and low lines. -/
def isSixtiethFraction (cs : List Char) : Bool :=
  cs.contains '.' && isSixtieth (Text.before '.' cs) && (Text.after '.' cs).all isLoose

/-- Whether a text is a floating-point number. -/
def isFloat (cs : List Char) : Bool :=
  let ds := unsigned cs
  let decimal := ds.contains '.' && isWhole (Text.before '.' ds) && isFraction (Text.after '.' ds)
  let point := match cs with
    | '.' :: c :: rest => c.isDigit && isFraction (c :: rest)
    | _ => false
  let sixty := match (Text.splitOn ':' ds).reverse with
    | last :: first :: rest =>
      isSixtiethFraction last && (first :: rest).dropLast.all isSixtieth
        && isWhole ((first :: rest).getLastD [])
    | _ => false
  decimal || point || sixty
    || [".inf", ".Inf", ".INF"].contains (String.ofList ds)
    || [".nan", ".NaN", ".NAN"].contains (String.ofList cs)

/-- Whether a text is nothing. -/
def isNull (s : String) : Bool := ["", "~", "null", "Null", "NULL"].contains s

/-- Whether a text is a truth value. -/
def isBool (s : String) : Bool :=
  ["yes", "Yes", "YES", "no", "No", "NO", "true", "True", "TRUE", "false", "False", "FALSE", "on",
   "On", "ON", "off", "Off", "OFF"].contains s

end Form

/-- A time as it is written: its numbers, and its offset in minutes if it has one. -/
structure TimeText where
  year : Nat
  month : Nat
  day : Nat
  clock : Option (Nat × Nat × Nat × Nat × Option Int)
  strict : Bool
deriving Repr

namespace TimeText

/-- The number of a text of digits. -/
def number (cs : List Char) : Nat := cs.foldl (fun n c => 10 * n + digitValue c) 0

/-- Takes between `least` and `most` digits from the start of a text. -/
def digits? (least most : Nat) (cs : List Char) : Option (List Char × List Char) :=
  let ds := (cs.take most).takeWhile Char.isDigit
  if ds.length < least then none else some (ds, cs.drop ds.length)

/-- Takes a character from the start of a text. -/
def mark? (c : Char) : List Char → Option (List Char)
  | x :: xs => if x = c then some xs else none
  | [] => none

/-- The microseconds of a fraction of a second. -/
def micros (cs : List Char) : Nat :=
  let ds := cs.take 6
  number (ds ++ List.replicate (6 - ds.length) '0')

/-- Reads the offset at the end of a time. -/
def zone? (cs : List Char) : Option (Option Int) :=
  match cs.dropWhile isGap with
  | [] => if cs.isEmpty then some none else none
  | ['Z'] => some (some 0)
  | sign :: rest =>
    if sign = '+' || sign = '-' then do
      let (hours, rest) ← digits? 1 2 rest
      let minutes ← match rest with
        | [] => some 0
        | ':' :: ms => (digits? 2 2 ms).bind fun r => if r.2.isEmpty then some (number r.1) else none
        | _ => none
      let total : Int := number hours * 60 + minutes
      some (some (if sign = '-' then -total else total))
    else none

/-- Reads the time after a day. -/
def clock? (cs : List Char) : Option (Nat × Nat × Nat × Nat × Option Int) := do
  let rest ← match cs with
    | 'T' :: rest | 't' :: rest => some rest
    | c :: rest => if isGap c then some (rest.dropWhile isGap) else none
    | [] => none
  let (hour, rest) ← digits? 1 2 rest
  let (minute, rest) ← (mark? ':' rest).bind (digits? 2 2)
  let (second, rest) ← (mark? ':' rest).bind (digits? 2 2)
  let fraction := match rest with
    | '.' :: ds => ds.takeWhile Char.isDigit
    | _ => []
  let rest := match rest with
    | '.' :: ds => ds.drop fraction.length
    | rest => rest
  let zone ← zone? rest
  some (number hour, number minute, number second, micros fraction, zone)

/-- Reads a time; a day alone is written strictly if all of its numbers have full length. -/
def read? (cs : List Char) : Option TimeText := do
  let (year, rest) ← digits? 4 4 cs
  let (month, rest) ← (mark? '-' rest).bind (digits? 1 2)
  let (day, rest) ← (mark? '-' rest).bind (digits? 1 2)
  let strict := month.length = 2 && day.length = 2
  if rest.isEmpty then some ⟨number year, number month, number day, none, strict⟩
  else do
    let clock ← clock? rest
    some ⟨number year, number month, number day, some clock, true⟩

/-- The days of a month. -/
def daysIn (year month : Nat) : Nat :=
  if month = 2 then
    if year % 4 = 0 && (year % 100 ≠ 0 || year % 400 = 0) then 29 else 28
  else if [4, 6, 9, 11].contains month then 30 else 31

/-- The message about an offset of a day or more. -/
def offsetMessage (offset : Int) : String :=
  let days := offset / 1440
  let seconds := (offset % 1440) * 60
  let inner := if seconds = 0 then s!"days={days}" else s!"days={days}, seconds={seconds}"
  "offset must be a timedelta strictly between -timedelta(hours=24) and timedelta(hours=24), "
    ++ s!"not datetime.timedelta({inner})."

/-- The time as a scalar, if its numbers are in their bounds. -/
def toScalar (t : TimeText) : Except Fault Scalar := do
  if let some (_, _, _, _, some offset) := t.clock then
    if 1440 ≤ offset.natAbs then throw (.value (offsetMessage offset))
  if t.year = 0 then throw (.value "year 0 is out of range")
  if t.month < 1 || 12 < t.month then throw (.value "month must be in 1..12")
  if t.day < 1 || daysIn t.year t.month < t.day then
    throw (.value "day is out of range for month")
  match t.clock with
  | none => return .day ⟨t.year, t.month, t.day⟩
  | some (hour, minute, second, micro, offset) =>
    if 23 < hour then throw (.value "hour must be in 0..23")
    if 59 < minute then throw (.value "minute must be in 0..59")
    if 59 < second then throw (.value "second must be in 0..59")
    return .moment ⟨⟨t.year, t.month, t.day⟩, hour, minute, second, micro, offset⟩

end TimeText

namespace Tag

/-- What a plain scalar is by its form. -/
def ofPlain (s : String) : Tag :=
  let cs := s.toList
  if Form.isNull s then .null
  else if Form.isBool s then .bool
  else if Form.isFloat cs then .float
  else if Form.isInt cs then .int
  else if s = "<<" then .merge
  else if (TimeText.read? cs).any TimeText.strict then .time
  else if s = "=" then .value
  else .text

end Tag

/-- The text without low lines. -/
def dropLowLines (cs : List Char) : List Char := cs.filter (· ≠ '_')

/-- The value of a digit in some base up to 16. -/
def digitIn? (base : Nat) (c : Char) : Option Nat :=
  let d := if isHexDigit c then some (digitValue c) else Text.decimalDigit? c
  d.filter (· < base)

/-- The number of digits in a base. -/
def numberIn? (base : Nat) (cs : List Char) : Option Nat :=
  if cs.isEmpty then none
  else cs.foldlM (fun n c => (digitIn? base c).map fun d => base * n + d) 0

/-- The text without the letters that name a base at its start. -/
def dropBase (base : Nat) : List Char → List Char
  | '0' :: x :: cs =>
    let letter := x.toLower
    if (base = 2 && letter = 'b') || (base = 8 && letter = 'o') || (base = 16 && letter = 'x') then cs
    else '0' :: x :: cs
  | cs => cs

/-- The most digits that a decimal integer may have. -/
def mostDigits : Nat := 4300

/-- Reads an integer in a base, with a sign and blanks around it. -/
def integerIn (base : Nat) (cs : List Char) : Except Fault Int :=
  let bare := Text.trim cs
  let digits := dropBase base (Form.unsigned bare)
  if base = 10 && mostDigits < digits.length then
    .error (.value ("Exceeds the limit (4300 digits) for integer string conversion: value has "
      ++ s!"{digits.length} digits; use sys.set_int_max_str_digits() to increase the limit"))
  else
    match numberIn? base digits with
    | some n => .ok (if bare.head? = some '-' then -n else n)
    | none =>
      .error (.value s!"invalid literal for int() with base {base}: {Text.quoted (String.ofList cs)}")

/-- The sign of a text, and the text after it; an empty text has none. -/
def splitSign : List Char → Except Fault (Bool × List Char)
  | [] => .error .index
  | '-' :: cs => .ok (true, cs)
  | '+' :: cs => .ok (false, cs)
  | cs => .ok (false, cs)

/-- Reads an unsigned integer in one of the ways in which it may be written. -/
def readMagnitude : List Char → Except Fault Int
  | ['0'] => .ok 0
  | '0' :: 'b' :: ds => integerIn 2 ds
  | '0' :: 'x' :: ds => integerIn 16 ds
  | '0' :: ds => integerIn 8 ('0' :: ds)
  | [] => .error .index
  | ds =>
    match Text.splitOn ':' ds with
    | [d] => integerIn 10 d
    | parts => parts.foldlM (fun n p => do return 60 * n + (← integerIn 10 p)) 0

/-- Reads an integer. -/
def readInt (s : String) : Except Fault Int := do
  let (negative, cs) ← splitSign (dropLowLines s.toList)
  let n ← readMagnitude cs
  return if negative then -n else n

/-- The fault about a text that is no floating-point number. -/
def notFloat (cs : List Char) : Fault :=
  .value s!"could not convert string to float: {Text.quoted (String.ofList cs)}"

/-- Reads decimal digits with an optional point and exponent. -/
def decimal? (negative : Bool) (cs : List Char) : Option Binary64 := do
  let mantissa := cs.takeWhile (· ≠ 'e')
  let exponent ←
    if mantissa.length = cs.length then some 0
    else
      let e := cs.drop (mantissa.length + 1)
      (numberIn? 10 (Form.unsigned e)).map fun (n : Nat) =>
        if e.head? = some '-' then -(n : Int) else n
  let whole := Text.before '.' mantissa
  let fraction := Text.after '.' mantissa
  let n ← numberIn? 10 (whole ++ fraction)
  some (Binary64.ofDecimal negative n (exponent - fraction.length))

/-- Reads a floating-point number in lower case. -/
def readDecimal (cs : List Char) : Except Fault Binary64 :=
  let bare := Text.trim cs
  let negative := bare.head? = some '-'
  let body := Form.unsigned bare
  if ["inf", "infinity"].contains (String.ofList body) then .ok (.infinite negative)
  else if body = "nan".toList then .ok .nan
  else
    match decimal? negative body with
    | some x => .ok x
    | none => .error (notFloat cs)

/-- Reads the places of a number in base 60, the last one first. -/
def sumSixties : Nat → Binary64 → List Binary64 → Binary64
  | _, sum, [] => sum
  | base, sum, d :: ds => sumSixties (60 * base) (sum.add (d.mulNat base)) ds

/-- Reads a floating-point number. -/
def readFloat (s : String) : Except Fault Binary64 := do
  let (negative, cs) ← splitSign (Text.lower (dropLowLines s.toList))
  let x ←
    if cs = ".inf".toList then pure (.infinite false)
    else if cs = ".nan".toList then pure .nan
    else
      match Text.splitOn ':' cs with
      | [d] => readDecimal d
      | parts => do
        let places ← parts.mapM readDecimal
        pure (sumSixties 1 (.zero false) places.reverse)
  return if negative then x.neg else x

/-- Reads a truth value. -/
def readBool (s : String) : Except Fault Bool :=
  let w := String.ofList (Text.lower s.toList)
  if ["yes", "true", "on"].contains w then .ok true
  else if ["no", "false", "off"].contains w then .ok false
  else .error .key

/-- Reads a time. -/
def readTime (s : String) : Except Fault Scalar :=
  match TimeText.read? s.toList with
  | some t => t.toScalar
  | none => .error .attribute

/-- The scalar of a text under a tag. -/
def readScalar (tag : Tag) (s : String) : Except Fault Scalar :=
  match tag with
  | .null => .ok .null
  | .bool => (readBool s).map .bool
  | .int => (readInt s).map .int
  | .float => (readFloat s).map .float
  | .time => readTime s
  | .text => .ok (.text s)
  | _ => .error .invalid

end Conventions.Yaml
