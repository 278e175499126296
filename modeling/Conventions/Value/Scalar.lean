import Conventions.Number.Decimal
import Conventions.Text.Quoted

/-!
# Scalars

The atoms of a configuration: nothing, truth values, integers of any size, floating-point numbers,
texts, days and moments. Truth values and numbers are compared by their numeric value, so that one,
one point zero and true are the same key; everything else is the same only as itself.
-/

namespace Conventions

/-- A day of the calendar. -/
structure Day where
  year : Nat
  month : Nat
  day : Nat
deriving DecidableEq, Repr

/-- A time on a day, with microseconds and the offset from universal time in minutes, if one is given. -/
structure Moment where
  day : Day
  hour : Nat
  minute : Nat
  second : Nat
  micro : Nat
  offset : Option Int
deriving DecidableEq, Repr

/-- An atom of a configuration. -/
inductive Scalar where
  | null
  | bool (b : Bool)
  | int (n : Int)
  | float (x : Binary64)
  | text (s : String)
  | day (d : Day)
  | moment (m : Moment)
deriving DecidableEq, Repr, Inhabited

/-- A number with zeros in front up to a width. -/
def padded (width n : Nat) : String :=
  let ds := Nat.toDigits 10 n
  String.ofList (List.replicate (width - ds.length) '0' ++ ds)

/-- A day as year, month and day of the month. -/
def Day.plain (d : Day) : String := s!"{padded 4 d.year}-{padded 2 d.month}-{padded 2 d.day}"

/-- The fields of a day. -/
def Day.fields (d : Day) : String := s!"{d.year}, {d.month}, {d.day}"

/-- An offset from universal time as signed hours and minutes. -/
def offsetText (minutes : Int) : String :=
  let n := minutes.natAbs
  (if minutes < 0 then "-" else "+") ++ padded 2 (n / 60) ++ ":" ++ padded 2 (n % 60)

/-- A moment as day, time and offset. -/
def Moment.plain (m : Moment) : String :=
  m.day.plain ++ " " ++ padded 2 m.hour ++ ":" ++ padded 2 m.minute ++ ":" ++ padded 2 m.second
    ++ (if m.micro = 0 then "" else "." ++ padded 6 m.micro)
    ++ (match m.offset with
        | none => ""
        | some o => offsetText o)

/-- The zone of a moment: universal time, or a difference in days and seconds. -/
def zoneText (minutes : Int) : String :=
  if minutes = 0 then "datetime.timezone.utc"
  else
    let days := minutes / 1440
    let seconds := (minutes % 1440) * 60
    let inner := if days = 0 then s!"seconds={seconds}" else s!"days={days}, seconds={seconds}"
    s!"datetime.timezone(datetime.timedelta({inner}))"

/-- The fields of a moment, the trailing zeros of the time left out. -/
def Moment.fields (m : Moment) : String :=
  let time :=
    if m.micro ≠ 0 then s!", {m.second}, {m.micro}"
    else if m.second ≠ 0 then s!", {m.second}"
    else ""
  let zone := match m.offset with
    | none => ""
    | some o => ", tzinfo=" ++ zoneText o
  s!"{m.day.fields}, {m.hour}, {m.minute}{time}{zone}"

namespace Scalar

/-- The text of a scalar as a message shows it. -/
def plain : Scalar → String
  | .null => "None"
  | .bool b => if b then "True" else "False"
  | .int n => toString n
  | .float x => x.text
  | .text s => s
  | .day d => d.plain
  | .moment m => m.plain

/-- The text of a scalar inside a list or a mapping: texts stand between quotes. -/
def quoted : Scalar → String
  | .text s => Text.quoted s
  | .day d => s!"datetime.date({d.fields})"
  | .moment m => s!"datetime.datetime({m.fields})"
  | s => s.plain

/-- The name of the kind of a scalar. -/
def kindName : Scalar → String
  | .null => "NoneType"
  | .bool _ => "bool"
  | .int _ => "int"
  | .float _ => "float"
  | .text _ => "str"
  | .day _ => "datetime.date"
  | .moment _ => "datetime.datetime"

/-- Whether a scalar counts as true: all but nothing, false, zero and the empty text. -/
def isTrue : Scalar → Bool
  | .null => false
  | .bool b => b
  | .int n => n ≠ 0
  | .float x => !x.isZero
  | .text s => !s.isEmpty
  | .day _ => true
  | .moment _ => true

/-- The integer that a truth value or an integer stands for. -/
def toInt? : Scalar → Option Int
  | .bool b => some (if b then 1 else 0)
  | .int n => some n
  | _ => none

/-- How two scalars compare, if their kinds have an order. -/
def compare? (a b : Scalar) : Option Ordering :=
  match a, b with
  | .text s, .text t => some (compare s t)
  | .float x, .float y => x.compare? y
  | .float x, b => b.toInt?.bind x.compareInt
  | a, .float y => (a.toInt?.bind y.compareInt).map Ordering.swap
  | .day d, .day e => some (compare d.plain e.plain)
  | .moment m, .moment n => some (compare m.plain n.plain)
  | a, b =>
    match a.toInt?, b.toInt? with
    | some m, some n => some (compare m n)
    | _, _ => none

/-- Whether two scalars are the same key. -/
def same (a b : Scalar) : Bool := a == b || a.compare? b == some .eq

end Scalar

end Conventions
