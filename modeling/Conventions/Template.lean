import Conventions.Text.Name

/-!
# Message templates

A template is text with replacement fields in braces; a doubled brace stands for the brace itself. A
field has a name, and may have a conversion after `!` and a format after `:`. Reading a template gives
its pieces up to the first error. A rule accepts only templates whose fields are bare names.
-/

namespace Conventions

/-- A piece of a template: a character, or a replacement field. -/
inductive Piece where
  | literal (c : Char)
  | field (name : List Char) (conversion : Option Char) (format : List Char)
deriving DecidableEq, Repr

/-- Why the text of a template cannot be read further. -/
inductive TemplateFault where
  | singleOpen
  | singleClose
  | openInName
  | unclosedField
  | noConversion
  | noColon
  | unclosedFormat
deriving DecidableEq, Repr

/-- The message about a template that cannot be read. -/
def TemplateFault.message : TemplateFault → String
  | .singleOpen => "Single '\x7b' encountered in format string"
  | .singleClose => "Single '\x7d' encountered in format string"
  | .openInName => "unexpected '\x7b' in field name"
  | .unclosedField => "expected '\x7d' before end of string"
  | .noConversion => "end of string while looking for conversion specifier"
  | .noColon => "expected ':' after conversion specifier"
  | .unclosedFormat => "unmatched '\x7b' in format spec"

/-- A template: its pieces, and the fault at which reading it ended, if there is one. -/
structure Template where
  pieces : List Piece
  fault : Option TemplateFault
deriving DecidableEq, Repr

namespace Template

/-- Where the reading of a template stands. -/
inductive State where
  | text
  | name (read : List Char)
  | bracket (read : List Char)
  | conversion (name : List Char)
  | afterConversion (name : List Char) (c : Char)
  | format (name : List Char) (conversion : Option Char) (depth : Nat) (read : List Char)

/-- The template that ends with a fault. -/
def broken (f : TemplateFault) : Template := ⟨[], some f⟩

/-- The template with a piece in front. -/
def cons (p : Piece) (t : Template) : Template := ⟨p :: t.pieces, t.fault⟩

/-- The conversion that a character asks for: the null character asks for none. -/
def conversionOf (c : Char) : Option Char := if c = '\x00' then none else some c

/-- Reads the rest of a template. -/
def readFrom : State → List Char → Template
  | .text, [] => ⟨[], none⟩
  | .text, ['{'] => broken .singleOpen
  | .text, ['}'] => broken .singleClose
  | .text, '{' :: '{' :: cs => cons (.literal '{') (readFrom .text cs)
  | .text, '}' :: '}' :: cs => cons (.literal '}') (readFrom .text cs)
  | .text, '{' :: cs => readFrom (.name []) cs
  | .text, '}' :: _ => broken .singleClose
  | .text, c :: cs => cons (.literal c) (readFrom .text cs)
  | .name _, [] => broken .unclosedField
  | .name _, '{' :: _ => broken .openInName
  | .name n, '}' :: cs => cons (.field n none []) (readFrom .text cs)
  | .name n, '!' :: cs => readFrom (.conversion n) cs
  | .name n, ':' :: cs => readFrom (.format n none 0 []) cs
  | .name n, '[' :: cs => readFrom (.bracket (n ++ ['['])) cs
  | .name n, c :: cs => readFrom (.name (n ++ [c])) cs
  | .bracket _, [] => broken .unclosedField
  | .bracket n, ']' :: cs => readFrom (.name (n ++ [']'])) cs
  | .bracket n, c :: cs => readFrom (.bracket (n ++ [c])) cs
  | .conversion _, [] => broken .noConversion
  | .conversion n, c :: cs => readFrom (.afterConversion n c) cs
  | .afterConversion _ _, [] => broken .unclosedFormat
  | .afterConversion n c, '}' :: cs => cons (.field n (conversionOf c) []) (readFrom .text cs)
  | .afterConversion n c, ':' :: cs => readFrom (.format n (conversionOf c) 0 []) cs
  | .afterConversion _ _, _ :: _ => broken .noColon
  | .format _ _ _ _, [] => broken .unclosedFormat
  | .format n c 0 f, '}' :: cs => cons (.field n c f) (readFrom .text cs)
  | .format n c (d + 1) f, '}' :: cs => readFrom (.format n c d (f ++ ['}'])) cs
  | .format n c d f, '{' :: cs => readFrom (.format n c (d + 1) (f ++ ['{'])) cs
  | .format n c d f, x :: cs => readFrom (.format n c d (f ++ [x])) cs

/-- Reads a template. -/
def read (cs : List Char) : Template := readFrom .text cs

/-- Why a template is not accepted: it cannot be read, or a field is not a bare name. -/
inductive FieldFault where
  | malformed (f : TemplateFault)
  | notBare (name : List Char)
  | formatted (name : List Char)
deriving DecidableEq, Repr

/-- The message about a template that is not accepted. -/
def FieldFault.message : FieldFault → String
  | .malformed f => f.message
  | .notBare n =>
    "replacement field '\x7b" ++ String.ofList n ++ "\x7d' must be a bare name"
  | .formatted n =>
    "replacement field '\x7b" ++ String.ofList n ++ "\x7d' takes no conversion or format spec"

/-- The names of the fields among pieces, if all of them are bare. -/
def names : List Piece → Except FieldFault (List String)
  | [] => .ok []
  | .literal _ :: ps => names ps
  | .field n c f :: ps =>
    if !Text.isBareName n then .error (.notBare n)
    else if c.isSome || !f.isEmpty then .error (.formatted n)
    else (names ps).map (String.ofList n :: ·)

/-- The names of the fields of a template; the first fault from the left counts. -/
def fieldNames (template : String) : Except FieldFault (List String) :=
  let t := read template.toList
  match names t.pieces, t.fault with
  | .error e, _ => .error e
  | .ok _, some f => .error (.malformed f)
  | .ok ns, none => .ok ns

end Template

end Conventions
