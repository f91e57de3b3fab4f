import Bindery.Json.Plain

/-!
# Documents as JSON text

A document is written with the keys of its objects sorted, numbers positional from `1e-6` up to
below `1e21` and with a one-digit-or-more exponent otherwise, and strings escaped: quotes and
backslashes, control characters (by their short escapes where JSON has them, by code otherwise),
and the line and paragraph separators, which some readers take for line ends. Text meant for a
page also escapes `<`, `>` and `&`, so that it cannot close or open markup around it.

The compact form writes nothing between tokens. The indented form puts every item and field on a
line of its own, indented by one step per level of nesting, with a blank after each colon; an
empty array or object stays `[]` or `{}`.
-/

namespace Bindery.Json

def numberLayout : Decimal.Layout := ⟨-6, 21, 1, false, "NaN", "+Inf", "-Inf"⟩

def hexChar (n : Nat) : Char := if n < 10 then Char.ofNat (48 + n) else Char.ofNat (87 + n)

/-- The escape of a character by its code, which must be below `0x10000`. -/
def codeEscape (c : Char) : List Char :=
  let n := c.toNat
  ['\\', 'u', hexChar (n / 4096 % 16), hexChar (n / 256 % 16), hexChar (n / 16 % 16),
    hexChar (n % 16)]

/-- One character inside a JSON string. `controlNames` writes backspace and form feed by their
short escapes; `html` escapes the characters that open and close markup. -/
def marshalChar (controlNames html : Bool) (c : Char) : List Char :=
  match c with
  | '"' => ['\\', '"']
  | '\\' => ['\\', '\\']
  | '\n' => ['\\', 'n']
  | '\r' => ['\\', 'r']
  | '\t' => ['\\', 't']
  | '\x08' => if controlNames then ['\\', 'b'] else codeEscape c
  | '\x0c' => if controlNames then ['\\', 'f'] else codeEscape c
  | '\u2028' | '\u2029' => codeEscape c
  | '<' | '>' | '&' => if html then codeEscape c else [c]
  | c => if c.toNat < 0x20 then codeEscape c else [c]

def marshalString (controlNames html : Bool) (s : String) : String :=
  "\"" ++ String.ofList (s.toList.flatMap (marshalChar controlNames html)) ++ "\""

/-- A scalar as JSON writes it; none for arrays and objects. -/
def scalarText (html : Bool) : Json → Option String
  | .null => some "null"
  | .bool b => some (if b then "true" else "false")
  | .int i => some (Decimal.intText i)
  | .float x => some (numberLayout.float x)
  | .str s => some (marshalString true html s)
  | _ => none

mutual

/-- A document as compact JSON, the keys of objects sorted. -/
def compact (html : Bool) : Json → String
  | .arr items => "[" ++ ",".intercalate (compactItems html items) ++ "]"
  | .obj fields =>
    "\x7b" ++ ",".intercalate ((sortByKey (compactFields html fields)).map fun (k, t) =>
      marshalString true html k ++ ":" ++ t) ++ "\x7d"
  | j => (scalarText html j).getD ""

def compactItems (html : Bool) : List Json → List String
  | [] => []
  | x :: xs => compact html x :: compactItems html xs

def compactFields (html : Bool) : List (String × Json) → List (String × String)
  | [] => []
  | (k, v) :: rest => (k, compact html v) :: compactFields html rest

end

mutual

/-- A document as indented JSON at a depth of nesting, the keys of objects sorted: `step` is
the indentation of one level. -/
def indented (html : Bool) (step : String) (depth : Nat) : Json → String
  | .arr [] => "[]"
  | .obj [] => "\x7b\x7d"
  | .arr items =>
    let inner := "\n" ++ String.join (List.replicate (depth + 1) step)
    "[" ++ inner ++ ("," ++ inner).intercalate (indentedItems html step (depth + 1) items) ++
      "\n" ++ String.join (List.replicate depth step) ++ "]"
  | .obj fields =>
    let inner := "\n" ++ String.join (List.replicate (depth + 1) step)
    "\x7b" ++ inner ++ ("," ++ inner).intercalate
      ((sortByKey (indentedFields html step (depth + 1) fields)).map fun (k, t) =>
        marshalString true html k ++ ": " ++ t) ++
      "\n" ++ String.join (List.replicate depth step) ++ "\x7d"
  | j => (scalarText html j).getD ""

def indentedItems (html : Bool) (step : String) (depth : Nat) : List Json → List String
  | [] => []
  | x :: xs => indented html step depth x :: indentedItems html step depth xs

def indentedFields (html : Bool) (step : String) (depth : Nat) :
    List (String × Json) → List (String × String)
  | [] => []
  | (k, v) :: rest => (k, indented html step depth v) :: indentedFields html step depth rest

end

end Bindery.Json
