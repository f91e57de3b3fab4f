import Bindery.Json.Basic
import Bindery.Decimal.Layout

/-!
# Writing JSON text

`Json.render` writes a document on one line. Object fields are written in sorted order of their
names, a float always reads back as a float (`2.0`, `1e+300`), and a string escapes the quote, the
backslash and the control characters.
-/

namespace Bindery.Json

def hexDigit (n : Nat) : Char := if n < 10 then Char.ofNat (48 + n) else Char.ofNat (87 + n)

def escapeChar (c : Char) : List Char :=
  match c with
  | '"' => ['\\', '"']
  | '\\' => ['\\', '\\']
  | '\n' => ['\\', 'n']
  | '\r' => ['\\', 'r']
  | '\t' => ['\\', 't']
  | c =>
    if c.toNat < 0x20 then
      ['\\', 'u', '0', '0', hexDigit (c.toNat / 16), hexDigit (c.toNat % 16)]
    else [c]

def quote (s : String) : String :=
  String.ofList ('"' :: (s.toList.flatMap escapeChar ++ ['"']))

def insertSorted (f : String × String) : List (String × String) → List (String × String)
  | [] => [f]
  | g :: rest => if f.1 < g.1 then f :: g :: rest else g :: insertSorted f rest

/-- Written fields sorted by name; the order of equal names is kept. -/
def sortFields (fs : List (String × String)) : List (String × String) :=
  fs.foldr insertSorted []

mutual

def render : Json → String
  | .null => "null"
  | .bool b => if b then "true" else "false"
  | .int i => Decimal.intText i
  | .float f => Decimal.Layout.answer.float f
  | .str s => quote s
  | .arr items => "[" ++ ",".intercalate (renderItems items) ++ "]"
  | .obj fields =>
    "\x7b" ++ ",".intercalate ((sortFields (renderFields fields)).map fun (k, t) => quote k ++ ":" ++ t)
      ++ "\x7d"

def renderItems : List Json → List String
  | [] => []
  | x :: xs => render x :: renderItems xs

def renderFields : List (String × Json) → List (String × String)
  | [] => []
  | (k, v) :: rest => (k, render v) :: renderFields rest

end

end Bindery.Json
