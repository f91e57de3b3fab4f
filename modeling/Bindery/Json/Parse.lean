import Bindery.Json.Reader
import Bindery.Decimal.Read
import Bindery.Text.Quoted

/-!
# Reading JSON text strictly

`Json.parse` reads one document the way a strict decoder into untyped data does: every number
becomes a double, a later field of an object replaces an earlier one of the same name, and the
first character that cannot continue the text is reported with what was expected there:

* `invalid character 'x' looking for beginning of value` where a value should start,
* `... after object key`, `... after object key:value pair`, `... after array element` and
  `... after top-level value` where punctuation or the end should follow,
* `... looking for beginning of object key string` where a field name should start,
* `... in string literal`, `... in string escape code` and `... in \u hexadecimal character
  escape` inside strings,
* `... in numeric literal`, `... after decimal point in numeric literal` and `... in exponent of
  numeric literal` inside numbers, and `... in literal true (expecting 'r')` and the like inside
  the three words.

A text that ends too early is `unexpected end of JSON input`. A number too large for a double is
refused once the text is known to be well formed. A character beyond ASCII is shown by the first
byte of its encoding, as a byte-wise reader sees it.
-/

namespace Bindery.Json

def endOfInput : String := "unexpected end of JSON input"

/-- The character a byte-wise reader shows for a character: the first byte of its encoding. -/
def leadByteChar (c : Char) : Char :=
  match (String.singleton c).toUTF8.toList with
  | b :: _ => Char.ofNat b.toNat
  | [] => c

def invalidChar (c : Char) (context : String) : String :=
  "invalid character " ++ Text.charQuoted (leadByteChar c) ++ " " ++ context

/-- Reading computations: the text left, or the first problem. -/
abbrev ParseResult (α : Type) := Except String (α × List Char)

/-- Reads one of the three words after its first letter, given the letters still expected. -/
def parseWord (word : String) (value : Json) : List Char → List Char → ParseResult Json
  | cs, [] => .ok (value, cs)
  | [], _ :: _ => .error endOfInput
  | c :: rest, w :: more =>
    if c == w then parseWord word value rest more
    else .error (invalidChar c ("in literal " ++ word ++ " (expecting " ++ Text.charQuoted w ++ ")"))

/-- Reads the digits of a number; returns them and the text after them. -/
def spanDigits (cs : List Char) : List Char × List Char :=
  (cs.takeWhile Char.isDigit, cs.dropWhile Char.isDigit)

def parseNumberText (cs : List Char) : Except String (List Char × List Char) := do
  let (sign, cs) := match cs with
    | '-' :: rest => (['-'], rest)
    | _ => ([], cs)
  let (whole, cs) ← match cs with
    | [] => .error endOfInput
    | '0' :: rest => pure (['0'], rest)
    | c :: _ =>
      if c.isDigit then pure (spanDigits cs) else .error (invalidChar c "in numeric literal")
  let (frac, cs) ← match cs with
    | '.' :: rest =>
      match rest with
      | [] => .error endOfInput
      | c :: _ =>
        if c.isDigit then
          let (ds, r) := spanDigits rest
          pure ('.' :: ds, r)
        else .error (invalidChar c "after decimal point in numeric literal")
    | _ => pure ([], cs)
  let (exp, cs) ← match cs with
    | e :: rest =>
      if e == 'e' || e == 'E' then
        let (esign, rest) := match rest with
          | '+' :: r => (['+'], r)
          | '-' :: r => (['-'], r)
          | r => ([], r)
        match rest with
        | [] => .error endOfInput
        | c :: _ =>
          if c.isDigit then
            let (ds, r) := spanDigits rest
            pure (e :: esign ++ ds, r)
          else .error (invalidChar c "in exponent of numeric literal")
      else pure ([], cs)
    | [] => pure ([], [])
  pure (sign ++ whole ++ frac ++ exp, cs)

/-- The error of a `\u` escape whose characters `cs` are not four hexadecimal digits: the first
that is not one, or the end of the text. -/
def badHexEscape (cs : List Char) : ParseResult String :=
  match cs.find? (fun x => (hexValue x).isNone) with
  | some bad => .error (invalidChar bad "in \\u hexadecimal character escape")
  | none => .error endOfInput

/-- Reads the rest of a string literal after its opening quote; returns its text. A lone
surrogate escape becomes U+FFFD. -/
def parseStringBody : List Char → List Char → ParseResult String
  | [], _ => .error endOfInput
  | '"' :: rest, acc => .ok (String.ofList acc.reverse, rest)
  | '\\' :: 'u' :: a :: b :: c :: d :: after@('\\' :: 'u' :: e :: f :: g :: h :: tail), acc =>
    match hex4 a b c d with
    | none => badHexEscape [a, b, c, d]
    | some code =>
      match (hex4 e f g h).bind (charOfPair code) with
      | some ch => parseStringBody tail (ch :: acc)
      | none => parseStringBody after (charOfCode code :: acc)
  | '\\' :: 'u' :: a :: b :: c :: d :: after, acc =>
    match hex4 a b c d with
    | none => badHexEscape [a, b, c, d]
    | some code => parseStringBody after (charOfCode code :: acc)
  | '\\' :: 'u' :: short, _ => badHexEscape short
  | ['\\'], _ => .error endOfInput
  | '\\' :: c :: more, acc =>
    match simpleEscape c with
    | some ch => parseStringBody more (ch :: acc)
    | none => .error (invalidChar c "in string escape code")
  | c :: rest, acc =>
    if c.toNat < 0x20 then .error (invalidChar c "in string literal")
    else parseStringBody rest (c :: acc)
termination_by cs => cs.length
decreasing_by all_goals (subst_vars; simp only [List.length_cons]; omega)

/-- Numbers that do not fit a double, by their literal text. -/
abbrev Overflows := List String

mutual

/-- Reads a value at the head of the text (after blanks), at most `fuel` levels deep. -/
def parseValue : Nat → List Char → Except String (Json × Overflows × List Char)
  | 0, _ => .error "exceeded max depth"
  | fuel + 1, cs =>
    match skipBlank cs with
    | [] => .error endOfInput
    | '{' :: rest => do
      match skipBlank rest with
      | [] => .error endOfInput
      | '}' :: after => pure (.obj [], [], after)
      | _ => do
        let (fields, big, after) ← parseFields fuel rest []
        pure (.obj (dedupFields fields), big, after)
    | '[' :: rest =>
      match skipBlank rest with
      | [] => .error endOfInput
      | ']' :: after => .ok (.arr [], [], after)
      | _ => do
        let (items, big, after) ← parseItems fuel rest []
        pure (.arr items, big, after)
    | '"' :: rest => do
      let (s, after) ← parseStringBody rest []
      pure (.str s, [], after)
    | 't' :: rest => do
      let (v, after) ← parseWord "true" (.bool true) rest ['r', 'u', 'e']
      pure (v, [], after)
    | 'f' :: rest => do
      let (v, after) ← parseWord "false" (.bool false) rest ['a', 'l', 's', 'e']
      pure (v, [], after)
    | 'n' :: rest => do
      let (v, after) ← parseWord "null" .null rest ['u', 'l', 'l']
      pure (v, [], after)
    | c :: rest =>
      if c == '-' || c.isDigit then do
        let (lit, after) ← parseNumberText (c :: rest)
        let text := String.ofList lit
        match Decimal.readFloat text with
        | .ok f => pure (.float f, [], after)
        | .error _ => pure (.null, [text], after)
      else .error (invalidChar c "looking for beginning of value")

/-- Reads the items of an array after its opening bracket, up to the closing bracket. -/
def parseItems : Nat → List Char → List Json → Except String (List Json × Overflows × List Char)
  | 0, _, _ => .error "exceeded max depth"
  | fuel + 1, cs, acc => do
    let (v, big, rest) ← parseValue fuel cs
    match skipBlank rest with
    | [] => .error endOfInput
    | ',' :: more => do
      let (items, big2, after) ← parseItems fuel more (v :: acc)
      pure (items, big ++ big2, after)
    | ']' :: after => pure ((v :: acc).reverse, big, after)
    | c :: _ => .error (invalidChar c "after array element")

/-- Reads the fields of an object after its opening brace (or a comma), up to the closing
brace. -/
def parseFields : Nat → List Char → List (String × Json) →
    Except String (List (String × Json) × Overflows × List Char)
  | 0, _, _ => .error "exceeded max depth"
  | fuel + 1, cs, acc =>
    match skipBlank cs with
    | [] => .error endOfInput
    | '"' :: rest => do
      let (key, rest) ← parseStringBody rest []
      match skipBlank rest with
      | [] => .error endOfInput
      | ':' :: rest => do
        let (v, big, rest) ← parseValue fuel rest
        match skipBlank rest with
        | [] => .error endOfInput
        | ',' :: more => do
          let (fields, big2, after) ← parseFields fuel more ((key, v) :: acc)
          pure (fields, big ++ big2, after)
        | '}' :: after => pure (((key, v) :: acc).reverse, big, after)
        | c :: _ => .error (invalidChar c "after object key:value pair")
      | c :: _ => .error (invalidChar c "after object key")
    | c :: _ => .error (invalidChar c "looking for beginning of object key string")

end

/-- Reads a whole text as one document, every number a double. -/
def parse (text : String) : Except String Json := do
  let cs := text.toList
  let (v, big, rest) ← parseValue (2 * cs.length + 2) cs
  match skipBlank rest with
  | c :: _ => .error (invalidChar c "after top-level value")
  | [] =>
    match big with
    | lit :: _ => .error ("json: cannot unmarshal number " ++ lit ++ " into Go value of type float64")
    | [] => pure v

end Bindery.Json
