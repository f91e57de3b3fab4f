import Bindery.Json.Basic

/-!
# Reading JSON text

`Json.read` reads one document. A number written as an integer literal (no point, no exponent)
that fits a signed 64-bit word is an integer; every other number is the nearest double. The reader
is total: every nested value consumes at least one character before it, so the length of the text
bounds the depth of the recursion.
-/

namespace Bindery.Json

def isBlank (c : Char) : Bool := c == ' ' || c == '\t' || c == '\n' || c == '\r'

def skipBlank (cs : List Char) : List Char := cs.dropWhile isBlank

def hexValue (c : Char) : Option Nat :=
  if '0' ≤ c && c ≤ '9' then some (c.toNat - 48)
  else if 'a' ≤ c && c ≤ 'f' then some (c.toNat - 87)
  else if 'A' ≤ c && c ≤ 'F' then some (c.toNat - 55)
  else none

def hex4 (a b c d : Char) : Option Nat := do
  let a ← hexValue a
  let b ← hexValue b
  let c ← hexValue c
  let d ← hexValue d
  pure (((a * 16 + b) * 16 + c) * 16 + d)

/-- The character of a code point; a surrogate or an out-of-range value becomes U+FFFD. -/
def charOfCode (n : Nat) : Char :=
  if n < 0xD800 || (0xDFFF < n && n < 0x110000) then Char.ofNat n else '\uFFFD'

/-- The character of a surrogate pair, if the two units form one. -/
def charOfPair (hi lo : Nat) : Option Char :=
  if 0xD800 ≤ hi && hi < 0xDC00 && 0xDC00 ≤ lo && lo < 0xE000 then
    some (Char.ofNat (0x10000 + (hi - 0xD800) * 0x400 + (lo - 0xDC00)))
  else none

def simpleEscape : Char → Option Char
  | '"' => some '"'
  | '\\' => some '\\'
  | '/' => some '/'
  | 'b' => some '\x08'
  | 'f' => some '\x0c'
  | 'n' => some '\n'
  | 'r' => some '\r'
  | 't' => some '\t'
  | _ => none

/-- The body of a string literal after its opening quote: its text and what follows the closing
quote. A lone surrogate escape becomes U+FFFD. -/
def readStringBody : List Char → List Char → Option (String × List Char)
  | [], _ => none
  | '"' :: rest, acc => some (String.ofList acc.reverse, rest)
  | '\\' :: 'u' :: a :: b :: c :: d :: '\\' :: 'u' :: e :: f :: g :: h :: rest, acc =>
    match hex4 a b c d, hex4 e f g h with
    | some hi, some lo =>
      match charOfPair hi lo with
      | some ch => readStringBody rest (ch :: acc)
      | none => readStringBody ('\\' :: 'u' :: e :: f :: g :: h :: rest) (charOfCode hi :: acc)
    | _, _ => none
  | '\\' :: 'u' :: a :: b :: c :: d :: rest, acc =>
    match hex4 a b c d with
    | some n => readStringBody rest (charOfCode n :: acc)
    | none => none
  | '\\' :: c :: rest, acc =>
    match simpleEscape c with
    | some ch => readStringBody rest (ch :: acc)
    | none => none
  | c :: rest, acc => readStringBody rest (c :: acc)
termination_by cs => cs.length

def digitsValue (ds : List Char) : Nat := ds.foldl (fun n c => n * 10 + (c.toNat - 48)) 0

def readNumber (cs : List Char) : Option (Json × List Char) :=
  let (neg, cs) := match cs with
    | '-' :: rest => (true, rest)
    | _ => (false, cs)
  let intDigits := cs.takeWhile Char.isDigit
  let cs := cs.dropWhile Char.isDigit
  if intDigits.isEmpty || (intDigits.length > 1 && intDigits.head? == some '0') then none else
  let (fracDigits, hasPoint, cs) := match cs with
    | '.' :: rest => (rest.takeWhile Char.isDigit, true, rest.dropWhile Char.isDigit)
    | _ => ([], false, cs)
  if hasPoint && fracDigits.isEmpty then none else
  let (expNeg, expDigits, hasExp, cs) := match cs with
    | 'e' :: rest | 'E' :: rest =>
      let (eneg, rest) := match rest with
        | '-' :: r => (true, r)
        | '+' :: r => (false, r)
        | r => (false, r)
      (eneg, rest.takeWhile Char.isDigit, true, rest.dropWhile Char.isDigit)
    | _ => (false, [], false, cs)
  if hasExp && expDigits.isEmpty then none else
  let whole := digitsValue intDigits
  let signed : Int := if neg then -(whole : Int) else whole
  if !hasPoint && !hasExp && -Int.pow 2 63 ≤ signed && signed < Int.pow 2 63 then
    some (.int signed, cs)
  else
    let mantissa := digitsValue (intDigits ++ fracDigits)
    let exp10 : Int := (if expNeg then -(digitsValue expDigits : Int) else digitsValue expDigits)
      - fracDigits.length
    let magnitude : Float :=
      if exp10 ≥ 0 then Float.ofScientific mantissa false exp10.toNat
      else Float.ofScientific mantissa true exp10.natAbs
    some (.float (if neg then -magnitude else magnitude), cs)

mutual

/-- One value at the head of the text (after blanks), with a depth budget. -/
def readValue : Nat → List Char → Option (Json × List Char)
  | 0, _ => none
  | fuel + 1, cs =>
    match skipBlank cs with
    | 'n' :: 'u' :: 'l' :: 'l' :: rest => some (.null, rest)
    | 't' :: 'r' :: 'u' :: 'e' :: rest => some (.bool true, rest)
    | 'f' :: 'a' :: 'l' :: 's' :: 'e' :: rest => some (.bool false, rest)
    | '"' :: rest => (readStringBody rest []).map fun (s, r) => (.str s, r)
    | '[' :: rest =>
      match skipBlank rest with
      | ']' :: rest' => some (.arr [], rest')
      | _ => (readItems fuel rest []).map fun (xs, r) => (.arr xs, r)
    | '{' :: rest =>
      match skipBlank rest with
      | '}' :: rest' => some (.obj [], rest')
      | _ => (readFields fuel rest []).map fun (fs, r) => (.obj (dedupFields fs), r)
    | cs' => readNumber cs'

/-- The items of an array after its opening bracket, up to the closing bracket. -/
def readItems : Nat → List Char → List Json → Option (List Json × List Char)
  | 0, _, _ => none
  | fuel + 1, cs, acc =>
    match readValue fuel cs with
    | none => none
    | some (v, rest) =>
      match skipBlank rest with
      | ',' :: rest' => readItems fuel rest' (v :: acc)
      | ']' :: rest' => some ((v :: acc).reverse, rest')
      | _ => none

/-- The fields of an object after its opening brace, up to the closing brace. -/
def readFields : Nat → List Char → List (String × Json) → Option (List (String × Json) × List Char)
  | 0, _, _ => none
  | fuel + 1, cs, acc =>
    match skipBlank cs with
    | '"' :: rest =>
      match readStringBody rest [] with
      | none => none
      | some (key, rest) =>
        match skipBlank rest with
        | ':' :: rest =>
          match readValue fuel rest with
          | none => none
          | some (v, rest) =>
            match skipBlank rest with
            | ',' :: rest' => readFields fuel rest' ((key, v) :: acc)
            | '}' :: rest' => some (((key, v) :: acc).reverse, rest')
            | _ => none
        | _ => none
    | _ => none

end

/-- Reads a whole text as one document; blanks may surround it. -/
def read (text : String) : Option Json :=
  let cs := text.toList
  match readValue (2 * cs.length + 2) cs with
  | some (j, rest) => if (skipBlank rest).isEmpty then some j else none
  | none => none

end Bindery.Json
