import Bindery.Text.Quoted
import Bindery.Decimal.Round

/-!
# Reading numbers and truth values from text

`readInt` reads an integer the way source literals are written: an optional sign, then decimal
digits, or a base prefix (`0x`, `0o`, `0b`, or a bare leading `0` for octal) and digits of that
base; underscores may separate digits. The value must fit in 64 signed bits. `readFloat` reads a
decimal or hexadecimal floating-point literal, rounded correctly, or `inf`, `infinity` and `nan`
in any case. `readBool` knows `1 t T TRUE true True` and `0 f F FALSE false False`. Each
failure carries the message the reader gives for it.
-/

namespace Bindery.Decimal

def digitIn (base : Nat) (c : Char) : Option Nat :=
  let d := if '0' ≤ c && c ≤ '9' then some (c.toNat - 48)
    else if 'a' ≤ c && c ≤ 'z' then some (c.toNat - 87)
    else if 'A' ≤ c && c ≤ 'Z' then some (c.toNat - 55)
    else none
  d.bind fun d => if d < base then some d else none

/-- Whether the underscores of a number are allowed: each stands between two digits, or between
a base prefix and a digit. -/
def underscoresFit (base : Nat) (prefixed : Bool) (cs : List Char) : Bool :=
  let rec go (sawDigit : Bool) (sawUnderscore : Bool) : List Char → Bool
    | [] => !sawUnderscore
    | '_' :: rest => sawDigit && go false true rest
    | c :: rest => (digitIn base c).isSome && go true false rest
  go prefixed false cs

inductive ReadError where
  | malformed
  | range
deriving BEq, Repr, Inhabited

/-- The message of a failed read, naming the reader and the text. -/
def ReadError.message (e : ReadError) (reader text : String) : String :=
  "strconv." ++ reader ++ ": parsing " ++ Text.quoted text ++ ": " ++
    (match e with
     | .malformed => "invalid syntax"
     | .range => "value out of range")

/-- The integer a text holds, with the base given by its prefix. -/
def readInt (text : String) : Except ReadError Int :=
  let cs := text.toList
  let (neg, cs) := match cs with
    | '-' :: rest => (true, rest)
    | '+' :: rest => (false, rest)
    | rest => (false, rest)
  let (base, prefixed, body) := match cs with
    | '0' :: 'x' :: rest | '0' :: 'X' :: rest => (16, true, rest)
    | '0' :: 'o' :: rest | '0' :: 'O' :: rest => (8, true, rest)
    | '0' :: 'b' :: rest | '0' :: 'B' :: rest => (2, true, rest)
    | '0' :: rest@(_ :: _) => (8, true, rest)
    | rest => (10, false, rest)
  if body.isEmpty && !(base == 8 && prefixed) then .error .malformed
  else if !underscoresFit base prefixed body then .error .malformed
  else
    let digits := body.filter (· != '_')
    match digits.foldlM (fun acc c => (digitIn base c).map fun d => acc * base + d) 0 with
    | none => .error .malformed
    | some n =>
      let v : Int := if neg then -(n : Int) else n
      if v < -Int.pow 2 63 || v ≥ Int.pow 2 63 then .error .range else .ok v

def readDecimalInt (text : String) : Except ReadError Int :=
  let cs := text.toList
  let (neg, body) := match cs with
    | '-' :: rest => (true, rest)
    | '+' :: rest => (false, rest)
    | rest => (false, rest)
  if body.isEmpty || !body.all Char.isDigit then .error .malformed
  else
    let n : Nat := body.foldl (fun n c => n * 10 + (c.toNat - 48)) 0
    let v : Int := if neg then -(n : Int) else n
    if v < -Int.pow 2 63 || v ≥ Int.pow 2 63 then .error .range else .ok v

def decimalValue (ds : List Char) : Nat := ds.foldl (fun n c => n * 10 + (c.toNat - 48)) 0

/-- What a scan of a number's text saw last: nothing yet, a digit (or a base prefix), an
underscore, or anything else. -/
inductive Saw where
  | start
  | digit
  | underscore
  | other

/-- Whether the underscores of a number's text are placed well: each follows a digit or a base
prefix and precedes a digit. A sign may lead. -/
def underscoresPlaced (cs : List Char) : Bool :=
  let cs := match cs with
    | '-' :: r | '+' :: r => r
    | r => r
  let (hex, saw, body) : Bool × Saw × List Char := match cs with
    | '0' :: b :: rest =>
      if b == 'x' || b == 'X' then (true, .digit, rest)
      else if b == 'b' || b == 'B' || b == 'o' || b == 'O' then (false, .digit, rest)
      else (false, .start, cs)
    | _ => (false, .start, cs)
  let rec go (saw : Saw) : List Char → Bool
    | [] => !(saw matches .underscore)
    | c :: rest =>
      if c.isDigit || (hex && (digitIn 16 c).isSome) then go .digit rest
      else if c == '_' then (saw matches .digit) && go .underscore rest
      else if saw matches .underscore then false
      else go .other rest
  go saw body

/-- Reads the digits of a mantissa in a base, skipping underscores and taking at most one point:
the digits' value, how many come after the point, whether there was any digit, and the rest of
the text. -/
def scanMantissa (base : Nat) : List Char → Nat → Nat → Bool → Bool → Nat × Nat × Bool × List Char
  | [], m, frac, _, digits => (m, frac, digits, [])
  | c :: rest, m, frac, dot, digits =>
    if c == '_' then scanMantissa base rest m frac dot digits
    else if c == '.' then
      if dot then (m, frac, digits, c :: rest) else scanMantissa base rest m frac true digits
    else match digitIn base c with
      | some d => scanMantissa base rest (m * base + d) (if dot then frac + 1 else frac) dot true
      | none => (m, frac, digits, c :: rest)

/-- Reads exponent digits, skipping underscores. Like the host's reader, it stops growing the
value once it reaches ten thousand, which already puts any mantissa out of range. -/
def scanExponent : List Char → Nat → Nat × List Char
  | [], e => (e, [])
  | c :: rest, e =>
    if c == '_' then scanExponent rest e
    else if c.isDigit then scanExponent rest (if e < 10000 then e * 10 + (c.toNat - 48) else e)
    else (e, c :: rest)

/-- The parts of a number written as a floating-point literal: its sign, whether it is
hexadecimal, its digits' value and the exponent applying to them (of ten, or of two for
hexadecimal). None when the whole text is not such a literal. A hexadecimal literal needs its
`p` exponent. -/
def floatParts (text : List Char) : Option (Bool × Bool × Nat × Int) :=
  let (neg, cs) := match text with
    | '-' :: rest => (true, rest)
    | '+' :: rest => (false, rest)
    | rest => (false, rest)
  let (hex, cs) := match cs with
    | '0' :: x :: rest@(_ :: _) => if x == 'x' || x == 'X' then (true, rest) else (false, cs)
    | _ => (false, cs)
  let (m, frac, digits, cs) := scanMantissa (if hex then 16 else 10) cs 0 0 false false
  if !digits then none else
  let expChar := if hex then 'p' else 'e'
  let exponent : Option (Int × List Char) := match cs with
    | c :: rest =>
      if Char.ofNat (c.toNat ||| 0x20) == expChar then
        let (eneg, rest) := match rest with
          | '-' :: r => (true, r)
          | '+' :: r => (false, r)
          | r => (false, r)
        match rest with
        | d :: _ =>
          if d.isDigit then
            let (e, rest) := scanExponent rest 0
            some (if eneg then -(e : Int) else e, rest)
          else none
        | [] => none
      else if hex then none else some (0, cs)
    | [] => if hex then none else some (0, [])
  match exponent with
  | some (e, []) =>
    if text.contains '_' && !underscoresPlaced text then none
    else some (neg, hex, m, if hex then e - 4 * frac else e - frac)
  | _ => none

/-- The value of `inf`, `infinity` (either with a sign) or `nan`, in any case. -/
def specialFloat? (cs : List Char) : Option Float :=
  let word := String.ofList (cs.map fun c => if 'A' ≤ c && c ≤ 'Z' then Char.ofNat (c.toNat + 32) else c)
  match word with
  | "inf" | "infinity" | "+inf" | "+infinity" => some (1.0 / 0.0)
  | "-inf" | "-infinity" => some (-1.0 / 0.0)
  | "nan" => some (0.0 / 0.0)
  | _ => none

/-- The float a text holds, correctly rounded: a decimal or hexadecimal floating-point literal
with an optional sign, whose digits underscores may separate, or a special value. A finite
literal too large for a double is out of range; one too small is zero. -/
def readFloat (text : String) : Except ReadError Float :=
  let cs := text.toList
  match specialFloat? cs with
  | some f => .ok f
  | none =>
    match floatParts cs with
    | none => .error .malformed
    | some (neg, hex, m, e) =>
      let radix := if hex then 2 else 10
      let f := if m == 0 then ofRatio neg 0 1
        else if e ≥ 0 then ofRatio neg (m * Nat.pow radix e.toNat) 1
        else ofRatio neg m (Nat.pow radix (-e).toNat)
      if f.isInf then .error .range else .ok f

def readBool (text : String) : Except ReadError Bool :=
  match text with
  | "1" | "t" | "T" | "TRUE" | "true" | "True" => .ok true
  | "0" | "f" | "F" | "FALSE" | "false" | "False" => .ok false
  | _ => .error .malformed

end Bindery.Decimal
