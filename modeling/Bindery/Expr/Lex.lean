import Bindery.Expr.Syntax
import Bindery.Expr.Diagnostic
import Bindery.Text.Case
import Bindery.Text.Quoted

/-!
# Tokens of the dynamic expression language

The source is read character by character. Blanks and comments (`// …` to the end of the line,
`/* … */`) separate tokens. Strings are quoted with `'` or `"` (with backslash escapes) or with
backticks (raw). Numbers are decimal, or hexadecimal, octal or binary after `0x`, `0o`, `0b`, with
an optional fraction and exponent and `_` between digits. Names are made of letters, digits, `_`
and `$`; some names are operators (`in`, `and`, `not in`, …). Operators are one or two
characters; brackets are single characters.

Reading stops at the first error; the end of the source is marked by an `EOF` token that points
at the last character.
-/

namespace Bindery.Expr

def isLetter (c : Char) : Bool :=
  c.isAlpha ||
    (c.toNat ≥ 0xC0 && c.toNat != 0xD7 && c.toNat != 0xF7 && !Text.isSpace c &&
      !(0x2000 ≤ c.toNat && c.toNat ≤ 0x206F) && !(0x3000 ≤ c.toNat && c.toNat ≤ 0x303F)) ||
    c.toNat == 0xAA || c.toNat == 0xB5 || c.toNat == 0xBA

def isNameChar (c : Char) : Bool := c == '_' || c == '$' || isLetter c || c.isDigit

def hexValue (c : Char) : Option Nat :=
  if c.isDigit then some (c.toNat - '0'.toNat)
  else if 'a' ≤ c && c ≤ 'f' then some (c.toNat - 'a'.toNat + 10)
  else if 'A' ≤ c && c ≤ 'F' then some (c.toNat - 'A'.toNat + 10)
  else none

/-- The value of a digit in a base, 16 or more for a character that is not a digit. -/
def digitValue (c : Char) : Nat := (hexValue c).getD 16

/-- A character from a code point; invalid code points become the replacement character. -/
def charOf (n : Nat) : Char :=
  if n < 0xD800 || (0xDFFF < n && n < 0x110000) then Char.ofNat n else '�'

def unescapeChars : Nat → List Char → Except String (List Char)
  | 0, _ => .ok []
  | _, [] => .ok []
  | fuel + 1, '\\' :: rest =>
    match rest with
    | [] => .error "unable to unescape string, found '\\' as last character"
    | c :: tail =>
      let simple : Option Char := match c with
        | 'a' => some '\x07' | 'b' => some '\x08' | 'f' => some '\x0c' | 'n' => some '\n'
        | 'r' => some '\r' | 't' => some '\t' | 'v' => some '\x0b' | '\\' => some '\\'
        | '\'' => some '\'' | '"' => some '"' | '`' => some '`' | '?' => some '?'
        | _ => none
      match simple with
      | some v => do pure (v :: (← unescapeChars fuel tail))
      | none =>
        let width := match c with
          | 'x' | 'X' => 2 | 'u' => 4 | 'U' => 8 | _ => 0
        if width > 0 then
          let ds := tail.take width
          if ds.length < width then .error "unable to unescape string" else
          match ds.mapM hexValue with
          | none => .error "unable to unescape string"
          | some vs =>
            let v := vs.foldl (fun acc d => acc * 16 + d) 0
            if v > 0x10FFFF then .error "unable to unescape string"
            else do pure (charOf v :: (← unescapeChars fuel (tail.drop width)))
        else if '0' ≤ c && c ≤ '3' then
          match tail with
          | a :: b :: more =>
            if '0' ≤ a && a ≤ '7' && '0' ≤ b && b ≤ '7' then
              let v := (c.toNat - 48) * 64 + (a.toNat - 48) * 8 + (b.toNat - 48)
              do pure (charOf v :: (← unescapeChars fuel more))
            else .error "unable to unescape octal sequence in string"
          | _ => .error "unable to unescape octal sequence in string"
        else .error "unable to unescape string"
  | fuel + 1, c :: rest => do pure (c :: (← unescapeChars fuel rest))

def charAt (src : Array Char) (i : Nat) : Option Char := src[i]?

def charIn (src : Array Char) (i : Nat) (set : String) : Bool :=
  match src[i]? with
  | some c => set.toList.contains c
  | none => false

def runWhile (src : Array Char) (p : Char → Bool) (i : Nat) : Nat :=
  let rec go : Nat → Nat → Nat
    | 0, j => j
    | fuel + 1, j => match src[j]? with
      | some c => if p c then go fuel (j + 1) else j
      | none => j
  go (src.size + 1) i

def slice (src : Array Char) (a b : Nat) : String := String.ofList ((src.extract a b).toList)

/-- The end of a quoted string whose body starts at an offset (after the opening quote): the
offset after the closing quote, or the diagnostic of an unterminated string or a bad escape. -/
def scanQuoted (src : Array Char) (quote : Char) : Nat → Nat → Except Diag Nat
  | 0, p => .error ⟨p, "literal not terminated"⟩
  | fuel + 1, p =>
    match src[p]? with
    | none => .error ⟨p, "literal not terminated"⟩
    | some c =>
      if c == quote then .ok (p + 1)
      else if c == '\n' then .error ⟨p, "literal not terminated"⟩
      else if c == '\\' then
        match src[p + 1]? with
        | none => .error ⟨p + 1, "invalid char escape"⟩
        | some e =>
          if "abfnrtv\\".toList.contains e || e == quote then scanQuoted src quote fuel (p + 2)
          else
            let digits (start base count : Nat) : Except Diag Nat :=
              let q := runWhile src (fun d => digitValue d < base) start
              let q' := min q (start + count)
              if q' - start < count then .error ⟨q', "invalid char escape"⟩ else .ok q'
            let next : Except Diag Nat :=
              if '0' ≤ e && e ≤ '7' then digits (p + 1) 8 3
              else if e == 'x' then digits (p + 2) 16 2
              else if e == 'u' then digits (p + 2) 16 4
              else if e == 'U' then digits (p + 2) 16 8
              else .error ⟨p + 1, "invalid char escape"⟩
            match next with
            | .ok q => scanQuoted src quote fuel q
            | .error d => .error d
      else scanQuoted src quote fuel (p + 1)

/-- The end of a number starting at an offset, or the diagnostic of a malformed one. `p` is where
scanning starts (after a leading `.`). -/
def scanNumber (src : Array Char) (start p : Nat) : Except Diag Nat :=
  let (p, digits) :=
    if charIn src p "0" then
      if charIn src (p + 1) "xX" then (p + 2, "0123456789abcdefABCDEF_")
      else if charIn src (p + 1) "oO" then (p + 2, "01234567_")
      else if charIn src (p + 1) "bB" then (p + 2, "01_")
      else (p + 1, "0123456789_")
    else (p, "0123456789_")
  let inDigits (c : Char) : Bool := digits.toList.contains c
  let p := runWhile src inDigits p
  let p :=
    if charIn src p "." then
      if charIn src (p + 1) "." then p else runWhile src inDigits (p + 1)
    else p
  let p :=
    if charIn src p "eE" then
      let q := if charIn src (p + 1) "+-" then p + 2 else p + 1
      runWhile src inDigits q
    else p
  match src[p]? with
  | some c =>
    if isNameChar c then
      .error ⟨p, "bad number syntax: " ++ Text.quoted (slice src start (p + 1))⟩
    else .ok p
  | none => .ok p

def operatorWords : List String :=
  ["in", "or", "and", "matches", "contains", "startsWith", "endsWith", "let", "if", "else"]

def negatable : List String := ["in", "matches", "contains", "startsWith", "endsWith"]

/-- The hexadecimal digits of a code point, at least four. -/
def codePointText (n : Nat) : String :=
  let hex := "0123456789ABCDEF".toList
  let rec digitsOf : Nat → Nat → List Char
    | 0, _ => []
    | fuel + 1, m => if m < 16 then [hex.getD m '0'] else digitsOf fuel (m / 16) ++ [hex.getD (m % 16) '0']
  let ds := digitsOf 8 n
  String.ofList (List.replicate (4 - ds.length) '0' ++ ds)

/-- Reads tokens from offset `i`, where the previous token ended at `i` too; at most `fuel`
tokens more. -/
def lexFrom (src : Array Char) : Nat → Nat → Array Token → Except Diag (Array Token)
  | 0, i, acc => .ok (acc.push ⟨.eof, "", i⟩)
  | fuel + 1, i, acc =>
    let emit (k : Kind) (stop : Nat) : Except Diag (Array Token) :=
      lexFrom src fuel stop (acc.push ⟨k, slice src i stop, i⟩)
    match src[i]? with
    | none => .ok (acc.push ⟨.eof, "", i - 1⟩)
    | some c =>
      if Text.isSpace c then lexFrom src fuel (i + 1) acc
      else if c == '\'' || c == '"' then
        match scanQuoted src c (src.size + 1) (i + 1) with
        | .error d => .error d
        | .ok stop =>
          match unescapeChars (stop - i) (((src.extract (i + 1) (stop - 1)).toList)) with
          | .ok cs => lexFrom src fuel stop (acc.push ⟨.string, String.ofList cs, i⟩)
          | .error m => .error ⟨stop - 1, m⟩
      else if c == '`' then
        let stop := runWhile src (· != '`') (i + 1)
        if stop ≥ src.size then .error ⟨src.size, "literal not terminated"⟩
        else lexFrom src fuel (stop + 1) (acc.push ⟨.string, slice src (i + 1) stop, i⟩)
      else if c.isDigit then
        match scanNumber src i i with
        | .ok stop => emit .number stop
        | .error d => .error d
      else if c == '?' then emit .operator (if charIn src (i + 1) ".?" then i + 2 else i + 1)
      else if c == '/' then
        if charIn src (i + 1) "/" then
          let stop := runWhile src (· != '\n') (i + 2)
          lexFrom src fuel (if stop ≥ src.size then stop + 1 else stop + 1) acc
        else if charIn src (i + 1) "*" then
          let rec close : Nat → Nat → Option Nat
            | 0, _ => none
            | f + 1, j => match src[j]? with
              | none => none
              | some '*' => if charIn src (j + 1) "/" then some (j + 2) else close f (j + 1)
              | some _ => close f (j + 1)
          match close (src.size + 1) (i + 2) with
          | some stop => lexFrom src fuel stop acc
          | none => .error ⟨src.size, "unclosed comment"⟩
        else emit .operator (i + 1)
      else if c == '#' then
        let stop := runWhile src isNameChar (i + 1)
        let acc := acc.push ⟨.operator, "#", i⟩
        if stop > i + 1 then lexFrom src fuel stop (acc.push ⟨.identifier, slice src (i + 1) stop, i + 1⟩)
        else lexFrom src fuel stop acc
      else if c == '|' then emit .operator (if charIn src (i + 1) "|" then i + 2 else i + 1)
      else if c == ':' then emit .operator (if charIn src (i + 1) ":" then i + 2 else i + 1)
      else if "([\x7b)]\x7d".toList.contains c then emit .bracket (i + 1)
      else if ",;%+-^".toList.contains c then emit .operator (i + 1)
      else if "&!=*<>".toList.contains c then
        emit .operator (if charIn src (i + 1) "&=*" then i + 2 else i + 1)
      else if c == '.' then
        if (src[i + 1]?.map Char.isDigit).getD false then
          match scanNumber src i (i + 1) with
          | .ok stop => emit .number stop
          | .error d => .error d
        else emit .operator (if charIn src (i + 1) "." then i + 2 else i + 1)
      else if isNameChar c then
        let stop := runWhile src isNameChar i
        let word := slice src i stop
        if word == "not" then
          let acc := acc.push ⟨.operator, "not", i⟩
          let after := runWhile src Text.isSpace stop
          let stop2 := runWhile src isNameChar after
          let next := slice src after stop2
          if negatable.contains next then
            lexFrom src fuel stop2 (acc.push ⟨.operator, next, after⟩)
          else lexFrom src fuel after acc
        else if operatorWords.contains word then emit .operator stop
        else emit .identifier stop
      else .error ⟨i, "unrecognized character: U+" ++ codePointText c.toNat ++ " '" ++ c.toString ++ "'"⟩

/-- The tokens of a source, ending with `EOF`, or the first diagnostic. -/
def lex (source : String) : Except Diag (Array Token) :=
  let src := source.toList.toArray
  lexFrom src (src.size + 2) 0 #[]

end Bindery.Expr
