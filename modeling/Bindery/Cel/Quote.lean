import Bindery.Cel.Syntax

/-!
# Quoted literals of the typed expression language

The text of a string or bytes token is decoded here: line breaks become `\n`, a leading `r`
marks a raw literal (no escapes), triple quotes enclose multi-line text, and escapes are the
usual single characters, `\x` with two hex digits, `\u` with four, `\U` with eight, and three
octal digits. In a string an escape stands for a character; in bytes `\x` and octal escapes
stand for single bytes and the Unicode escapes are refused.
-/

namespace Bindery.Cel

def utf8Bytes (c : Char) : List Nat :=
  let n := c.toNat
  if n < 0x80 then [n]
  else if n < 0x800 then [0xC0 + n / 64, 0x80 + n % 64]
  else if n < 0x10000 then [0xE0 + n / 4096, 0x80 + (n / 64) % 64, 0x80 + n % 64]
  else [0xF0 + n / 262144, 0x80 + (n / 4096) % 64, 0x80 + (n / 64) % 64, 0x80 + n % 64]

def hexDigit (c : Char) : Option Nat :=
  if c.isDigit then some (c.toNat - 48)
  else if 'a' ≤ c && c ≤ 'f' then some (c.toNat - 87)
  else if 'A' ≤ c && c ≤ 'F' then some (c.toNat - 55)
  else none

/-- One decoded unit: a character, or a raw byte (only in bytes). -/
inductive Piece where
  | char (c : Char)
  | byte (b : Nat)

/-- The character of a code point, or the replacement character when it names none. -/
def charOfCode (n : Nat) : Char :=
  if n < 0xD800 || (0xE000 ≤ n && n < 0x110000) then Char.ofNat n else Char.ofNat 0xFFFD

/-- Decodes escapes in a body, `bytes` telling whether it is a bytes literal. -/
def unescapeBody (bytes : Bool) : List Char → Nat → Except String (List Piece)
  | [], _ => .ok []
  | _, 0 => .ok []
  | c :: rest, fuel + 1 =>
    if c != '\\' then do pure (.char c :: (← unescapeBody bytes rest fuel)) else
    match rest with
    | [] => .error "unable to unescape string, found '\\' as last character"
    | e :: tail =>
      let simple : Option Char := match e with
        | 'a' => some (Char.ofNat 7) | 'b' => some (Char.ofNat 8) | 'f' => some (Char.ofNat 12)
        | 'n' => some '\n' | 'r' => some '\r' | 't' => some '\t' | 'v' => some (Char.ofNat 11)
        | '\\' => some '\\' | '\'' => some '\'' | '"' => some '"' | '`' => some '`'
        | '?' => some '?'
        | _ => none
      match simple with
      | some ch => do pure (.char ch :: (← unescapeBody bytes tail fuel))
      | none =>
        if e == 'x' || e == 'X' || e == 'u' || e == 'U' then
          let n := if e == 'u' then 4 else if e == 'U' then 8 else 2
          if bytes && (e == 'u' || e == 'U') then .error "unable to unescape string" else
          let digits := tail.take n
          if digits.length < n then .error "unable to unescape string" else
          match digits.foldlM (fun acc d => (hexDigit d).map fun v => acc * 16 + v) 0 with
          | none => .error "unable to unescape string"
          | some v =>
            if !bytes && v > 0x10FFFF then .error "unable to unescape string" else
            let unit : Piece := if bytes then .byte v else .char (charOfCode v)
            do pure (unit :: (← unescapeBody bytes (tail.drop n) fuel))
        else if '0' ≤ e && e ≤ '3' then
          match tail with
          | a :: b :: more =>
            let octal (d : Char) : Bool := '0' ≤ d && d ≤ '7'
            if !octal a || !octal b then .error "unable to unescape octal sequence in string" else
            let v := (e.toNat - 48) * 64 + (a.toNat - 48) * 8 + (b.toNat - 48)
            let unit : Piece := if bytes then .byte v else .char (charOfCode v)
            do pure (unit :: (← unescapeBody bytes more fuel))
          | _ => .error "unable to unescape octal sequence in string"
        else .error "unable to unescape string"

def normalizeBreaks : List Char → List Char
  | '\r' :: '\n' :: rest => '\n' :: normalizeBreaks rest
  | '\r' :: rest => '\n' :: normalizeBreaks rest
  | c :: rest => c :: normalizeBreaks rest
  | [] => []

def unquote (text : String) (bytes : Bool) : Except String (List Piece) :=
  let cs := normalizeBreaks text.toList
  if cs.length < 2 then .error "unable to unescape string" else
  let (raw, cs) := match cs with
    | 'r' :: rest | 'R' :: rest => (true, rest)
    | other => (false, other)
  match cs.head?, cs.getLast? with
  | some first, some last =>
    if first != last || (first != '"' && first != '\'') then .error "unable to unescape string" else
    let n := cs.length
    let triple := n ≥ 6 && (cs.take 3 == [first, first, first])
    if triple && (cs.drop (n - 3) != [first, first, first]) then .error "unable to unescape string" else
    let body := if triple then (cs.drop 3).take (n - 6) else (cs.drop 1).take (n - 2)
    if raw || !body.contains '\\' then .ok (body.map .char)
    else unescapeBody bytes body (body.length + 1)
  | _, _ => .error "unable to unescape string"

def unitsText (us : List Piece) : String :=
  String.ofList (us.map fun u => match u with
    | .char c => c
    | .byte b => Char.ofNat b)

def unitsBytes (us : List Piece) : List Nat :=
  us.flatMap fun u => match u with
    | .char c => utf8Bytes c
    | .byte b => [b]

end Bindery.Cel
