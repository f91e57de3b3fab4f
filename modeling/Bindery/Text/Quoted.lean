import Bindery.Text.PrintTable

/-!
# Quoted literals

`quoted s` writes `s` between double quotes the way messages show names and expressions: the
quote and the backslash get a backslash, the usual control characters their letter escapes, every
other character that is not printable a hexadecimal escape (`\x`, `\u` or `\U` by its size), and
every printable character stands as itself.
-/

namespace Bindery.Text

/-- Hexadecimal digits of a number, lower case, padded to `width`. -/
def hexPadded (width : Nat) (n : Nat) : String :=
  let rec go (fuel n : Nat) (acc : List Char) : List Char :=
    match fuel with
    | 0 => acc
    | fuel + 1 =>
      let d := n % 16
      let acc := (if d < 10 then Char.ofNat (48 + d) else Char.ofNat (87 + d)) :: acc
      if n < 16 then acc else go fuel (n / 16) acc
  let ds := go (n + 1) n []
  String.ofList (List.replicate (width - ds.length) '0' ++ ds)

def quoteChar (c : Char) : String :=
  match c with
  | '"' => "\\\""
  | '\\' => "\\\\"
  | '\x07' => "\\a"
  | '\x08' => "\\b"
  | '\x0c' => "\\f"
  | '\n' => "\\n"
  | '\r' => "\\r"
  | '\t' => "\\t"
  | '\x0b' => "\\v"
  | c =>
    if isPrint c then String.singleton c
    else if c.toNat < 0x80 then "\\x" ++ hexPadded 2 c.toNat
    else if c.toNat < 0x10000 then "\\u" ++ hexPadded 4 c.toNat
    else "\\U" ++ hexPadded 8 c.toNat

def quoted (s : String) : String :=
  "\"" ++ String.join (s.toList.map quoteChar) ++ "\""

/-- A character between single quotes, escaped as in a character literal. -/
def charQuoted (c : Char) : String :=
  match c with
  | '\'' => "'\\''"
  | '"' => "'\"'"
  | c => "'" ++ quoteChar c ++ "'"

end Bindery.Text
