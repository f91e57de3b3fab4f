import Bindery.Text.Quoted

/-!
# Base64 and byte texts

Bytes are written in the standard base64 alphabet (`A`–`Z`, `a`–`z`, `0`–`9`, `+`, `/`), six
bits a character, a last group of one or two bytes padded with `=` to four characters.

Reading goes four characters at a time and skips line breaks anywhere. A character outside the
alphabet, padding that does not close a group of two or three characters, or anything but line
breaks after the padding is refused, by the offset of the byte at fault; so is a text whose last
group is cut short. The bits below a short group's last byte are ignored.

Bytes become text by decoding them as UTF-8, each byte that does not start a well-formed
sequence standing for U+FFFD.
-/

namespace Bindery.Text

def base64Alphabet : List Char :=
  "ABCDEFGHIJKLMNOPQRSTUVWXYZabcdefghijklmnopqrstuvwxyz0123456789+/".toList

def base64Digit (n : Nat) : Char := base64Alphabet.getD n '='

def base64Value? (b : Nat) : Option Nat :=
  if 65 ≤ b && b ≤ 90 then some (b - 65)
  else if 97 ≤ b && b ≤ 122 then some (b - 71)
  else if 48 ≤ b && b ≤ 57 then some (b + 4)
  else if b == 43 then some 62
  else if b == 47 then some 63
  else none

def base64Encode : List Nat → String
  | a :: b :: c :: rest =>
    let v := a * 65536 + b * 256 + c
    String.ofList [base64Digit (v / 262144), base64Digit (v / 4096 % 64), base64Digit (v / 64 % 64),
      base64Digit (v % 64)] ++ base64Encode rest
  | [a, b] =>
    let v := a * 65536 + b * 256
    String.ofList [base64Digit (v / 262144), base64Digit (v / 4096 % 64), base64Digit (v / 64 % 64), '=']
  | [a] =>
    let v := a * 65536
    String.ofList [base64Digit (v / 262144), base64Digit (v / 4096 % 64), '=', '=']
  | [] => ""

def isLineBreak (b : Nat) : Bool := b == 10 || b == 13

/-- The bytes a group of six-bit values stands for: three for four values, one fewer for each
missing value. -/
def groupBytes (vals : List Nat) : List Nat :=
  let v := (vals ++ List.replicate (4 - vals.length) 0).foldl (fun acc x => acc * 64 + x) 0
  ([v / 65536 % 256, v / 256 % 256, v % 256]).take (vals.length - 1)

/-- What reading one group left: the bytes so far and the text left with its offset, the end of
the text, or the offset of a byte at fault. -/
inductive GroupStep where
  | more (out : List Nat) (rest : List Nat) (offset : Nat)
  | finish (out : List Nat)
  | fault (offset : Nat)

/-- Reads one group from `src` at offset `si`, the values read so far in `vals`; `total` is the
length of the whole text. -/
def readGroup (total : Nat) : List Nat → Nat → List Nat → GroupStep
  | [], si, vals =>
    if vals.isEmpty then .finish [] else .fault (si - vals.length)
  | b :: rest, si, vals =>
    match base64Value? b with
    | some v =>
      if vals.length + 1 == 4 then .more (groupBytes (vals ++ [v])) rest (si + 1)
      else readGroup total rest (si + 1) (vals ++ [v])
    | none =>
      if isLineBreak b then readGroup total rest (si + 1) vals
      else if b != 61 then .fault si
      else if vals.length < 2 then .fault si
      else
        let afterPad : Except Nat (List Nat × Nat) :=
          if vals.length == 2 then
            let rest' := rest.dropWhile isLineBreak
            let si' := si + 1 + (rest.length - rest'.length)
            match rest' with
            | [] => .error total
            | c :: more => if c == 61 then .ok (more, si' + 1) else .error (si' - 1)
          else .ok (rest, si + 1)
        match afterPad with
        | .error offset => .fault offset
        | .ok (tail, si') =>
          let tail' := tail.dropWhile isLineBreak
          let si'' := si' + (tail.length - tail'.length)
          if tail'.isEmpty then .finish (groupBytes vals) else .fault si''

/-- Reads base64 text as bytes, at most `fuel` groups; the offset of the first byte at fault on
failure. -/
def base64DecodeFor (total : Nat) : Nat → List Nat → Nat → List Nat → Except Nat (List Nat)
  | 0, _, _, out => .ok out
  | fuel + 1, src, si, out =>
    match readGroup total src si [] with
    | .more bytes rest si' => base64DecodeFor total fuel rest si' (out ++ bytes)
    | .finish bytes => .ok (out ++ bytes)
    | .fault offset => .error offset

/-- Reads base64 text as bytes; the offset of the first byte at fault on failure. -/
def base64Decode (text : String) : Except Nat (List Nat) :=
  let src := text.toUTF8.toList.map (·.toNat)
  base64DecodeFor src.length (src.length + 1) src 0 []

def isContinuation (b : Nat) : Bool := 0x80 ≤ b && b < 0xC0

/-- The first character of UTF-8 bytes and the bytes after it; U+FFFD and one byte for a byte
that does not start a well-formed sequence. -/
def decodeLead : List Nat → Char × List Nat
  | [] => ('\uFFFD', [])
  | b :: rest =>
    if b < 0x80 then (Char.ofNat b, rest)
    else
      let need := if 0xC2 ≤ b && b < 0xE0 then 1 else if 0xE0 ≤ b && b < 0xF0 then 2
        else if 0xF0 ≤ b && b < 0xF5 then 3 else 0
      let lo := if b == 0xE0 then 0xA0 else if b == 0xF0 then 0x90 else 0x80
      let hi := if b == 0xED then 0x9F else if b == 0xF4 then 0x8F else 0xBF
      let tail := rest.take need
      let fits := need > 0 && tail.length == need &&
        (match tail with
         | first :: more => lo ≤ first && first ≤ hi && more.all isContinuation
         | [] => false)
      if fits then
        let lead := if need == 1 then b - 0xC0 else if need == 2 then b - 0xE0 else b - 0xF0
        (Char.ofNat (tail.foldl (fun acc x => acc * 64 + (x - 0x80)) lead), rest.drop need)
      else ('\uFFFD', rest)

def decodeUtf8For : Nat → List Nat → List Char
  | 0, _ => []
  | _, [] => []
  | fuel + 1, bs =>
    let (c, rest) := decodeLead bs
    c :: decodeUtf8For fuel rest

/-- Bytes as text: UTF-8, each byte that starts no well-formed sequence read as U+FFFD. -/
def ofUtf8Lossy (bs : List Nat) : String := String.ofList (decodeUtf8For (bs.length + 1) bs)

end Bindery.Text
