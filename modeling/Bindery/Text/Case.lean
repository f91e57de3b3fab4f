import Bindery.Text.CaseTable

/-!
# Letter case

Simple (one letter to one letter) case mapping of Unicode: each letter maps to at most one letter
of the other case, by the runs of the case tables. A letter without another case keeps it.
-/

namespace Bindery.Text

/-- A run of a case table: first and last code point, step, and distance to the other case. -/
abbrev CaseRun := Nat × Nat × Nat × Int

/-- The run of a sorted table that holds a code point, among the runs from `lo` up to before `hi`,
halving the candidates at most `fuel` times. -/
def searchRuns (runs : Array CaseRun) (n : Nat) : Nat → Nat → Nat → Option CaseRun
  | 0, _, _ => none
  | fuel + 1, lo, hi =>
    if lo ≥ hi then none else
    let mid := (lo + hi) / 2
    match runs[mid]? with
    | none => none
    | some (first, last, step, delta) =>
      if n < first then searchRuns runs n fuel lo mid
      else if n > last then searchRuns runs n fuel (mid + 1) hi
      else some (first, last, step, delta)

/-- A letter in the other case a table gives, or the letter itself. -/
def mapCase (runs : Array CaseRun) (c : Char) : Char :=
  match searchRuns runs c.toNat 64 0 runs.size with
  | some (first, _, step, delta) =>
    if (c.toNat - first) % step == 0 then Char.ofNat (c.toNat + delta).toNat else c
  | none => c

def lowerChar (c : Char) : Char :=
  if c.toNat < 0x80 then (if 'A' ≤ c && c ≤ 'Z' then Char.ofNat (c.toNat + 32) else c)
  else mapCase lowerRuns c

def upperChar (c : Char) : Char :=
  if c.toNat < 0x80 then (if 'a' ≤ c && c ≤ 'z' then Char.ofNat (c.toNat - 32) else c)
  else mapCase upperRuns c

def lower (s : String) : String := String.ofList (s.toList.map lowerChar)

def upper (s : String) : String := String.ofList (s.toList.map upperChar)

/-- Whitespace as Unicode defines it for trimming: the ASCII blanks, NEL, NBSP and the spaces of
the general punctuation block. -/
def isSpace (c : Char) : Bool :=
  let n := c.toNat
  n == 0x20 || (0x09 ≤ n && n ≤ 0x0D) || n == 0x85 || n == 0xA0 || n == 0x1680 ||
    (0x2000 ≤ n && n ≤ 0x200A) || n == 0x2028 || n == 0x2029 || n == 0x202F || n == 0x205F ||
    n == 0x3000

def trim (s : String) : String :=
  String.ofList ((s.toList.dropWhile isSpace).reverse.dropWhile isSpace).reverse

/-- Whether two texts are equal when case is ignored: letter by letter, each letter taken to the
lower case of its upper case, so that letters with several forms of one case meet. -/
def equalFold (a b : String) : Bool :=
  let fold (s : String) : List Char := s.toList.map fun c => lowerChar (upperChar c)
  fold a == fold b

end Bindery.Text
