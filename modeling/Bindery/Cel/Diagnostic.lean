import Bindery.Cel.Syntax
import Bindery.Decimal.Shortest

/-!
# Diagnostics of the typed expression language

An issue is a message at a character offset of the source (or at no place). Issues print as
`ERROR: <input>:line:column: message`, followed by the source line and a marker under the
column: a dot for each character before it and a caret at it, both in their full-width forms
where the character is not ASCII. Several issues print in the order of their places, one after
another.
-/

namespace Bindery.Cel

structure Issue where
  offset : Option Nat
  message : String
deriving Inhabited

def locate (source : List Char) (offset : Nat) : Nat × Nat :=
  let before := source.take offset
  let line := 1 + before.count '\n'
  let col := (before.reverse.takeWhile (· != '\n')).length
  (line, col)

/-- The text of a line (from 1) of the source, without its line break. -/
def lineText (source : List Char) (line : Nat) : Option (List Char) :=
  let lines := source.splitOn '\n'
  lines[line - 1]?

def marker (text : List Char) (col : Nat) : String :=
  let dots := (text.take col).map fun c => if c.toNat < 128 then "." else "\uFF0E"
  let caret := match text[col]? with
    | some c => if c.toNat < 128 then "^" else "\uFF3E"
    | none => "^"
  String.join dots ++ caret

def Issue.render (source : List Char) (i : Issue) : String :=
  match i.offset with
  | none => "ERROR: <input>:-1:0: " ++ i.message
  | some off =>
    let (line, col) := locate source off
    let head := "ERROR: <input>:" ++ Decimal.natText line ++ ":" ++ Decimal.natText (col + 1) ++
      ": " ++ i.message
    if source.isEmpty then head else
    match lineText source line with
    | some text =>
      let text := text.map fun c => if c == '\t' then ' ' else c
      head ++ "\n | " ++ String.ofList text ++ "\n | " ++ marker text col
    | none => head

/-- The printed form of issues, in the order of their places (issues at the same place keep
their order). -/
def renderIssues (source : String) (issues : List Issue) : String :=
  let key (i : Issue) : Int := match i.offset with
    | some o => o
    | none => -1
  let sorted := issues.mergeSort fun a b => decide (key a ≤ key b)
  "\n".intercalate (sorted.map (Issue.render source.toList))

end Bindery.Cel
