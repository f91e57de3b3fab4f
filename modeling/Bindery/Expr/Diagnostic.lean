import Bindery.Decimal.Shortest

/-!
# Diagnostics on expression source

A diagnostic names a character offset in the source and a message. Its text is the message
followed by the line and column (both counted from one) and, when the line is not empty, the line
itself with a caret under the column: `invalid operation (1:3)\n | a + 1\n | ..^`.
-/

namespace Bindery.Expr

/-- A diagnostic: the character offset it points at and its message. -/
structure Diag where
  pos : Nat
  message : String
deriving Inhabited

/-- The line (from one), the column (from zero) and the offset at which the line starts, of a
character offset in a text. -/
def locate (cs : List Char) (pos : Nat) : Nat × Nat × Nat :=
  let step (acc : Nat × Nat × Nat × Nat) (c : Char) : Nat × Nat × Nat × Nat :=
    let (i, line, column, start) := acc
    if i ≥ pos then acc
    else if c == '\n' then (i + 1, line + 1, 0, i + 1)
    else (i + 1, line, column + 1, start)
  let (_, line, column, start) := cs.foldl step (0, 1, 0, 0)
  (line, column, start)

def Diag.render (d : Diag) (source : String) : String :=
  let cs := source.toList
  let (line, column, start) := locate cs d.pos
  let text := (cs.drop start).takeWhile (· != '\n')
  if text.isEmpty then d.message
  else
    let shown := String.ofList (text.map fun c => if c == '\t' then ' ' else c)
    d.message ++ " (" ++ Decimal.natText line ++ ":" ++ Decimal.natText (column + 1) ++ ")" ++
      "\n | " ++ shown ++ "\n | " ++ String.ofList (List.replicate column '.') ++ "^"

end Bindery.Expr
