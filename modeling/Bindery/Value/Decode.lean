import Bindery.World

/-!
# Values from request documents

A request document becomes a value afresh at every use: objects become new shared tables, arrays
new lists, and an object whose only field is `$float` with `NaN`, `Inf` or `-Inf` the special
float. Two uses of one document never share a table.
-/

namespace Bindery

/-- The special float an object stands for, if it is one. -/
def specialFloat? : Json → Option Float
  | .obj [("$float", .str "NaN")] => some (0.0 / 0.0)
  | .obj [("$float", .str "Inf")] => some (1.0 / 0.0)
  | .obj [("$float", .str "-Inf")] => some (-(1.0 / 0.0))
  | _ => none

/-- Entries with later duplicates replacing earlier ones, in first-seen order, as a table keeps
them. -/
def dedupEntries (entries : List (String × Value)) : List (String × Value) :=
  entries.foldl (fun acc (k, v) =>
    if acc.any (·.1 == k) then acc.map fun (k', v') => if k' == k then (k', v) else (k', v')
    else acc ++ [(k, v)]) []

mutual

def Value.ofJson : Json → Run Value
  | .null => pure .nil
  | .bool b => pure (.bool b)
  | .int i => pure (.int i)
  | .float f => pure (.float f)
  | .str s => pure (.str s)
  | .arr items => do Run.newList (← Value.ofJsonList items)
  | .obj fields =>
    match specialFloat? (.obj fields) with
    | some f => pure (.float f)
    | none => do Run.newTable (dedupEntries (← Value.ofJsonFields fields))

def Value.ofJsonList : List Json → Run (List Value)
  | [] => pure []
  | x :: xs => do pure ((← Value.ofJson x) :: (← Value.ofJsonList xs))

def Value.ofJsonFields : List (String × Json) → Run (List (String × Value))
  | [] => pure []
  | (k, x) :: rest => do pure ((k, ← Value.ofJson x) :: (← Value.ofJsonFields rest))

end

end Bindery
