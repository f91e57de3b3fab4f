import Bindery.World

/-!
# Layered tables

`overlay` composes tables ordered from strongest to weakest: a key set in a stronger layer hides
the same key in every weaker one, and values are not merged.
-/

namespace Bindery.Layering

/-- Entries of layers composed strongest first: each key takes its value from the first layer
that has it. Keys appear in the order of their first appearance from the weakest layer up. -/
def overlayEntries (layers : List (List (String × Value))) : List (String × Value) :=
  layers.reverse.foldl (fun acc layer =>
    layer.foldl (fun acc (k, v) =>
      if acc.any (·.1 == k) then acc.map fun (k', v') => if k' == k then (k', v) else (k', v')
      else acc ++ [(k, v)]) acc) []

/-- A new table composing the tables of the layers, strongest first. -/
def overlay (layers : List (List (String × Value))) : Run Value :=
  Run.newTable (overlayEntries layers)

end Bindery.Layering
