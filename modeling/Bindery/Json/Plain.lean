import Bindery.Json.Basic
import Bindery.Decimal.Layout

/-!
# Printed text of data

`Json.plainText` prints data the way the host prints values: texts as they are, numbers in their
shortest form, lists in brackets separated by spaces, objects as `map[k:v …]` in key order,
nothing as `<nil>`.
-/

namespace Bindery

/-- Pairs sorted by their first component; equal keys keep their order. -/
def sortByKey (ps : List (String × String)) : List (String × String) :=
  ps.mergeSort (fun a b => decide (a.1 ≤ b.1))

mutual

/-- The printed text of an encoded value: texts as they are, lists in brackets separated by
spaces, objects as `map[k:v …]` in key order, nothing as `<nil>`. -/
def Json.plainText : Json → String
  | .null => "<nil>"
  | .bool b => if b then "true" else "false"
  | .int i => Decimal.intText i
  | .float f => Decimal.Layout.plainText.float f
  | .str s => s
  | .arr items => "[" ++ " ".intercalate (Json.plainTexts items) ++ "]"
  | .obj fields =>
    "map[" ++ " ".intercalate ((sortByKey (Json.plainFields fields)).map fun (k, t) => k ++ ":" ++ t)
      ++ "]"

def Json.plainTexts : List Json → List String
  | [] => []
  | x :: xs => x.plainText :: Json.plainTexts xs

def Json.plainFields : List (String × Json) → List (String × String)
  | [] => []
  | (k, v) :: rest => (k, v.plainText) :: Json.plainFields rest

end

end Bindery
