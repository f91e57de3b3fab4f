import Bindery.Yaml.Decode
import Bindery.World

/-!
# Decoded YAML as runtime values

Decoded data becomes a value afresh: lists become new lists, tables new shared tables, and a
timestamp the moment it names. Scalars keep their meaning.
-/

namespace Bindery.Yaml

mutual

def Data.value : Data → Run Value
  | .null => pure .nil
  | .bool b => pure (.bool b)
  | .int i => pure (.int i)
  | .float f => pure (.float f)
  | .str s => pure (.str s)
  | .time t => pure (.time t)
  | .list items => do Run.newList (← Data.values items)
  | .table entries => do Run.newTable (← Data.entryValues entries)

def Data.values : List Data → Run (List Value)
  | [] => pure []
  | x :: xs => do pure ((← x.value) :: (← Data.values xs))

def Data.entryValues : List (String × Data) → Run (List (String × Value))
  | [] => pure []
  | (k, x) :: rest => do pure ((k, ← x.value) :: (← Data.entryValues rest))

end

end Bindery.Yaml
