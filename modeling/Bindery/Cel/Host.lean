import Bindery.Cel.Eval
import Bindery.Expression.Helpers

/-!
# Values between the runtime and the typed expression language

Host values are read into the language's values: nil is null, numbers, texts, bytes, moments and
durations keep their kind, lists and tables become lists and maps that remember where they came
from, and anything else reads as an error that surfaces when the expression uses it. Results are
written back the other way: a list or map read from the host is handed back as the very host value,
a new one becomes a new list or table (map keys printed as text), and a type value is its name.

Helpers are reached through the registry snapshot of the engine: the arguments are written out,
the helper runs, and its result is read back (nothing reads as null); a failing helper gives an
error with its message.
-/

namespace Bindery.Cel

/-- Reads a host value; lists and tables are followed `depth` levels deep. -/
def readValue : Nat → Value → Run Val
  | 0, _ => pure (.err "unsupported conversion to ref.Val: nesting too deep")
  | depth + 1, v =>
    match v with
    | .nil => pure .null
    | .bool b => pure (.bool b)
    | .int i => pure (.int i)
    | .uint n => pure (.uint n)
    | .float f => pure (.double f)
    | .str s => pure (.str s)
    | .bytes bs => pure (.bytes bs)
    | .time t => pure (.timestamp t)
    | .duration d => pure (.duration d)
    | .named _ i => pure (.int i)
    | .list _ items => do pure (.list (← items.mapM (readValue depth)) (some v))
    | .strings items => pure (.list (items.map .str) (some v))
    | .table id => do
      let entries ← Run.tableEntries id
      pure (.map (← entries.mapM fun (k, x) => do pure (Val.str k, ← readValue depth x)) (some v))
    | other => pure (.err ("unsupported conversion to ref.Val: (" ++ other.typeName ++ ")"))

/-- Writes a value back as a host value; new lists and maps are followed `depth` levels deep. -/
def writeValue : Nat → Val → Run Value
  | 0, _ => pure .nil
  | depth + 1, v =>
    match v with
    | .null => pure .nil
    | .bool b => pure (.bool b)
    | .int i => pure (.int i)
    | .uint n => pure (.uint n)
    | .double f => pure (.float f)
    | .str s => pure (.str s)
    | .bytes bs => pure (.bytes bs)
    | .timestamp t => pure (.time t)
    | .duration d => pure (.duration d)
    | .list _ (some o) => pure o
    | .list items none => do Run.newList (← items.mapM (writeValue depth))
    | .map _ (some o) => pure o
    | .map entries none => do
      Run.newTable (← entries.mapM fun (k, x) => do pure (k.display, ← writeValue depth x))
    | .type name => pure (.str name)
    | .err m => pure (.error (.text m))

def hostDepth : Nat := 64

def callHelper (hs : Option Helpers) (name : String) (args : List Val) : Run Val := do
  match hs with
  | none => pure (.err ("parse: unknown function: " ++ Text.quoted name))
  | some hs =>
    let vs ← args.mapM (writeValue hostDepth)
    match ← hs.call name vs with
    | .ok v => readValue hostDepth v
    | .error f => pure (.err f.message)

def runChecked (hs : Option Helpers) (source : String) (t : Term)
    (env : List (String × Value)) : Run (Except String Value) := do
  let vars ← env.mapM fun (k, v) => do pure (k, ← readValue hostDepth v)
  match ← evalTerm (callHelper hs) (evalFuel source) ⟨[], vars⟩ t with
  | .err m => pure (.error m)
  | v => pure (.ok (← writeValue hostDepth v))

end Bindery.Cel
