import Bindery.Value.Encode
import Bindery.Expression.Engine

/-!
# Helpers

The functions a helper registry offers to expressions, and calls through the registry by name:
a name is looked up in lower case, an unknown name is an unknown function, and the reserved `call`
dispatches to the function named by its first argument.
-/

namespace Bindery

/-- Calls a helper with arguments: its result, or the message of its failure. -/
def Helper.call (h : Helper) (args : List Value) : Run (Except String Value) := do
  match h with
  | .double =>
    match args with
    | [] => pure (.error "double needs an argument")
    | .int i :: _ => pure (.ok (.int (2 * i)))
    | .float f :: _ => pure (.ok (.float (2 * f)))
    | other :: _ => pure (.error ("double: not a number: " ++ other.typeName))
  | .shout =>
    match args with
    | [] => pure (.ok (.str ""))
    | a :: _ => pure (.ok (.str (Text.upper (← plainText a))))
  | .fail => pure (.error "helper failed")
  | .countArgs => pure (.ok (.int args.length))
  | .echo => pure (.ok (args.headD .nil))
  | .join => pure (.ok (.str ("-".intercalate (← args.mapM plainText))))
  | .named name => pure (.ok (.str name))

/-- The helper registered under a name, looked up in lower case. -/
def Helpers.lookup (hs : Helpers) (name : String) : Option Helper :=
  (hs.find? (·.1 == Text.lower name)).map (·.2)

def Helpers.call (hs : Helpers) (name : String) (args : List Value) : Run (Except Fault Value) := do
  match hs.lookup name with
  | none => pure (.error (Fault.because .unknownFunction (Text.quoted name)))
  | some h =>
    match ← h.call args with
    | .ok v => pure (.ok v)
    | .error m => pure (.error (.text m))

/-- Calls the helper named by the first argument with the other arguments. -/
def Helpers.dispatch (hs : Helpers) (args : List Value) : Run (Except Fault Value) := do
  match args with
  | [] => pure (.error (.text "parse: call requires a function name"))
  | .str name :: rest => hs.call name rest
  | other :: _ => pure (.error (.text ("parse: call name must be a string, got " ++ other.typeName)))

end Bindery
