import Bindery.Expr.Syntax
import Bindery.Cel.Syntax
import Bindery.Fault
import Bindery.Text.Case

/-!
# Engines

An engine compiles expression text into a program of one of the two languages. It may carry a
snapshot of the helper registry (the named functions expressions can call) and a program cache,
which lives in the runtime's state and is named here by its number.
-/

namespace Bindery

inductive Language where
  | expr
  | cel
deriving BEq, Repr, Inhabited

def Language.name : Language → String
  | .expr => "expr"
  | .cel => "cel"

/-- What a registered helper does, chosen by the helper's name when it is registered. -/
inductive Helper where
  | double
  | shout
  | fail
  | countArgs
  | echo
  | join
  | named (name : String)
deriving BEq, Repr, Inhabited

/-- A snapshot of the helper registry: keys (lower case, trimmed) with their helpers. -/
abbrev Helpers := List (String × Helper)

/-- The helper a helper name chooses, ignoring case and surrounding blanks; `nil` chooses no
function at all. -/
def Helper.ofName (name : String) : Option Helper :=
  match Text.lower (Text.trim name) with
  | "double" => some .double
  | "shout" => some .shout
  | "fail" => some .fail
  | "count_args" => some .countArgs
  | "echo" => some .echo
  | "join" => some .join
  | "nil" => none
  | _ => some (.named name)

def callHelperName : String := "call"

/-- The key a helper is registered under: its name in lower case, without surrounding blanks. -/
def helperKey (name : String) : String := Text.lower (Text.trim name)

/-- Registers a helper under the key of a name; the key must not be empty nor the reserved
`call`, the helper must exist, and the key must be free. -/
def Helpers.register (hs : Helpers) (name : String) (h : Option Helper) : Except Fault Helpers :=
  let key := helperKey name
  if key.isEmpty then .error (.text "parse: function name must not be empty")
  else if key == callHelperName then
    .error (.text ("parse: function name " ++ Text.quoted name ++ " is reserved"))
  else match h with
    | none => .error (.text ("parse: function " ++ Text.quoted name ++ " is nil"))
    | some h =>
      if hs.any (·.1 == key) then .error (Fault.because .functionExists (Text.quoted name))
      else .ok (hs ++ [(key, h)])

def Helpers.names (hs : Helpers) : List String :=
  (hs.map (·.1)).mergeSort fun a b => decide (a ≤ b)

/-- A compiled program, with the helpers its calls reach: those of the engine that compiled
it. -/
inductive Program where
  | expr (t : Expr.Term) (size : Nat) (helpers : Option Helpers)
  | cel (t : Cel.Term) (helpers : Option Helpers)
deriving Inhabited

/-- An engine: its language, the helpers it was given, and its program cache. -/
structure Engine where
  language : Language
  helpers : Option Helpers := none
  cache : Option Nat := none
deriving Inhabited

/-- The engine of a name: `expr` (also the empty name) or `cel`; `js` is not available and any
other name is unknown. -/
def Engine.byName (name : String) (helpers : Option Helpers := none) (cache : Option Nat := none) :
    Except Fault Engine :=
  match name with
  | "" | "expr" => .ok { language := .expr, helpers, cache }
  | "cel" => .ok { language := .cel, helpers, cache }
  | "js" => .error (Fault.because .engineUnavailable (name ++ " (build with -tags js_eval)"))
  | other => .error (Fault.because .unknownEngine (Text.quoted other))

/-- A translator turns expressions into callables with its engine. -/
structure Translator where
  engine : Engine
deriving Inhabited

end Bindery
