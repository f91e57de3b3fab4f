import Bindery.Text.Case

/-!
# Log levels

Records are logged at one of four levels, ordered by severity: debug, info, warn and error. A
level is named in any case, with surrounding white space; `warning` names warn, and a name that
names no level means info. A logger writes the records at its level and above.
-/

namespace Bindery.Log

inductive Level where
  | debug
  | info
  | warn
  | error
deriving BEq, Inhabited, Repr

def Level.ofName (name : String) : Level :=
  match Text.lower (Text.trim name) with
  | "debug" => .debug
  | "warn" | "warning" => .warn
  | "error" => .error
  | _ => .info

/-- The rank of a level; a more severe level ranks higher. -/
def Level.rank : Level → Int
  | .debug => -4
  | .info => 0
  | .warn => 4
  | .error => 8

def Level.name : Level → String
  | .debug => "DEBUG"
  | .info => "INFO"
  | .warn => "WARN"
  | .error => "ERROR"

def Level.admits (threshold l : Level) : Bool := threshold.rank ≤ l.rank

end Bindery.Log
