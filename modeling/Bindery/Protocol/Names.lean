import Bindery.Protocol.Answer
import Bindery.Directive.Name
import Bindery.Layering
import Bindery.Log.Level

/-!
# Requests on names, restrictions, levels and layers

The small requests: normalising directive names, reading restrictions, reading log levels,
composing layered tables and copying a value.
-/

namespace Bindery.Protocol

/-- A list answer; an empty list of results answers nothing. -/
def listOrNull (xs : List Json) : Json := if xs.isEmpty then .null else .arr xs

def normalizeNames (req : Json) : Json :=
  .obj [("r", listOrNull ((req.strings "names").map fun n => .str (Directive.normalize n)))]

def readRestricts (req : Json) : Json :=
  .obj [("r", listOrNull ((req.strings "values").map fun v =>
    let r := Restrict.parse v
    .obj [("mask", .int r.mask), ("string", .str r.text), ("has_e", .bool (r.has .onElement)),
      ("has_a", .bool (r.has .onAttribute))]))]

def levelName (name : String) : String := (Log.Level.ofName name).name

def readLevels (req : Json) : Json :=
  .obj [("r", listOrNull ((req.strings "names").map fun n => .str (levelName n)))]

/-- Composes the layers, strongest first; a null layer is empty. -/
def overlayLayers (req : Json) : Run Json := do
  let layers ← (req.items "layers").mapM fun layer => do
    match ← Value.ofJson layer with
    | .table id => Run.tableEntries id
    | _ => pure []
  pure (.obj [("r", ← encode (← Layering.overlay layers))])

end Bindery.Protocol
