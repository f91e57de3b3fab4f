import Bindery.Text.Case

/-!
# Directive names

Tags and attributes name directives after normalisation: lower case, without one leading `x` or
`data` namespace (followed by `:`, `_` or `-`), and with `-` and `:` replaced by `_`. An attribute
ending in `_start` after a non-empty base opens a group of sibling elements for the directive
named by the base.
-/

namespace Bindery.Directive

/-- Drops one leading `x` or `data` namespace with its separator. -/
def dropNamespace (cs : List Char) : List Char :=
  let isSep (c : Char) : Bool := c == ':' || c == '_' || c == '-'
  match cs with
  | 'x' :: c :: rest => if isSep c then rest else cs
  | 'd' :: 'a' :: 't' :: 'a' :: c :: rest => if isSep c then rest else cs
  | _ => cs

def normalize (name : String) : String :=
  let cs := dropNamespace (Text.lower name).toList
  String.ofList (cs.map fun c => if c == '-' || c == ':' then '_' else c)

/-- The base of a normalised name that opens a group: the name less its `_start` suffix, when
that leaves something. -/
def groupStart? (normalized : String) : Option String :=
  if normalized.endsWith "_start" && normalized.length > 6 then
    some (String.ofList (normalized.toList.take (normalized.length - 6)))
  else none

end Bindery.Directive
