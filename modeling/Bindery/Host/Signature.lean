/-!
# Signatures of host functions

Plain host functions have a fixed list of parameter types, possibly ending in a variadic one, and a
list of result types. Calling one checks the arguments against the signature (see
`Bindery.Invocation`), and messages name the signature in the host's spelling.
-/

namespace Bindery

inductive HostType where
  | int
  | float
  | string
  | bool
  | any
  | error
  | box
  | setting
  | registry
  | provide
  | app
  | scope
  | translator
  | parser
  | env
  | locals
  | node
  | nodes
  | anyList
deriving BEq, Repr, Inhabited

def HostType.text : HostType → String
  | .int => "int"
  | .float => "float64"
  | .string => "string"
  | .bool => "bool"
  | .any => "interface {}"
  | .error => "error"
  | .box => "*main.Box"
  | .setting => "*main.ConfProvider"
  | .registry => "*compile.Provider"
  | .provide => "*injector.Provide"
  | .app => "*opular.App"
  | .scope => "*scope.Scope"
  | .translator => "scope.Translator"
  | .parser => "*parse.Parser"
  | .env => "parse.Env"
  | .locals => "map[string]interface {}"
  | .node => "compile.Node"
  | .nodes => "[]compile.Node"
  | .anyList => "[]interface {}"

/-- A signature. When `variadic` holds, the last parameter type is the element type of the
variadic tail. -/
structure Signature where
  params : List HostType
  variadic : Bool := false
  results : List HostType
deriving Inhabited

/-- The spelling of a signature, such as `func(*main.Box, ...interface {}) error`. -/
def Signature.text (s : Signature) : String :=
  let n := s.params.length
  let ps := s.params.zipIdx.map fun (t, i) =>
    if s.variadic && i + 1 == n then "..." ++ t.text else t.text
  let rs := match s.results with
    | [] => ""
    | [r] => " " ++ r.text
    | rs => " (" ++ ", ".intercalate (rs.map HostType.text) ++ ")"
  "func(" ++ ", ".intercalate ps ++ ")" ++ rs

/-- The type of the parameter at a position: past the fixed ones, the variadic element type. -/
def Signature.paramAt (s : Signature) (i : Nat) : HostType :=
  if s.variadic && i + 1 ≥ s.params.length then s.params.getLastD .any
  else s.params.getD i .any

end Bindery
