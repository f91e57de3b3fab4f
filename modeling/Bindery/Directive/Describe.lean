import Bindery.Directive.Registry
import Bindery.Record.Decode

/-!
# Describing directives

A registered factory produces a directive when its name is first resolved: a constructor is
instantiated, a function is invoked, and any other value is the directive itself. The value then
becomes a descriptor: a directive object answers its own restriction and, when it has them, its
priority, terminal and multi-element answers; a definition, by address or by value, gives its
fields, with an empty restriction meaning both positions; a table is decoded as a definition,
refusing entries that are not fields. Anything else is not a directive.
-/

namespace Bindery.Directive

def definitionSchema : List Record.Field :=
  [⟨"restrict", .string⟩, ⟨"priority", .int⟩, ⟨"terminal", .bool⟩, ⟨"multi_element", .bool⟩,
    ⟨"compile", .compile⟩]

/-- How a definition table is decoded: unknown entries are refused and compile functions of
nodes become compile steps. -/
def definitionOptions : Record.Options := { errorUnused := true, hooks := [.compileStep] }

def compileStepOf : Value → CompileStep
  | .func (.recorder shape label fail) =>
    .record label (if shape == .nodesError then fail else none) (shape == .node)
  | .func (.reporter name) => .report name
  | _ => .none

def definitionOfFields (fields : List (String × Value)) : Definition :=
  let field (name : String) : Value := ((fields.find? (·.1 == name)).map (·.2)).getD .nil
  { restrict := match field "restrict" with | .str s => s | _ => ""
    priority := match field "priority" with | .int i => i | _ => 0
    terminal := match field "terminal" with | .bool b => b | _ => false
    multiElement := match field "multi_element" with | .bool b => b | _ => false
    compile := compileStepOf (field "compile") }

/-- The descriptor of a produced directive, at its position among the directives of its name. -/
def describe (record : Record.RecordDecoder) (name : String) (index : Nat) (v : Value) :
    Run Descriptor := do
  match v with
  | .directive id =>
    let d := (← get).directives[id]?.getD { restrict := ⟨0⟩ }
    pure (Descriptor.ofObject name index d)
  | .app => pure (Descriptor.ofObject name index { restrict := .onAttribute, compile := .mark })
  | .definition d _ => pure (Descriptor.ofDefinition name index d)
  | .table _ =>
    match ← record definitionOptions definitionSchema v with
    | .ok fields => pure (Descriptor.ofDefinition name index (definitionOfFields fields))
    | .error p =>
      Run.fail (Fault.because .invalidDirective (Text.quoted name ++ ": hydrate: decode " ++
        Text.quoted name ++ ": " ++ p.text))
  | other => Run.fail (Fault.because .invalidDirective (Text.quoted name ++ " produced " ++ other.typeName))

def produceWith (k : Knot) (tier : Tier) (factory : Value) : Run Value :=
  match factory with
  | .ctor c => Injector.instantiateWith k tier c []
  | .invocable .. | .func _ | .providerFunc _ => k.invoke tier factory .nil []
  | other => pure other

/-- The descriptor of the factory at a position among the directives of a name: its directive
produced on a tier, then described; a failure to produce names the directive. -/
def describeFactory (record : Record.RecordDecoder) (k : Knot) (tier : Tier) (name : String)
    (factory : Value) (i : Nat) : Run Descriptor := do
  let v ← match ← Run.attempt (produceWith k tier factory) with
    | .ok v => pure v
    | .error e => Run.fail (.within ("compile: directive " ++ Text.quoted name ++ ": ") e)
  describe record name i v

/-- The descriptors of the directives registered under a name, produced on a tier in the order
of registration. -/
def buildWith (record : Record.RecordDecoder) (k : Knot) (id : Nat) (name : String) (tier : Tier) :
    Run Value := do
  let factories := (← registryAt id).factoriesOf name
  let out ← factories.zipIdx.mapM fun (factory, i) => describeFactory record k tier name factory i
  pure (.descriptors out)

end Bindery.Directive
