import Bindery.Value.Decode
import Bindery.Injector.State

/-!
# Fixtures from their descriptions

Requests describe the functions, constructors, providers and directive factories they register.
This module turns each description into a value: a scripted function runs a body described by
its fields when called, a constructor allocates a box, a setting or a directive object and runs a
scripted initialiser, and a directive factory produces a definition, a table, a directive object,
or a function or constructor producing one.
-/

namespace Bindery.Fixture

/-- A function of a description: a fixture function with dependencies (`annotate`), a plain
fixture function (`raw`), or a scripted body. Anything that is not an object stands for
itself. -/
def fnOfSpec (spec : Json) : Run Value :=
  match spec with
  | .obj _ =>
    let label := spec.strD "label"
    let fixture (name : String) : Value := match Sig.ofName? name with
      | some s => .func (.fixture s label)
      | none => .str ("unknown signature " ++ name)
    match spec.str? "annotate", spec.str? "raw" with
    | some name, _ => pure (.invocable (spec.strings "inject") (.reflect (fixture name)))
    | none, some name => pure (fixture name)
    | none, none => pure (.invocable (spec.strings "inject") (.script spec))
  | other => Value.ofJson other

def definitionSpec (spec : Json) : Json := (spec.field? "def").getD (.obj [])

/-- The compile step of a directive description: it records its label, and fails with `fail`
when it is set. -/
def recordStep (spec : Json) (label : String) : CompileStep :=
  .record label (spec.str? "fail") false

/-- The definition a directive description gives, with a label. -/
def definitionOf (spec : Json) (label : String) : Definition :=
  let d := definitionSpec spec
  { restrict := d.strD "restrict"
    priority := (d.num? "priority").getD 0
    terminal := d.flag "terminal"
    multiElement := d.flag "multi_element"
    compile := recordStep spec label }

/-- The directive object a directive description gives, with a label: its restriction is read
from the letters given (none match nothing), and it answers priority, terminal and
multi-element only when the definition names one of them. -/
def directiveObjectOf (spec : Json) (label : String) : DirectiveObject :=
  let d := definitionSpec spec
  let answers := d.hasField "priority" || d.hasField "terminal" || d.hasField "multi_element"
  { restrict := Restrict.parse (d.strD "restrict")
    priority := if answers then some ((d.num? "priority").getD 0) else none
    terminal := if answers then some (d.flag "terminal") else none
    multiElement := if answers then some (d.flag "multi_element") else none
    compile := recordStep spec label }

/-- The compile function a table definition carries, by the shape the description asks for. -/
def compileEntry (spec : Json) (label : String) : Option Value :=
  match spec.str? "compile_sig" with
  | some "none" => none
  | some "bad" => some (.str "not a function")
  | some "nodes" => some (.func (.recorder .nodes label none))
  | some "node" => some (.func (.recorder .node label none))
  | _ => some (.func (.recorder .nodesError label (spec.str? "fail")))

/-- The directive a description produces in a form, with a label. -/
def directiveOf (spec : Json) (form : String) (label : String) : Run Value := do
  match form with
  | "value" => pure (.definition (definitionOf spec label) false)
  | "nilptr" => pure .noDefinition
  | "map" =>
    let entries ← (match definitionSpec spec with
      | .obj fields => Value.ofJsonFields fields
      | _ => pure [])
    let entries := dedupEntries entries
    let entries := match compileEntry spec label with
      | some c => entries ++ [("compile", c)]
      | none => entries
    Run.newTable entries
  | "directive" => modifyGet fun w =>
    (.directive w.directives.size,
      { w with directives := w.directives.push (directiveObjectOf spec label) })
  | _ => pure (.definition (definitionOf spec label) true)

def ctorOfSpec (spec : Json) : Ctor :=
  let inject := spec.strings "inject"
  let label := spec.strD "label"
  let kind := (spec.str? "ctor").getD "box"
  let make : Make := if kind == "conf" then .setting else .box label
  if spec.flag "nil_new" then { inject, make := none, init := none }
  else if spec.flag "no_init" then { inject, make := some (.box label), init := none }
  else if spec.flag "nil_init" then { inject, make := some (if kind == "conf" then .setting else .box ""), init := none }
  else if kind == "conf" then { inject, make := some make, init := some (.host (.settingInit spec inject.length)) }
  else if kind == "dir" then
    { inject, make := some (.directive (directiveObjectOf spec label)), init := some (.script spec) }
  else { inject, make := some (.box ""), init := some (.host (.boxInit spec inject.length)) }

/-- What a directive factory description makes in a form: a constructor, a function or a
parameterless function producing the directive, or the directive itself. -/
def directiveFormOf (spec : Json) (form : String) (label : String) : Run Value := do
  match form with
  | "ctor" =>
    let c := (spec.field? "ctor").getD (.obj [])
    let made : Make := .directive (directiveObjectOf spec label)
    let ctor : Ctor := { inject := c.strings "inject", make := some made, init := some (.script spec) }
    pure (.ctor ctor)
  | "fn" =>
    let f := (spec.field? "fn").getD (.obj [])
    pure (.invocable (f.strings "inject") (.makeDirective spec))
  | "gofunc" => pure (.func (.directiveThunk spec))
  | other => directiveOf spec other label

/-- The directive factory a description gives. A value that is not an object is registered as
it is. -/
def directiveFactoryOf (spec : Json) : Run Value := do
  match spec with
  | .obj _ => directiveFormOf spec (spec.strD "form") (spec.strD "label")
  | other => Value.ofJson other

/-- The constructor of a directive registry: it depends on the registration surface. -/
def registryCtor : Ctor := { inject := ["_provide"], make := some .registry, init := some (.host .registryInit) }

/-- A new provider of root scopes with the observers of the roots it builds; a round limit that
is not positive means ten. -/
def newRootProvider (ttl : Int) (observers : List Scope.Observer := []) : Run Value :=
  modifyGet fun w => (.rootProvider w.rootProviders.size,
    { w with rootProviders := w.rootProviders.push { ttl := if ttl ≤ 0 then 10 else ttl, observers } })

def newTranslatorProvider (engine : Option Engine) : Run Value := modifyGet fun w =>
  (.translatorProvider w.translatorProviders.size,
    { w with translatorProviders := w.translatorProviders.push { engine } })

/-- The provider a description gives: a setting (`conf`), a constructor, a directive registry
(`compile`), a translator provider (`parse`), a root scope provider (`root_scope`), a provider
whose resolver panics (`panic_get`) or a function returning the resolver (`func`). Anything else
stands for itself. -/
def providerOfSpec (spec : Json) : Run Value := do
  match spec with
  | .obj _ =>
    if (spec.present? "conf").isSome || (spec.present? "conf_null").isSome then
      let v ← Value.ofJson ((spec.field? "conf").getD .null)
      pure (.setting (← Run.newSetting { value := v, inject := spec.strings "inject" }))
    else if let some c := spec.present? "ctor" then pure (.ctor (ctorOfSpec c))
    else if spec.flag "compile" then pure (.ctor registryCtor)
    else if let some name := spec.text? "parse" then
      match Engine.byName name with
      | .ok e => newTranslatorProvider (some e)
      | .error e => pure (.str e.message)
    else if let some ttl := spec.num? "root_scope" then newRootProvider ttl
    else if let some msg := spec.text? "panic_get" then pure (.brokenProvider msg)
    else if let some f := spec.present? "func" then pure (.providerFunc (← fnOfSpec f))
    else Value.ofJson spec
  | other => Value.ofJson other

/-- The registration a call description makes (`constant`, `value`, `factory`, `service`,
`provider` or `decorator` on `key`), if it is one. -/
def registrationOf (call : Json) : Run (Option Injector.Registration) := do
  let key := call.strD "key"
  let field (name : String) : Json := (call.field? name).getD .null
  match call.strD "m" with
  | "constant" => pure (some (.constant key (← Value.ofJson (field "value"))))
  | "value" => pure (some (.value key (← Value.ofJson (field "value"))))
  | "factory" => pure (some (.factory key (← fnOfSpec (field "fn"))))
  | "service" => pure (some (.service key (ctorOfSpec (field "ctor"))))
  | "provider" => pure (some (.provider key (← providerOfSpec (field "provider"))))
  | "decorator" => pure (some (.decorator key (← fnOfSpec (field "fn"))))
  | _ => pure none

end Bindery.Fixture
