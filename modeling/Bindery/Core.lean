import Bindery.Fixture.Spec

/-!
# The core module

The core module holds the built-in services every application starts from: the translator of
expressions (`_parse`), the root scope (`_root_scope`), the directive registry with its compiler
(`_compile`), and the application directive `op_app`, which marks the nodes it compiles.
-/

namespace Bindery

def coreModuleName : String := "op"

/-- The core module over an engine, the root scope's round limit and its observers. -/
def coreModule (engine : Engine) (ttl : Int) (observers : List Scope.Observer) : Run Injector.Module := do
  let translators ← Fixture.newTranslatorProvider (some engine)
  let roots ← Fixture.newRootProvider ttl observers
  let application : Value := .ctor { inject := [], make := some .app, init := some (.host .appInit) }
  pure { name := coreModuleName, requires := []
         queue := [.register (.provider "_parse" translators), .register (.provider "_root_scope" roots),
           .register (.provider "_compile" (.ctor Fixture.registryCtor)), .directive "op_app" application] }

end Bindery
