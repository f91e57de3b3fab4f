import Bindery.Expression.Program
import Bindery.Knot
import Bindery.Scope.Store

/-!
# Translators

A translator turns anything into a callable: nothing into a callable that does nothing, a
function of one of the accepted shapes into a call of that function, and expression text into
its compiled program. Blank text does nothing; text that does not compile gives a callable that
fails with the compile error each time it is called. Any other value does nothing.

A callable runs with an environment (whose variables a program sees) and locals, which shadow
the environment's variables.
-/

namespace Bindery

/-- Whether a translator accepts a function of a signature: a function of an environment and
locals returning a value and an error, of an environment returning a value (and an error), or
of nothing returning a value (and an error), an error, or nothing. -/
def Signature.translatable (s : Signature) : Bool :=
  !s.variadic &&
  match s.params, s.results with
  | [.env, .locals], [.any, .error] => true
  | [.env], [.any, .error] | [.env], [.any] => true
  | [], [.any, .error] | [], [.any] | [], [.error] | [], [] => true
  | _, _ => false

def Translator.compile (t : Translator) (source : String) : Run (Except Fault Callable) := do
  if (Text.trim source).isEmpty then return .ok .noop
  match ← t.engine.compileSource source with
  | .ok p => pure (.ok (.program t.engine source p))
  | .error e => pure (.error (Fault.evaluationIn t.engine.language.name source e))

def Translator.callable (t : Translator) (expr : Value) : Run Callable := do
  match expr with
  | .str source =>
    match ← t.compile source with
    | .ok c => pure c
    | .error e => pure (.fails e)
  | .func f => pure (if f.signature.translatable then .host f else .noop)
  | _ => pure .noop

/-- The variables an environment offers: a scope's variables, or the entries of a table. -/
def environmentVars (self : Value) : Run (List (String × Value)) :=
  match self with
  | .scope id => Scope.vars id
  | .table id => Run.tableEntries id
  | _ => pure []

/-- The variables a program sees: the environment's, shadowed by the locals. -/
def environmentOf (self locals : Value) : Run (List (String × Value)) := do
  let base ← environmentVars self
  let shadow ← match locals with
    | .table id => Run.tableEntries id
    | _ => pure []
  pure (base.filter (fun (k, _) => !shadow.any (·.1 == k)) ++ shadow)

/-- Runs a callable with an environment and locals. Functions receive the environment for a
scope or environment parameter and the locals for a locals parameter. -/
def Callable.runWith (k : Knot) (c : Callable) (self locals : Value) : Run Value := do
  match c with
  | .noop => pure .nil
  | .fails e => Run.fail e
  | .program engine source p =>
    match ← engine.runSource source p (← environmentOf self locals) with
    | .ok v => pure v
    | .error e => Run.fail (Fault.evaluationIn engine.language.name source e)
  | .host f =>
    let args := f.signature.params.map fun t => match t with
      | .scope | .env => self
      | .locals => locals
      | _ => .nil
    k.call (.func f) .nil args

end Bindery
