import Bindery.World

/-!
# The knot of the interpreter

Resolving a key invokes a resolver, whose body may resolve further keys; calling a function may
run a body that calls functions again. Every operation that can re-enter the interpreter is
written against a `Knot`: the record of the entry points it calls back into. `Dispatch.knot`
ties the record to the operations themselves, a bounded number of levels deep; past that depth
every entry point stops with `Interrupt.exhausted`, as a call stack that ran out would.
-/

namespace Bindery

/-- Dependency values given by name for one invocation; they take precedence over
resolution, even when they are nil. -/
abbrev Locals := List (String × Value)

/-- The entry points through which the interpreter re-enters itself. -/
structure Knot where
  get : Tier → String → Run Value
  invoke : Tier → Value → Value → Locals → Run Value
  call : Value → Value → List Value → Run Value

def Knot.exhausted : Knot where
  get _ _ := throw .exhausted
  invoke _ _ _ _ := throw .exhausted
  call _ _ _ := throw .exhausted

end Bindery
