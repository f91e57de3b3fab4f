import Bindery.Knot
import Bindery.Value.Encode

/-!
# Calling plain host functions

A plain function receives its arguments by position. When it takes exactly one parameter more
than there are arguments, the receiver is passed first. A function that is not variadic must get
exactly as many arguments as it has parameters. An absent (nil) argument becomes the zero value of
its parameter, and any other argument must fit its parameter's type exactly: an integer does not
fit a float parameter, nor the other way round.

The results then make the call's result and error: no result gives neither, a lone error result
gives that error, a lone value gives that value, a value and an error give both, and any other
shape gives the error that the function cannot be invoked.
-/

namespace Bindery

def HostType.accepts : HostType → Value → Bool
  | .int, .int _ => true
  | .float, .float _ => true
  | .string, .str _ => true
  | .bool, .bool _ => true
  | .any, _ => true
  | .error, .error _ => true
  | .box, .box _ => true
  | .setting, .setting _ => true
  | .registry, .registry _ => true
  | .provide, .provide => true
  | .app, .app => true
  | .scope, .scope _ => true
  | .translator, .translator _ => true
  | .parser, .translator _ => true
  | .env, .scope _ => true
  | .env, .table _ => true
  | .locals, .table _ => true
  | .node, .node _ => true
  | .anyList, .list .. => true
  | _, _ => false

def HostType.zero : HostType → Value
  | .int => .int 0
  | .float => .float 0
  | .string => .str ""
  | .bool => .bool false
  | _ => .nil

/-- The arguments a call hands to a function before any check: the receiver comes first when the
function takes exactly one parameter more than it is given. -/
def Signature.given (sig : Signature) (receiver : Value) (args : List Value) : List Value :=
  if sig.params.length == args.length + 1 then receiver :: args else args

/-- The check of one argument at its position: nil becomes the zero value of its parameter, and
any other value must fit the parameter's type. -/
def Signature.checkArg (sig : Signature) (arg : Value) (i : Nat) : Except Fault Value :=
  let t := sig.paramAt i
  match arg with
  | .nil => .ok t.zero
  | v => if t.accepts v then .ok v else
    .error (Fault.because .argumentType ("argument " ++ Decimal.natText i ++ " of " ++
      sig.text ++ " is " ++ v.typeName))

/-- The arguments a function with this signature receives for a receiver and arguments, or the
fault that stops the call before it starts. -/
def Signature.bind (sig : Signature) (receiver : Value) (args : List Value) :
    Except Fault (List Value) :=
  let arity := sig.params.length
  let given := sig.given receiver args
  if arity != given.length && !sig.variadic then
    .error (Fault.because .argumentType (sig.text ++ " expects " ++ Decimal.natText arity ++
      " arguments, got " ++ Decimal.natText args.length))
  else
    given.zipIdx.mapM fun (arg, i) => sig.checkArg arg i

/-- Whether a call passes too few arguments to a variadic function to fill its fixed
parameters; the call itself then panics. -/
def Signature.tooFew (sig : Signature) (given : List Value) : Bool :=
  sig.variadic && given.length + 1 < sig.params.length

/-- The failure a returned value stands for: an error value is one, anything else is none. -/
def failureOf : Value → Option Fault
  | .error e => some e
  | _ => none

/-- The result and the error of a call, from the values the function returned, one per result
type. A shape the calling rules do not support gives no result and a not-invocable error. -/
def Signature.outcome (sig : Signature) (outs : List Value) : Value × Option Fault :=
  match sig.results, outs with
  | [], _ => (.nil, none)
  | [.error], out :: _ => (.nil, failureOf out)
  | [_], out :: _ => (out, none)
  | [_, .error], out :: err :: _ => (out, failureOf err)
  | [_, _], _ => (.nil, some (Fault.because .notInvocable (sig.text ++ " second result must be error")))
  | rs, _ => (.nil, some (Fault.because .notInvocable (sig.text ++ " returns " ++
      Decimal.natText rs.length ++ " values")))

/-- A call as its caller goes on from it: a set error ends the run, and otherwise the result is
the call's value. Every caller of an invocation reads the result only when no error is set. -/
def Run.returning : Value × Option Fault → Run Value
  | (_, some e) => Run.fail e
  | (v, none) => pure v

end Bindery
