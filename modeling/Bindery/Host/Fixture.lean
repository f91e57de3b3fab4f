import Bindery.Host.Call
import Bindery.Text.Case

/-!
# Fixture functions

The plain functions a request can name by signature. Each logs its call with its arguments when
it has a label, then computes its results: integer arithmetic wraps at 64 bits, texts are
upper-cased by the Unicode case map, and a box argument that is absent cannot be appended to.
-/

namespace Bindery

/-- An integer reduced to the signed 64-bit range, wrapping around. -/
def wrap64 (i : Int) : Int :=
  let m : Int := Int.pow 2 64
  let h : Int := Int.pow 2 63
  (i + h) % m - h

def nilDereference : String := "runtime error: invalid memory address or nil pointer dereference"

def logCall (label : String) (args : List Value) : Run Unit := do
  if !label.isEmpty then
    Run.log (.obj [("call", .str label), ("args", ← encodeAll args)])

/-- Runs a fixture function on the arguments it received; returns one value per result type. -/
def Sig.run (s : Sig) (label : String) (args : List Value) : Run (List Value) := do
  logCall label args
  match s, args with
  | .intInc, [.int a] => pure [.int (wrap64 (a + 1))]
  | .intPair, [.int a, .int b] => pure [.int (wrap64 (a * 10 + b))]
  | .strConcat, [.str a, .str b] => pure [.str (a ++ b)]
  | .strUpper, [.str a] => pure [.str (Text.upper a)]
  | .variadic, xs => pure [← Run.newList xs]
  | .recvStr, [self, .str t] => do
    let shown ← encode self
    pure [.str (shown.plainText ++ ":" ++ t)]
  | .none, _ => pure []
  | .thunk, _ => pure [.str label]
  | .errNil, _ => pure [.nil]
  | .errFail, _ => pure [.error (.text "annotated failure")]
  | .pair, [a] => pure [a, .nil]
  | .pairBad, _ => pure [.int 0, .int 0]
  | .triple, _ => pure [.int 0, .int 0, .nil]
  | .boxAppend, [.box id] => do
    let b ← Run.box id
    Run.setBox id { b with items := b.items ++ [.str label] }
    pure []
  | .boxAppend, _ => Run.panicWith nilDereference
  | .boxNew, _ => pure [.box (← Run.newBox { label })]
  | .panics, _ => Run.panicWith ("annotated panic " ++ label)
  | _, _ => pure (s.signature.results.map HostType.zero)

end Bindery
