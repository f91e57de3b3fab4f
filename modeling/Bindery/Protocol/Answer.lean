import Bindery.Value.Encode
import Bindery.Value.Decode

/-!
# Answers

Every step of a request answers one object: `{"r": value}` when it succeeds, or
`{"error": kind, "message": text}` when it fails, plus `"log"` when the step logged something.
A request that cannot be read, or names an unknown operation or step, answers a `BadInput`
failure; a panic nobody recovered answers a `Panic` failure.
-/

namespace Bindery.Protocol

def faultJson (e : Fault) : Json :=
  .obj [("error", .str e.kind.name), ("message", .str e.message)]

def failureJson (kind message : String) : Json :=
  .obj [("error", .str kind), ("message", .str message)]

def unknownStep (name : String) : Json := failureJson "BadInput" ("unknown step " ++ Text.quoted name)

/-- Adds the log to an answer object when it is not empty. -/
def withLog (j : Json) (log : Array Json) : Json :=
  if log.isEmpty then j else
  match j with
  | .obj fields => .obj (fields ++ [("log", .arr log.toList)])
  | other => other

/-- Runs a step: its result encoded, or its fault, with the entries it logged. Panics pass
through. -/
def step (x : Run Value) : Run Json := do
  let r ← Run.attempt (do encode (← x))
  let log ← Run.takeLog
  match r with
  | .ok j => pure (withLog (.obj [("r", j)]) log)
  | .error e => pure (withLog (faultJson e) log)

def stepJson (x : Run Json) : Run Json := do
  let r ← Run.attempt x
  let log ← Run.takeLog
  match r with
  | .ok j => pure (withLog (.obj [("r", j)]) log)
  | .error e => pure (withLog (faultJson e) log)

/-- The answer of a whole request: its document, or the failure that stopped it. -/
def finish (x : Run Json) (w : World) : Json :=
  match x.run w with
  | .ok j _ => j
  | .error (.fault e) _ => faultJson e
  | .error (.panic t) _ => failureJson "Panic" t
  | .error .exhausted _ => failureJson "Panic" "runtime: goroutine stack exceeds limit"

end Bindery.Protocol
