import Bindery.Protocol.Answer
import Bindery.Record.Hydrate
import Bindery.Json.Writer

/-!
# Hydrate requests

A hydrate request describes a decoder (options, decode hooks, configuration, pre-hooks,
post-hooks, a custom decoder) and a payload. The answer is the decoded sample record or the
failure, the keys each pre-hook saw, and whether the payload is unchanged afterwards.
-/

namespace Bindery.Protocol

def hydrateSource : String := "oracle"

def decodeHookOf : String → Option Record.Hook
  | "upper" => some .upper
  | "trim" => some .trim
  | "fail" => some .fail
  | _ => none

/-- The pre-hook a document describes; null describes none. -/
def preHookOf (j : Json) : Run (Option Record.PreHook) := do
  if j.flag "keep" then return some .keep
  if let some (.obj fs) := j.field? "mutate" then return some (.mutate (← Value.ofJsonFields fs))
  if let some (.obj fs) := j.field? "replace" then return some (.replace (← Value.ofJsonFields fs))
  if let some m := j.str? "error" then return some (.fail m)
  match j with
  | .obj _ => pure (some .keep)
  | _ => pure none

/-- The post-hook a document describes; null describes none. -/
def postHookOf (j : Json) : Option Record.PostHook :=
  match j with
  | .obj _ =>
    match j.str? "error" with
    | some m => some (.fail m)
    | none => some (.adjust (j.strD "suffix") ((j.num? "add").getD 0))
  | _ => none

def customDecoderOf (j : Json) : Option Record.CustomDecoder :=
  match j with
  | .obj _ =>
    match j.str? "error" with
    | some m => some (.fail m)
    | none => some (.count (j.strD "name"))
  | _ => none

/-- The answer form of a sample record; an unset list or table shows as empty. -/
def sampleJson (s : Record.Sample) : Run Json := do
  let tags ← match s.tags with
    | some v => encode v
    | none => pure (.arr [])
  let metadata ← match s.metadata with
    | some v => encode v
    | none => pure (.obj [])
  pure (.obj [("name", .str s.name), ("count", .int s.count), ("enabled", .bool s.enabled),
    ("tags", tags), ("ratio", encodeFloat s.ratio), ("meta", metadata)])

def observePreHook (ctx : Record.Context) (keys : List String) : Run Unit :=
  Run.log (.obj [("pre", .str ctx.name), ("source", .str ctx.source), ("keys", .arr (keys.map .str))])

def hydrateRequest (req : Json) : Run Json := do
  let payload ← Value.ofJson ((req.field? "payload").getD .null)
  let before := (← encode payload).render
  let settings : List Record.Setting := match req.str? "config" with
    | some "error_unset" => [.errorUnset]
    | some "bad_result" => [.badResult]
    | _ => []
  let mut pre : List (Option Record.PreStage) := []
  for j in req.items "pre" do
    pre := pre ++ [(← preHookOf j).map (·.stage observePreHook)]
  let decoder : Record.Decoder := {
    pre
    post := (req.items "post").map fun j => (postHookOf j).map (·.stage)
    options := { weak := req.flag "weak", errorUnused := req.flag "disallow_unknown",
                 hooks := (req.strings "hooks").filterMap decodeHookOf }
    settings
    custom := ((req.field? "custom").bind customDecoderOf).map (·.stage) }
  let r ← decoder.decode Record.decodeRecord ⟨req.strD "name", hydrateSource⟩ payload
  let log ← Run.takeLog
  let unchanged := (← encode payload).render == before
  let body ← match r with
    | .ok s => do pure (.obj [("r", ← sampleJson s)])
    | .error e => pure (faultJson e)
  let body := match body with
    | .obj fs => .obj (fs ++ [("payload_unchanged", .bool unchanged)])
    | other => other
  pure (withLog body log)

end Bindery.Protocol
