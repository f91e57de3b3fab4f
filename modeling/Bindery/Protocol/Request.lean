import Bindery.Protocol.Names
import Bindery.Protocol.Markup
import Bindery.Protocol.Injector
import Bindery.Protocol.Scope
import Bindery.Protocol.Parse
import Bindery.Protocol.Hydrate
import Bindery.Protocol.Config
import Bindery.Protocol.Cli
import Bindery.Protocol.Log
import Bindery.Protocol.Clone
import Bindery.Json.Reader
import Bindery.Json.Parse
import Bindery.Json.Writer

/-!
# Requests

`respond` reads one request line and writes its answer line. The request's `op` chooses the
operation; an unreadable line or an unknown operation answers a `BadInput` failure.
-/

namespace Bindery.Protocol

def answer (req : Json) : Json :=
  match req.str? "op" with
  | some "normalize" => normalizeNames req
  | some "restrict" => readRestricts req
  | some "level" => readLevels req
  | some "injector" => finish (injectorRequest req) {}
  | some "scope" => finish (scopeRequest req) {}
  | some "parse" => finish (parseRequest req) {}
  | some "group_scan" => finish (groupScanRequest req) {}
  | some "dom" => finish (domRequest req) {}
  | some "overlay" => finish (overlayLayers req) {}
  | some "config" => finish (configRequest req) {}
  | some "hydrate" => finish (hydrateRequest req) {}
  | some "cli" => cliRequest req
  | some "logger" => loggerRequest req
  | some "clone" => cloneRequest req
  | some op => failureJson "BadInput" ("unknown op " ++ Text.quoted op)
  | none => failureJson "BadInput" "unknown op \"\""

/-- The answer line to a request line. A line that is not JSON is refused with what is wrong
with its text. -/
def respond (line : String) : String :=
  match Json.read line with
  | some req => (answer req).render
  | none =>
    match Json.parse line with
    | .error m => (failureJson "BadInput" m).render
    | .ok _ => (failureJson "BadInput" "invalid request").render

end Bindery.Protocol
