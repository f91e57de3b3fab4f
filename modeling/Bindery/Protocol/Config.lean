import Bindery.Protocol.Injector
import Bindery.Config

/-!
# Configuration requests

A config request loads a configuration from YAML text and answers its four fields. With
`boot`, it also builds the core module from the configuration and bootstraps an injector on it,
answering the root scope's digest TTL and the engine of the translator service, or the failure.
-/

namespace Bindery.Protocol

def configJson (c : Config) : List (String × Json) :=
  [("digest_ttl", .int c.digestTTL), ("engine", .str c.engine), ("log_level", .str c.logLevel),
    ("log_format", .str c.logFormat)]

/-- Boots an injector on the core module a configuration describes: the root scope's TTL and
the translator's engine. -/
def bootConfig (c : Config) : Run Json := do
  match Engine.byName c.engine with
  | .error e => pure (faultJson (.within "opular: " e))
  | .ok engine =>
    let outcome ← Run.attempt do
      let registry := Injector.Registry.define [] (← coreModule engine c.rootTTL [])
      Injector.newWith machine registry [.str "op"]
      let root ← machine.get .instances "_root_scope"
      let parser ← machine.get .instances "_parse"
      let ttl ← match root with
        | .scope id => do pure (← Scope.stateOf id).ttl
        | _ => pure c.rootTTL
      let name := match parser with
        | .translator t => t.engine.language.name
        | _ => engine.language.name
      pure (Json.obj [("ttl", .int ttl), ("engine", .str name)])
    match outcome with
    | .ok j => pure j
    | .error e => pure (faultJson e)

def configRequest (req : Json) : Run Json := do
  match loadConfig (req.strD "yaml") with
  | .error e => pure (faultJson e)
  | .ok c =>
    let boot ← if req.flag "boot" then do pure [("boot", ← bootConfig c)] else pure []
    pure (.obj [("r", .obj (configJson c ++ boot))])

end Bindery.Protocol
