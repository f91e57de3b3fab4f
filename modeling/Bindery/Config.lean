import Bindery.Yaml.Decode
import Bindery.Fault
import Bindery.Text.Quoted
import Bindery.Text.Case

/-!
# Configuration files

The configuration of the core module is a YAML document with four known fields: `digest_ttl`
(an integer), `engine`, `log_level` and `log_format` (texts). Fields the document leaves out,
or sets to null, keep their defaults (10, `expr`, `info`, `text`); a text with no document
gives the defaults.

Reading is strict: a field that is not known, a field set twice, or a value of the wrong shape
is a problem, and all problems of a document are reported together, each with its line. An
integer field accepts integers and floats (truncated) that fit, and nothing else; a text field
accepts any scalar as written.

A configuration that reads is then validated: the digest TTL must not be negative, the engine
must be one of the known names (or empty), and the log format must be text or json in any case.
-/

namespace Bindery

structure Config where
  digestTTL : Int := 10
  engine : String := "expr"
  logLevel : String := "info"
  logFormat : String := "text"
deriving Inhabited

def configTypeName : String := "opular.Config"

/-- The shape a configuration document decodes into: a strict record of its four fields. -/
def configShape : Yaml.Shape :=
  .record configTypeName
    [("digest_ttl", .int), ("engine", .text), ("log_level", .text), ("log_format", .text)] true

def Config.ofFields (fields : Json) : Config :=
  let base : Config := {}
  { digestTTL := (fields.int? "digest_ttl").getD base.digestTTL
    engine := (fields.str? "engine").getD base.engine
    logLevel := (fields.str? "log_level").getD base.logLevel
    logFormat := (fields.str? "log_format").getD base.logFormat }

def readConfig (source : String) : Except Fault Config :=
  match Yaml.readInto configShape source with
  | .error m => .error (.text ("opular: decode config: " ++ m))
  | .ok none => .ok {}
  | .ok (some fields) => .ok (Config.ofFields fields.json)

def Config.problems (c : Config) : List Fault :=
  (if c.digestTTL < 0 then
    [Fault.text ("digest_ttl must not be negative, got " ++ Decimal.intText c.digestTTL)] else []) ++
  (if ["", "expr", "cel", "js"].contains c.engine then [] else
    [Fault.wrap ("engine " ++ Text.quoted c.engine ++ ": ") (.sentinel .unknownEngine) ""]) ++
  (if ["", "text", "json"].contains (Text.lower c.logFormat) then [] else
    [Fault.text ("log_format " ++ Text.quoted c.logFormat ++ " is not text or json")])

def Config.validate (c : Config) : Except Fault Config :=
  match c.problems with
  | [] => .ok c
  | ps => .error (.wrap "opular: invalid config: " (.join ps) "")

def loadConfig (source : String) : Except Fault Config := do
  (← readConfig source).validate

/-- The digest TTL the root scope gets: the configured one when positive, else the default. -/
def Config.rootTTL (c : Config) : Int := if c.digestTTL > 0 then c.digestTTL else 10

end Bindery
