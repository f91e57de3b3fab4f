import Bindery.Protocol.Answer
import Bindery.Log.Record

/-!
# Logger requests

A `logger` request logs messages, each `[level, message, key, value, …]`, through a logger of the
request's level and format, and answers the lines written. A message is logged only when it is a
list of at least two items whose first names a level in lower case (`debug`, `info`, `warn` or
`error`). A message or key that is not a text is empty, and a key left without a value is
dropped. The value of an `error` key arrives as an error whose message is the value's printed
form.

The lines carry the logger's time stamp, which the answer leaves out: every JSON field
`"time":"…",` whose text holds no quote is removed, and nothing else.
-/

namespace Bindery.Protocol

def datumOf (j : Json) : Log.Datum :=
  match j with
  | .str s => .text s
  | .int i => .integer i
  | .float x => .number x
  | .bool b => .bool b
  | other => .data other

/-- The error a document stands for: its text, or its printed form. -/
def failureOf (j : Json) : Log.Datum :=
  match j with
  | .str s => .failure s
  | other => .failure other.plainText

def textOf : Json → String
  | .str s => s
  | _ => ""

/-- The attributes of a message's arguments, taken in pairs; the value after an `error` key is an
error, and a last argument without a value is dropped. -/
def attrsOf : List Json → List (String × Log.Datum)
  | k :: v :: rest =>
    let key := textOf k
    (key, if key == "error" then failureOf v else datumOf v) :: attrsOf rest
  | _ => []

/-- The level a message names: one of the four names in lower case. -/
def messageLevel? : Json → Option Log.Level
  | .str "debug" => some .debug
  | .str "info" => some .info
  | .str "warn" => some .warn
  | .str "error" => some .error
  | _ => none

def recordOf? (message : Json) : Option Log.Record :=
  match message with
  | .arr (level :: text :: args) =>
    (messageLevel? level).map fun level => { level, message := textOf text, attrs := attrsOf args }
  | _ => none

def afterQuotedComma : List Char → Option (List Char)
  | '"' :: ',' :: rest => some rest
  | '"' :: _ => none
  | _ :: rest => afterQuotedComma rest
  | [] => none

def timeOpening : List Char := "\"time\":\"".toList

/-- Removes, from left to right, every time field with a text value free of quotes that a comma
follows. Each step consumes at least one character, so the length bounds the steps. -/
def dropTimeFields : Nat → List Char → List Char
  | 0, cs => cs
  | _, [] => []
  | fuel + 1, c :: rest =>
    if timeOpening.isPrefixOf (c :: rest) then
      match afterQuotedComma ((c :: rest).drop timeOpening.length) with
      | some after => dropTimeFields fuel after
      | none => c :: dropTimeFields fuel rest
    else c :: dropTimeFields fuel rest

def withoutTime (line : String) : String :=
  String.ofList (dropTimeFields line.length line.toList)

def loggerRequest (req : Json) : Json :=
  let logger := Log.Logger.ofNames (req.strD "level") (req.strD "format")
  let lines := logger.lines ((req.items "messages").filterMap recordOf?)
  let lines := lines.map withoutTime
  .obj [("r", if lines.isEmpty then .null else .arr (lines.map .str))]

end Bindery.Protocol
