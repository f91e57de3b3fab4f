import Bindery.Log.Level
import Bindery.Json.Marshal
import Bindery.Text.Quoted

/-!
# Log records and their lines

A record has a level, a message and attributes, each a key with a value: a text, an integer, a
number, a truth value, an error (shown by its message), or other data (nothing, a list or a
table). A logger writes each record it admits as one line, in one of two formats.

The text format writes `key=value` pairs separated by spaces: the level, the message under
`msg`, then the attributes in order. A key or a text is quoted when it is empty or holds a blank,
`=`, `"`, a control character or a character that does not print; numbers are written in their
shortest form, and other data in its printed form (`[1 2]`, `map[a:1]`, `<nil>`), quoted when
needed.

The JSON format writes one object with the same fields in the same order; texts and errors are
JSON strings, numbers are positional from `1e-6` up to below `1e21`, and other data is written
as compact JSON with the keys of tables sorted.

An attribute under the key `error` is written under `err`. Lines carry no time stamp.
-/

namespace Bindery.Log

inductive Datum where
  | text (s : String)
  | integer (i : Int)
  | number (x : Float)
  | bool (b : Bool)
  | failure (message : String)
  | data (j : Json)
deriving Inhabited

structure Record where
  level : Level
  message : String
  attrs : List (String × Datum)
deriving Inhabited

inductive Format where
  | text
  | json
deriving BEq, Inhabited, Repr

/-- The format a name names: JSON in any case, text otherwise. -/
def Format.ofName (name : String) : Format := if Text.equalFold name "json" then .json else .text

def shownKey (key : String) : String := if key == "error" then "err" else key

def needsQuotes (s : String) : Bool :=
  s.isEmpty || s.toList.any fun c =>
    if c.toNat < 0x80 then c.toNat < 0x20 || c == ' ' || c == '=' || c == '"'
    else c == '\uFFFD' || Text.isSpace c || !Text.isPrint c

def textWord (s : String) : String := if needsQuotes s then Text.quoted s else s

def Datum.textForm : Datum → String
  | .text s => textWord s
  | .integer i => Decimal.intText i
  | .number x => Decimal.Layout.plainText.float x
  | .bool b => if b then "true" else "false"
  | .failure m => textWord m
  | .data j => textWord j.plainText

def Datum.jsonForm : Datum → String
  | .text s => Json.marshalString false false s
  | .integer i => Decimal.intText i
  | .number x => Json.numberLayout.float x
  | .bool b => if b then "true" else "false"
  | .failure m => Json.marshalString false false m
  | .data j => Json.compact false j

def Record.textLine (r : Record) : String :=
  " ".intercalate (("level=" ++ r.level.name) :: ("msg=" ++ textWord r.message) ::
    r.attrs.map fun (k, v) => textWord (shownKey k) ++ "=" ++ v.textForm)

def Record.jsonLine (r : Record) : String :=
  let field (k v : String) : String := Json.marshalString false false k ++ ":" ++ v
  "\x7b" ++ ",".intercalate (field "level" (Json.marshalString false false r.level.name) ::
    field "msg" (Json.marshalString false false r.message) ::
    r.attrs.map fun (k, v) => field (shownKey k) v.jsonForm) ++ "\x7d"

structure Logger where
  threshold : Level
  format : Format
deriving Inhabited

def Logger.ofNames (level format : String) : Logger := ⟨Level.ofName level, Format.ofName format⟩

/-- The line a logger writes for a record, if it admits the record. -/
def Logger.line? (lg : Logger) (r : Record) : Option String :=
  if lg.threshold.admits r.level then
    some (match lg.format with
      | .text => r.textLine
      | .json => r.jsonLine)
  else none

def Logger.lines (lg : Logger) (rs : List Record) : List String := rs.filterMap lg.line?

end Bindery.Log
