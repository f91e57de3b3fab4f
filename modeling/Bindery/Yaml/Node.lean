import Bindery.Decimal.Read
import Bindery.Decimal.Shortest
import Bindery.Yaml.Token
import Bindery.Time.Parse

/-!
# YAML nodes and scalars

A document is a tree of nodes: scalars, sequences and mappings, each with its tag and the line
(from one) it starts on, and aliases, which stand for the node their anchor named. An alias
inside the very node its anchor names cannot hold that node; it keeps only the node's kind, tag
and line, and following it is a cycle.

Tags are kept short: the standard ones as `!!str`, `!!int` and so on. A scalar written without a
tag gets one from how it is written: quoted and block scalars are strings, and plain ones get the
tag of what their text resolves to. Resolving a plain text: the null words and the empty text are
null, `true`/`false` in three spellings are booleans, numbers are integers (with base prefixes
and underscores) when they fit 64 bits, unsigned integers when they fit 64 unsigned bits, floats
when they look like decimal floats, and everything else is a string. An explicit tag asks for a
kind; a text that resolves to another kind is refused, except that an integer is accepted as a
float. Tags outside the resolvable ones keep the text as it is.

Problems carry the line their message shows, if any.
-/

namespace Bindery.Yaml

/-- A node of a document, with its short tag and the line (from one) it starts on. -/
inductive Node where
  | scalar (text : String) (tag : String) (line : Nat)
  | seq (items : List Node) (tag : String) (line : Nat)
  | map (entries : List (Node × Node)) (tag : String) (line : Nat)
  | alias (name : String) (target : Node) (line : Nat)
  | cycle (name : String) (shape : Node) (line : Nat)
deriving Inhabited

def Node.line : Node → Nat
  | .scalar _ _ l | .seq _ _ l | .map _ _ l | .alias _ _ l | .cycle _ _ l => l

/-- The tag of a node; an alias has the tag of the node it stands for. -/
def Node.shortTag : Node → String
  | .scalar _ t _ | .seq _ t _ | .map _ t _ => t
  | .alias _ target _ | .cycle _ target _ =>
    match target with
    | .scalar _ t _ | .seq _ t _ | .map _ t _ => t
    | _ => ""

/-- The node an alias stands for; any other node is itself. -/
def Node.target : Node → Node
  | .alias _ t _ => t
  | n => n

structure Problem where
  shownLine : Option Nat
  message : String
deriving Inhabited

def Problem.text (p : Problem) : String :=
  "yaml: " ++ (match p.shownLine with
    | some n => "line " ++ Decimal.natText n ++ ": "
    | none => "") ++ p.message

def standardTagPrefix : String := "tag:yaml.org,2002:"

/-- The short form of a tag: `!!name` for a standard tag. -/
def shortTag (tag : String) : String :=
  if tag.startsWith standardTagPrefix then
    "!!" ++ String.ofList (tag.toList.drop standardTagPrefix.length)
  else tag

inductive Scalar where
  | null
  | bool (b : Bool)
  | int (i : Int)
  | uint (n : Nat)
  | float (f : Float)
  | str (s : String)
  | timestamp (s : String) (t : Time.Instant)
deriving Inhabited

def Scalar.tag : Scalar → String
  | .null => "!!null"
  | .bool _ => "!!bool"
  | .int _ | .uint _ => "!!int"
  | .float _ => "!!float"
  | .str _ => "!!str"
  | .timestamp _ _ => "!!timestamp"

def digitValue (base : Nat) (c : Char) : Option Nat := Decimal.digitIn base c

/-- The unsigned integer a text holds, with the base given by its prefix (no sign). -/
def readUnsignedPrefixed (cs : List Char) : Option Nat :=
  let (base, body) := match cs with
    | '0' :: 'x' :: rest | '0' :: 'X' :: rest => (16, rest)
    | '0' :: 'o' :: rest | '0' :: 'O' :: rest => (8, rest)
    | '0' :: 'b' :: rest | '0' :: 'B' :: rest => (2, rest)
    | '0' :: rest@(_ :: _) => (8, rest)
    | rest => (10, rest)
  if body.isEmpty then none else
  match body.foldlM (fun acc c => (digitValue base c).map fun d => acc * base + d) 0 with
  | some n => if n < Nat.pow 2 64 then some n else none
  | none => none

/-- Whether a text looks like a decimal float: an optional sign, digits with an optional
fraction or a fraction alone, and an optional exponent. -/
def floatShaped (cs : List Char) : Bool :=
  let cs := match cs with
    | '+' :: rest | '-' :: rest => rest
    | rest => rest
  let intDigits := cs.takeWhile Char.isDigit
  let cs := cs.dropWhile Char.isDigit
  let (mantissaOk, cs) := match cs with
    | '.' :: rest =>
      let frac := rest.takeWhile Char.isDigit
      (!intDigits.isEmpty || !frac.isEmpty, rest.dropWhile Char.isDigit)
    | rest => (!intDigits.isEmpty, rest)
  mantissaOk && match cs with
    | [] => true
    | 'e' :: rest | 'E' :: rest =>
      let rest := match rest with
        | '+' :: r | '-' :: r => r
        | r => r
      !rest.isEmpty && rest.all Char.isDigit
    | _ => false

/-- The layouts a timestamp may be written in, tried in order: a date and time with a `T` (or
`t`) and a zone, a date and time apart by blanks with no zone, and a date alone. Fields are one
or two digits, and seconds may have a fraction. -/
def timestampLayouts : List String :=
  ["2006-1-2T15:4:5.999999999Z07:00", "2006-1-2t15:4:5.999999999Z07:00",
   "2006-1-2 15:4:5.999999999", "2006-1-2"]

/-- The moment a text stands for when it is a timestamp: it starts with a four-digit year and a
dash, and reads in full by one of the timestamp layouts. -/
def timestampOf? (text : String) : Option Time.Instant :=
  let cs := text.toList
  if (cs.takeWhile Char.isDigit).length != 4 || (cs.drop 4).head? != some '-' then none
  else timestampLayouts.findSome? fun layout => (Time.parseTime layout text).toOption

/-- The meaning of a plain scalar's text; dates are recognised only when `dates` is set. -/
def resolvePlain (text : String) (dates : Bool := true) : Scalar :=
  match text with
  | "" | "~" | "null" | "Null" | "NULL" => .null
  | "true" | "True" | "TRUE" => .bool true
  | "false" | "False" | "FALSE" => .bool false
  | ".nan" | ".NaN" | ".NAN" => .float (0.0 / 0.0)
  | ".inf" | ".Inf" | ".INF" | "+.inf" | "+.Inf" | "+.INF" => .float (1.0 / 0.0)
  | "-.inf" | "-.Inf" | "-.INF" => .float (-1.0 / 0.0)
  | _ =>
    match text.toList with
    | c :: _ =>
      if c == '.' then
        match Decimal.readFloat text with
        | .ok f => .float f
        | .error _ => .str text
      else if let some t := (if dates then timestampOf? text else none) then .timestamp text t
      else if c.isDigit || c == '+' || c == '-' then
        let plain := text.toList.filter (· != '_')
        match Decimal.readInt (String.ofList plain) with
        | .ok i => .int i
        | .error _ =>
          match readUnsignedPrefixed plain with
          | some n => .uint n
          | none =>
            if floatShaped plain then
              match Decimal.readFloat (String.ofList plain) with
              | .ok f => .float f
              | .error _ => .str text
            else .str text
      else .str text
    | [] => .null

/-- The tags whose texts are resolved; other tags keep the text as it is. -/
def resolvableTags : List String :=
  ["", "!!str", "!!bool", "!!int", "!!float", "!!timestamp", "!!null"]

/-- Resolves a scalar's text under its tag: the tag it resolves to and its meaning, or the message
for a text that does not fit an explicit tag. -/
def resolve (tag text : String) : Except String (String × Scalar) :=
  if !resolvableTags.contains tag then .ok (tag, .str text) else
  let found := if tag == "!!str" then Scalar.str text
    else resolvePlain text (tag == "" || tag == "!!timestamp")
  if tag == "" || tag == found.tag || tag == "!!str" then .ok (found.tag, found)
  else match tag, found with
    | "!!float", .int i => .ok ("!!float", .float (Float.ofInt i))
    | _, _ => .error ("cannot decode " ++ found.tag ++ " `" ++ text ++ "` as a " ++ tag)

/-- The tag a scalar gets from how it is written, when it has no tag of its own. -/
def defaultScalarTag (text : String) (style : ScalarStyle) : String :=
  if style != .plain then "!!str"
  else if text == "<<" then "!!merge"
  else (resolvePlain text).tag

end Bindery.Yaml
