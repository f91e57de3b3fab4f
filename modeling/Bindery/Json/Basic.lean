import Bindery.Decimal.Truncate

/-!
# JSON documents

The runtime is driven by JSON requests and answers with JSON. A document keeps the distinction
between integers and floating-point numbers, because requests use it to choose a number's type and
answers are compared with it.
-/

namespace Bindery

/-- A JSON document. Integers and floats are told apart; an object keeps its fields in order. -/
inductive Json where
  | null
  | bool (b : Bool)
  | int (i : Int)
  | float (f : Float)
  | str (s : String)
  | arr (items : List Json)
  | obj (fields : List (String × Json))
deriving Inhabited

namespace Json

/-- The value of a field: the last one of that name, as a decoder of maps keeps it. -/
def field? (j : Json) (key : String) : Option Json :=
  match j with
  | .obj fields => (fields.reverse.find? (·.1 == key)).map (·.2)
  | _ => none

def hasField (j : Json) (key : String) : Bool := (j.field? key).isSome

def present? (j : Json) (key : String) : Option Json :=
  match j.field? key with
  | some .null => none
  | other => other

/-- The text of a string field, if the field is a string. -/
def str? (j : Json) (key : String) : Option String :=
  match j.field? key with
  | some (.str s) => some s
  | _ => none

/-- The text of a string field, empty when absent or not a string. -/
def strD (j : Json) (key : String) : String := (j.str? key).getD ""

def int? (j : Json) (key : String) : Option Int :=
  match j.field? key with
  | some (.int i) => some i
  | _ => none

def flag (j : Json) (key : String) : Bool :=
  match j.field? key with
  | some (.bool b) => b
  | _ => false

/-- The items of an array field, empty when absent or not an array. -/
def items (j : Json) (key : String) : List Json :=
  match j.field? key with
  | some (.arr xs) => xs
  | _ => []

/-- The fields of an object field, empty when absent or not an object. -/
def fieldsOf (j : Json) (key : String) : List (String × Json) :=
  match j.field? key with
  | some (.obj fs) => fs
  | _ => []

/-- The text a value stands for where a text is expected: a string's own text, and the empty
text for anything else. -/
def text : Json → String
  | .str s => s
  | _ => ""

/-- The items of an array field read as texts, one for each item: an item that is not a string
reads as the empty text. -/
def strings (j : Json) (key : String) : List String :=
  (j.items key).map text

/-- The integer a value stands for where a number is expected: an integer itself, a float
truncated toward zero, and zero for anything else. -/
def number : Json → Int
  | .int i => i
  | .float f => Decimal.truncate f
  | _ => 0

/-- The dynamic type a decoded value has, as messages spell it. -/
def goTypeName : Json → String
  | .null => "nil"
  | .bool _ => "bool"
  | .int _ => "int"
  | .float _ => "float64"
  | .str _ => "string"
  | .arr _ => "[]interface {}"
  | .obj _ => "map[string]interface {}"

/-- A number field that is present and not null, read as a number. -/
def num? (j : Json) (key : String) : Option Int := (j.present? key).map number

/-- A text field that is present and not null, read as a text. -/
def text? (j : Json) (key : String) : Option String := (j.present? key).map text

/-- Fields of an object with later duplicates replacing earlier ones, in first-seen order. -/
def dedupFields (fields : List (String × Json)) : List (String × Json) :=
  fields.foldl (fun acc (k, v) =>
    if acc.any (·.1 == k) then acc.map (fun (k', v') => if k' == k then (k', v) else (k', v'))
    else acc ++ [(k, v)]) []

end Json

end Bindery
