import Bindery.Time.Zone
import Bindery.Time.ZoneData

/-!
# Loading zones by name

`loadZone` gives the zone a name stands for: UTC for the empty name and `UTC`, the machine's
local zone for `Local`, and otherwise the zone of the database record that lists the name, under
that name. A zone with no recorded change keeps its first kind from the earliest moment on. Names
containing `..` or starting with a slash are refused; the names of directories and of the other
tables beside the zones load nothing, and any other name is unknown.
-/

namespace Bindery.Time

def base36Digit (c : Char) : Nat :=
  if c.isDigit then c.toNat - '0'.toNat else c.toNat - 'a'.toNat + 10

def base36 (cs : List Char) : Int :=
  match cs with
  | '-' :: rest => -((rest.foldl (fun n c => n * 36 + base36Digit c) 0 : Nat) : Int)
  | _ => (cs.foldl (fun n c => n * 36 + base36Digit c) 0 : Nat)

/-- A kind of local time of a record: offset, abbreviation and summer flag. -/
def readZoneKind (s : String) : ZoneKind :=
  match s.splitOn "," with
  | [o, a, d] => { offset := o.toInt?.getD 0, abbr := a, summer := d == "1" }
  | _ => default

/-- The places in `zoneKinds` of a record's kinds, two base-36 digits each. -/
def kindPlaces : List Char → List Nat
  | a :: b :: rest => (base36Digit a * 36 + base36Digit b) :: kindPlaces rest
  | _ => []

/-- The items an item of a record stands for: `@k` the items of the `k`-th shared run, any other
item itself. -/
def sharedItems (item : String) : List String :=
  match item.toList with
  | '@' :: k => ((zoneSharedRuns[(String.ofList k).toNat?.getD 0]?).getD "").splitOn " "
  | _ => [item]

/-- The items of a list of changes, a run `a,b*n` standing for `a b` repeated `n` times. -/
def changeItems (s : String) : List String :=
  ((s.splitOn " ").flatMap sharedItems).flatMap fun item =>
    match item.splitOn "*" with
    | [run, count] => (List.replicate (count.toNat?.getD 0) (run.splitOn ",")).flatten
    | _ => [item]

/-- The changes of a record, each a kind and a distance from the change before: in seconds after
a kind digit, in quarter hours after a kind letter. -/
def readZoneChanges (s : String) : Array (Int × Nat) :=
  let step (acc : Int × Array (Int × Nat)) (item : String) : Int × Array (Int × Nat) :=
    match item.toList with
    | k :: delta =>
      let kind := if k.isUpper then k.toNat - 'A'.toNat else base36Digit k
      let unit : Int := if k.isUpper then 900 else 1
      let t := acc.1 + unit * base36 delta
      (t, acc.2.push (t, kind))
    | [] => acc
  ((changeItems s).foldl step (0, #[])).2

def zoneOfRecord (name record : String) : Zone :=
  match record.splitOn "|" with
  | [_, kinds, changes, rule] =>
    let changes := readZoneChanges changes
    { name, kinds := (kindPlaces kinds.toList).toArray.map fun n => readZoneKind ((zoneKinds[n]?).getD ""),
      changes := if changes.isEmpty then #[(earliest, 0)] else changes, rule }
  | _ => { Zone.utc with name }

def zoneRecord? (name : String) : Option String :=
  zoneRecords.find? fun r => ((r.splitOn "|").head?.map fun ns => (ns.splitOn " ").contains name).getD false

def loadZone (name : String) : Except String Zone :=
  if name == "" || name == "UTC" then .ok Zone.utc
  else if name == "Local" then .ok Zone.local
  else if (name.splitOn "..").length > 1 || name.startsWith "/" || name.startsWith "\\" then
    .error "time: invalid location name"
  else
    match zoneRecord? name with
    | some r => .ok (zoneOfRecord name r)
    | none =>
      if zoneDirectories.contains name then .error "is a directory"
      else if zoneSideFiles.contains name then .error "malformed time zone information"
      else .error ("unknown time zone " ++ name)

end Bindery.Time
