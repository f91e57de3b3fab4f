import Bindery.Decimal.Read
import Bindery.Text.Quoted

/-!
# Command-line flags

A command reads its words against a set of flags. A word `--name=value` or `--name value` gives
a long flag its value; `-c` names a flag by its one-letter shorthand, and the rest of the word is
then its value (`-cvalue`, `-c=value`) or, after a switch, more shorthands. A switch given
without a value is on; every other flag without an attached value takes the next word. The word
`--` ends the flags: every later word is an argument, and so is `-` alone, the empty word and any
word not starting with a dash.

A text flag keeps its last value, a list flag collects every value in order, an integer flag reads
its value with the base its prefix names, and a switch reads a truth word.
-/

namespace Bindery.Cli

inductive FlagKind where
  | text
  | texts
  | int
  | switch
deriving BEq, Inhabited, Repr

/-- A flag: its long name, its one-letter shorthand, what it holds and its help line. -/
structure Flag where
  name : String
  shorthand : Option Char := none
  kind : FlagKind
  usage : String
deriving Inhabited

inductive FlagValue where
  | text (s : String)
  | texts (items : List String)
  | int (i : Int)
  | switch (on : Bool)
deriving Inhabited

abbrev Given := List (String × FlagValue)

/-- The text given to a flag; empty when it was not given. -/
def Given.text (g : Given) (name : String) : String :=
  match g.lookup name with
  | some (.text s) => s
  | _ => ""

def Given.texts (g : Given) (name : String) : List String :=
  match g.lookup name with
  | some (.texts items) => items
  | _ => []

/-- The integer given to a flag; zero when it was not given. -/
def Given.int (g : Given) (name : String) : Int :=
  match g.lookup name with
  | some (.int i) => i
  | _ => 0

def Given.switch (g : Given) (name : String) : Bool :=
  match g.lookup name with
  | some (.switch b) => b
  | _ => false

/-- How messages name a flag: with its shorthand when it has one. -/
def Flag.display (f : Flag) : String :=
  match f.shorthand with
  | some c => "-" ++ String.singleton c ++ ", --" ++ f.name
  | none => "--" ++ f.name

def Flag.give (f : Flag) (given : Given) (value : String) : Except String Given :=
  let invalid (why : String) : Except String Given :=
    .error ("invalid argument " ++ Text.quoted value ++ " for " ++ Text.quoted f.display ++
      " flag: " ++ why)
  let set (v : FlagValue) : Given := (f.name, v) :: given.filter (·.1 != f.name)
  match f.kind with
  | .text => .ok (set (.text value))
  | .texts => .ok (set (.texts (given.texts f.name ++ [value])))
  | .int =>
    match Decimal.readInt value with
    | .ok i => .ok (set (.int i))
    | .error e => invalid (e.message "ParseInt" value)
  | .switch =>
    match Decimal.readBool value with
    | .ok b => .ok (set (.switch b))
    | .error e => invalid (e.message "ParseBool" value)

def longFlag? (flags : List Flag) (name : String) : Option Flag := flags.find? (·.name == name)

def shortFlag? (flags : List Flag) (c : Char) : Option Flag := flags.find? (·.shorthand == some c)

/-- The character of the first byte of a character's encoding, as messages about a shorthand
show it. -/
def firstByteChar (c : Char) : Char :=
  match (String.singleton c).toUTF8.toList with
  | b :: _ => Char.ofNat b.toNat
  | [] => c

/-- Reads a cluster of shorthands (a word less its dash); returns the values given and the words
left. -/
def readShorthands (flags : List Flag) (given : Given) (rest : List String) :
    List Char → Except String (Given × List String)
  | [] => .ok (given, rest)
  | c :: more =>
    let cluster := String.ofList (c :: more)
    match shortFlag? flags c with
    | none =>
      .error ("unknown shorthand flag: " ++ Text.charQuoted (firstByteChar c) ++ " in -" ++ cluster)
    | some f =>
      match more with
      | '=' :: value@(_ :: _) => do pure (← f.give given (String.ofList value), rest)
      | _ =>
        if f.kind == .switch then do
          readShorthands flags (← f.give given "true") rest more
        else if !more.isEmpty then do pure (← f.give given (String.ofList more), rest)
        else
          match rest with
          | v :: tail => do pure (← f.give given v, tail)
          | [] => .error ("flag needs an argument: " ++ Text.charQuoted c ++ " in -" ++ cluster)

/-- Reads a word naming a long flag; returns the values given and the words left. -/
def readLong (flags : List Flag) (given : Given) (word : String) (rest : List String) :
    Except String (Given × List String) :=
  match (word.drop 2).toString.toList with
  | [] | '-' :: _ | '=' :: _ => .error ("bad flag syntax: " ++ word)
  | cs =>
    let name := String.ofList (cs.takeWhile (· != '='))
    let attached := if cs.contains '=' then some (String.ofList ((cs.dropWhile (· != '=')).drop 1))
      else none
    match longFlag? flags name with
    | none => .error ("unknown flag: --" ++ name)
    | some f =>
      match attached with
      | some v => do pure (← f.give given v, rest)
      | none =>
        if f.kind == .switch then do pure (← f.give given "true", rest)
        else
          match rest with
          | v :: tail => do pure (← f.give given v, tail)
          | [] => .error ("flag needs an argument: " ++ word)

/-- Reads words against flags, one word or flag with its value a step, for at most `fuel` steps:
the values given and the arguments, in order. -/
def readWordsFor (flags : List Flag) : Nat → Given → List String → List String →
    Except String (Given × List String)
  | 0, given, args, _ => .ok (given, args)
  | fuel + 1, given, args, words =>
    match words with
    | [] => .ok (given, args)
    | w :: rest =>
      match w.toList with
      | ['-', '-'] => .ok (given, args ++ rest)
      | '-' :: '-' :: _ => do
        let (g, left) ← readLong flags given w rest
        readWordsFor flags fuel g args left
      | '-' :: c :: more => do
        let (g, left) ← readShorthands flags given rest (c :: more)
        readWordsFor flags fuel g args left
      | _ => readWordsFor flags fuel given (args ++ [w]) rest

/-- Reads a command's words against its flags: the values given and the arguments, in order. -/
def readWords (flags : List Flag) (words : List String) : Except String (Given × List String) :=
  readWordsFor flags (words.length + 1) [] [] words

/-- Whether a flag word takes the next word as its value when commands are looked for: a long
flag without `=` that is not a known switch, or a two-character shorthand word that is not a
known switch. -/
def takesNext (flags : List Flag) (w : String) : Bool :=
  let isSwitch (f : Option Flag) : Bool := f.any (·.kind == .switch)
  if w.contains '=' then false
  else if w.startsWith "--" then !isSwitch (longFlag? flags (w.drop 2).toString)
  else match w.toList with
    | ['-', c] => c.toNat < 128 && !isSwitch (shortFlag? flags c)
    | _ => false

/-- The words that may name commands: the words before `--` that do not start with a dash, less
the values of flags. A flag taking the next word as its value when at most one word follows
ends the search. -/
def commandWords (flags : List Flag) : List String → List String
  | [] => []
  | [w] => if w == "--" || takesNext flags w || w == "" || w.startsWith "-" then [] else [w]
  | w :: rest@(_ :: more) =>
    if w == "--" then []
    else if takesNext flags w then commandWords flags more
    else if w != "" && !w.startsWith "-" then w :: commandWords flags rest
    else commandWords flags rest

/-- The words less the first word equal to `x` that is not a flag or a flag's value. -/
def withoutWord (flags : List Flag) (x : String) : List String → List String
  | [] => []
  | w :: rest =>
    if w == "--" then w :: rest
    else if takesNext flags w then
      match rest with
      | v :: more => w :: v :: withoutWord flags x more
      | [] => [w]
    else if !w.startsWith "-" && w == x then rest
    else w :: withoutWord flags x rest

/-- The name of the value a flag takes, as usage lines show it. -/
def FlagKind.valueName : FlagKind → String
  | .text => "string"
  | .texts => "stringArray"
  | .int => "int"
  | .switch => ""

/-- The usage lines of flags, sorted by name, with their help texts aligned one column after the
longest flag. -/
def usageLines (flags : List Flag) : List String :=
  let sorted := flags.mergeSort (fun a b => decide (a.name ≤ b.name))
  let heads := sorted.map fun f =>
    let lead := match f.shorthand with
      | some c => "  -" ++ String.singleton c ++ ", --" ++ f.name
      | none => "      --" ++ f.name
    let v := f.kind.valueName
    (if v.isEmpty then lead else lead ++ " " ++ v, f.usage)
  let width := heads.foldl (fun m h => max m h.1.length) 0 + 1
  heads.map fun (h, u) => h ++ " " ++ String.ofList (List.replicate (width - h.length) ' ') ++ " " ++ u

end Bindery.Cli
