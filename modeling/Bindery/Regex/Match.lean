import Bindery.Regex.Syntax
import Bindery.Text.Fold

/-!
# Searching text for a pattern

A pattern becomes a machine of numbered steps: reading one character that passes a test,
forking into two ways on, checking a condition on the position, or accepting. The search keeps
the set of steps the machine may be at after each character of the text, as a subset
construction does, so it takes time in proportion to the text times the machine. A match may
start anywhere, so the first step joins the set at every position; the text holds a match as
soon as accepting is reachable.

When case is ignored, a character passes a test when a character of its folding class does:
the characters equal to it up to case, such as `k`, `K` and the Kelvin sign. Dotted capital I and
dotless small i are alone in their classes.
-/

namespace Bindery.Regex

/-- Whether a character counts as part of a word for `\b`: ASCII letters, digits and `_`. -/
def isWordChar (c : Char) : Bool := isAsciiAlnum c || c == '_'

/-- The characters a test with case ignored looks at: the folding class of the character. -/
def caseVariants (c : Char) : List Char := Text.foldOrbit c

def CharSet.holds (s : CharSet) (fold : Bool) (c : Char) : Bool :=
  let inRanges (d : Char) : Bool := s.ranges.any fun (lo, hi) => lo ≤ d.toNat && d.toNat ≤ hi
  let found := if fold then (caseVariants c).any inRanges else inRanges c
  found != s.negated

def CharTest.accepts : CharTest → Char → Bool
  | .char d fold, c => if fold then (caseVariants c).contains d else c == d
  | .any newline, c => newline || c != '\n'
  | .oneOf sets negated fold, c => (sets.any fun s => s.holds fold c) != negated

def Anchor.holds (a : Anchor) (text : Array Char) (i : Nat) : Bool :=
  let before := if i == 0 then none else text[i - 1]?
  let after := text[i]?
  let wordBefore := before.any isWordChar
  let wordAfter := after.any isWordChar
  match a with
  | .textStart => i == 0
  | .textEnd => i ≥ text.size
  | .lineStart => i == 0 || before == some '\n'
  | .lineEnd => i ≥ text.size || after == some '\n'
  | .wordBoundary => wordBefore != wordAfter
  | .notWordBoundary => wordBefore == wordAfter

/-- A step of a machine, with the numbers of the steps that follow it. -/
inductive Step where
  | read (test : CharTest) (next : Nat)
  | fork (left right : Nat)
  | check (a : Anchor) (next : Nat)
  | accept
deriving Inhabited, Repr

structure Machine where
  steps : Array Step
  start : Nat
deriving Inhabited, Repr

def emit (s : Step) : StateM (Array Step) Nat :=
  modifyGet fun steps => (steps.size, steps.push s)

/-- Builds the steps of a loop over `body` that leaves for `next`: a fork into the body and on,
where the body comes back to the fork. Gives the fork's number and the body's first step. -/
def emitLoop (build : Nat → StateM (Array Step) Nat) (next : Nat) :
    StateM (Array Step) (Nat × Nat) := do
  let loop ← emit (.fork 0 0)
  let entry ← build loop
  modify fun steps => steps.setIfInBounds loop (.fork entry next)
  pure (loop, entry)

/-- Builds the steps that match a pattern and then go on to step `next`, giving the first of
them. -/
def build : Nat → Pattern → Nat → StateM (Array Step) Nat
  | 0, _, next => pure next
  | fuel + 1, p, next =>
    match p with
    | .empty => pure next
    | .single test => emit (.read test next)
    | .anchor a => emit (.check a next)
    | .concat parts => parts.foldrM (fun part k => build fuel part k) next
    | .alternate options => do
      let entries ← options.mapM fun o => build fuel o next
      match entries.reverse with
      | [] => emit (.read (.oneOf [] false false) next)
      | last :: others => others.foldlM (fun k e => emit (.fork e k)) last
    | .star body => do
      let (loop, _) ← emitLoop (build fuel body) next
      pure loop
    | .plus body => do
      let (_, entry) ← emitLoop (build fuel body) next
      pure entry
    | .quest body => do
      let entry ← build fuel body next
      emit (.fork entry next)
    | .times body lo hi => do
      let tail ← match hi with
        | none => do
          let (loop, _) ← emitLoop (build fuel body) next
          pure loop
        | some h =>
          (List.replicate (h - lo) ()).foldlM (fun k _ => do
            let entry ← build fuel body k
            emit (.fork entry next)) next
      (List.replicate lo ()).foldlM (fun k _ => build fuel body k) tail
    | .group body => build fuel body next

def depthBound (n : Nat) : Nat := 2 * n + 4

def Machine.ofPattern (p : Pattern) (n : Nat) : Machine :=
  let (start, steps) := (do
    let done ← emit .accept
    build (depthBound n) p done).run #[]
  { steps, start }

/-- What following the steps that read nothing finds at one position: the steps marked as
reached, the reading steps reached, and whether accepting was. -/
structure Reach where
  seen : Array Bool
  reads : Array Nat := #[]
  accepted : Bool := false

/-- Follows the steps that read nothing from the steps in `todo`, at position `i` of a text. -/
def Machine.close (m : Machine) (text : Array Char) (i : Nat) : Nat → List Nat → Reach → Reach
  | 0, _, r => r
  | _ + 1, [], r => r
  | fuel + 1, pc :: todo, r =>
    if r.seen[pc]?.getD true then m.close text i fuel todo r
    else
      let r := { r with seen := r.seen.setIfInBounds pc true }
      match m.steps[pc]? with
      | some (.read _ _) => m.close text i fuel todo { r with reads := r.reads.push pc }
      | some (.fork a b) => m.close text i fuel (a :: b :: todo) r
      | some (.check a next) =>
        if a.holds text i then m.close text i fuel (next :: todo) r else m.close text i fuel todo r
      | some .accept => { r with accepted := true }
      | none => m.close text i fuel todo r

/-- The steps that follow the reading steps `reads` when they read `c`. -/
def Machine.advance (m : Machine) (reads : Array Nat) (c : Char) : List Nat :=
  reads.toList.filterMap fun (pc : Nat) =>
    match m.steps[pc]? with
    | some (.read test next) => if test.accepts c then some next else none
    | _ => none

/-- Whether a match starts at or before position `i` and ends at or after it, given the steps
`pending` that matches started earlier have reached, trying at most `fuel` more positions. -/
def Machine.searchFrom (m : Machine) (text : Array Char) : Nat → Nat → List Nat → Bool
  | 0, _, _ => false
  | fuel + 1, i, pending =>
    let todo := pending ++ [m.start]
    let r := m.close text i (3 * m.steps.size + todo.length + 1) todo
      { seen := Array.replicate m.steps.size false }
    if r.accepted then true
    else
      match text[i]? with
      | none => false
      | some c => m.searchFrom text fuel (i + 1) (m.advance r.reads c)

def Machine.search (m : Machine) (text : String) : Bool :=
  let cs := text.toList.toArray
  m.searchFrom cs (cs.size + 1) 0 []

structure Compiled where
  source : String
  pattern : Pattern
  machine : Machine
deriving Inhabited

/-- Reads a pattern, or gives the message of its first mistake. -/
def Compiled.compile (source : String) : Except String Compiled :=
  match parse source with
  | .ok p => .ok { source, pattern := p, machine := Machine.ofPattern p source.length }
  | .error e => .error e.message

def Compiled.test (r : Compiled) (text : String) : Bool := r.machine.search text

/-- Whether some part of a text matches a pattern, or the message of the pattern's first
mistake. -/
def matchText (source text : String) : Except String Bool :=
  (Compiled.compile source).map fun r => r.test text

end Bindery.Regex
