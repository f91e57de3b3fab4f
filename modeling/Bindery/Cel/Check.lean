import Bindery.Cel.Types
import Bindery.Cel.Diagnostic

/-!
# Checking terms of the typed expression language

The checker gives every term a type and reports what cannot be typed: identifiers and
functions nobody declared, calls no overload accepts, selections on types without fields,
ranges that cannot be iterated, and steps of a comprehension that do not keep the
accumulator's type. It returns the term with qualified names resolved: a chain of selections
`a.b.c` that spells a declared name becomes that identifier.

The declared names are the variables of the environment (all of type `dyn`), the standard type
identifiers, and, inside a comprehension, its variable and its accumulator. An identifier with a
leading dot names the same thing without it.

Overload resolution instantiates each overload's type variables with fresh ones and keeps the
bindings of the overloads that accept the arguments; the first accepted overload gives the
result type, and a later one with another result makes it `dyn`. The logical operators only
require their operands to be booleans, and report each operand that is not.
-/

namespace Bindery.Cel

/-- What the checker may refer to: the environment's variables and whether the helper
function `call` is declared. -/
structure Declarations where
  vars : List String
  helpers : Bool

/-- The state of the checker: the type variable bindings, the number of fresh variables made,
and the issues found. -/
structure CheckState where
  bindings : Bindings := []
  nextVar : Nat := 0
  issues : Array Issue := #[]

abbrev CheckM := StateM CheckState

def reportIssue (offset : Nat) (message : String) : CheckM Unit :=
  modify fun s => { s with issues := s.issues.push ⟨some offset, message⟩ }

def undeclaredMessage (name : String) : String :=
  "undeclared reference to '" ++ name ++ "' (in container '')"

def freshVar : CheckM CType :=
  modifyGet fun s => (.param ("_var" ++ Decimal.natText s.nextVar), { s with nextVar := s.nextVar + 1 })

/-- Whether a value of the first type may stand where the second is expected, keeping the
extended bindings when it may. -/
def isAssignable (t1 t2 : CType) : CheckM Bool := do
  match assignable (← get).bindings t1 t2 with
  | some m => modify (fun s => { s with bindings := m }); pure true
  | none => pure false

/-- Whether each of the types may stand for the one at its place, keeping the bindings when
all may. -/
def isAssignableList (ts us : List CType) : CheckM Bool := do
  match assignableList (← get).bindings ts us with
  | some m => modify (fun s => { s with bindings := m }); pure true
  | none => pure false

def substituted (t : CType) : CheckM CType := do pure (t.subst (← get).bindings)

/-- The type of a name: the innermost comprehension variable, an environment variable, or a
standard type identifier; a leading dot is dropped. -/
def lookupIdent (decls : Declarations) (locals : List (String × CType)) (name : String) :
    Option (String × CType) :=
  let name := match name.toList with
    | '.' :: rest => String.ofList rest
    | _ => name
  match locals.find? (·.1 == name) with
  | some (_, t) => some (name, t)
  | none =>
    if decls.vars.contains name then some (name, .dyn)
    else (typeIdentifier name).map fun t => (name, .type (some t))

def lookupFunction (decls : Declarations) (name : String) : Option FunctionDecl :=
  if decls.helpers && name == helperFunction.name then some helperFunction
  else standardFunctions.find? (·.name == name)

/-- The dotted name a chain of selections spells, if it is one. -/
def qualifiedName : Term → Option String
  | .ident name _ => some name
  | .select operand field false _ => (qualifiedName operand).map (· ++ "." ++ field)
  | _ => none

def instantiate (o : Overload) : CheckM Overload := do
  let names := o.typeParams
  if names.isEmpty then return o
  let mut fresh : Bindings := []
  for n in names do
    fresh := fresh ++ [(n, ← freshVar)]
  pure { o with params := o.params.map (CType.subst fresh), result := o.result.subst fresh }

/-- How argument types are shown when no overload matches: `(a, b)`, or `r.(a, b)` for a
method call. -/
def signatureText (types : List CType) (member : Bool) : String :=
  let shown (ts : List CType) := "(" ++ ", ".intercalate (ts.map CType.text) ++ ")"
  match member, types with
  | true, r :: rest => r.text ++ "." ++ shown rest
  | _, ts => shown ts

def reportMismatch (offset : Nat) (expected found : CType) : CheckM Unit :=
  reportIssue offset ("expected type '" ++ expected.text ++ "' but found '" ++ found.text ++ "'")

/-- The result type of a call, or the error type after reporting why no overload fits. -/
def resolveCall (decl : FunctionDecl) (target : Option CType) (args : List (Term × CType))
    (pos : Nat) : CheckM CType := do
  if decl.name == "_&&_" || decl.name == "_||_" then
    let mut failed := false
    for (a, t) in args do
      if !(← isAssignable t .bool) then
        reportMismatch a.pos .bool t
        failed := true
    return if failed then .error else .bool
  let argTypes := target.toList ++ args.map (·.2)
  let mut result : Option CType := none
  for o in decl.overloads do
    if o.member != target.isSome then continue
    let o ← instantiate o
    if ← isAssignableList argTypes o.params then
      let r ← substituted o.result
      result := match result with
        | none => some r
        | some prev => if prev == .dyn || r == prev then some prev else some .dyn
  match result with
  | some r => pure r
  | none =>
    let m := (← get).bindings
    let shown := argTypes.map (CType.substDyn m)
    reportIssue pos ("found no matching overload for '" ++ decl.name ++ "' applied to '" ++
      signatureText shown target.isSome ++ "'")
    pure .error

def assertType (term : Term) (expected found : CType) : CheckM Unit := do
  if !(← isAssignable expected found) then reportMismatch term.pos expected found

/-- The join of the element types of a literal so far with the next one: the more general when
they fit, `dyn` otherwise. -/
def joinTypes (previous : Option CType) (current : CType) : CheckM CType := do
  match previous with
  | none => pure current
  | some p => if ← isAssignable p current then pure (mostGeneral p current) else pure .dyn

def Literal.type : Literal → CType
  | .null => .null
  | .bool _ => .bool
  | .int _ => .int
  | .uint _ => .uint
  | .double _ => .double
  | .str _ => .string
  | .bytes _ => .bytes

mutual

/-- Checks a term under the comprehension variables in scope: the term with names resolved, and
its type. -/
def checkTerm (decls : Declarations) : Nat → List (String × CType) → Term → CheckM (Term × CType)
  | 0, _, t => pure (t, .error)
  | fuel + 1, locals, term =>
    match term with
    | .lit v _ => pure (term, v.type)
    | .invalid _ => pure (term, .error)
    | .ident name pos =>
      match lookupIdent decls locals name with
      | some (n, t) => pure (.ident n pos, t)
      | none => do
        reportIssue pos (undeclaredMessage name)
        pure (term, .error)
    | .select operand field test pos => do
      let resolved := if test then none else
        (qualifiedName operand).bind fun q => lookupIdent decls locals (q ++ "." ++ field)
      match resolved with
      | some (n, t) => pure (.ident n pos, t)
      | none =>
        let (o, ot) ← checkTerm decls fuel locals operand
        let ot ← substituted ot
        let rt ← match ot with
          | .map _ v => pure v
          | .param _ => do let _ ← isAssignable .dyn ot; pure .dyn
          | .dyn | .error => pure .dyn
          | other => do
            reportIssue pos ("type '" ++ other.text ++ "' does not support field selection")
            pure .dyn
        let rt := if test then .bool else rt
        pure (.select o field test pos, ← substituted rt)
    | .call fn target args pos => do
      let args ← checkAll decls fuel locals args
      match target with
      | none =>
        match lookupFunction decls fn with
        | none => do
          reportIssue pos (undeclaredMessage fn)
          pure (.call fn none (args.map (·.1)) pos, .error)
        | some decl =>
          let r ← resolveCall decl none args pos
          pure (.call fn none (args.map (·.1)) pos, r)
      | some tgt =>
        let (t, tt) ← checkTerm decls fuel locals tgt
        match lookupFunction decls fn with
        | none => do
          reportIssue pos (undeclaredMessage fn)
          pure (.call fn (some t) (args.map (·.1)) pos, .error)
        | some decl =>
          let r ← resolveCall decl (some tt) args pos
          pure (.call fn (some t) (args.map (·.1)) pos, r)
    | .list items pos => do
      let items ← checkAll decls fuel locals items
      let mut elem : Option CType := none
      for (_, t) in items do
        elem := some (← joinTypes elem t)
      let e ← match elem with
        | some e => pure e
        | none => freshVar
      pure (.list (items.map (·.1)) pos, .list e)
    | .map entries pos => do
      let entries ← checkEntries decls fuel locals entries
      let mut keyType : Option CType := none
      let mut valueType : Option CType := none
      for ((_, kt), (_, vt)) in entries do
        keyType := some (← joinTypes keyType kt)
        valueType := some (← joinTypes valueType vt)
      let kt ← match keyType with
        | some k => pure k
        | none => freshVar
      let vt ← match valueType with
        | some v => pure v
        | none => freshVar
      pure (.map (entries.map fun ((k, _), (v, _)) => (k, v)) pos, .map kt vt)
    | .message name fields pos =>
      match lookupIdent decls locals name with
      | none => do
        reportIssue pos (undeclaredMessage name)
        pure (term, .error)
      | some (resolvedName, t) => do
        match t with
        | .error => pure ()
        | .type (some inner) =>
          reportIssue pos ("'" ++ inner.declaredName ++ "' is not a message type")
        | .type none => reportIssue pos "'type' is not a message type"
        | other => reportIssue pos ("'" ++ other.declaredName ++ "' is not a type")
        let values ← checkAll decls fuel locals (fields.map fun (_, _, v) => v)
        for (_, colon, _) in fields do
          reportIssue colon ("unexpected failed resolution of '" ++ resolvedName ++ "'")
        let fields := (fields.zip values).map fun ((f, c, _), (v, _)) => (f, c, v)
        pure (.message resolvedName fields pos, .error)
    | .comprehension v range accu init cond step result pos => do
      let (r, rt) ← checkTerm decls fuel locals range
      let (i, it) ← checkTerm decls fuel locals init
      let rt ← substituted rt
      let accuLocals := (accu, it) :: locals
      let vt ← match rt with
        | .list e => pure e
        | .map k _ => pure k
        | .dyn | .error | .param _ => do let _ ← isAssignable .dyn rt; pure .dyn
        | other => do
          reportIssue range.pos ("expression of type '" ++ other.text ++
            "' cannot be range of a comprehension (must be list, map, or dynamic)")
          pure .error
      let loopLocals := (v, vt) :: accuLocals
      let (c, ct) ← checkTerm decls fuel loopLocals cond
      assertType c .bool ct
      let (s, st) ← checkTerm decls fuel loopLocals step
      assertType s it st
      let (res, rest) ← checkTerm decls fuel accuLocals result
      pure (.comprehension v r accu i c s res pos, ← substituted rest)

def checkAll (decls : Declarations) : Nat → List (String × CType) → List Term →
    CheckM (List (Term × CType))
  | 0, _, ts => pure (ts.map fun t => (t, .error))
  | _, _, [] => pure []
  | fuel + 1, locals, t :: rest => do
    let first ← checkTerm decls fuel locals t
    pure (first :: (← checkAll decls fuel locals rest))

/-- Checks the entries of a map literal in order, each key before its value. -/
def checkEntries (decls : Declarations) : Nat → List (String × CType) → List (Term × Term) →
    CheckM (List ((Term × CType) × (Term × CType)))
  | 0, _, es => pure (es.map fun (k, v) => ((k, .error), (v, .error)))
  | _, _, [] => pure []
  | fuel + 1, locals, (k, v) :: rest => do
    let k ← checkTerm decls fuel locals k
    let v ← checkTerm decls fuel locals v
    pure ((k, v) :: (← checkEntries decls fuel locals rest))

end

/-- The fuel the checker runs with for a source: more than the depth of any term parsed from
it. -/
def checkFuel (source : String) : Nat := 8 * source.length + 64

/-- Checks a parsed term against the declarations: the term with names resolved, or the issues
found. -/
def check (decls : Declarations) (source : String) (t : Term) : Except (List Issue) Term :=
  let ((t, _), s) := (checkTerm decls (checkFuel source) [] t).run {}
  if s.issues.isEmpty then .ok t else .error s.issues.toList

end Bindery.Cel
