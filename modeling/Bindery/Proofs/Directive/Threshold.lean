import Bindery.Directive.Compiler
import Bindery.Proofs.Run.Keeps

/-!
# Terminal thresholds

The matches of a node are compiled in the order they come, against a threshold: none at first,
then the priority of the last terminal match compiled. A match whose priority is below the
threshold is skipped. A terminal match is compiled only when it is not below the threshold, so
moving the threshold to its priority never lowers it.

`compiledMatches` is that rule on a list, stated match by match in `compiledMatches_append_singleton`,
and `compileEach` compiles a list in order until a compile step fails. Applying matches to a node
is the second run over the first (`applyDirectives_eq`): the flag it returns says whether a
compiled match is terminal, and a failure comes back with the flag as it stood before it. On a
list ordered by priority the rule keeps the matches at or above the first terminal one
(`compiledMatches_of_byPriority`), whatever the list holds after it.

Main statement: `directives_apply_above_threshold`.
-/

namespace Bindery.Directive

open Run

/-! ## The directives a node compiles -/

/-- The priority of the first terminal match of a list. -/
def terminalPriority? (ms : List Match) : Option Int :=
  (ms.find? (·.descriptor.terminal)).map (·.descriptor.priority)

/-- The matches a node compiles, in order: those at or above the priority of the first terminal
match, all of them when none is terminal. -/
def selectMatches (ms : List Match) : List Match :=
  ms.filter fun m => (terminalPriority? ms).all (· ≤ m.descriptor.priority)

/-- Whether some match of a list is terminal. -/
def hasTerminal (ms : List Match) : Bool := ms.any (·.descriptor.terminal)

/-- Compiles one match on a node: a group match compiles the siblings its start attribute opens,
any other match the node alone. A failure is wrapped with the directive's name. -/
def compileMatch (node : Nat) (m : Match) : Run Unit := do
  let forest := (← get).nodes
  let nodes := if m.grouped then Markup.groupScan forest node m.start m.finish else [node]
  match ← Run.attempt (runStep m.descriptor.compile nodes) with
  | .ok _ => pure ()
  | .error e => Run.fail (.within ("compile: directive " ++ Text.quoted m.descriptor.name ++ ": ") e)

/-- Matches ordered by priority, highest first. -/
def ByPriority (ms : List Match) : Prop :=
  ms.Pairwise fun a b => b.descriptor.priority ≤ a.descriptor.priority

theorem terminalPriority?_cons (m : Match) (ms : List Match) :
    terminalPriority? (m :: ms) =
      if m.descriptor.terminal then some m.descriptor.priority else terminalPriority? ms := by
  unfold terminalPriority?
  cases h : m.descriptor.terminal <;> simp [h]

theorem exists_of_terminalPriority? {ms : List Match} {t : Int} (h : terminalPriority? ms = some t) :
    ∃ m ∈ ms, m.descriptor.priority = t := by
  unfold terminalPriority? at h
  obtain ⟨m, hm, rfl⟩ := Option.map_eq_some_iff.mp h
  exact ⟨m, List.mem_of_find?_eq_some hm, rfl⟩

@[simp] theorem hasTerminal_nil : hasTerminal [] = false := rfl

@[simp] theorem hasTerminal_cons (m : Match) (ms : List Match) :
    hasTerminal (m :: ms) = (m.descriptor.terminal || hasTerminal ms) := rfl

/-! ## The threshold rule -/

/-- The priority of the last terminal match of a list. -/
def lastTerminal? (ms : List Match) : Option Int :=
  (ms.reverse.find? (·.descriptor.terminal)).map (·.descriptor.priority)

/-- The matches compiled from a list under a threshold, in order: a match whose priority is not
below the threshold is compiled, and a compiled terminal match moves the threshold to its
priority. -/
def compiledFrom : Option Int → List Match → List Match
  | _, [] => []
  | threshold, m :: ms =>
    if threshold.all (m.descriptor.priority ≥ ·) then
      m :: compiledFrom (if m.descriptor.terminal then some m.descriptor.priority else threshold) ms
    else compiledFrom threshold ms

/-- The matches compiled from a list: from no threshold at all. -/
def compiledMatches (ms : List Match) : List Match := compiledFrom none ms

/-- Compiles matches on a node in order until one fails: the matches compiled, and the failure
that ended the run. -/
def compileEach (node : Nat) : List Match → Run (List Match × Option Fault)
  | [] => pure ([], none)
  | m :: ms => do
    match ← compileOn node m with
    | some e => pure ([], some e)
    | none =>
      let (done, failure) ← compileEach node ms
      pure (m :: done, failure)

theorem lastTerminal?_cons (m : Match) (ms : List Match) :
    lastTerminal? (m :: ms) =
      (lastTerminal? ms).or (if m.descriptor.terminal then some m.descriptor.priority else none) := by
  unfold lastTerminal?
  cases h : m.descriptor.terminal <;> simp [List.find?_append, h]

section Rule

variable {threshold : Option Int}

/-- **A match is compiled after those before it** exactly when its priority is not below the
priority of the last terminal match compiled before it, or, when none was, the threshold the
list started from. -/
theorem compiledFrom_append_singleton (threshold : Option Int) (ms : List Match) (m : Match) :
    compiledFrom threshold (ms ++ [m]) = compiledFrom threshold ms ++
      if ((lastTerminal? (compiledFrom threshold ms)).or threshold).all (· ≤ m.descriptor.priority)
      then [m] else [] := by
  induction ms generalizing threshold with
  | nil =>
    rfl
  | cons x ms ih =>
    simp only [List.cons_append, compiledFrom]
    split
    · -- `x` is compiled: the threshold after it is the one the rest starts from
      rw [ih, lastTerminal?_cons, Option.or_assoc]
      cases x.descriptor.terminal <;> rfl
    · exact ih threshold

theorem compiledMatches_append_singleton (ms : List Match) (m : Match) :
    compiledMatches (ms ++ [m]) = compiledMatches ms ++
      if (lastTerminal? (compiledMatches ms)).all (· ≤ m.descriptor.priority) then [m] else [] := by
  rw [compiledMatches, compiledFrom_append_singleton, Option.or_none]
  rfl

/-- Compiling skips matches and never reorders them: the matches compiled are a sublist. -/
theorem compiledFrom_sublist (threshold : Option Int) (ms : List Match) :
    (compiledFrom threshold ms).Sublist ms := by
  induction ms generalizing threshold with
  | nil => exact List.Sublist.slnil
  | cons m ms ih =>
    unfold compiledFrom
    split
    · exact (ih _).cons_cons m
    · exact (ih _).cons m

/-- Every compiled match is at or above the threshold the list started from. -/
theorem threshold_le_of_mem_compiledFrom {ms : List Match} {b : Match}
    (hb : b ∈ compiledFrom threshold ms) : threshold.all (· ≤ b.descriptor.priority) := by
  induction ms generalizing threshold with
  | nil => simp [compiledFrom] at hb
  | cons x ms ih =>
    unfold compiledFrom at hb
    split at hb
    · next hx =>
      rcases List.mem_cons.mp hb with rfl | hb
      · exact hx
      · -- past a terminal `x`, the rest starts from its priority, itself above the threshold
        have hrest := ih hb
        cases hterm : x.descriptor.terminal
        · simpa [hterm] using hrest
        · simp only [hterm, if_true, Option.all_some, decide_eq_true_eq] at hrest
          cases threshold with
          | none => rfl
          | some t =>
            simp only [Option.all_some, decide_eq_true_eq, ge_iff_le] at hx ⊢
            omega
    · exact ih hb

/-- **The threshold never drops**: every match compiled after a terminal one has at least its
priority. -/
theorem compiledFrom_pairwise (threshold : Option Int) (ms : List Match) :
    (compiledFrom threshold ms).Pairwise fun a b =>
      a.descriptor.terminal → a.descriptor.priority ≤ b.descriptor.priority := by
  induction ms generalizing threshold with
  | nil => exact .nil
  | cons x ms ih =>
    unfold compiledFrom
    split
    · refine .cons (fun b hb hterm => ?_) (ih _)
      have := threshold_le_of_mem_compiledFrom hb
      simpa [hterm] using this
    · exact ih threshold

/-- Once a terminal match of the highest remaining priority sets the threshold, the matches at
that priority are compiled and no other. -/
theorem compiledFrom_above (p : Int) (ms : List Match) (hms : ∀ m ∈ ms, m.descriptor.priority ≤ p) :
    compiledFrom (some p) ms = ms.filter fun m => p ≤ m.descriptor.priority := by
  induction ms with
  | nil => rfl
  | cons x ms ih =>
    have ih := ih fun y hy => hms y (List.mem_cons_of_mem _ hy)
    by_cases hx : p ≤ x.descriptor.priority
    · -- `x` is at the threshold; if it is terminal it sets the same threshold again
      have heq : x.descriptor.priority = p := Int.le_antisymm (hms x List.mem_cons_self) hx
      have hnext : (if x.descriptor.terminal then some x.descriptor.priority else some p) = some p := by
        split <;> simp [heq]
      simp [compiledFrom, hx, hnext, ih]
    · simp [compiledFrom, hx, ih]

/-- **On matches ordered by priority**, the rule compiles those at or above the priority of the
first terminal match, all of them when none is terminal. -/
theorem compiledMatches_of_byPriority (ms : List Match) (hs : ByPriority ms) :
    compiledMatches ms = selectMatches ms := by
  induction ms with
  | nil => rfl
  | cons m ms ih =>
    obtain ⟨hbelow, hs⟩ := List.pairwise_cons.mp hs
    simp only [compiledMatches, compiledFrom, Option.all_none, if_true]
    cases ht : m.descriptor.terminal with
    | true =>
      -- the first terminal match sets the threshold to its own priority
      simp [selectMatches, terminalPriority?_cons, ht, compiledFrom_above _ ms hbelow]
    | false =>
      -- a match before the first terminal one is compiled and leaves no threshold
      have hpass : (terminalPriority? ms).all (· ≤ m.descriptor.priority) = true := by
        cases hp : terminalPriority? ms with
        | none => rfl
        | some t =>
          obtain ⟨x, hx, rfl⟩ := exists_of_terminalPriority? hp
          simpa using hbelow x hx
      have hsel : selectMatches (m :: ms) = m :: selectMatches ms := by
        simp [selectMatches, terminalPriority?_cons, ht, hpass]
      rw [hsel, ← ih hs]
      rfl

/-- Before any terminal match every match is compiled, so a list has a terminal match compiled
exactly when it has one at all. -/
theorem hasTerminal_compiledMatches (ms : List Match) :
    hasTerminal (compiledMatches ms) = hasTerminal ms := by
  induction ms with
  | nil => rfl
  | cons m ms ih =>
    simp only [compiledMatches, compiledFrom, Option.all_none, if_true]
    cases ht : m.descriptor.terminal with
    | true => simp [ht]
    | false => simpa [ht, compiledMatches] using ih

end Rule

/-! ## Applying matches -/

section Apply

variable {node : Nat}

/-- Applying matches from a threshold and a flag compiles, until one fails, the matches the
threshold rule selects; the flag then says whether one of those compiled is terminal. -/
theorem applyFrom_eq (threshold : Option Int) (terminal : Bool) (ms : List Match) :
    applyFrom node threshold terminal ms =
      (fun r => (terminal || hasTerminal r.1, r.2)) <$> compileEach node (compiledFrom threshold ms) := by
  induction ms generalizing threshold terminal with
  | nil => simp [applyFrom, compiledFrom, compileEach]
  | cons m ms ih =>
    unfold applyFrom compiledFrom
    split
    · rw [compileEach, map_eq_pure_bind, bind_assoc]
      refine congrArg (compileOn node m >>= ·) (funext fun r => ?_)
      cases r with
      | some e => simp
      | none =>
        -- a compiled terminal match raises the threshold and sets the flag
        cases ht : m.descriptor.terminal <;> simp [ih, ht]
    · exact ih threshold terminal

/-- **Applying matches to a node** compiles, in order and until one fails, the matches the
threshold rule selects; it returns whether a compiled match is terminal, with the failure. -/
theorem applyDirectives_eq (ms : List Match) :
    applyDirectives ms node =
      (fun r => (hasTerminal r.1, r.2)) <$> compileEach node (compiledMatches ms) := by
  rw [applyDirectives, applyFrom_eq]
  rfl

theorem compileMatch_eq (m : Match) :
    compileMatch node m = compileOn node m >>= fun r => match r with
      | some e => Run.fail e
      | none => pure () := by
  unfold compileMatch compileOn
  simp only [bind_assoc]
  refine congrArg (get >>= ·) (funext fun _ => congrArg (Run.attempt _ >>= ·) (funext fun r => ?_))
  cases r <;> rfl

/-- Compiling until a failure and then failing with it is compiling each match in turn, where a
failure stops the run. -/
theorem compileEach_bind_fail (l : List Match) (g : List Match → Run β) :
    (compileEach node l >>= fun r => match r.2 with
      | some e => Run.fail e
      | none => g r.1) = (forM l (compileMatch node) >>= fun _ => g l) := by
  induction l generalizing g with
  | nil => rfl
  | cons m l ih =>
    rw [compileEach, List.forM_cons, compileMatch_eq, bind_assoc, bind_assoc, bind_assoc]
    refine congrArg (compileOn node m >>= ·) (funext fun r => ?_)
    cases r with
    | some e => rfl
    | none =>
      simp only [pure_bind, bind_assoc]
      exact ih fun done => g (m :: done)

theorem keeps_applyFrom {g : Guarantee} (hc : ∀ m, Keeps g (compileOn node m))
    (threshold : Option Int) (terminal : Bool) (ms : List Match) :
    Keeps g (applyFrom node threshold terminal ms) := by
  induction ms generalizing threshold terminal with
  | nil => exact .pure' _
  | cons m ms ih =>
    unfold applyFrom
    refine .ite' (.bind (hc m) fun r => ?_) (ih _ _)
    cases r with
    | some e => exact .pure' _
    | none => exact .ite' (ih _ _) (ih _ _)

end Apply

/-- **The matches a node compiles.** On matches ordered by priority, `applyMatches` compiles, in
order, the matches at or above the priority of the first terminal match (all of them when none
is terminal), and reports whether some match is terminal. -/
theorem applyMatches_eq (ms : List Match) (node : Nat) (hs : ByPriority ms) :
    applyMatches ms node =
      forM (selectMatches ms) (compileMatch node) >>= fun _ => pure (hasTerminal ms) := by
  unfold applyMatches
  rw [applyDirectives_eq, map_eq_pure_bind, bind_assoc]
  simp only [pure_bind]
  refine (compileEach_bind_fail (compiledMatches ms) fun done => pure (hasTerminal done)).trans ?_
  rw [hasTerminal_compiledMatches, compiledMatches_of_byPriority ms hs]

/-! ## Applying matches above the threshold -/

/-- How a list of matches, ordered or not, is applied to a node. The matches compiled are those
of the threshold rule, in list order, each with the nodes `compileOn` gives it (the node, or the
siblings of its group), until one fails; the result says whether a compiled match is terminal and
carries the failure, which was wrapped with its directive's name, with the flag as it stood
before it. Match by match, the rule compiles a match exactly when its priority is not below the
priority of the last terminal match compiled before it (every match while none was). So the
threshold never drops; and on matches ordered by priority the rule keeps those at or above the
priority of the first terminal match. -/
structure AppliesAboveThreshold (ms : List Match) (node : Nat) : Prop where
  runs : applyDirectives ms node =
    (fun r => (hasTerminal r.1, r.2)) <$> compileEach node (compiledMatches ms)
  in_order : ∀ ms' : List Match, (compiledMatches ms').Sublist ms'
  rule : ∀ (pre : List Match) (m : Match), compiledMatches (pre ++ [m]) = compiledMatches pre ++
    if (lastTerminal? (compiledMatches pre)).all (· ≤ m.descriptor.priority) then [m] else []
  rising : (compiledMatches ms).Pairwise fun a b =>
    a.descriptor.terminal → a.descriptor.priority ≤ b.descriptor.priority
  ordered : ByPriority ms → compiledMatches ms = selectMatches ms

theorem directives_apply_above_threshold (ms : List Match) (node : Nat) :
    AppliesAboveThreshold ms node where
  runs := applyDirectives_eq ms
  in_order ms' := compiledFrom_sublist none ms'
  rule := compiledMatches_append_singleton
  rising := compiledFrom_pairwise none ms
  ordered := compiledMatches_of_byPriority ms

/-- A match on elements, by its priority and whether it is terminal. -/
def rankedMatch (priority : Int) (terminal : Bool) : Match :=
  { descriptor :=
      { name := "d", restrict := .onElement, priority := priority, terminal := terminal,
        multiElement := false, index := 0, compile := .none } }

/-- Of matches ordered by priority, a terminal one at 2 keeps those at 2 and drops the one at 1. -/
theorem terminal_drops_lower :
    ByPriority [rankedMatch 2 false, rankedMatch 2 true, rankedMatch 1 false] ∧
    compiledMatches [rankedMatch 2 false, rankedMatch 2 true, rankedMatch 1 false] =
      selectMatches [rankedMatch 2 false, rankedMatch 2 true, rankedMatch 1 false] :=
  have hordered : ByPriority [rankedMatch 2 false, rankedMatch 2 true, rankedMatch 1 false] := by
    simp [ByPriority, rankedMatch]
  ⟨hordered, (directives_apply_above_threshold _ 0).ordered hordered⟩

end Bindery.Directive
