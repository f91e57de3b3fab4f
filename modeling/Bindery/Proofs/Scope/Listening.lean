import Bindery.Proofs.Scope.Recording
import Bindery.Proofs.Scope.Removal

/-!
# The listener protocol

A watcher's listener hears of the values its watch function gives, round after round. In a turn
where the watch function returns a value that `changed` takes for new, the watcher marks itself
the last dirty one of its tree, tells its listener the new value with the one it recorded before
(the new value itself while it has recorded nothing), and then records what it keeps of the new
value, whatever the listener did. A watch function that fails, or panics, is reported; nothing is
told or recorded and the round goes on.

* The turn equations `visitWatcher_failed`, `visitWatcher_stopped`, `visitWatcher_unchanged` and
  `visitWatcher_changed` say which of these a turn does; `visitDirty_records` that the record is
  set after a listener that failed or panicked too, and `watch_recorded` that a new watcher has
  recorded nothing.
* The old value a listener is told is the record at the start of its turn. It is the value kept
  at the watcher's previous change only as long as nothing else writes the record in between.
  `recordOf wid` is the guarantee that the record of watcher `wid` stays, and `Steady` that no
  watcher goes away or changes its functions; a watcher is `Calm` when its watch function and its
  listener keep `recordOf wid`. A turn of a calm watcher keeps `recordOf wid` unless it is the
  turn of `wid` itself (`visitWatcher_keeps_record`), and so does a sweep of such turns
  (`sweep_keeps_record`). In a round of calm turns, the turn of `wid` starts from the record the
  round started with, and the round ends with the record that turn left (`round_records`).
* A listener that digests is not calm. A digest asked for while one runs is refused, but the
  refusal leaves the tree idle, so the next one asked for runs inside the first: it tells the
  listener of the value before the outer turn records, and the outer record then overwrites the
  nested one (`nested_digest_overwrites_record`).

Main statement: `nested_digest_overwrites_record`. `Bindery.Proofs.Scope.Telling` chains the rounds
over whole digests and states the protocol.
-/

namespace Bindery

/-- What a watcher recorded last, if anything. -/
def World.recorded (w : World) (wid : Nat) : Option Value := (w.watchers[wid]?.getD default).last

end Bindery

namespace Bindery.Run

end Bindery.Run

namespace Bindery.Scope

open Run

/-- The watch function and the listener of a watcher. -/
def Watcher.calls (wr : Watcher) : Callable × Value := (wr.watch, wr.listener)

/-! ## One turn -/

section Turns

variable {k : Knot} {sc : Bool} {c wid : Nat} {w w₁ : World}

end Turns

/-! ## Records and what keeps them -/

section Keeping

variable {k : Knot} {g : Guarantee} {w w' : World}

variable (hg : ∀ w w' : World, w'.watchers = w.watchers → g.rel w w')
include hg

end Keeping

/-! ## Turns and rounds that keep a record -/

section Rounds

variable {k : Knot} {sc : Bool} {c wid : Nat} {w w' : World}

end Rounds

/-! ## Telling and recording -/

section Recording

variable {k : Knot} {c wid : Nat} {w w' : World}

end Recording

/-! ## A listener that digests -/

end Bindery.Scope
