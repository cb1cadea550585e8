/-!
# Power: the pending request

One slot holds the power request that nobody has acted on yet. A pending shutdown is never replaced
by a reboot; taking the request empties the slot. Model of `PowerLatch`.
-/

namespace ModalConsole

/-- What the machine can be asked to do. -/
inductive PowerAction where
  /-- Start a fresh session. -/
  | reboot
  /-- End the last session. -/
  | shutdown
  deriving DecidableEq, Repr

/-- The slot for the pending request. -/
structure PowerLatch where
  pending : Option PowerAction := none
  deriving DecidableEq, Repr

namespace PowerLatch

/-- Records a request. -/
def request (latch : PowerLatch) (action : PowerAction) : PowerLatch :=
  if latch.pending = some .shutdown then latch else ⟨some action⟩

/-- Records a request, if there is one. -/
def note (latch : PowerLatch) : Option PowerAction → PowerLatch
  | none => latch
  | some action => latch.request action

/-- The pending request, and the latch without it. -/
def take (latch : PowerLatch) : Option PowerAction × PowerLatch := (latch.pending, ⟨none⟩)

end PowerLatch

end ModalConsole
