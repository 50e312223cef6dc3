import KitConsole.Offline
import KitConsole.Remote
import KitConsole.Scripted

/-!
# Backends

* `Backend` — the kit services that a session can run against, each with its state.
* `Backend.serve` — a backend as a service.
-/

namespace KitConsole

inductive Backend
  | offline (store : Offline)
  | remote (remote : Remote) (wire : Wire)
  | scripted (replies : List Scripted.Prepared)

namespace Backend

def serve : Service Backend := fun call backend =>
  match backend with
  | offline store => (Offline.serve call store).mapWorld offline
  | remote r wire => (r.serve call wire).mapWorld (remote r)
  | scripted replies => (Scripted.service call replies).mapWorld scripted

/-- The requests that have gone out. -/
def sent : Backend → List Wire.Request
  | remote _ wire => wire.sent
  | _ => []

end Backend

end KitConsole
