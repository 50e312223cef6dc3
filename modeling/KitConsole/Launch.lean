import KitConsole.Backend
import KitConsole.Session
import KitConsole.Settings

/-!
# Launching sessions

* `Launch` — settings and the backend that has been set up from them, if any.
* `Launch.ensureReady` — sets the backend up once; there is none without a token unless the launch is offline.
* `Launch.begin` — a fresh session over the backend.
-/

namespace KitConsole

structure Launch where
  settings : Settings
  offline : Bool := false
  backend : Option Backend := none

namespace Launch

def record (severity : Log.Severity) (message : String) : Log.Record := ⟨severity, .launch, message⟩

def offlineRecord : Log.Record := record .info "using offline kit gateway"

def remoteRecord (s : Settings) : Log.Record :=
  record .debug ("gateway configured: " ++ (Json.object s.masked).inline)

def transportOf (s : Settings) : Transport :=
  { token := some s.token, timeoutSeconds := s.timeoutSeconds, retries := s.retries }

/-- Whether there is a backend now, with what is logged if it is set up here; `wire` is what a remote one is
connected to and `store` an offline one. -/
def ensureReady (wire : Wire) (store : Offline) (l : Launch) : Turn Launch Bool :=
  if l.backend.isSome then { result := .ok true, world := l }
  else if l.offline then
    { result := .ok true, log := [offlineRecord], world := { l with backend := some (.offline store) } }
  else if l.settings.token = "" then { result := .ok false, world := l }
  else
    match Remote.connect l.settings.baseUrl (transportOf l.settings) with
    | .error f => { result := .error f, world := l }
    | .ok r =>
      { result := .ok true, log := [remoteRecord l.settings], world := { l with backend := some (.remote r wire) } }

/-- A session over the backend, from the start of the plan. -/
def begin (wire : Wire) (store : Offline) (l : Launch) : Turn Launch (Session Backend) :=
  let t := l.ensureReady wire store
  match t.result, t.world.backend with
  | .error f, _ => { t with result := .error f }
  | .ok true, some backend => { t with result := .ok { world := backend } }
  | .ok _, _ => { t with result := .error .noService }

end Launch

end KitConsole
