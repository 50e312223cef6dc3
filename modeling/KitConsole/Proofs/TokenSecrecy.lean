import KitConsole.Console
import KitConsole.Launch
import KitConsole.Proofs.Mirror
import KitConsole.Proofs.RemoteCall

/-!
# The token shows in its header only

* `Request.withToken`, `Wire.withToken`, `Remote.withToken` — requests, a wire and a service with another token.
* `Remote.serve_withToken` — with another token a service sends the same requests but for the token, and answers and
  logs the same.
* `Launch.attend`, `Launch.Account` — a launched session with a user, and all that comes of it.
* `attend_token_unseen` — two launches that differ in the token alone come to the same, but for the token in the
  requests.
-/

namespace KitConsole

open Wire

namespace Wire

def Request.withToken (t : String) (r : Request) : Request := { r with token := some t }

/-- The wire on which every request went out with the token `t`. -/
def withToken (t : String) (wire : Wire) : Wire := { wire with sent := wire.sent.map (·.withToken t) }

theorem send_withToken (t : String) (r : Request) (wire : Wire) :
    (wire.withToken t).send (r.withToken t) = (wire.send r).map id (withToken t) := by
  simp [send, withToken]

end Wire

/-! ## requests and replies -/

namespace Transport

def Exchange.withToken (t : String) (e : Exchange) : Exchange := { e with wire := e.wire.withToken t }

theorem attempts_withToken (t : String) (r : Request) (attempt left : Nat) (wire : Wire) :
    attempts (r.withToken t) attempt left (wire.withToken t) = (attempts r attempt left wire).withToken t := by
  induction left generalizing attempt wire with
  | zero =>
    rw [attempts, attempts, send_withToken]
    rcases wire.send r with ⟨x | x | x, w⟩ <;> rfl
  | succ left ih =>
    rw [attempts, attempts, send_withToken]
    rcases wire.send r with ⟨x | f | x, w⟩
    · rfl
    · have hmethod : (r.withToken t).method = r.method := rfl
      simp only [Prod.map, id, hmethod]
      -- no failure and no record of one names the token
      cases isResent r.method f.cause with
      | true => exact congrArg (fun e : Exchange => { e with log := retryRecord r attempt f :: e.log }) (ih _ w)
      | false => rfl
    · rfl

def withToken (t : String) (tr : Transport) : Transport := { tr with token := some t }

theorem request_withToken {t : String} (ht : t ≠ "") (tr : Transport) (method : Method) (url : String)
    (timeout : Option Int) (form : Entries String) :
    (tr.withToken t).request method url timeout form = (tr.request method url timeout form).withToken t := by
  simp [request, withToken, Request.withToken, ht]

end Transport

namespace Remote

def withToken (t : String) (remote : Remote) : Remote := { remote with transport := remote.transport.withToken t }

theorem requestFor_withToken {t : String} (ht : t ≠ "") (remote : Remote) (call : Call) :
    (remote.withToken t).requestFor call = (remote.requestFor call).map (·.withToken t) := by
  have hurl : (remote.withToken t).urlOf call = remote.urlOf call := rfl
  have htransport : (remote.withToken t).transport = remote.transport.withToken t := rfl
  simp only [requestFor, hurl, htransport]
  cases remote.urlOf call with
  | error f => rfl
  | ok url => exact congrArg Except.ok (Transport.request_withToken ht _ _ _ _ _)

/-- **A service with another token answers and logs the same**, and sends the same requests but for the token. -/
theorem serve_withToken {t : String} (ht : t ≠ "") (remote : Remote) (call : Call) (wire : Wire) :
    (remote.withToken t).serve call (wire.withToken t) = (remote.serve call wire).mapWorld (Wire.withToken t) := by
  rw [serve_eq, serve_eq, requestFor_withToken ht]
  cases remote.requestFor call with
  | error f => rfl
  | ok r =>
    have hexchange : (remote.withToken t).transport.exchange (r.withToken t) (wire.withToken t) =
        (remote.transport.exchange r wire).withToken t := Transport.attempts_withToken t r 1 _ wire
    simp only [Except.map]
    rw [hexchange]
    rfl

end Remote

/-! ## launches -/

namespace Launch

/-- All that comes of a launched session: whether the launch was ready, how the session ended, what was logged, what
went on between session, service and user, where the user was left, and what was sent. -/
structure Account (σ : Type) where
  ready : Except Fault Bool
  exit : Except Fault Session.Exit
  log : List Log.Record
  events : List Event := []
  user : σ
  sent : List Request := []

variable {σ : Type}

/-- The backend is set up, a session is begun over it, and conducted with the user at `u` for at most `n` operations
after the leading authentications. -/
def attend (u : Surface σ) (n : Nat) (wire : Wire) (store : Offline) (user : σ) (l : Launch) : Account σ :=
  let t := l.ensureReady wire store
  let b := t.world.begin wire store
  match b.result with
  | .error f => { ready := t.result, exit := .error f, log := t.log ++ b.log, user }
  | .ok s =>
    let (exit, s) := Session.conduct (.of Backend.serve u) n (s.mapWorld (·, user))
    { ready := t.result, exit := .ok exit, log := t.log ++ b.log ++ s.log, events := s.events, user := s.world.2,
      sent := s.world.1.sent }

/-- The service that a launch without a token would be connected to. -/
def tokenless (settings : Settings) : Remote := ⟨settings.baseUrl, { transportOf settings with token := none }⟩

theorem masked_withToken {t t' : String} (ht : t ≠ "") (ht' : t' ≠ "") (settings : Settings) :
    ({ settings with token := t } : Settings).masked = ({ settings with token := t' } : Settings).masked := by
  simp [Settings.masked, Settings.mask, ht, ht']

theorem mirrors_withToken {t : String} (ht : t ≠ "") (remote : Remote) (u : Surface σ) :
    Counterpart.Mirrors (fun w : Wire × σ => (Backend.remote (remote.withToken t) (w.1.withToken t), w.2))
      (.of remote.serve u) (.of Backend.serve u) := by
  have hserve : ∀ call wire, Backend.serve call (.remote (remote.withToken t) (wire.withToken t)) =
      (remote.serve call wire).mapWorld fun wire => .remote (remote.withToken t) (wire.withToken t) := by
    intro call wire
    show ((remote.withToken t).serve call (wire.withToken t)).mapWorld _ = _
    rw [Remote.serve_withToken ht]
    rfl
  exact .service u hserve

/-- Once there is a backend, a session over it is begun at once. -/
theorem begin_of_backend {l : Launch} {b : Backend} (h : l.backend = some b) (wire : Wire) (store : Offline) :
    l.begin wire store = { result := .ok { world := b }, world := l } := by
  simp [begin, ensureReady, h]

/-- A launch with the token `t` comes to what a session without any token comes to, but for the token in the requests.
-/
theorem attend_of_token {t : String} (ht : t ≠ "") (settings : Settings) (hurl : settings.baseUrl ≠ "")
    (outcome : Nat → Outcome) (store : Offline) (u : Surface σ) (user : σ) (n : Nat) :
    attend u n { outcome } store user { settings := { settings with token := t } } =
      let r := Session.conduct (.of (tokenless settings).serve u) n { world := ({ outcome }, user) }
      { ready := .ok true
        exit := .ok r.1
        log := remoteRecord { settings with token := t } :: r.2.log
        events := r.2.events
        user := r.2.world.2
        sent := r.2.world.1.sent.map (·.withToken t) } := by
  have hconduct := Session.conduct_mapWorld (mirrors_withToken ht (tokenless settings) u) n
    { world := ({ outcome }, user) }
  have hready : ensureReady { outcome } store { settings := { settings with token := t } } =
      { result := .ok true, log := [remoteRecord { settings with token := t }],
        world := { settings := { settings with token := t },
                   backend := some (.remote ((tokenless settings).withToken t) { outcome }) } } := by
    simp [ensureReady, ht, Remote.connect, hurl, transportOf, tokenless, Remote.withToken, Transport.withToken]
  simp only [attend]
  rw [hready, begin_of_backend rfl]
  simp only [Session.mapWorld] at hconduct ⊢
  rw [show ({ outcome } : Wire) = withToken t { outcome } from rfl, hconduct]
  rfl

theorem attend_of_noBaseUrl {t : String} (ht : t ≠ "") (settings : Settings) (hurl : settings.baseUrl = "")
    (wire : Wire) (store : Offline) (u : Surface σ) (user : σ) (n : Nat) :
    attend u n wire store user { settings := { settings with token := t } } =
      { ready := .error .noBaseUrl, exit := .error .noBaseUrl, log := [], user } := by
  simp [attend, begin, ensureReady, ht, Remote.connect, hurl]

/-- The accounts `a` and `a'` of launches with the tokens `t` and `t'` tell the two apart by the token in the requests
only. -/
structure Account.Alike (t t' : String) (a a' : Account σ) : Prop where
  ready : a.ready = a'.ready
  exit : a.exit = a'.exit
  log : a.log = a'.log
  events : a.events = a'.events
  user : a.user = a'.user
  sent : ∃ rs : List Request, a.sent = rs.map (·.withToken t) ∧ a'.sent = rs.map (·.withToken t')

/-- **The token shows in its header only**: two launches with tokens that are not empty and otherwise equal settings,
the same outcomes on the wire and the same user log the same records, get the same replies and answers, leave the user
with the same, end in the same way, and send the same requests but for the token; the settings as logs show them are
the same as well. -/
theorem attend_token_unseen {t t' : String} (ht : t ≠ "") (ht' : t' ≠ "") (settings : Settings)
    (outcome : Nat → Outcome) (store : Offline) (u : Surface σ) (user : σ) (n : Nat) :
    Account.Alike t t' (attend u n { outcome } store user { settings := { settings with token := t } })
        (attend u n { outcome } store user { settings := { settings with token := t' } }) ∧
      ({ settings with token := t } : Settings).masked = ({ settings with token := t' } : Settings).masked := by
  have hmasked := masked_withToken ht ht' settings
  refine ⟨?_, hmasked⟩
  by_cases hurl : settings.baseUrl = ""
  · rw [attend_of_noBaseUrl ht settings hurl, attend_of_noBaseUrl ht' settings hurl]
    exact ⟨rfl, rfl, rfl, rfl, rfl, [], rfl, rfl⟩
  · rw [attend_of_token ht settings hurl, attend_of_token ht' settings hurl]
    have hrecord : remoteRecord { settings with token := t } = remoteRecord { settings with token := t' } := by
      simp only [remoteRecord, hmasked]
    exact ⟨rfl, rfl, congrArg (· :: _) hrecord, rfl, rfl, _, rfl, rfl⟩

/-- A service that is lost for one request and then takes the token for wrong. -/
def fickle : Nat → Outcome :=
  (Wire.ofList [.response { body := "\x7b\"kits\": []\x7d" }, .failure ⟨.readTimeout, "slow"⟩,
    .response { status := 401 }]).outcome

def visitor : Console := { lines := ["1"] }

theorem attend_token_unseen_fickle :
    "alpha" ≠ "" ∧ "beta" ≠ "" ∧
      Account.Alike "alpha" "beta"
        (attend Console.surface 4 { outcome := fickle } {} visitor { settings := { token := "alpha" } })
        (attend Console.surface 4 { outcome := fickle } {} visitor { settings := { token := "beta" } }) ∧
      ({ token := "alpha" } : Settings).masked = ({ token := "beta" } : Settings).masked :=
  ⟨by decide, by decide, attend_token_unseen (by decide) (by decide) {} fickle {} Console.surface visitor 4⟩

/-- The tokens do go out. -/
example : (attend Console.surface 4 { outcome := fickle } {} visitor
    { settings := { token := "alpha" } }).sent.map (·.token) = [some "alpha", some "alpha", some "alpha"] := by
  decide +kernel

end Launch

end KitConsole
