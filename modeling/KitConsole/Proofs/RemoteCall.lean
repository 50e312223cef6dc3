import KitConsole.Proofs.Attempts
import KitConsole.Remote

/-!
# What a call sends

* `Call.method`, `Call.form`, `Remote.urlOf`, `Remote.requestFor` — the one request that a call amounts to; a call about
  a kit with a blank id has none.
* `serve_eq` — a call is the exchange of its request, and a fault where there is none.
* `serve_sends` — the request goes out once for every outcome up to the one that decides, and the reply is read off that
  outcome.
-/

namespace KitConsole

open Wire

namespace Call

def method : Call → Method
  | listKits | getKit _ => .get
  | saveKit _ _ => .post
  | deleteKit _ => .delete

def form : Call → Entries String
  | saveKit fields _ => Remote.formOf fields
  | _ => []

end Call

namespace Remote

/-- The address of a call: that of all kits for a listing and a new kit, else that of the one kit. -/
def urlOf (remote : Remote) : Call → Except Fault String
  | .listKits | .saveKit _ .null => .ok remote.collectionUrl
  | .getKit id | .saveKit _ id | .deleteKit id => remote.kitUrl id

def requestFor (remote : Remote) (call : Call) : Except Fault Request :=
  (remote.urlOf call).map fun url => remote.transport.request call.method url none call.form

theorem of_requestFor {remote : Remote} {call : Call} {r : Request} (h : remote.requestFor call = .ok r) :
    remote.urlOf call = .ok r.url ∧ r.method = call.method := by
  unfold requestFor at h
  rcases hurl : remote.urlOf call with f | url <;> rw [hurl] at h
  · simp [Except.map] at h
  · obtain rfl := Except.ok.inj h
    exact ⟨rfl, rfl⟩

theorem serve_eq (remote : Remote) (call : Call) (wire : Wire) : remote.serve call wire =
    match remote.requestFor call with
    | .error f => { result := .error f, world := wire }
    | .ok r => settle call.expected (context call) (remote.transport.exchange r wire) := by
  have one : ∀ id (send : String → Turn Wire Reply) (request : String → Request),
      (∀ url, send url = settle call.expected (context call) (remote.transport.exchange (request url) wire)) →
      remote.atKit id wire send = match (remote.kitUrl id).map request with
        | .error f => { result := .error f, world := wire }
        | .ok r => settle call.expected (context call) (remote.transport.exchange r wire) := by
    intro id send request hsend
    unfold atKit
    cases remote.kitUrl id with
    | error f => rfl
    | ok url => exact hsend url
  cases call with
  | listKits => rfl
  | getKit id => exact one id _ _ fun _ => rfl
  | saveKit fields id =>
    cases id with
    | null => rfl
    | _ => exact one _ _ _ fun _ => rfl
  | deleteKit id => exact one id _ _ fun _ => rfl

theorem serve_unsent {remote : Remote} {call : Call} {f : Fault} (h : remote.requestFor call = .error f) (wire : Wire) :
    remote.serve call wire = { result := .error f, world := wire } := by
  rw [serve_eq, h]

/-- **A call sends its request until an outcome decides, and its reply is what that outcome is classified as.** -/
theorem serve_sends {remote : Remote} {call : Call} {r : Request} (h : remote.requestFor call = .ok r) (wire : Wire) :
    ∃ m, Transport.Decided r remote.transport.retries.toNat wire m ∧
      (remote.serve call wire).world = { wire with sent := wire.sent ++ List.replicate (m + 1) r } ∧
      (remote.serve call wire).result = (classify call.expected (context call)
        (Transport.resultOf r (wire.outcome (wire.sent.length + m)))).1 := by
  obtain ⟨m, hm, hwire, hresult⟩ := Transport.attempts_decided r remote.transport.retries.toNat 1 wire
  have hserve : remote.serve call wire =
      settle call.expected (context call) (remote.transport.exchange r wire) := by rw [serve_eq, h]
  rw [hserve]
  exact ⟨m, hm, hwire, by rw [← hresult]; rfl⟩

end Remote

end KitConsole
