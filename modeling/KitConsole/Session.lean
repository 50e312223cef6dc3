import KitConsole.Flow

/-!
# Sessions

* `Session` — the plan, what the last step left, and the record of what has happened.
* `Dialogue.play` — a dialogue carried out against a counterpart.
* `Session.dispatch` — one operation.
* `Session.run` — a whole session: the leading authentications, the welcome, the plan down to `quit`, the farewell.
* `Session.conduct` — the same with its exit status, a rejected credential reported.

A plan can be refilled for as long as the user says yes, so a run is given the number of operations that it may
take; `Session.allowance` suffices for a given number of yeses.
-/

namespace KitConsole

structure Session (ω : Type) where
  plan : Plan := Plan.startup
  last : Json := .null
  operations : List Operation := []
  events : List Event := []
  log : List Log.Record := []
  world : ω

variable {ω α : Type}

namespace Dialogue

/-- A fault keeps what was done before it. -/
def play (c : Counterpart ω) : Dialogue α → Session ω → Except Stop α × Session ω
  | done a, s => (.ok a, s)
  | fail x, s => (.error x, s)
  | push ops next, s => next.play c { s with plan := s.plan.push ops }
  | note r next, s => next.play c { s with log := s.log ++ [r] }
  | ask e next, s =>
    let t := c e s.world
    let s := { s with
      world := t.world
      log := s.log ++ t.log
      events := s.events ++ [⟨e, t.result.toOption⟩] }
    match t.result with
    | .ok a => (next a).play c s
    | .error f => (.error (.fault f), s)

end Dialogue

namespace Session

inductive Ending
  | finished
  | stopped (s : Stop)
  | unfinished
  deriving DecidableEq, Repr

def dispatchRecord (op : Operation) (plan : Plan) : Log.Record :=
  Flow.record .debug ("operation=" ++ op.name ++ " queue=" ++ plan.describe)

/-- One operation, taken off the plan before. -/
def dispatch (c : Counterpart ω) (op : Operation) (s : Session ω) : Except Stop Unit × Session ω :=
  let s := { s with operations := s.operations ++ [op], log := s.log ++ [dispatchRecord op s.plan] }
  match (Flow.step op s.last).play c s with
  | (.ok v, s) => (.ok (), { s with last := v })
  | (.error f, s) => (.error f, s)

/-- The authentications at the front of the plan, at most `n` of them. -/
def authenticateFirst (c : Counterpart ω) : Nat → Session ω → Except Stop Unit × Session ω
  | 0, s => (.ok (), s)
  | n + 1, s =>
    match s.plan with
    | .authenticate :: rest =>
      match dispatch c .authenticate { s with plan := rest } with
      | (.ok (), s) => authenticateFirst c n s
      | (.error f, s) => (.error f, s)
    | _ => (.ok (), s)

/-- The plan down to `quit`, at most `n` operations of it. -/
def operate (c : Counterpart ω) : Nat → Session ω → Ending × Session ω
  | 0, s => (.unfinished, s)
  | n + 1, s =>
    let (op, plan) := s.plan.pop
    let s := { s with plan }
    if op = .quit then (.finished, { s with operations := s.operations ++ [.quit] })
    else
      match dispatch c op s with
      | (.ok (), s) => operate c n s
      | (.error f, s) => (.stopped f, s)

def finishRecord (operations : List Operation) : Log.Record :=
  Flow.record .debug ("session finished after " ++ toString operations.length ++ " operations")

def notify (c : Counterpart ω) (n : Notice) (s : Session ω) : Except Stop Unit × Session ω :=
  (Flow.notify n).play c s

def farewell (c : Counterpart ω) (s : Session ω) : Ending × Session ω :=
  match notify c .goodbye { s with log := s.log ++ [finishRecord s.operations] } with
  | (.ok (), s) => (.finished, s)
  | (.error f, s) => (.stopped f, s)

/-- The session after the leading authentications. -/
def proceed (c : Counterpart ω) (n : Nat) (s : Session ω) : Ending × Session ω :=
  match notify c .welcome s with
  | (.error f, s) => (.stopped f, s)
  | (.ok (), s) =>
    match operate c n s with
    | (.finished, s) => farewell c s
    | r => r

/-- A session of at most `n` operations after the leading authentications. -/
def run (c : Counterpart ω) (n : Nat) (s : Session ω) : Ending × Session ω :=
  match authenticateFirst c s.plan.length s with
  | (.error f, s) => (.stopped f, s)
  | (.ok (), s) => proceed c n s

/-- Operations enough for a plan when the user says yes at most `yeses` times. -/
def allowance (plan : Plan) (yeses : Nat) : Nat := 6 * plan.length + 3 * yeses + 1

/-! ## exit status -/

inductive Exit
  | status (n : Nat)
  | stopped (s : Stop)
  | unfinished
  deriving DecidableEq, Repr

def rejectionRecord (message : String) : Log.Record := ⟨.info, .program, "authentication failed: " ++ message⟩

/-- A rejected credential is reported and makes the exit status one. -/
def reportRejection (c : Counterpart ω) (message : String) (s : Session ω) : Exit × Session ω :=
  match notify c .authFailed { s with log := s.log ++ [rejectionRecord message] } with
  | (.ok (), s) => (.status 1, s)
  | (.error x, s) => (.stopped x, s)

def conduct (c : Counterpart ω) (n : Nat) (s : Session ω) : Exit × Session ω :=
  match run c n s with
  | (.finished, s) => (.status 0, s)
  | (.stopped (.rejected message), s) => reportRejection c message s
  | (.stopped x, s) => (.stopped x, s)
  | (.unfinished, s) => (.unfinished, s)

end Session

end KitConsole
