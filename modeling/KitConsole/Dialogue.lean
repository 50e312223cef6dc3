import KitConsole.Call
import KitConsole.Operation

/-!
# Dialogues

* `Effect` — what a session does to the world outside: calls to the kit service, questions to the user, and notices.
  A menu is answered by a position in it, so an answer is always one of the offered entries.
* `Dialogue` — a finite course of effects, in which the answers decide how it goes on; on the way it may schedule
  operations and log.
* `Counterpart` — a world that answers effects; `Surface` is the part of it that the user is in front of.
-/

namespace KitConsole

structure Menu (α : Type) where
  prompt : String
  entries : Entries α
  deriving DecidableEq

namespace Menu

def labels {α : Type} (m : Menu α) : List String := m.entries.keys

/-- The value at a position. -/
def value {α : Type} (m : Menu α) (i : Fin m.labels.length) : α :=
  (m.entries.get (i.cast (by simp [labels, Entries.keys]))).2

def label {α : Type} (m : Menu α) (i : Fin m.labels.length) : String := m.labels.get i

end Menu

/-- What the user is shown without being asked. -/
inductive Notice
  | welcome
  | goodbye
  | error (text : String)
  | showError (message : String)
  | showKit (reply : Reply)
  | showDeleted (reply : Reply)
  | unexpectedResponse
  | authFailed
  deriving DecidableEq

inductive Effect
  | call (c : Call)
  | chooseOperation (m : Menu Operation)
  | chooseKit (m : Menu String)
  | confirm (question : String)
  | collectFields
  | notify (n : Notice)
  deriving DecidableEq

@[reducible] def Effect.Answer : Effect → Type
  | call _ => Reply
  | chooseOperation m => Fin m.labels.length
  | chooseKit m => Fin m.labels.length
  | confirm _ => Bool
  | collectFields => Fields
  | notify _ => Unit

/-- An effect that took place; the answer is missing if a fault came instead. -/
structure Event where
  effect : Effect
  answer : Option effect.Answer

instance : (e : Effect) → DecidableEq e.Answer
  | .call _ => inferInstanceAs (DecidableEq Reply)
  | .chooseOperation m => inferInstanceAs (DecidableEq (Fin m.labels.length))
  | .chooseKit m => inferInstanceAs (DecidableEq (Fin m.labels.length))
  | .confirm _ => inferInstanceAs (DecidableEq Bool)
  | .collectFields => inferInstanceAs (DecidableEq Fields)
  | .notify _ => inferInstanceAs (DecidableEq Unit)

instance : DecidableEq Event
  | ⟨e, a⟩, ⟨e', a'⟩ =>
    if h : e = e' then
      match e', h, a' with
      | _, rfl, a' => if ha : a = a' then isTrue (by rw [ha]) else isFalse fun h => ha (by simpa using h)
    else isFalse fun h' => h (congrArg Event.effect h')

inductive Dialogue (α : Type) : Type
  | done (a : α)
  | fail (s : Stop)
  | ask (e : Effect) (next : e.Answer → Dialogue α)
  | push (ops : List Operation) (next : Dialogue α)
  | note (r : Log.Record) (next : Dialogue α)

namespace Dialogue

def bind {α β : Type} : Dialogue α → (α → Dialogue β) → Dialogue β
  | done a, f => f a
  | fail x, _ => fail x
  | ask e next, f => ask e fun a => (next a).bind f
  | push ops next, f => push ops (next.bind f)
  | note r next, f => note r (next.bind f)

instance : Monad Dialogue where
  pure := done
  bind := bind

def perform (e : Effect) : Dialogue e.Answer := ask e done

def schedule (ops : List Operation) : Dialogue Unit := push ops (done ())

def log (r : Log.Record) : Dialogue Unit := note r (done ())

def ofExcept {α : Type} : Except Fault α → Dialogue α
  | .ok a => done a
  | .error f => fail (.fault f)

end Dialogue

/-! ## the other side -/

abbrev Counterpart (ω : Type) := (e : Effect) → ω → Turn ω e.Answer

/-- The user's side: menus, questions and notices. -/
structure Surface (σ : Type) where
  choose : (prompt : String) → (labels : List String) → σ → Turn σ (Fin labels.length)
  confirm : (question : String) → σ → Turn σ Bool
  collectFields : σ → Turn σ Fields
  notify : Notice → σ → Turn σ Unit

namespace Turn

variable {ω ω' α : Type}

def mapWorld (f : ω → ω') (t : Turn ω α) : Turn ω' α := { t with world := f t.world }

end Turn

/-- A service and a surface side by side. -/
def Counterpart.of {γ σ : Type} (service : Service γ) (surface : Surface σ) : Counterpart (γ × σ) := fun e w =>
  match e with
  | .call c => (service c w.1).mapWorld (·, w.2)
  | .chooseOperation m => (surface.choose m.prompt m.labels w.2).mapWorld (w.1, ·)
  | .chooseKit m => (surface.choose m.prompt m.labels w.2).mapWorld (w.1, ·)
  | .confirm q => (surface.confirm q w.2).mapWorld (w.1, ·)
  | .collectFields => (surface.collectFields w.2).mapWorld (w.1, ·)
  | .notify n => (surface.notify n w.2).mapWorld (w.1, ·)

end KitConsole
