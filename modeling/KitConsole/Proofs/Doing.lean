import KitConsole.Proofs.History

/-!
# What an operation does

* `Asks`, `shownBy` — the calls that an operation makes, and what it says of a reply; `Aside` — the effects that are
  neither a call nor said of a reply.
* `Does A op es r` — the events of an operation: its calls, each with what its reply leads to, and asides; `Within op` —
  the effects that may be among them.
* `does_of_course` — every step does no more than that, whatever the step before left; what is said of single calls is
  lifted to all operations by an induction on `Does`.
-/

namespace KitConsole.Flow

open Dialogue

variable {A : Answers} {op : Operation} {es : List Event} {ops : List Operation}

inductive Asks : Operation → Call → Prop
  | authenticate : Asks .authenticate .listKits
  | list : Asks .listAndChoose .listKits
  | fetch (id : String) : Asks .listAndChoose (.getKit (.string id))
  | view (id : Json) : Asks .view (.getKit id)
  | save (fields : Fields) (id : Json) : Asks .save (.saveKit fields id)
  | delete (id : Json) : Asks .delete (.deleteKit id)

/-- What an operation says of a reply that is accepted. -/
def shownBy (op : Operation) (reply : Reply) : Option Notice :=
  match op with
  | .view | .save => some (.showKit reply)
  | .delete => some (.showDeleted reply)
  | _ => failureNotice reply

/-- A question, or the notice that there is no kit to act on. -/
def Aside : Effect → Prop
  | .call _ => False
  | .notify n => n = noKitSelected
  | _ => True

/-- The calls of an operation one after the other, each with what its reply leads to, and asides. -/
inductive Does (A : Answers) (op : Operation) : List Event → Except Stop Unit → Prop
  | done : Does A op [] (.ok ())
  | fault {f : Fault} : Does A op [] (.error (.fault f))
  | aside {e : Effect} {a : Option e.Answer} {es : List Event} {r : Except Stop Unit} : Aside e → Does A op es r →
      Does A op (⟨e, a⟩ :: es) r
  | stopped {call : Call} {es : List Event} {x : Stop} : Asks op call →
      Exchange A call (shownBy op) es (.error x) → Does A op es (.error x)
  | replied {call : Call} {es₁ es₂ : List Event} {reply : Reply} {r : Except Stop Unit} : Asks op call →
      Exchange A call (shownBy op) es₁ (.ok reply) → Does A op es₂ r → Does A op (es₁ ++ es₂) r

/-- The effects that an operation may have. -/
def Within (op : Operation) : Effect → Prop
  | .call call => Asks op call
  | .notify n => n = noKitSelected ∨ ∃ reply, reaction (shownBy op) reply = some n
  | _ => True

theorem Aside.within {e : Effect} (h : Aside e) : Within op e := by
  cases e with
  | call _ => exact absurd h id
  | notify _ => exact .inl h
  | _ => trivial

/-- An exchange is its call and then the notices that the reply leads to. -/
theorem events_of_call {call : Call} {shown : Reply → Option Notice} {x : Except Stop Reply}
    (h : Exchange A call shown es x) : ∃ a es', es = ⟨.call call, a⟩ :: es' ∧
      ∀ e ∈ es', ∃ reply n, reaction shown reply = some n ∧ e.effect = .notify n := by
  cases h with
  | fault _ => exact ⟨none, [], rfl, by simp⟩
  | @answered reply es _ _ hr =>
    refine ⟨some reply, es, rfl, ?_⟩
    cases hr with
    | rejected _ => simp
    | told _ ht =>
      rcases hn : reaction shown reply with _ | n <;> rw [hn] at ht <;> cases ht
      · simp
      · exact List.forall_mem_singleton.2 ⟨reply, n, hn, rfl⟩
      · exact List.forall_mem_singleton.2 ⟨reply, n, hn, rfl⟩

theorem within_of_exchange {call : Call} {x : Except Stop Reply} (hop : Asks op call)
    (h : Exchange A call (shownBy op) es x) : ∀ e ∈ es, Within op e.effect := by
  obtain ⟨a, es', rfl, hes⟩ := events_of_call h
  refine List.forall_mem_cons.2 ⟨hop, fun e he => ?_⟩
  obtain ⟨reply, n, hn, heffect⟩ := hes e he
  rw [heffect]
  exact .inr ⟨reply, hn⟩

theorem Does.within {r : Except Stop Unit} (h : Does A op es r) : ∀ e ∈ es, Within op e.effect := by
  induction h with
  | done => simp
  | fault => simp
  | aside he _ ih => exact List.forall_mem_cons.2 ⟨he.within, ih⟩
  | stopped hop h => exact within_of_exchange hop h
  | replied hop h _ ih => exact List.forall_mem_append.2 ⟨within_of_exchange hop h, ih⟩

/-! ## the steps -/

theorem does_of_exchange {call : Call} {x : Except Stop Reply} (hop : Asks op call)
    (h : Exchange A call (shownBy op) es x) : Does A op es (x.map fun _ => ()) := by
  cases x with
  | error x => exact .stopped hop h
  | ok reply => simpa [Except.map] using Does.replied hop h .done

theorem does_of_fetching {ids : List String} {x : Except Stop (Option (List Reply))} (h : Fetching A ids es x)
    {rest : List Event} {r : Except Stop Unit} (hok : ∀ infos, x = .ok infos → Does A .listAndChoose rest r)
    (herror : ∀ y, x = .error y → rest = [] ∧ r = .error y) : Does A .listAndChoose (es ++ rest) r := by
  induction h with
  | nil => exact hok _ rfl
  | stopped h =>
    obtain ⟨rfl, rfl⟩ := herror _ rfl
    rw [List.append_nil]
    exact .stopped (.fetch _) h
  | refused h _ => exact .replied (.fetch _) h (hok _ rfl)
  | fetched h _ _ ih =>
    rw [List.append_assoc]
    refine .replied (.fetch _) h (ih ?_ ?_)
    · rintro infos rfl
      exact hok _ rfl
    · rintro y rfl
      exact herror _ rfl

theorem does_of_offering {ids : List String} {x : Except Stop Json} (h : Offering A ids es ops x) :
    Does A .listAndChoose es (x.map fun _ => ()) := by
  cases h with
  | unasked _ => exact .aside trivial .fault
  | asked _ => exact .aside trivial .done
  | stopped _ h =>
    rw [← List.append_nil es]
    refine does_of_fetching h (by simp) fun y hy => ⟨rfl, ?_⟩
    obtain rfl := Except.error.inj hy
    rfl
  | refused _ h => simpa [Except.map] using does_of_fetching h (fun _ _ => .done) (by simp)
  | unchosen _ h _ => exact does_of_fetching h (fun _ _ => .aside trivial .fault) (by simp)
  | chosen _ h _ => exact does_of_fetching h (fun _ _ => .aside trivial .done) (by simp)

theorem does_of_listing {x : Except Stop Json} (h : Listing A es ops x) :
    Does A .listAndChoose es (x.map fun _ => ()) := by
  cases h with
  | stopped h => exact .stopped .list h
  | refused h _ => simpa [Except.map] using Does.replied .list h .done
  | unusable h _ _ => simpa [Except.map] using Does.replied .list h .fault
  | listed h _ _ ho => exact .replied .list h (does_of_offering ho)

/-- The notice that there is no kit to act on, and nothing else. -/
theorem does_of_noKit {x : Except Stop Json} (h : (notify noKitSelected >>= fun _ => done Json.null).Course A es ops x) :
    Does A op es (x.map fun _ => ()) := by
  rw [notify_bind] at h
  rcases h with ⟨f, -, rfl, -, rfl⟩ | ⟨u, es', -, ⟨rfl, -, rfl⟩, rfl⟩
  · exact .aside rfl .fault
  · exact .aside rfl .done

/-- **A step does no more than its operation allows**, whatever the step before left. -/
theorem does_of_course {last : Json} {x : Except Stop Json} (h : (step op last).Course A es ops x) :
    Does A op es (x.map fun _ => ()) := by
  have map_map {α β : Type} (x : Except Stop α) (v : β) :
      (x.map fun _ => v).map (fun _ => ()) = x.map fun _ => () := by cases x <;> rfl
  cases op with
  | authenticate =>
    obtain ⟨-, y, hy, rfl⟩ := course_authenticate h
    rw [map_map]
    exact does_of_exchange .authenticate hy
  | mainMenu =>
    rcases course_chooseOperation h with ⟨f, -, rfl, -, rfl⟩ | ⟨i, -, rfl, -, rfl⟩
    · exact .aside trivial .fault
    · exact .aside trivial .done
  | listAndChoose => exact does_of_listing (course_listAndChoose h)
  | chooseAction =>
    rcases course_chooseAction h with ⟨f, -, rfl, -, rfl⟩ | ⟨i, -, rfl, -, rfl⟩
    · exact .aside trivial .fault
    · exact .aside trivial .done
  | afterView =>
    rcases course_afterView h with ⟨f, -, rfl, -, rfl⟩ | ⟨edit, -, rfl, -, rfl⟩
    · exact .aside trivial .fault
    · exact .aside trivial .done
  | collectFields =>
    rcases course_collectFields h with ⟨-, ⟨f, -, rfl, rfl⟩ | ⟨fields, -, rfl, rfl⟩⟩
    · exact .aside trivial .fault
    · exact .aside trivial .done
  | view =>
    cases hid : last.isNull with
    | true =>
      rw [step, view, hid, if_pos rfl] at h
      exact does_of_noKit h
    | false =>
      obtain ⟨-, y, hy, rfl⟩ := course_view hid h
      rw [map_map]
      exact does_of_exchange (.view last) hy
  | save =>
    cases hfields : fieldsOf last with
    | error f =>
      rw [step, save, hfields] at h
      obtain ⟨rfl, -, rfl⟩ := h
      exact .fault
    | ok fields =>
      obtain ⟨-, y, hy, rfl⟩ := course_save hfields h
      rw [map_map]
      exact does_of_exchange (.save _ _) hy
  | delete =>
    cases hid : last.isNull with
    | true =>
      rw [step, delete, hid, if_pos rfl] at h
      exact does_of_noKit h
    | false =>
      obtain ⟨-, y, hy, rfl⟩ := course_delete hid h
      rw [map_map]
      exact does_of_exchange (.delete last) hy
  | quit =>
    obtain ⟨rfl, -, rfl⟩ := h
    exact .done

end KitConsole.Flow

namespace KitConsole.Session

variable {ω : Type} {c : Counterpart ω} {W : ω → Prop} {A : Answers}

theorem Deed.By.does {d : Deed ω} (h : d.By c) (hc : c.Keeps W A) (hs : W d.before.world) :
    Flow.Does A d.op d.events d.result := by
  obtain ⟨x, hperf, hx, -⟩ := h.performs hc hs
  obtain ⟨ops, hcourse, -⟩ := hperf.course
  rw [hx]
  exact Flow.does_of_course hcourse

end KitConsole.Session
