import KitConsole.Proofs.KitMenu
import KitConsole.Proofs.KnownRun
import KitConsole.Proofs.OfflineAnswers
import KitConsole.Proofs.Stage
import KitConsole.Proofs.StreamReading

/-!
# At a desk

* `Desk store lines` — a store next to a console that reads from a stream.
* `yields_call`, `yields_reads` — what the effects at a desk come to: the answer of the store, and what is read from the
  lines.
* `yields_accept`, `yields_succeeded`, `yields_shown` — what a reply leads to that is no rejection.
* `yields_authenticate`, …, `yields_save` — what the steps come to, with the lines that they leave.
-/

namespace KitConsole

open Dialogue KitConsole.Flow Session

/-! ## the store -/

namespace Offline

/-- The store once a listing has been asked for. -/
def listed (store : Offline) : Offline := { store with calls := store.calls ++ [.listKits] }

theorem answer_listKits {store : Offline} (hauth : store.flags.authError = false) :
    store.answer .listKits = (.ok store.list, store.listed) := by
  rw [answer_eq hauth]
  rfl

theorem kind_list_ne_unauthorized (store : Offline) : store.list.kind ≠ .unauthorized := by
  unfold list
  split <;> simp [Reply.malformed, Reply.success]

end Offline

/-! ## effects -/

/-- The store next to a console that reads from a stream with these lines left. -/
structure Desk (store : Offline) (lines : List String) (w : Offline × Console) : Prop where
  store : w.1 = store
  console : Console.Streams lines w.2

abbrev desk : Counterpart (Offline × Console) := .of Offline.serve Console.surface

variable {store store' : Offline} {lines rest : List String}

theorem yields_call {call : Call} {reply : Reply} (h : store.answer call = (.ok reply, store')) (lines : List String) :
    Yields desk (Desk store lines) (Flow.call call) [] reply (Desk store' lines) := by
  refine yields_perform fun w hw => ?_
  obtain ⟨rfl, hconsole⟩ := hw
  have hserve : Offline.serve call w.1 = { result := .ok reply, world := store' } := by
    unfold Offline.serve
    rw [h]
  have hturn : desk (.call call) w = { result := .ok reply, world := (store', w.2) } := by
    simp only [desk, Counterpart.of, hserve, Turn.mapWorld]
  rw [hturn]
  exact ⟨rfl, rfl, hconsole⟩

/-- An effect that the console answers by an act reads what the act reads. -/
theorem yields_reads {e : Effect} {act : Console.Act e.Answer} {a : e.Answer}
    (he : ∀ w, desk e w = (Console.turn act w.2).mapWorld (w.1, ·)) (h : Console.Reads act lines a rest) :
    Yields desk (Desk store lines) (perform e) [] a (Desk store rest) := by
  refine yields_perform fun w hw => ?_
  obtain ⟨hresult, hconsole⟩ := h.turn hw.console
  rw [he]
  exact ⟨hresult, hw.store, hconsole⟩

theorem yields_notify (n : Notice) : Yields desk (Desk store lines) (Flow.notify n) [] () (Desk store lines) :=
  yields_reads (fun _ => rfl) (Console.reads_notify n lines)

theorem yields_confirm (question : String) : Yields desk (Desk store lines) (Flow.confirm question) []
    ((Console.readYesNo? (Console.answerOf lines)).getD true) (Desk store lines.tail) :=
  yields_reads (fun _ => rfl) (Console.reads_confirm question lines)

theorem yields_chooseOperation {m : Menu Operation} (h : 0 < m.labels.length) :
    Yields desk (Desk store lines) (perform (.chooseOperation m)) [] (Console.chosen m.labels.length ⟨0, h⟩ lines).1
      (Desk store (Console.chosen m.labels.length ⟨0, h⟩ lines).2) :=
  yields_reads (fun _ => rfl) (Console.reads_choose m.prompt h lines)

theorem yields_chooseKit {m : Menu String} (h : 0 < m.labels.length) :
    Yields desk (Desk store lines) (perform (.chooseKit m)) [] (Console.chosen m.labels.length ⟨0, h⟩ lines).1
      (Desk store (Console.chosen m.labels.length ⟨0, h⟩ lines).2) :=
  yields_reads (fun _ => rfl) (Console.reads_choose m.prompt h lines)

/-! ## replies -/

/-- A malformed reply is reported, and not used. -/
theorem yields_accept {reply : Reply} (h : reply.kind ≠ .unauthorized) :
    Yields desk (Desk store lines) (accept reply) [] (decide (reply.kind ≠ .malformed)) (Desk store lines) := by
  unfold accept
  cases hkind : reply.kind with
  | unauthorized => exact absurd hkind h
  | malformed => exact (yields_log _).seq ((yields_notify _).seq (yields_pure false))
  | _ => exact yields_pure true

theorem yields_succeeded {reply : Reply} (h : reply.kind ≠ .unauthorized) :
    Yields desk (Desk store lines) (succeeded reply) [] reply.ok (Desk store lines) := by
  refine (yields_accept h).seq ?_
  cases hkind : reply.kind with
  | unauthorized => exact absurd hkind h
  | ok => simpa [Reply.ok, hkind] using yields_pure true
  | malformed => simpa [Reply.ok, hkind] using yields_pure false
  | error =>
    have hshown : Yields desk (Desk store lines) (notify (.showError reply.errorText) >>= fun _ => pure false) [] false
        (Desk store lines) := (yields_notify _).seq (yields_pure false)
    simpa [Reply.ok, hkind] using hshown

/-- A call whose reply is shown, with a result that does not depend on it. -/
theorem yields_shown {call : Call} {reply : Reply} {n : Reply → Notice} {v : Json}
    (h : store.answer call = (.ok reply, store')) (hkind : reply.kind ≠ .unauthorized) :
    Yields desk (Desk store lines) (Flow.call call >>= fun reply => do
      if ← accept reply then notify (n reply)
      return v) [] v (Desk store' lines) := by
  refine (yields_call h lines).seq ((yields_accept hkind).seq ?_)
  by_cases hmalformed : reply.kind = .malformed
  · simpa [hmalformed] using yields_pure v
  · simpa [hmalformed] using (yields_notify (n reply)).seq (yields_pure v)

/-! ## steps -/

/-- A listing is malformed at worst, which is said and does not end the session. -/
theorem yields_authenticate (hauth : store.flags.authError = false) :
    Yields desk (Desk store lines) (step .authenticate .null) [] .null (Desk store.listed lines) := by
  refine (yields_call (Offline.answer_listKits hauth) lines).seq ((yields_accept store.kind_list_ne_unauthorized).seq ?_)
  by_cases hmalformed : store.flags.malformed
  · simpa [Offline.list, hmalformed, Reply.malformed] using yields_pure Json.null
  · simpa [Offline.list, hmalformed, Reply.success, Reply.ok] using yields_pure Json.null

theorem yields_mainMenu (store : Offline) (lines : List String) (last : Json) :
    Yields desk (Desk store lines) (step .mainMenu last) [mainMenu.value (Console.chosen 3 0 lines).1] .null
      (Desk store (Console.chosen 3 0 lines).2) :=
  (yields_chooseOperation (m := mainMenu) (by decide)).seq (yields_schedule_pure _ _)

theorem yields_chooseAction (store : Offline) (lines : List String) (id : Json) :
    Yields desk (Desk store lines) (step .chooseAction id) (follow (actionMenu.value (Console.chosen 3 0 lines).1)) id
      (Desk store (Console.chosen 3 0 lines).2) := by
  have hchoose : Yields desk (Desk store lines) (perform (.chooseOperation actionMenu)) []
      (Console.chosen 3 0 lines).1 (Desk store (Console.chosen 3 0 lines).2) := yields_chooseOperation (by decide)
  generalize Console.chosen 3 0 lines = answer at hchoose ⊢
  obtain ⟨i, rest⟩ := answer
  refine hchoose.seq ?_
  match i with
  | ⟨0, _⟩ => exact yields_schedule_pure [.view, .afterView] id
  | ⟨1, _⟩ => exact yields_schedule_pure [.collectFields] id
  | ⟨2, _⟩ => exact yields_schedule_pure [.delete] id

theorem yields_afterView (store : Offline) (lines : List String) (id : Json) :
    Yields desk (Desk store lines) (step .afterView id)
      (if Console.readYesNo? (Console.answerOf lines) = some false then [] else [.collectFields]) id
      (Desk store lines.tail) := by
  refine (yields_confirm editQuestion).seq ?_
  rcases Console.readYesNo? (Console.answerOf lines) with _ | _ | _
  · exact yields_schedule_pure [.collectFields] id
  · exact yields_pure id
  · exact yields_schedule_pure [.collectFields] id

/-- The fields are asked for, and left to a save together with the id. -/
theorem yields_collectFields {id : Json} {fields : Fields} (h : Console.Reads Console.collectFields lines fields rest) :
    Yields desk (Desk store lines) (step .collectFields id) (Flow.afterFields id)
      (.object (Entries.put idField id fields)) (Desk store rest) := by
  have hperform : Yields desk (Desk store lines) (perform .collectFields) [] fields (Desk store rest) :=
    yields_reads (fun _ => rfl) h
  have hfields : Yields desk (Desk store lines)
      (perform .collectFields >>= fun fields => pure (Json.object (Entries.put idField id fields))) []
      (.object (Entries.put idField id fields)) (Desk store rest) := hperform.seq (yields_pure _)
  show Yields desk _ (schedule _ >>= fun _ => _) ([] ++ _) _ _
  exact (yields_schedule _).bind hfields

theorem yields_save {id : Json} {fields : Fields} {reply : Reply} (hfields : idField ∉ Entries.keys fields)
    (h : store.answer (.saveKit fields id) = (.ok reply, store')) (hkind : reply.kind ≠ .unauthorized) :
    Yields desk (Desk store lines) (step .save (.object (Entries.put idField id fields))) [] id
      (Desk store' lines) := by
  simp only [step, save]
  rw [fieldsOf_put]
  refine (yields_pure (Entries.put idField id fields)).seq ?_
  rw [field_put, Entries.erase_put_of_not_mem hfields]
  exact yields_shown h hkind

theorem yields_view {id : Json} {reply : Reply} (hid : id.isNull = false)
    (h : store.answer (.getKit id) = (.ok reply, store')) (hkind : reply.kind ≠ .unauthorized) :
    Yields desk (Desk store lines) (step .view id) [] id (Desk store' lines) := by
  simp only [step, view, hid]
  exact yields_shown h hkind

theorem yields_delete {id : Json} {reply : Reply} (hid : id.isNull = false)
    (h : store.answer (.deleteKit id) = (.ok reply, store')) (hkind : reply.kind ≠ .unauthorized) :
    Yields desk (Desk store lines) (step .delete id) [] .null (Desk store' lines) := by
  simp only [step, delete, hid]
  exact yields_shown h hkind

end KitConsole
