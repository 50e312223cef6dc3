import KitConsole.Proofs.StepCourse

/-!
# The history of a run

* `Performs`, `Notified` — what one operation, and one notice, makes of a session.
* `Deed` — an operation that came up, with the session before and after it; `Stretch` — deeds one after the other, of
  which only the last may be stopped.
* `History c s early late e t` — a run from `s` to `t`: the authentications `early` at the front of the plan, the welcome,
  the deeds `late`, and the end `e`.
* `run_history` — every run has a history; `History.record` — its operations and its events are those of the deeds, with
  `quit`, the welcome and the farewell in their places.
-/

namespace KitConsole.Session

variable {ω : Type} {c : Counterpart ω} {W : ω → Prop} {A : Answers}

/-! ## one operation -/

/-- The session `s` becomes `s'` in a course of the step of `op` with the events `es` and the end `x`. -/
structure Performs (A : Answers) (op : Operation) (s : Session ω) (es : List Event) (x : Except Stop Json)
    (s' : Session ω) : Prop where
  course : ∃ ops, (Flow.step op s.last).Course A es ops x ∧ s'.plan = ops ++ s.plan
  operations : s'.operations = s.operations ++ [op]
  events : s'.events = s.events ++ es
  last : ∀ v, x = .ok v → s'.last = v

theorem dispatch_performs (hc : c.Keeps W A) (op : Operation) (s : Session ω) (hs : W s.world) :
    ∃ es x, Performs A op s es x (dispatch c op s).2 ∧ (dispatch c op s).1 = x.map (fun _ => ()) ∧
      W (dispatch c op s).2.world := by
  let t : Session ω := { s with operations := s.operations ++ [op], log := s.log ++ [dispatchRecord op s.plan] }
  obtain ⟨es, ops, h, hw, hp, hl, ho, he⟩ := Dialogue.play_course hc (Flow.step op s.last) t hs
  rcases hplay : (Flow.step op s.last).play c t with ⟨x | v, u⟩ <;> rw [hplay] at h hw hp hl ho he
  · have hd : dispatch c op s = (.error x, u) := by simp only [dispatch]; rw [hplay]
    rw [hd]
    exact ⟨es, .error x, ⟨⟨ops, h, hp⟩, ho, he, by simp⟩, rfl, hw⟩
  · have hd : dispatch c op s = (.ok (), { u with last := v }) := by simp only [dispatch]; rw [hplay]
    rw [hd]
    exact ⟨es, .ok v, ⟨⟨ops, h, hp⟩, ho, he, fun w hv => Except.ok.inj hv⟩, rfl, hw⟩

/-- The session `s` becomes `s'` when the user is shown a notice. -/
structure Notified (n : Notice) (s : Session ω) (answer : Option Unit) (s' : Session ω) : Prop where
  plan : s'.plan = s.plan
  last : s'.last = s.last
  operations : s'.operations = s.operations
  events : s'.events = s.events ++ [⟨.notify n, answer⟩]

theorem notify_notified (hc : c.Keeps W A) (n : Notice) (s : Session ω) (hs : W s.world) :
    W (notify c n s).2.world ∧
      ((∃ f, A (.notify n) (.error f) ∧ (notify c n s).1 = .error (.fault f) ∧ Notified n s none (notify c n s).2) ∨
      ((notify c n s).1 = .ok () ∧ Notified n s (some ()) (notify c n s).2)) := by
  obtain ⟨es, ops, h, hw, hp, hl, ho, he⟩ := Dialogue.play_course hc (Flow.notify n) s hs
  rcases h with ⟨f, hf, rfl, rfl, hx⟩ | ⟨u, es', -, ⟨rfl, rfl, hx⟩, rfl⟩
  · exact ⟨hw, .inl ⟨f, hf, hx, hp, hl, ho, he⟩⟩
  · exact ⟨hw, .inr ⟨hx, hp, hl, ho, he⟩⟩

theorem farewell_notified (hc : c.Keeps W A) (s : Session ω) (hs : W s.world) :
    W (farewell c s).2.world ∧
      ((∃ f, A (.notify .goodbye) (.error f) ∧ (farewell c s).1 = .stopped (.fault f) ∧
          Notified .goodbye s none (farewell c s).2) ∨
      ((farewell c s).1 = .finished ∧ Notified .goodbye s (some ()) (farewell c s).2)) := by
  let t : Session ω := { s with log := s.log ++ [finishRecord s.operations] }
  obtain ⟨hw, ⟨f, hf, hr, hn⟩ | ⟨hr, hn⟩⟩ := notify_notified hc .goodbye t hs
  all_goals
    rcases hd : notify c .goodbye t with ⟨r, u⟩
    rw [hd] at hw hr hn
    subst hr
  · have hr : farewell c s = (.stopped (.fault f), u) := by simp only [farewell]; rw [hd]
    rw [hr]
    exact ⟨hw, .inl ⟨f, hf, rfl, hn.plan, hn.last, hn.operations, hn.events⟩⟩
  · have hr : farewell c s = (.finished, u) := by simp only [farewell]; rw [hd]
    rw [hr]
    exact ⟨hw, .inr ⟨rfl, hn.plan, hn.last, hn.operations, hn.events⟩⟩

theorem notified_of_notify {n : Notice} {s t : Session ω} {r : Except Stop Unit} (h : notify c n s = (r, t)) :
    (∃ f, r = .error (.fault f) ∧ Notified n s none t) ∨ (r = .ok () ∧ Notified n s (some ()) t) := by
  obtain ⟨-, ⟨f, -, hn⟩ | hn⟩ := notify_notified c.keeps_any n s trivial <;> rw [h] at hn
  · exact .inl ⟨f, hn⟩
  · exact .inr hn

theorem notified_of_ok {n : Notice} {s t : Session ω} (h : notify c n s = (.ok (), t)) : Notified n s (some ()) t := by
  obtain ⟨f, hf, -⟩ | ⟨-, hn⟩ := notified_of_notify h
  · simp at hf
  · exact hn

theorem notify_world (hc : c.Keeps W A) {n : Notice} {s t : Session ω} {r : Except Stop Unit}
    (h : notify c n s = (r, t)) (hs : W s.world) : W t.world := by
  have hw := (notify_notified hc n s hs).1
  rw [h] at hw
  exact hw

theorem notified_of_farewell {s t : Session ω} {e : Ending} (h : farewell c s = (e, t)) :
    (∃ f, e = .stopped (.fault f) ∧ Notified .goodbye s none t) ∨ (e = .finished ∧ Notified .goodbye s (some ()) t) := by
  obtain ⟨-, ⟨f, -, hn⟩ | hn⟩ := farewell_notified c.keeps_any s trivial <;> rw [h] at hn
  · exact .inl ⟨f, hn⟩
  · exact .inr hn

/-! ## deeds -/

/-- An operation that came up, how it ended, and the session before and after it. -/
structure Deed (ω : Type) where
  op : Operation
  before : Session ω
  result : Except Stop Unit
  after : Session ω

namespace Deed

def events (d : Deed ω) : List Event := d.after.events.drop d.before.events.length

/-- The operation is the next one of the plan, and it is carried out against `c`. -/
structure By (c : Counterpart ω) (d : Deed ω) : Prop where
  next : d.before.plan = d.op :: d.before.plan.tail
  dispatched : dispatch c d.op { d.before with plan := d.before.plan.tail } = (d.result, d.after)

theorem By.performs {d : Deed ω} (h : d.By c) (hc : c.Keeps W A) (hs : W d.before.world) :
    ∃ x, Performs A d.op { d.before with plan := d.before.plan.tail } d.events x d.after ∧
      d.result = x.map (fun _ => ()) ∧ W d.after.world := by
  obtain ⟨es, x, hperf, hx, hw⟩ := dispatch_performs hc d.op { d.before with plan := d.before.plan.tail } hs
  rw [h.dispatched] at hperf hx hw
  have hes : d.events = es := by rw [events, hperf.events]; exact List.drop_left
  exact ⟨x, hes ▸ hperf, hx, hw⟩

theorem By.operations_eq {d : Deed ω} (h : d.By c) : d.after.operations = d.before.operations ++ [d.op] := by
  obtain ⟨x, hperf, -⟩ := h.performs c.keeps_any trivial
  exact hperf.operations

theorem By.events_eq {d : Deed ω} (h : d.By c) : d.after.events = d.before.events ++ d.events := by
  obtain ⟨x, hperf, -⟩ := h.performs c.keeps_any trivial
  exact hperf.events

/-- An authentication schedules nothing. -/
theorem By.plan_eq {d : Deed ω} (h : d.By c) (hop : d.op = .authenticate) : d.after.plan = d.before.plan.tail := by
  obtain ⟨x, hperf, -⟩ := h.performs c.keeps_any trivial
  obtain ⟨ops, hcourse, hplan⟩ := hperf.course
  rw [hop] at hcourse
  obtain ⟨rfl, -⟩ := Flow.course_authenticate hcourse
  exact hplan

end Deed

/-- Deeds that lead from one session to another, one after the other; only the last one may be stopped. -/
inductive Stretch (c : Counterpart ω) : Session ω → List (Deed ω) → Except Stop Unit → Session ω → Prop
  | nil {s : Session ω} : Stretch c s [] (.ok ()) s
  | stopped {d : Deed ω} {x : Stop} : d.By c → d.result = .error x → Stretch c d.before [d] (.error x) d.after
  | cons {d : Deed ω} {ds : List (Deed ω)} {r : Except Stop Unit} {t : Session ω} : d.By c → d.result = .ok () →
      Stretch c d.after ds r t → Stretch c d.before (d :: ds) r t

namespace Stretch

variable {s t : Session ω} {ds : List (Deed ω)} {r : Except Stop Unit}

theorem by_mem (h : Stretch c s ds r t) : ∀ d ∈ ds, d.By c := by
  induction h with
  | nil => simp
  | stopped hd _ => simpa using hd
  | cons hd _ _ ih => exact List.forall_mem_cons.2 ⟨hd, ih⟩

theorem operations (h : Stretch c s ds r t) : t.operations = s.operations ++ ds.map Deed.op := by
  induction h with
  | nil => simp
  | stopped hd _ => exact hd.operations_eq
  | cons hd _ _ ih => rw [ih, hd.operations_eq]; simp

theorem events (h : Stretch c s ds r t) : t.events = s.events ++ ds.flatMap Deed.events := by
  induction h with
  | nil => simp
  | stopped hd _ => simpa using hd.events_eq
  | cons hd _ _ ih => rw [ih, hd.events_eq]; simp

theorem last_of_error {x : Stop} (h : Stretch c s ds (.error x) t) :
    ∃ d ∈ ds, d.By c ∧ d.result = .error x ∧ d.after = t := by
  generalize hr : (Except.error x : Except Stop Unit) = r at h
  induction h with
  | nil => simp at hr
  | stopped hd hx => exact ⟨_, by simp, hd, hr ▸ hx, rfl⟩
  | cons _ _ _ ih =>
    obtain ⟨d, hmem, hd⟩ := ih hr
    exact ⟨d, List.mem_cons_of_mem _ hmem, hd⟩

theorem before_eq {d : Deed ω} (h : Stretch c s (d :: ds) r t) : d.before = s := by
  cases h <;> rfl

/-- An operation that another one follows was not stopped, and left the session as the other one found it. -/
theorem adjacent {first rest : List (Deed ω)} {d d' : Deed ω} (h : Stretch c s ds r t)
    (hds : ds = first ++ d :: d' :: rest) : d.result = .ok () ∧ d'.before = d.after := by
  induction h generalizing first with
  | nil => simp at hds
  | stopped _ _ => cases first <;> simp at hds
  | cons hd hok hrest ih =>
    rcases first with _ | ⟨d₀, first⟩
    · obtain ⟨rfl, rfl⟩ := List.cons.inj hds
      exact ⟨hok, hrest.before_eq⟩
    · exact ih (List.cons.inj hds).2

/-- Authentications are taken off the front of the plan. -/
theorem plan_eq (h : Stretch c s ds r t) (hops : ∀ d ∈ ds, d.op = .authenticate) :
    s.plan = ds.map Deed.op ++ t.plan := by
  induction h with
  | nil => rfl
  | stopped hd _ => rw [hd.plan_eq (hops _ (by simp))]; exact hd.next
  | cons hd _ _ ih =>
    obtain ⟨hop, hrest⟩ := List.forall_mem_cons.1 hops
    have htail := ih hrest
    rw [hd.plan_eq hop] at htail
    rw [List.map_cons, List.cons_append, ← htail]
    exact hd.next

end Stretch

/-! ## the two loops -/

theorem authenticateFirst_stretch (c : Counterpart ω) : ∀ n (s : Session ω), s.plan.length ≤ n →
    ∃ ds, Stretch c s ds (authenticateFirst c n s).1 (authenticateFirst c n s).2 ∧ (∀ d ∈ ds, d.op = .authenticate) ∧
      ((authenticateFirst c n s).1 = .ok () → (authenticateFirst c n s).2.plan.head? ≠ some .authenticate) := by
  intro n
  induction n with
  | zero =>
    intro s hn
    have hp : s.plan = [] := List.length_eq_zero_iff.1 (by omega)
    exact ⟨[], .nil, by simp, by simp [authenticateFirst, hp]⟩
  | succ n ih =>
    intro s hn
    by_cases hhead : s.plan.head? = some .authenticate
    · obtain ⟨rest, hp⟩ := List.head?_eq_some_iff.1 hhead
      rcases hd : dispatch c .authenticate { s with plan := rest } with ⟨r, u⟩
      have hdeed : Deed.By c ⟨.authenticate, s, r, u⟩ := ⟨by simp [hp], by simpa [hp] using hd⟩
      rcases r with x | ⟨⟩
      · have hr : authenticateFirst c (n + 1) s = (.error x, u) := by simp [authenticateFirst, hp, hd]
        rw [hr]
        exact ⟨[_], .stopped hdeed rfl, by simp, by simp⟩
      · have hr : authenticateFirst c (n + 1) s = authenticateFirst c n u := by simp [authenticateFirst, hp, hd]
        -- the plan gets shorter
        have hu : u.plan.length ≤ n := by
          have hplan : u.plan = rest := by simpa [hp] using hdeed.plan_eq rfl
          rw [hp, List.length_cons] at hn
          rw [hplan]
          exact Nat.le_of_succ_le_succ hn
        obtain ⟨ds, hds, hop, hok⟩ := ih u hu
        rw [hr]
        exact ⟨_ :: ds, .cons hdeed rfl hds, List.forall_mem_cons.2 ⟨rfl, hop⟩, hok⟩
    · have hr : authenticateFirst c (n + 1) s = (.ok (), s) := by
        rcases hp : s.plan with _ | ⟨op, rest⟩
        · simp [authenticateFirst, hp]
        · rw [hp] at hhead
          cases op <;> simp [authenticateFirst, hp] at hhead ⊢
      rw [hr]
      exact ⟨[], .nil, by simp, fun _ => hhead⟩

/-- The session once `quit` is taken off its plan. -/
def quitted (s : Session ω) : Session ω :=
  { s with plan := s.plan.pop.2, operations := s.operations ++ [.quit] }

theorem operate_of_quit {s : Session ω} (h : s.plan.pop.1 = .quit) (n : Nat) :
    operate c (n + 1) s = (.finished, s.quitted) := by
  simp [operate, h, quitted]

/-- How the plan is worked off: a deed is stopped, no more deeds may follow, or `quit` is reached. -/
inductive Operated (c : Counterpart ω) (s : Session ω) (ds : List (Deed ω)) : Ending → Session ω → Prop
  | stopped {x : Stop} {t : Session ω} : Stretch c s ds (.error x) t → Operated c s ds (.stopped x) t
  | unfinished {t : Session ω} : Stretch c s ds (.ok ()) t → Operated c s ds .unfinished t
  | finished {t : Session ω} : Stretch c s ds (.ok ()) t → t.plan.pop.1 = .quit →
      Operated c s ds .finished t.quitted

theorem operate_operated (c : Counterpart ω) : ∀ n (s : Session ω),
    ∃ ds, (∀ d ∈ ds, d.op ≠ .quit) ∧ Operated c s ds (operate c n s).1 (operate c n s).2 := by
  intro n
  induction n with
  | zero => exact fun s => ⟨[], by simp, .unfinished .nil⟩
  | succ n ih =>
    intro s
    by_cases hquit : s.plan.pop.1 = .quit
    · rw [operate_of_quit hquit]
      exact ⟨[], by simp, .finished .nil hquit⟩
    · obtain ⟨op, rest, hp⟩ : ∃ op rest, s.plan = op :: rest := by
        rcases hp : s.plan with _ | ⟨op, rest⟩
        · simp [hp, Plan.pop] at hquit
        · exact ⟨op, rest, rfl⟩
      have hop : op ≠ .quit := by simpa [hp, Plan.pop] using hquit
      rcases hd : dispatch c op { s with plan := rest } with ⟨r, u⟩
      have hdeed : Deed.By c ⟨op, s, r, u⟩ := ⟨by simp [hp], by simpa [hp] using hd⟩
      rcases r with x | ⟨⟩
      · have hr : operate c (n + 1) s = (.stopped x, u) := by simp [operate, hp, Plan.pop, hop, hd]
        rw [hr]
        exact ⟨[⟨op, s, .error x, u⟩], by simpa using hop, .stopped (.stopped hdeed rfl)⟩
      · have hr : operate c (n + 1) s = operate c n u := by simp [operate, hp, Plan.pop, hop, hd]
        obtain ⟨ds, hops, hds⟩ := ih u
        rw [hr]
        refine ⟨⟨op, s, .ok (), u⟩ :: ds, List.forall_mem_cons.2 ⟨hop, hops⟩, ?_⟩
        generalize operate c n u = q at hds ⊢
        obtain ⟨e, t⟩ := q
        cases hds with
        | stopped h => exact .stopped (.cons hdeed rfl h)
        | unfinished h => exact .unfinished (.cons hdeed rfl h)
        | finished h hq => exact .finished (.cons hdeed rfl h) hq

/-! ## whole runs -/

/-- The authentications `early` at the front of the plan lead from `s` to `t`. -/
structure Opening (c : Counterpart ω) (s : Session ω) (early : List (Deed ω)) (r : Except Stop Unit)
    (t : Session ω) : Prop where
  stretch : Stretch c s early r t
  authenticate : ∀ d ∈ early, d.op = .authenticate
  done : r = .ok () → t.plan.head? ≠ some .authenticate

/-- A run from `s`, and where it ends. -/
inductive History (c : Counterpart ω) (s : Session ω) : List (Deed ω) → List (Deed ω) → Ending → Session ω → Prop
  | refused {early : List (Deed ω)} {x : Stop} {t : Session ω} : Opening c s early (.error x) t →
      History c s early [] (.stopped x) t
  | unwelcomed {early : List (Deed ω)} {x : Stop} {t u : Session ω} : Opening c s early (.ok ()) t →
      notify c .welcome t = (.error x, u) → History c s early [] (.stopped x) u
  | worked {early late : List (Deed ω)} {e : Ending} {t u v : Session ω} : Opening c s early (.ok ()) t →
      notify c .welcome t = (.ok (), u) → (∀ d ∈ late, d.op ≠ .quit) → Operated c u late e v → e ≠ .finished →
      History c s early late e v
  | ended {early late : List (Deed ω)} {e : Ending} {t u v z : Session ω} : Opening c s early (.ok ()) t →
      notify c .welcome t = (.ok (), u) → (∀ d ∈ late, d.op ≠ .quit) → Operated c u late .finished v →
      farewell c v = (e, z) → History c s early late e z

theorem Operated.record {s t : Session ω} {ds : List (Deed ω)} {e : Ending} (h : Operated c s ds e t) :
    t.events = s.events ++ ds.flatMap Deed.events ∧
      t.operations = s.operations ++ ds.map Deed.op ++ if e = .finished then [.quit] else [] := by
  cases h with
  | stopped h => exact ⟨h.events, by simp [h.operations]⟩
  | unfinished h => exact ⟨h.events, by simp [h.operations]⟩
  | finished h _ => exact ⟨h.events, by simp [quitted, h.operations]⟩

theorem Operated.stretch {s t : Session ω} {ds : List (Deed ω)} {e : Ending} (h : Operated c s ds e t) :
    ∃ r u, Stretch c s ds r u := by
  cases h with
  | stopped h => exact ⟨_, _, h⟩
  | unfinished h => exact ⟨_, _, h⟩
  | finished h _ => exact ⟨_, _, h⟩

/-- After the opening there is one stretch more, which may be empty. -/
theorem History.stretches {s t : Session ω} {early late : List (Deed ω)} {e : Ending} (h : History c s early late e t) :
    (∃ r u, Opening c s early r u) ∧ ∃ s' r u, Stretch c s' late r u := by
  cases h with
  | refused hopening => exact ⟨⟨_, _, hopening⟩, s, _, _, .nil⟩
  | unwelcomed hopening _ => exact ⟨⟨_, _, hopening⟩, s, _, _, .nil⟩
  | worked hopening _ _ hlate _ => exact ⟨⟨_, _, hopening⟩, _, hlate.stretch⟩
  | ended hopening _ _ hlate _ => exact ⟨⟨_, _, hopening⟩, _, hlate.stretch⟩

theorem History.by_mem {s t : Session ω} {early late : List (Deed ω)} {e : Ending} (h : History c s early late e t) :
    ∀ d ∈ early ++ late, d.By c := by
  obtain ⟨⟨r, u, hopening⟩, s', r', u', hlate⟩ := h.stretches
  exact List.forall_mem_append.2 ⟨hopening.stretch.by_mem, hlate.by_mem⟩

/-- An operation that another one follows was not stopped, and unless it is an authentication, it left the session as the
other one found it. -/
theorem History.adjacent {s t : Session ω} {early late first rest : List (Deed ω)} {d d' : Deed ω} {e : Ending}
    (h : History c s early late e t) (hds : early ++ late = first ++ d :: d' :: rest) (hop : d.op ≠ .authenticate) :
    d.result = .ok () ∧ d'.before = d.after := by
  obtain ⟨⟨r, u, hopening⟩, s', r', u', hlate⟩ := h.stretches
  -- the first of the two does not belong to the opening
  obtain ⟨first', hfirst⟩ : ∃ first', late = first' ++ d :: d' :: rest := by
    rcases List.append_eq_append_iff.1 hds with ⟨first', -, hlate⟩ | ⟨first', hearly, hrest⟩
    · exact ⟨first', hlate⟩
    · rcases first' with _ | ⟨d₀, first'⟩
      · exact ⟨[], hrest.symm⟩
      · obtain ⟨rfl, -⟩ := List.cons.inj hrest
        exact absurd (hopening.authenticate d (by simp [hearly])) hop
  exact hlate.adjacent hfirst

/-- What is said before the deeds that follow the opening; there are none if it is stopped. -/
inductive Greeting (c : Counterpart ω) (s : Session ω) (early late : List (Deed ω)) : List Event → Prop
  | none {x : Stop} {t : Session ω} : Opening c s early (.error x) t → late = [] → Greeting c s early late []
  | welcome {t : Session ω} {a : Option Unit} : Opening c s early (.ok ()) t →
      Greeting c s early late [⟨.notify .welcome, a⟩]

/-- What is said at the end. -/
inductive Parting : Ending → List Event → Prop
  | none {e : Ending} : e ≠ .finished → Parting e []
  | unheard {f : Fault} : Parting (.stopped (.fault f)) [⟨.notify .goodbye, Option.none⟩]
  | goodbye : Parting .finished [⟨.notify .goodbye, some ()⟩]

/-- Apart from the events of the deeds there are only the welcome and the farewell. -/
theorem History.record {s t : Session ω} {early late : List (Deed ω)} {e : Ending} (h : History c s early late e t) :
    ∃ greeting parting, Greeting c s early late greeting ∧ Parting e parting ∧
      t.events = s.events ++ early.flatMap Deed.events ++ greeting ++ late.flatMap Deed.events ++ parting := by
  have welcomed {t u : Session ω} {r : Except Stop Unit} (hn : notify c .welcome t = (r, u)) :
      ∃ a, u.events = t.events ++ [⟨.notify .welcome, a⟩] := by
    obtain ⟨f, -, hnotified⟩ | ⟨-, hnotified⟩ := notified_of_notify hn <;> exact ⟨_, hnotified.events⟩
  cases h with
  | refused hopening => exact ⟨[], [], .none hopening rfl, .none (by simp), by simpa using hopening.stretch.events⟩
  | unwelcomed hopening hn =>
    obtain ⟨a, ha⟩ := welcomed hn
    exact ⟨[⟨.notify .welcome, a⟩], [], .welcome hopening, .none (by simp),
      by simpa [hopening.stretch.events] using ha⟩
  | worked hopening hn _ hlate he =>
    obtain ⟨a, ha⟩ := welcomed hn
    exact ⟨[⟨.notify .welcome, a⟩], [], .welcome hopening, .none he,
      by simp [hlate.record.1, ha, hopening.stretch.events]⟩
  | ended hopening hn _ hlate hfarewell =>
    obtain ⟨a, ha⟩ := welcomed hn
    obtain ⟨f, rfl, hparted⟩ | ⟨rfl, hparted⟩ := notified_of_farewell hfarewell
    · exact ⟨[⟨.notify .welcome, a⟩], _, .welcome hopening, .unheard,
        by simp [hparted.events, hlate.record.1, ha, hopening.stretch.events]⟩
    · exact ⟨[⟨.notify .welcome, a⟩], _, .welcome hopening, .goodbye,
        by simp [hparted.events, hlate.record.1, ha, hopening.stretch.events]⟩

/-- **Every run has a history.** -/
theorem run_history (c : Counterpart ω) (n : Nat) (s : Session ω) :
    ∃ early late, History c s early late (run c n s).1 (run c n s).2 := by
  obtain ⟨early, hstretch, hauth, hdone⟩ := authenticateFirst_stretch c s.plan.length s (Nat.le_refl _)
  rcases hd : authenticateFirst c s.plan.length s with ⟨x | ⟨⟩, t⟩ <;> rw [hd] at hstretch hdone
  · have hr : run c n s = (.stopped x, t) := by simp only [run]; rw [hd]
    rw [hr]
    exact ⟨early, [], .refused ⟨hstretch, hauth, hdone⟩⟩
  · have hr : run c n s = proceed c n t := by simp only [run]; rw [hd]
    have hopening : Opening c s early (.ok ()) t := ⟨hstretch, hauth, hdone⟩
    rw [hr]
    rcases hn : notify c .welcome t with ⟨x | ⟨⟩, u⟩
    · have hp : proceed c n t = (.stopped x, u) := by simp only [proceed]; rw [hn]
      rw [hp]
      exact ⟨early, [], .unwelcomed hopening hn⟩
    · obtain ⟨late, hops, hlate⟩ := operate_operated c n u
      rcases ho : operate c n u with ⟨e, v⟩
      rw [ho] at hlate
      by_cases he : e = .finished
      · subst he
        have hp : proceed c n t = farewell c v := by simp only [proceed]; rw [hn]; simp only [ho]
        rw [hp]
        exact ⟨early, late, .ended hopening hn hops hlate rfl⟩
      · have hp : proceed c n t = (e, v) := by
          simp only [proceed]
          rw [hn]
          cases e <;> simp_all
        rw [hp]
        exact ⟨early, late, .worked hopening hn hops hlate he⟩

end KitConsole.Session
