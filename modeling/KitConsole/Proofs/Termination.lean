import KitConsole.Offline
import KitConsole.Proofs.History
import KitConsole.Scripted

/-!
# Sessions come to an end

* `Operation.weight`, `Plan.weight` — how many operations an operation, and a plan, is good for while the user says no.
* `yeses` — how many questions of a record were answered with yes.
* `weight_of_course` — an operation outweighs what it schedules, but for three each time the user says yes.
* `Stretch.weight_le`, `History.length_le` — so every operation of a run is paid for by the plan or by a yes.
* `operate_of_le`, `run_of_le` — a run that has ended is the same however many more operations it might take.
* `Reached`, `run_ends` — a run ends within six operations for each one of its plan, three for each yes, and one more;
  it is finished only when `quit` comes up or the plan is empty.
-/

namespace KitConsole

/-! ## weights -/

/-- The operations that this one can lead to, itself included, while the user says no. -/
def Operation.weight : Operation → Nat
  | mainMenu => 6
  | listAndChoose => 5
  | chooseAction => 4
  | collectFields => 3
  | _ => 1

def Plan.weight : Plan → Nat
  | [] => 0
  | op :: plan => op.weight + weight plan

namespace Plan

@[simp] theorem weight_nil : weight [] = 0 := rfl

@[simp] theorem weight_cons (op : Operation) (plan : Plan) : weight (op :: plan) = op.weight + weight plan := rfl

@[simp] theorem weight_append (ops plan : Plan) : weight (ops ++ plan) = weight ops + weight plan := by
  induction ops with
  | nil => simp
  | cons op ops ih =>
    rw [List.cons_append, weight_cons, ih, weight_cons]
    omega

theorem weight_le (plan : Plan) : weight plan ≤ 6 * plan.length := by
  induction plan with
  | nil => exact Nat.le_refl 0
  | cons op plan ih =>
    have hop : op.weight ≤ 6 := by cases op <;> decide
    rw [weight_cons, List.length_cons]
    omega

end Plan

/-- The event is a question that was answered with yes. -/
def Event.isYes : Event → Bool
  | ⟨.confirm _, some answer⟩ => answer
  | _ => false

namespace Flow

open Dialogue

variable {A : Answers} {op : Operation} {es es' : List Event} {ops : List Operation}

/-- How many questions were answered with yes. -/
def yeses (es : List Event) : Nat := es.countP Event.isYes

@[simp] theorem yeses_append : yeses (es ++ es') = yeses es + yeses es' := List.countP_append

/-! ## one operation -/

theorem weight_mainMenu : ∀ i : Fin mainMenu.labels.length, (mainMenu.value i).weight ≤ 5 := by
  decide

theorem weight_follow : ∀ i : Fin actionMenu.labels.length, Plan.weight (follow (actionMenu.value i)) ≤ 3 := by
  decide

theorem weight_of_offering {ids : List String} {x : Except Stop Json} (h : Offering A ids es ops x) :
    Plan.weight ops ≤ 4 := by
  cases h with
  | @asked create _ => cases create <;> decide
  | _ => decide

theorem weight_of_listing {x : Except Stop Json} (h : Listing A es ops x) : Plan.weight ops ≤ 4 := by
  cases h with
  | listed _ _ _ ho => exact weight_of_offering ho
  | _ => decide

theorem weight_afterFields (id : Json) : Plan.weight (afterFields id) ≤ 2 := by
  unfold afterFields
  split <;> decide

/-- Only three steps schedule anything but by an answer to a menu. -/
theorem eq_nil_of_course {last : Json} {x : Except Stop Json} (hop : op ∈ [.authenticate, .view, .save, .delete])
    (h : (step op last).Course A es ops x) : ops = [] := by
  have hnoKit (h : (notify noKitSelected >>= fun _ => done Json.null).Course A es ops x) : ops = [] := by
    rw [notify_bind] at h
    rcases h with ⟨f, -, -, rfl, -⟩ | ⟨u, es', -, ⟨-, rfl, -⟩, -⟩ <;> rfl
  simp only [List.mem_cons, List.not_mem_nil, or_false] at hop
  rcases hop with rfl | rfl | rfl | rfl
  · exact (course_authenticate h).1
  · cases hid : last.isNull with
    | true =>
      rw [step, view, hid, if_pos rfl] at h
      exact hnoKit h
    | false => exact (course_view hid h).1
  · cases hfields : fieldsOf last with
    | error f =>
      rw [step, save, hfields] at h
      exact h.2.1
    | ok fields => exact (course_save hfields h).1
  · cases hid : last.isNull with
    | true =>
      rw [step, delete, hid, if_pos rfl] at h
      exact hnoKit h
    | false => exact (course_delete hid h).1

/-- **An operation outweighs what it schedules**, but for three each time the user says yes. -/
theorem weight_of_course {last : Json} {x : Except Stop Json} (hop : op ≠ .quit)
    (h : (step op last).Course A es ops x) : Plan.weight ops + 1 ≤ op.weight + 3 * yeses es := by
  cases op with
  | quit => exact absurd rfl hop
  | mainMenu =>
    rcases course_chooseOperation h with ⟨f, -, -, rfl, -⟩ | ⟨i, -, -, rfl, -⟩
    · simp only [Plan.weight_nil, Operation.weight]
      omega
    · have hi := weight_mainMenu i
      simp only [Plan.weight_cons, Plan.weight_nil, Operation.weight] at hi ⊢
      omega
  | listAndChoose =>
    have hops := weight_of_listing (course_listAndChoose h)
    simp only [Operation.weight]
    omega
  | chooseAction =>
    rcases course_chooseAction h with ⟨f, -, -, rfl, -⟩ | ⟨i, -, -, rfl, -⟩
    · simp only [Plan.weight_nil, Operation.weight]
      omega
    · have hi := weight_follow i
      simp only [Operation.weight]
      omega
  | afterView =>
    -- a yes pays for the editing that it leads to
    rcases course_afterView h with ⟨f, -, -, rfl, -⟩ | ⟨edit, -, rfl, rfl, -⟩
    · simp [Operation.weight]
    · cases edit <;> decide
  | collectFields =>
    obtain ⟨rfl, -⟩ := course_collectFields h
    have hid := weight_afterFields last
    simp only [Operation.weight]
    omega
  | _ =>
    obtain rfl := eq_nil_of_course (by simp) h
    simp [Operation.weight]

end Flow

namespace Session

open KitConsole.Flow

variable {ω : Type} {c : Counterpart ω} {s t : Session ω}

/-! ## deeds -/

theorem Deed.By.weight_le {d : Deed ω} (h : d.By c) (hop : d.op ≠ .quit) :
    d.after.plan.weight + 1 ≤ d.before.plan.weight + 3 * yeses d.events := by
  obtain ⟨x, hperf, -⟩ := h.performs c.keeps_any trivial
  obtain ⟨ops, hcourse, hplan⟩ := hperf.course
  have hstep := weight_of_course hop hcourse
  have hbefore : d.before.plan.weight = d.op.weight + Plan.weight d.before.plan.tail := by
    rw [← Plan.weight_cons, ← h.next]
  have hafter : d.after.plan.weight = Plan.weight ops + Plan.weight d.before.plan.tail := by
    rw [hplan, Plan.weight_append]
  omega

/-- The operations of a stretch are paid for by the plan and the yeses. -/
theorem Stretch.weight_le {ds : List (Deed ω)} {r : Except Stop Unit} (h : Stretch c s ds r t)
    (hops : ∀ d ∈ ds, d.op ≠ .quit) :
    ds.length + t.plan.weight ≤ s.plan.weight + 3 * yeses (ds.flatMap Deed.events) := by
  induction h with
  | nil => simp
  | @stopped d x hd _ =>
    have hdeed := hd.weight_le (hops d (by simp))
    simp only [List.length_singleton, List.flatMap_singleton]
    omega
  | @cons d ds r t hd _ _ ih =>
    obtain ⟨hop, hrest⟩ := List.forall_mem_cons.1 hops
    have hdeed := hd.weight_le hop
    have hds := ih hrest
    simp only [List.length_cons, List.flatMap_cons, yeses_append]
    omega

/-! ## runs -/

theorem History.length_le {early late : List (Deed ω)} {e : Ending} (h : History c s early late e t) :
    early.length + late.length + 3 * yeses s.events ≤ s.plan.weight + 3 * yeses t.events := by
  have opened {r : Except Stop Unit} {u : Session ω} (h : Opening c s early r u) :
      early.length + u.plan.weight ≤ s.plan.weight + 3 * yeses (early.flatMap Deed.events) :=
    h.stretch.weight_le fun d hd => by rw [h.authenticate d hd]; simp
  obtain ⟨greeting, parting, -, -, hevents⟩ := h.record
  have hyeses := congrArg yeses hevents
  simp only [yeses_append] at hyeses
  have worked {u v z : Session ω} {e : Ending} (h : Opening c s early (.ok ()) u)
      (hn : notify c .welcome u = (.ok (), v)) (hops : ∀ d ∈ late, d.op ≠ .quit) (hlate : Operated c v late e z) :
      early.length + late.length + 3 * yeses s.events ≤ s.plan.weight + 3 * yeses t.events := by
    obtain ⟨r', z', hstretch⟩ := hlate.stretch
    have hearly := opened h
    have hrest := hstretch.weight_le hops
    rw [(notified_of_ok hn).plan] at hrest
    omega
  cases h with
  | refused hopening =>
    have hearly := opened hopening
    simp only [List.length_nil]
    omega
  | unwelcomed hopening _ =>
    have hearly := opened hopening
    simp only [List.length_nil]
    omega
  | worked hopening hn hops hlate _ => exact worked hopening hn hops hlate
  | ended hopening hn hops hlate _ => exact worked hopening hn hops hlate

/-- A run takes the operations of its deeds, and perhaps `quit`; not if it is cut short. -/
theorem History.length_operations_le {early late : List (Deed ω)} {e : Ending} (h : History c s early late e t) :
    t.operations.length ≤ s.operations.length + early.length + late.length + if e = .unfinished then 0 else 1 := by
  have opened {r : Except Stop Unit} {u : Session ω} (h : Opening c s early r u) :
      u.operations.length = s.operations.length + early.length := by
    rw [h.stretch.operations, List.length_append, List.length_map]
  have worked {u v z : Session ω} {e : Ending} (h : Opening c s early (.ok ()) u)
      (hn : notify c .welcome u = (.ok (), v)) (hlate : Operated c v late e z) : z.operations.length =
        s.operations.length + early.length + late.length + if e = .finished then 1 else 0 := by
    rw [hlate.record.2, List.length_append, List.length_append, List.length_map, (notified_of_ok hn).operations, opened h]
    split <;> rfl
  cases h with
  | refused hopening =>
    rw [opened hopening, List.length_nil]
    omega
  | unwelcomed hopening hn =>
    obtain ⟨f, -, hn⟩ | ⟨hf, -⟩ := notified_of_notify hn
    · rw [hn.operations, opened hopening, List.length_nil]
      omega
    · simp at hf
  | worked hopening hn _ hlate he =>
    rw [worked hopening hn hlate, if_neg he]
    omega
  | ended hopening hn _ hlate hfarewell =>
    have hlength := worked hopening hn hlate
    rw [if_pos rfl] at hlength
    obtain ⟨f, rfl, hparted⟩ | ⟨rfl, hparted⟩ := notified_of_farewell hfarewell <;>
      · have hsame := congrArg List.length hparted.operations
        rw [if_neg (by simp)]
        omega

/-! ## runs of more operations -/

/-- The next operation of the plan: `quit`, or a deed that is stopped or goes before the rest of the work. -/
theorem operate_succ (c : Counterpart ω) (s : Session ω) :
    (s.plan.pop.1 = .quit ∧ ∀ n, operate c (n + 1) s = (.finished, s.quitted)) ∨
    ∃ d : Deed ω, d.before = s ∧ d.By c ∧ d.op ≠ .quit ∧
      ((∃ x, d.result = .error x ∧ ∀ n, operate c (n + 1) s = (.stopped x, d.after)) ∨
      (d.result = .ok () ∧ ∀ n, operate c (n + 1) s = operate c n d.after)) := by
  by_cases hquit : s.plan.pop.1 = .quit
  · exact .inl ⟨hquit, operate_of_quit hquit⟩
  · obtain ⟨op, rest, hp⟩ : ∃ op rest, s.plan = op :: rest := by
      rcases hp : s.plan with _ | ⟨op, rest⟩
      · simp [hp, Plan.pop] at hquit
      · exact ⟨op, rest, rfl⟩
    have hop : op ≠ .quit := by simpa [hp, Plan.pop] using hquit
    rcases hd : dispatch c op { s with plan := rest } with ⟨r, u⟩
    have hdeed : Deed.By c ⟨op, s, r, u⟩ := ⟨by simp [hp], by simpa [hp] using hd⟩
    refine .inr ⟨⟨op, s, r, u⟩, rfl, hdeed, hop, ?_⟩
    cases r with
    | error x => exact .inl ⟨x, rfl, fun n => by simp [operate, hp, Plan.pop, hop, hd]⟩
    | ok _ => exact .inr ⟨rfl, fun n => by simp [operate, hp, Plan.pop, hop, hd]⟩

theorem operate_of_le {n m : Nat} (h : (operate c n s).1 ≠ .unfinished) (hnm : n ≤ m) :
    operate c m s = operate c n s := by
  induction n generalizing s m with
  | zero => exact absurd rfl h
  | succ n ih =>
    obtain ⟨m, rfl⟩ : ∃ k, m = k + 1 := ⟨m - 1, by omega⟩
    rcases operate_succ c s with ⟨-, hquit⟩ | ⟨d, rfl, -, -, ⟨x, -, hstopped⟩ | ⟨-, hgoes⟩⟩
    · rw [hquit, hquit]
    · rw [hstopped, hstopped]
    · rw [hgoes] at h
      rw [hgoes, hgoes]
      exact ih h (Nat.le_of_succ_le_succ hnm)

/-- Work that is cut short has taken all the operations that it might take. -/
theorem length_operations_operate {n : Nat} (h : (operate c n s).1 = .unfinished) :
    (operate c n s).2.operations.length = s.operations.length + n := by
  induction n generalizing s with
  | zero => rfl
  | succ n ih =>
    rcases operate_succ c s with ⟨-, hquit⟩ | ⟨d, rfl, hd, -, ⟨x, -, hstopped⟩ | ⟨-, hgoes⟩⟩
    · simp [hquit] at h
    · simp [hstopped] at h
    · rw [hgoes] at h ⊢
      rw [ih h, hd.operations_eq, List.length_append, List.length_singleton]
      omega

/-- A run is stopped before its plan is worked on, or it is the work on its plan with the farewell. -/
theorem run_eq (c : Counterpart ω) (s : Session ω) :
    (∃ x t, ∀ n, run c n s = (.stopped x, t)) ∨
    ∃ v, s.operations.length ≤ v.operations.length ∧ ∀ n, run c n s =
      match operate c n v with
      | (.finished, z) => farewell c z
      | r => r := by
  obtain ⟨early, hstretch, -⟩ := authenticateFirst_stretch c s.plan.length s (Nat.le_refl _)
  rcases hd : authenticateFirst c s.plan.length s with ⟨x | ⟨⟩, u⟩ <;> rw [hd] at hstretch
  · refine .inl ⟨x, u, fun n => ?_⟩
    simp only [run]
    rw [hd]
  · have hopened : ∀ n, run c n s = proceed c n u := by
      intro n
      simp only [run]
      rw [hd]
    have hlength : s.operations.length ≤ u.operations.length := by
      rw [hstretch.operations, List.length_append]
      exact Nat.le_add_right _ _
    rcases hn : notify c .welcome u with ⟨x | ⟨⟩, v⟩
    · refine .inl ⟨x, v, fun n => ?_⟩
      rw [hopened, proceed, hn]
    · refine .inr ⟨v, ?_, fun n => ?_⟩
      · rw [(notified_of_ok hn).operations]
        exact hlength
      · have hworked := hopened n
        rw [proceed, hn] at hworked
        exact hworked

theorem run_of_le {n m : Nat} (h : (run c n s).1 ≠ .unfinished) (hnm : n ≤ m) : run c m s = run c n s := by
  rcases run_eq c s with ⟨x, t, hrun⟩ | ⟨v, -, hrun⟩
  · rw [hrun, hrun]
  · have hworked : (operate c n v).1 ≠ .unfinished := by
      intro hv
      rw [hrun] at h
      rcases ho : operate c n v with ⟨e, z⟩
      rw [ho] at hv h
      obtain rfl : e = .unfinished := hv
      exact h rfl
    rw [hrun, hrun, operate_of_le hworked hnm]

theorem farewell_ne_unfinished (c : Counterpart ω) (s : Session ω) : (farewell c s).1 ≠ .unfinished := by
  rcases hfarewell : farewell c s with ⟨e, t⟩
  obtain ⟨f, rfl, -⟩ | ⟨rfl, -⟩ := notified_of_farewell hfarewell <;> simp

theorem le_length_operations_run {n : Nat} (h : (run c n s).1 = .unfinished) :
    s.operations.length + n ≤ (run c n s).2.operations.length := by
  rcases run_eq c s with ⟨x, t, hrun⟩ | ⟨v, hv, hrun⟩
  · simp [hrun] at h
  · rcases ho : operate c n v with ⟨e, z⟩
    rw [hrun, ho] at h ⊢
    cases e with
    | finished => exact absurd h (farewell_ne_unfinished c z)
    | stopped x => simp at h
    | unfinished =>
      have hlength := length_operations_operate (congrArg Prod.fst ho)
      rw [ho] at hlength
      change z.operations.length = _ at hlength
      change _ ≤ z.operations.length
      omega

/-! ## the end of a run -/

/-- The authentications `early` and the deeds `late` lead up to `u`, with the welcome between them and no `quit`. -/
structure Reached (c : Counterpart ω) (s : Session ω) (early late : List (Deed ω)) (u : Session ω) : Prop where
  welcomed : ∃ t v, Opening c s early (.ok ()) t ∧ notify c .welcome t = (.ok (), v) ∧ Stretch c v late (.ok ()) u
  working : ∀ d ∈ late, d.op ≠ .quit

/-- A run is finished by the farewell, once `quit` comes up or nothing is left to do. -/
theorem History.reached {early late : List (Deed ω)} (h : History c s early late .finished t) :
    ∃ u, Reached c s early late u ∧ (u.plan = [] ∨ u.plan.head? = some .quit) ∧
      farewell c u.quitted = (.finished, t) := by
  cases h with
  | worked _ _ _ _ he => exact absurd rfl he
  | ended hopening hn hops hlate hfarewell =>
    cases hlate with
    | @finished u hstretch hquit =>
      refine ⟨u, ⟨⟨_, _, hopening, hn, hstretch⟩, hops⟩, ?_, hfarewell⟩
      rcases hplan : u.plan with _ | ⟨op, rest⟩
      · exact .inl rfl
      · rw [hplan] at hquit
        exact .inr (congrArg some hquit)

/-- **A run ends**, if the user says yes no more than `y` times in it: however many operations it might take, it takes at
most six for each one of its plan, three for each yes, and one more; and it is finished only when `quit` comes up or the
plan is empty. -/
theorem run_ends (c : Counterpart ω) (s : Session ω) {y : Nat}
    (hy : yeses (run c (allowance s.plan y) s).2.events ≤ yeses s.events + y) :
    ∃ e t, e ≠ .unfinished ∧ (∀ n, allowance s.plan y ≤ n → run c n s = (e, t)) ∧
      t.operations.length ≤ s.operations.length + (6 * s.plan.length + 3 * y + 1) ∧
      (e = .finished → ∃ early late u, Reached c s early late u ∧ (u.plan = [] ∨ u.plan.head? = some .quit) ∧
        farewell c u.quitted = (.finished, t)) := by
  have hallowance : allowance s.plan y = 6 * s.plan.length + 3 * y + 1 := rfl
  obtain ⟨early, late, h⟩ := run_history c (allowance s.plan y) s
  have hpaid := h.length_le
  have htaken := h.length_operations_le
  have hplan := s.plan.weight_le
  have hended : (run c (allowance s.plan y) s).1 ≠ .unfinished := by
    intro hcut
    have hall := le_length_operations_run hcut
    rw [if_pos hcut] at htaken
    omega
  rw [if_neg hended] at htaken
  refine ⟨(run c (allowance s.plan y) s).1, (run c (allowance s.plan y) s).2, hended,
    fun n hn => run_of_le hended hn, by omega, fun hfinished => ?_⟩
  rw [hfinished] at h
  obtain ⟨u, hreached⟩ := h.reached
  exact ⟨early, late, u, hreached⟩

/-- The one kit is looked at, edited once, and looked at again. -/
def editing : Session (Offline × Scripted.User) where
  plan := [.listAndChoose]
  world := (Offline.withExampleKit {}, { confirms := [true] })

theorem run_ends_editing :
    yeses (run (.of Offline.serve Scripted.surface) (allowance editing.plan 1) editing).2.events ≤
        yeses editing.events + 1 ∧
      ∃ e t, e ≠ .unfinished ∧ (∀ n, 10 ≤ n → run (.of Offline.serve Scripted.surface) n editing = (e, t)) ∧
        t.operations.length ≤ 10 := by
  have hyeses : yeses (run (.of Offline.serve Scripted.surface) (allowance editing.plan 1) editing).2.events ≤
      yeses editing.events + 1 := by decide +kernel
  obtain ⟨e, t, hended, hrun, hlength, -⟩ := run_ends _ editing hyeses
  exact ⟨hyeses, e, t, hended, hrun, hlength⟩

end Session

end KitConsole
