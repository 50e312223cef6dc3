import KitConsole.Proofs.History

/-!
# What a run preserves

* `Preserves A op I` — the operation `op`, carried out to its end, keeps `I`.
* `Stretch.keeps` — what the operations of a stretch preserve holds before every deed, and after the last one.
* `Ended A I₁ I₂` — how a run can end, from states with `I₁` before the welcome and `I₂` after it.
* `run_ended` — every run ends like that if `I₁` and `I₂` are preserved; facts about runs of any length follow from
  facts about one operation by this theorem alone.
-/

namespace KitConsole.Session

variable {ω : Type} {c : Counterpart ω} {W : ω → Prop} {A : Answers} {I I₁ I₂ : Session ω → Prop}

/-! ## stretches -/

/-- The operation `op`, carried out to its end, keeps `I`. -/
def Preserves (A : Answers) (op : Operation) (I : Session ω → Prop) : Prop :=
  ∀ rest s es v s', I s → s.plan = op :: rest → Performs A op { s with plan := rest } es (.ok v) s' → I s'

namespace Stretch

variable {s t : Session ω} {ds : List (Deed ω)} {r : Except Stop Unit}

theorem keeps (hc : c.Keeps W A) (h : Stretch c s ds r t) (hI : ∀ d ∈ ds, Preserves A d.op I) (hs : W s.world)
    (hi : I s) : W t.world ∧ (∀ d ∈ ds, W d.before.world ∧ I d.before) ∧ (r = .ok () → I t) := by
  induction h with
  | nil => exact ⟨hs, by simp, fun _ => hi⟩
  | stopped hd hx =>
    obtain ⟨x, -, -, hw⟩ := hd.performs hc hs
    exact ⟨hw, by simpa using ⟨hs, hi⟩, by simp⟩
  | @cons d ds r t hd hok _ ih =>
    obtain ⟨hId, hIds⟩ := List.forall_mem_cons.1 hI
    obtain ⟨x, hperf, hx, hw⟩ := hd.performs hc hs
    rcases x with x | v
    · simp [hok, Except.map] at hx
    · obtain ⟨hwt, hbefore, hit⟩ := ih hIds hw (hId _ _ _ _ _ hi hd.next hperf)
      exact ⟨hwt, List.forall_mem_cons.2 ⟨⟨hs, hi⟩, hbefore⟩, hit⟩

/-- A stretch that is stopped ends in an operation that is stopped, before which `I` held. -/
theorem stopped_performs (hc : c.Keeps W A) {x : Stop} (h : Stretch c s ds (.error x) t)
    (hI : ∀ d ∈ ds, Preserves A d.op I) (hs : W s.world) (hi : I s) : ∃ d ∈ ds, I d.before ∧
      d.before.plan = d.op :: d.before.plan.tail ∧
      Performs A d.op { d.before with plan := d.before.plan.tail } d.events (.error x) t := by
  obtain ⟨d, hmem, hd, hx, rfl⟩ := h.last_of_error
  obtain ⟨-, hbefore, -⟩ := h.keeps hc hI hs hi
  obtain ⟨hw, hid⟩ := hbefore d hmem
  obtain ⟨y, hperf, hy, -⟩ := hd.performs hc hw
  rcases y with y | v
  · obtain rfl := Except.error.inj (hx.symm.trans hy)
    exact ⟨d, hmem, hid, hd.next, hperf⟩
  · simp [hx, Except.map] at hy

end Stretch

/-! ## whole runs -/

/-- How the plan is worked off: an operation is stopped, no more operations may be taken, or `quit` is reached. -/
inductive Worked (A : Answers) (I : Session ω → Prop) : Ending → Session ω → Prop
  | stopped {s s' : Session ω} {op : Operation} {rest : Plan} {es : List Event} {x : Stop} : I s →
      s.plan = op :: rest → op ≠ .quit → Performs A op { s with plan := rest } es (.error x) s' →
      Worked A I (.stopped x) s'
  | unfinished {s : Session ω} : I s → Worked A I .unfinished s
  | finished {s s' : Session ω} : I s → s.plan.pop.1 = .quit → s'.plan = s.plan.pop.2 → s'.last = s.last →
      s'.operations = s.operations ++ [.quit] → s'.events = s.events → Worked A I .finished s'

theorem Operated.worked (hc : c.Keeps W A) (hI : ∀ op, op ≠ .quit → Preserves A op I) {s t : Session ω}
    {ds : List (Deed ω)} {e : Ending} (h : Operated c s ds e t) (hops : ∀ d ∈ ds, d.op ≠ .quit) (hs : W s.world)
    (hi : I s) : W t.world ∧ Worked A I e t := by
  have hpreserved : ∀ d ∈ ds, Preserves A d.op I := fun d hd => hI d.op (hops d hd)
  cases h with
  | stopped h =>
    obtain ⟨d, hmem, hid, hp, hperf⟩ := h.stopped_performs hc hpreserved hs hi
    exact ⟨(h.keeps hc hpreserved hs hi).1, .stopped hid hp (hops d hmem) hperf⟩
  | unfinished h =>
    obtain ⟨hw, -, hit⟩ := h.keeps hc hpreserved hs hi
    exact ⟨hw, .unfinished (hit rfl)⟩
  | finished h hq =>
    obtain ⟨hw, -, hit⟩ := h.keeps hc hpreserved hs hi
    exact ⟨hw, .finished (hit rfl) hq rfl rfl rfl rfl⟩

theorem Operated.keeps (hc : c.Keeps W A) (hI : ∀ op, op ≠ .quit → Preserves A op I) {s t : Session ω}
    {ds : List (Deed ω)} {e : Ending} (h : Operated c s ds e t) (hops : ∀ d ∈ ds, d.op ≠ .quit) (hs : W s.world)
    (hi : I s) : ∀ d ∈ ds, W d.before.world ∧ I d.before := by
  obtain ⟨r, u, hstretch⟩ := h.stretch
  exact (hstretch.keeps hc (fun d hd => hI d.op (hops d hd)) hs hi).2.1

/-- What single operations preserve holds before every operation of a run. -/
theorem History.keeps (hc : c.Keeps W A) (h₁ : Preserves A .authenticate I₁)
    (hwelcome : ∀ s s', I₁ s → s.plan.head? ≠ some .authenticate → Notified .welcome s (some ()) s' → I₂ s')
    (h₂ : ∀ op, op ≠ .quit → Preserves A op I₂) {s t : Session ω} {early late : List (Deed ω)} {e : Ending}
    (h : History c s early late e t) (hs : W s.world) (hI : I₁ s) :
    (∀ d ∈ early, W d.before.world ∧ I₁ d.before) ∧ ∀ d ∈ late, W d.before.world ∧ I₂ d.before := by
  have opened {r : Except Stop Unit} {t : Session ω} (h : Opening c s early r t) :
      W t.world ∧ (∀ d ∈ early, W d.before.world ∧ I₁ d.before) ∧ (r = .ok () → I₁ t) :=
    h.stretch.keeps hc (fun d hd => h.authenticate d hd ▸ h₁) hs hI
  have worked {t u v : Session ω} {e : Ending} (h : Opening c s early (.ok ()) t)
      (hn : notify c .welcome t = (.ok (), u)) (hops : ∀ d ∈ late, d.op ≠ .quit) (hlate : Operated c u late e v) :
      ∀ d ∈ late, W d.before.world ∧ I₂ d.before := by
    obtain ⟨hw, -, hit⟩ := opened h
    have hi : I₂ u := hwelcome _ _ (hit rfl) (h.done rfl) (notified_of_ok hn)
    exact hlate.keeps hc h₂ hops (notify_world hc hn hw) hi
  cases h with
  | refused hopening => exact ⟨(opened hopening).2.1, by simp⟩
  | unwelcomed hopening _ => exact ⟨(opened hopening).2.1, by simp⟩
  | worked hopening hn hops hlate _ => exact ⟨(opened hopening).2.1, worked hopening hn hops hlate⟩
  | ended hopening hn hops hlate _ => exact ⟨(opened hopening).2.1, worked hopening hn hops hlate⟩

/-- How a run ends, from states with `I₁` before the welcome and with `I₂` after it. -/
inductive Ended (A : Answers) (I₁ I₂ : Session ω → Prop) : Ending → Session ω → Prop
  | refused {s s' : Session ω} {rest : Plan} {es : List Event} {x : Stop} : I₁ s →
      s.plan = .authenticate :: rest → Performs A .authenticate { s with plan := rest } es (.error x) s' →
      Ended A I₁ I₂ (.stopped x) s'
  | unwelcomed {s s' : Session ω} {f : Fault} : I₁ s → s.plan.head? ≠ some .authenticate →
      A (.notify .welcome) (.error f) → Notified .welcome s none s' → Ended A I₁ I₂ (.stopped (.fault f)) s'
  | worked {e : Ending} {s : Session ω} : e ≠ .finished → Worked A I₂ e s → Ended A I₁ I₂ e s
  | unparted {s s' : Session ω} {f : Fault} : Worked A I₂ .finished s → A (.notify .goodbye) (.error f) →
      Notified .goodbye s none s' → Ended A I₁ I₂ (.stopped (.fault f)) s'
  | finished {s s' : Session ω} : Worked A I₂ .finished s → Notified .goodbye s (some ()) s' →
      Ended A I₁ I₂ .finished s'

/-- **What single operations preserve holds at the end of every run**, whatever its length. -/
theorem run_ended (hc : c.Keeps W A) (h₁ : Preserves A .authenticate I₁)
    (hwelcome : ∀ s s', I₁ s → s.plan.head? ≠ some .authenticate → Notified .welcome s (some ()) s' → I₂ s')
    (h₂ : ∀ op, op ≠ .quit → Preserves A op I₂) (n : Nat) {s : Session ω} (hs : W s.world) (hI : I₁ s) :
    W (run c n s).2.world ∧ Ended A I₁ I₂ (run c n s).1 (run c n s).2 := by
  have opened {early : List (Deed ω)} {r : Except Stop Unit} {t : Session ω} (h : Opening c s early r t) :
      ∀ d ∈ early, Preserves A d.op I₁ := fun d hd => h.authenticate d hd ▸ h₁
  obtain ⟨early, late, h⟩ := run_history c n s
  generalize run c n s = q at h ⊢
  obtain ⟨e, z⟩ := q
  cases h with
  | refused hopening =>
    obtain ⟨d, hmem, hid, hp, hperf⟩ := hopening.stretch.stopped_performs hc (opened hopening) hs hI
    rw [hopening.authenticate d hmem] at hp hperf
    exact ⟨(hopening.stretch.keeps hc (opened hopening) hs hI).1, .refused hid hp hperf⟩
  | unwelcomed hopening hn =>
    obtain ⟨hw, -, hit⟩ := hopening.stretch.keeps hc (opened hopening) hs hI
    obtain ⟨hwz, ⟨f, hf, hx, hnotified⟩ | ⟨hx, -⟩⟩ := notify_notified hc .welcome _ hw <;> rw [hn] at hwz hx
    · obtain rfl := Except.error.inj hx
      rw [hn] at hnotified
      exact ⟨hwz, .unwelcomed (hit rfl) (hopening.done rfl) hf hnotified⟩
    · simp at hx
  | worked hopening hn hops hlate he =>
    obtain ⟨hw, -, hit⟩ := hopening.stretch.keeps hc (opened hopening) hs hI
    obtain ⟨hwz, hworked⟩ := hlate.worked hc h₂ hops (notify_world hc hn hw)
      (hwelcome _ _ (hit rfl) (hopening.done rfl) (notified_of_ok hn))
    exact ⟨hwz, .worked he hworked⟩
  | ended hopening hn hops hlate hfarewell =>
    obtain ⟨hw, -, hit⟩ := hopening.stretch.keeps hc (opened hopening) hs hI
    obtain ⟨hwv, hworked⟩ := hlate.worked hc h₂ hops (notify_world hc hn hw)
      (hwelcome _ _ (hit rfl) (hopening.done rfl) (notified_of_ok hn))
    obtain ⟨hwz, ⟨f, hf, he, hparted⟩ | ⟨he, hparted⟩⟩ := farewell_notified hc _ hwv <;>
      rw [hfarewell] at hwz he hparted
    · exact ⟨hwz, he ▸ .unparted hworked hf hparted⟩
    · exact ⟨hwz, he ▸ .finished hworked hparted⟩

end KitConsole.Session
