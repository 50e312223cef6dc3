import KitConsole.Proofs.RemoteAnswers

/-!
# What the reply to a call says

* `Outcome.Rejects`, `Outcome.Delivers`, `Outcome.Reports`, `Outcome.Fails` — a rejected credential, the promised field,
  an error entry in its place, and everything that counts as an error.
* `Classified expected o reply` — the kind, the data and the error text of a reply, all told from the outcome `o`.
* `serve_classified` — a call with an address is replied to, and the reply is classified by the outcome of its last
  request.
-/

namespace KitConsole

open Wire

/-! ## outcomes -/

namespace Wire.Outcome

def Rejects (o : Outcome) : Prop := ∃ x, o = .response x ∧ x.status = 401

/-- A success whose body is an object. -/
def Returns (o : Outcome) (entries : Entries Json) : Prop :=
  ∃ x, o = .response x ∧ 200 ≤ x.status ∧ x.status < 300 ∧ Json.read? x.body = some (.object entries)

/-- The promised field is there, and not null. -/
def Delivers (expected : String) (o : Outcome) (entries : Entries Json) : Prop :=
  o.Returns entries ∧ (Json.object entries).field expected ≠ .null

/-- The promised field is missing, or null, and there is an error entry. -/
def Reports (expected : String) (o : Outcome) (e : Json) : Prop :=
  e ≠ .null ∧ ∃ entries, o.Returns entries ∧ (Json.object entries).field expected = .null ∧
    (Json.object entries).field "error" = e

/-- There is no response, one that is no success and no rejection either, or one that reports an error. -/
def Fails (expected : String) (o : Outcome) : Prop :=
  (∃ f, o = .failure f) ∨ (∃ x, o = .response x ∧ ¬ (200 ≤ x.status ∧ x.status < 300) ∧ x.status ≠ 401) ∨
    ∃ e, o.Reports expected e

theorem Returns.unique {o : Outcome} {entries entries' : Entries Json} (h : o.Returns entries)
    (h' : o.Returns entries') : entries = entries' := by
  obtain ⟨x, rfl, -, -, hx⟩ := h
  obtain ⟨y, hy, -, -, hbody⟩ := h'
  obtain rfl := Outcome.response.inj hy
  exact Json.object.inj (Option.some.inj (hx.symm.trans hbody))

theorem Returns.not_rejects {o : Outcome} {entries : Entries Json} (h : o.Returns entries) : ¬ o.Rejects := by
  rintro ⟨x, rfl, hx⟩
  obtain ⟨y, hy, hlow, hhigh, -⟩ := h
  obtain rfl := Outcome.response.inj hy
  omega

end Wire.Outcome

/-- What the last request met. -/
def Wire.met? (wire : Wire) : Option Outcome :=
  if wire.sent.isEmpty then none else some (wire.outcome (wire.sent.length - 1))

/-! ## replies -/

/-- The reply says of the outcome what it is, and nothing else. -/
structure Classified (expected : String) (o : Outcome) (reply : Reply) : Prop where
  promise : reply.expected = expected
  unauthorized : reply.kind = .unauthorized ↔ o.Rejects
  ok : reply.kind = .ok ↔ ∃ entries, o.Delivers expected entries
  error : reply.kind = .error ↔ o.Fails expected
  malformed : reply.kind = .malformed ↔
    ¬ (o.Rejects ∨ (∃ entries, o.Delivers expected entries) ∨ o.Fails expected)
  data : ∀ entries, o.Delivers expected entries → reply.data = entries
  reported : ∀ e, o.Reports expected e → reply.error = some e.text
  error_none : reply.error = none ↔ reply.kind = .ok
  value : reply.value ≠ .null ↔ reply.kind = .ok

namespace Remote

/-- The cases of `classify`, with what tells them apart said of the outcome. -/
inductive Read (expected : String) (o : Outcome) : Reply → Prop
  | rejected {message : String} : o.Rejects → Read expected o (.unauthorized expected message)
  | delivered {entries : Entries Json} : o.Delivers expected entries → Read expected o (.success expected entries)
  | reported {e : Json} : o.Reports expected e → Read expected o (.failure expected e.text)
  | failed {message : String} : o.Fails expected → (∀ e, ¬ o.Reports expected e) →
      Read expected o (.failure expected message)
  | malformed : ¬ o.Rejects → (∀ entries, ¬ o.Delivers expected entries) → ¬ o.Fails expected →
      Read expected o (.malformed expected)

theorem Read.classified {expected : String} {o : Outcome} {reply : Reply} (h : Read expected o reply) :
    Classified expected o reply := by
  have apart {entries : Entries Json} {e : Json} (hd : o.Delivers expected entries) : ¬ o.Reports expected e := by
    rintro ⟨-, entries', hreturns, hnull, -⟩
    exact hd.2 (hd.1.unique hreturns ▸ hnull)
  have succeeded {entries : Entries Json} (hd : o.Delivers expected entries) : ¬ o.Fails expected := by
    rintro (⟨f, rfl⟩ | ⟨x, rfl, hx, -⟩ | ⟨e, he⟩)
    · obtain ⟨⟨y, hy, -⟩, -⟩ := hd
      simp at hy
    · obtain ⟨⟨y, hy, hlow, hhigh, -⟩, -⟩ := hd
      obtain rfl := Outcome.response.inj hy
      exact hx ⟨hlow, hhigh⟩
    · exact apart hd he
  have refused (hr : o.Rejects) : ¬ o.Fails expected := by
    rintro (⟨f, rfl⟩ | ⟨x, rfl, -, hx⟩ | ⟨e, -, entries, he, -⟩)
    · obtain ⟨y, hy, -⟩ := hr
      simp at hy
    · obtain ⟨y, hy, hstatus⟩ := hr
      obtain rfl := Outcome.response.inj hy
      exact hx hstatus
    · exact he.not_rejects hr
  cases h with
  | rejected hr =>
    have hd : ∀ entries, ¬ o.Delivers expected entries := fun _ hd => hd.1.not_rejects hr
    have he : ∀ e, ¬ o.Reports expected e := fun e he => refused hr (.inr (.inr ⟨e, he⟩))
    constructor <;> simp [Reply.unauthorized, Reply.value, Reply.ok, hr, hd, he, refused hr]
  | @delivered entries hd =>
    have hr : ¬ o.Rejects := hd.1.not_rejects
    have he : ∀ e, ¬ o.Reports expected e := fun _ => apart hd
    constructor
    case promise => rfl
    case data => exact fun _ hd' => hd.1.unique hd'.1
    case ok => exact ⟨fun _ => ⟨entries, hd⟩, fun _ => rfl⟩
    case value => exact ⟨fun _ => rfl, fun _ => hd.2⟩
    case malformed => exact ⟨fun h => by simp [Reply.success] at h, fun h => absurd (.inr (.inl ⟨entries, hd⟩)) h⟩
    all_goals simp [Reply.success, hr, he, succeeded hd]
  | @reported e he =>
    have hd : ∀ entries, ¬ o.Delivers expected entries := fun _ hd => apart hd he
    have hf : o.Fails expected := .inr (.inr ⟨e, he⟩)
    have hr : ¬ o.Rejects := fun hr => refused hr hf
    constructor
    case reported =>
      rintro e' ⟨-, entries', he', -, rfl⟩
      obtain ⟨-, entries, he, -, rfl⟩ := he
      rw [he.unique he']
      rfl
    all_goals simp [Reply.failure, Reply.value, Reply.ok, hr, hd, hf]
  | failed hf he =>
    have hr : ¬ o.Rejects := fun hr => refused hr hf
    have hd : ∀ entries, ¬ o.Delivers expected entries := fun _ hd => succeeded hd hf
    constructor <;> simp [Reply.failure, Reply.value, Reply.ok, hr, hd, he, hf]
  | malformed hr hd hf =>
    have he : ∀ e, ¬ o.Reports expected e := fun e he => hf (.inr (.inr ⟨e, he⟩))
    constructor <;> simp [Reply.malformed, Reply.value, Reply.ok, hr, hd, he, hf]

/-! ## classifying an outcome -/

theorem isNull_iff (v : Json) : v.isNull = true ↔ v = .null := by
  cases v <;> simp [Json.isNull]

theorem isSuccess_iff (status : Int) : Status.isSuccess status = true ↔ 200 ≤ status ∧ status < 300 := by
  simp [Status.isSuccess]

theorem returns_iff {x : Response} {entries : Entries Json} (hx : Status.isSuccess x.status = true) :
    (Outcome.response x).Returns entries ↔ Json.read? x.body = some (.object entries) := by
  obtain ⟨hlow, hhigh⟩ := (isSuccess_iff _).1 hx
  constructor
  · rintro ⟨y, hy, -, -, hbody⟩
    obtain rfl := Outcome.response.inj hy
    exact hbody
  · exact fun hbody => ⟨x, rfl, hlow, hhigh, hbody⟩

/-- A success that holds neither the promised field nor an error entry is malformed. -/
theorem read_malformed {expected : String} {x : Response} (hx : Status.isSuccess x.status = true)
    (hbody : ∀ entries, Json.read? x.body = some (.object entries) →
      (Json.object entries).field expected = .null ∧ (Json.object entries).field "error" = .null) :
    Read expected (.response x) (.malformed expected) := by
  obtain ⟨hlow, hhigh⟩ := (isSuccess_iff _).1 hx
  refine .malformed ?_ ?_ ?_
  · rintro ⟨y, hy, hrejected⟩
    obtain rfl := Outcome.response.inj hy
    omega
  · rintro entries ⟨hreturns, hfield⟩
    exact hfield (hbody entries ((returns_iff hx).1 hreturns)).1
  · rintro (⟨f, hf⟩ | ⟨y, hy, hno, -⟩ | ⟨e, he, entries, hreturns, -, rfl⟩)
    · simp at hf
    · obtain rfl := Outcome.response.inj hy
      exact hno ⟨hlow, hhigh⟩
    · exact he (hbody entries ((returns_iff hx).1 hreturns)).2

theorem read_ofPayload {expected : String} {x : Response} {payload : Json} (hx : Status.isSuccess x.status = true)
    (hbody : Json.read? x.body = some payload) : Read expected (.response x) (Reply.ofPayload payload expected) := by
  unfold Reply.ofPayload
  cases payload with
  | object entries =>
    have hreturns : (Outcome.response x).Returns entries := (returns_iff hx).2 hbody
    dsimp only
    split
    case isTrue hnull =>
      have hnull := (isNull_iff _).1 hnull
      split
      case h_1 herror =>
        refine read_malformed hx fun entries' hbody' => ?_
        obtain rfl := Json.object.inj (Option.some.inj (hbody.symm.trans hbody'))
        exact ⟨hnull, herror⟩
      case h_2 e he => exact .reported ⟨he, entries, hreturns, hnull, rfl⟩
    case isFalse hnull => exact .delivered ⟨hreturns, fun h => hnull ((isNull_iff _).2 h)⟩
  | _ => exact read_malformed hx (by simp [hbody])

theorem ofError_fst {expected context : String} {e : ServiceError} (h : e.kind ≠ .auth) :
    (ofError expected context e).1 = .failure expected e.message := by
  unfold ofError
  split
  · contradiction
  · rfl

theorem kind_ofStatus_ne {status : Int} (h : status ≠ 401) : ServiceError.Kind.ofStatus status ≠ .auth := by
  unfold ServiceError.Kind.ofStatus
  rw [if_neg h]
  split
  · simp
  · split <;> simp

theorem read_ofResponse (expected context : String) (x : Response) :
    Read expected (.response x) (ofResponse expected context x).1 := by
  unfold ofResponse ServiceError.ofStatus?
  by_cases hx : Status.isSuccess x.status = true
  · rw [if_pos hx]
    cases hbody : Json.read? x.body with
    | some payload => exact read_ofPayload hx hbody
    | none => exact read_malformed hx (by simp [hbody])
  · rw [if_neg hx]
    have hstatus : ¬ (200 ≤ x.status ∧ x.status < 300) := fun h => hx ((isSuccess_iff _).2 h)
    by_cases hauth : x.status = 401
    · simp only [ofError, ServiceError.Kind.ofStatus, if_pos hauth]
      exact .rejected ⟨x, rfl, hauth⟩
    · have hreports : ∀ e, ¬ (Outcome.response x).Reports expected e := by
        rintro e ⟨-, entries, ⟨y, hy, hlow, hhigh, -⟩, -⟩
        obtain rfl := Outcome.response.inj hy
        exact hstatus ⟨hlow, hhigh⟩
      dsimp only
      rw [ofError_fst (kind_ofStatus_ne hauth)]
      exact .failed (.inr (.inl ⟨x, rfl, hstatus, hauth⟩)) hreports

theorem read_failure (expected context : String) (r : Request) (f : Failure) :
    Read expected (.failure f) (ofError expected context (Transport.failureError r f)).1 := by
  have hreports : ∀ e, ¬ (Outcome.failure f).Reports expected e := by
    rintro e ⟨-, entries, ⟨y, hy, -⟩, -⟩
    simp at hy
  rw [ofError_fst (by unfold Transport.failureError; split <;> simp)]
  exact .failed (.inl ⟨f, rfl⟩) hreports

/-- Whatever decides an exchange, unless it is refused for its values, is classified by itself alone. -/
theorem classify_resultOf (expected context : String) (r : Request) {o : Outcome}
    (ho : ∀ message, o ≠ .refusal message) :
    ∃ reply, (classify expected context (Transport.resultOf r o)).1 = .ok reply ∧ Classified expected o reply := by
  cases o with
  | response x => exact ⟨_, rfl, (read_ofResponse expected context x).classified⟩
  | failure f => exact ⟨_, rfl, (read_failure expected context r f).classified⟩
  | refusal message => exact absurd rfl (ho message)

/-! ## calls -/

/-- **Every call with an address is replied to, and the outcome of its last request alone tells the reply.** -/
theorem serve_classified (remote : Remote) {call : Call} (hcall : call.Addressed) {wire : Wire}
    (hwire : wire.Willing) : ∃ requests o reply, requests ≠ [] ∧
      (remote.serve call wire).world = { wire with sent := wire.sent ++ requests } ∧
      (remote.serve call wire).world.met? = some o ∧ (remote.serve call wire).result = .ok reply ∧
      Classified call.expected o reply := by
  obtain ⟨r, hr⟩ := remote.exists_request hcall
  obtain ⟨m, -, hworld, hresult⟩ := serve_sends hr wire
  obtain ⟨reply, hreply, hclassified⟩ :=
    classify_resultOf call.expected (context call) r (hwire (wire.sent.length + m))
  refine ⟨List.replicate (m + 1) r, _, reply, by simp, hworld, ?_, hresult.trans hreply, hclassified⟩
  rw [hworld]
  simp [Wire.met?]

/-- A time limit passed on the way back, and then an error entry in place of the kit. -/
def lateError : Wire :=
  .ofList [.failure ⟨.readTimeout, "no answer"⟩,
    .response { body := "\x7b\"kit\": null, \"error\": [\"gone\"]\x7d" }]

theorem serve_classified_lateError :
    (Call.getKit (.string " k1 ")).Addressed ∧ lateError.Willing ∧
      ∃ requests o reply, requests ≠ [] ∧
        (serve { baseUrl := "https://kits.example", transport := {} } (.getKit (.string " k1 ")) lateError).world =
          { lateError with sent := lateError.sent ++ requests } ∧
        (serve { baseUrl := "https://kits.example", transport := {} } (.getKit (.string " k1 ")) lateError).world.met? =
          some o ∧
        (serve { baseUrl := "https://kits.example", transport := {} } (.getKit (.string " k1 ")) lateError).result =
          .ok reply ∧
        Classified "kit" o reply := by
  have hcall : (Call.getKit (.string " k1 ")).Addressed := ⟨"k1", rfl⟩
  have hwire : lateError.Willing := Wire.willing_ofList (by simp)
  exact ⟨hcall, hwire, serve_classified _ hcall hwire⟩

end Remote

end KitConsole
