import KitConsole.Proofs.RemoteAnswers

/-!
# The addresses that calls are sent to

* `root_cases` — the root of the addresses is the address of the service without one slash at its end.
* `kitUrl_eq` — the address of a kit, by the text that its id is shown with; a blank text has none.
* `Call.AboutKit`, `Call.AboutAll` — the calls about one kit, and those about all of them.
* `Remote.Refuses`, `Remote.SendsTo` — a call sends nothing, or all its requests to one address.
* `serve_addressing` — a call about a kit goes to the address of that kit and to no other one, or nowhere.
-/

namespace KitConsole

/-- The call is about the kit with this id. -/
inductive Call.AboutKit (id : Json) : Call → Prop
  | get : AboutKit id (.getKit id)
  | save (fields : Fields) : AboutKit id (.saveKit fields id)
  | delete : AboutKit id (.deleteKit id)

/-- The call is about all kits: it lists them, or adds a new one. -/
inductive Call.AboutAll : Call → Prop
  | list : AboutAll .listKits
  | create (fields : Fields) : AboutAll (.saveKit fields .null)

namespace Remote

/-! ## the address of the service -/

theorem root_of_slash {remote : Remote} {base : String} (h : remote.baseUrl = base ++ "/") : remote.root = base := by
  have hlist : remote.baseUrl.toList = base.toList ++ ['/'] := by rw [h, String.toList_append]; rfl
  rw [root, hlist, if_pos List.getLast?_concat, List.dropLast_concat, String.ofList_toList]

theorem root_of_no_slash {remote : Remote} (h : remote.baseUrl.toList.getLast? ≠ some '/') :
    remote.root = remote.baseUrl := if_neg h

/-- The address of the service is the root with a slash, or the root itself. -/
theorem root_cases (remote : Remote) : remote.baseUrl = remote.root ++ "/" ∨
    remote.baseUrl = remote.root ∧ remote.baseUrl.toList.getLast? ≠ some '/' := by
  by_cases hslash : remote.baseUrl.toList.getLast? = some '/'
  · obtain ⟨front, hfront⟩ := List.getLast?_eq_some_iff.1 hslash
    have hbase : remote.baseUrl = String.ofList front ++ "/" := by
      rw [← String.toList_inj, hfront, String.toList_append, String.toList_ofList]
      rfl
    exact .inl (by rw [root_of_slash hbase, hbase])
  · exact .inr ⟨(root_of_no_slash hslash).symm, hslash⟩

theorem connect_of_ne {base : String} (h : base ≠ "") (transport : Transport) :
    connect base transport = .ok { baseUrl := base, transport } := if_neg h

/-! ## the address of a kit -/

/-- The text that an id is shown with; null, false, zero and what is empty show as nothing. -/
def idText (id : Json) : String := if id.truthy then id.text else ""

theorem idText_string (s : String) : idText (.string s) = s := by
  by_cases hs : s = ""
  · rw [hs]
    rfl
  · simp [idText, Json.truthy, Json.text, hs]

theorem kitUrl_eq (remote : Remote) (id : Json) : remote.kitUrl id =
    if Text.isBlankText (idText id) then .error .blankKitId
    else .ok (remote.root ++ "/kits/" ++ Text.strip (idText id)) := by
  have hclean : cleanId id =
      if Text.strip (idText id) = "" then .error .blankKitId else .ok (Text.strip (idText id)) := by
    unfold cleanId idText
    cases id.truthy <;> rfl
  rw [kitUrl, hclean]
  by_cases hblank : Text.isBlankText (idText id) = true
  · rw [if_pos hblank, if_pos (Text.strip_eq_empty_iff.2 hblank)]
    rfl
  · rw [if_neg hblank, if_neg (fun h => hblank (Text.strip_eq_empty_iff.1 h))]
    rfl

/-- No kit has the address of all kits. -/
theorem kit_ne_collection (base s : String) : base ++ "/kits/" ++ s ≠ base ++ "/kits" := by
  intro h
  have hlength := congrArg String.length h
  simp only [String.length_append] at hlength
  have : "/kits/".length = 6 ∧ "/kits".length = 5 := ⟨rfl, rfl⟩
  omega

variable (remote : Remote)

theorem urlOf_aboutKit {id : Json} (hid : id ≠ .null) {call : Call} (h : call.AboutKit id) :
    remote.urlOf call = remote.kitUrl id := by
  cases h with
  | get => rfl
  | save fields =>
    cases id with
    | null => exact absurd rfl hid
    | _ => rfl
  | delete => rfl

theorem urlOf_aboutAll {call : Call} (h : call.AboutAll) : remote.urlOf call = .ok (remote.root ++ "/kits") := by
  cases h <;> rfl

/-! ## what is sent -/

/-- The call faults for its id, and nothing else happens: nothing is sent, and nothing is logged. -/
def Refuses (call : Call) : Prop := ∀ wire, remote.serve call wire = { result := .error .blankKitId, world := wire }

/-- The call sends at least one request, and all that it sends go to the address. -/
def SendsTo (call : Call) (url : String) : Prop := ∀ wire, ∃ rs, rs ≠ [] ∧
  (remote.serve call wire).world.sent = wire.sent ++ rs ∧ ∀ r ∈ rs, r.method = call.method ∧ r.url = url

variable {remote} {call : Call}

theorem refuses_of_urlOf (h : remote.urlOf call = .error .blankKitId) : remote.Refuses call := by
  intro wire
  have hrequest : remote.requestFor call = .error .blankKitId := by rw [requestFor, h]; rfl
  exact serve_unsent hrequest wire

theorem sendsTo_of_urlOf {url : String} (h : remote.urlOf call = .ok url) : remote.SendsTo call url := by
  intro wire
  have hrequest : remote.requestFor call = .ok (remote.transport.request call.method url none call.form) := by
    rw [requestFor, h]
    rfl
  obtain ⟨m, -, hworld, -⟩ := serve_sends hrequest wire
  refine ⟨_, List.replicate_succ_ne_nil, by rw [hworld], fun r hr => ?_⟩
  rw [List.eq_of_mem_replicate hr]
  exact ⟨rfl, rfl⟩

/-- A call sends to one address only. -/
theorem SendsTo.unique {url url' : String} (h : remote.SendsTo call url) (h' : remote.SendsTo call url') :
    url = url' := by
  obtain ⟨rs, hne, hsent, hurl⟩ := h .unplugged
  obtain ⟨rs', -, hsent', hurl'⟩ := h' .unplugged
  obtain rfl : rs = rs' := List.append_cancel_left (hsent.symm.trans hsent')
  obtain ⟨r, hr⟩ := List.exists_mem_of_ne_nil rs hne
  exact (hurl r hr).2.symm.trans (hurl' r hr).2

theorem Refuses.not_sendsTo (h : remote.Refuses call) (url : String) : ¬ remote.SendsTo call url := by
  intro hsends
  obtain ⟨rs, hne, hsent, -⟩ := hsends .unplugged
  rw [h] at hsent
  exact hne (List.self_eq_append_right.1 hsent)

/-- Where the calls to a service at the address `base` go. -/
structure Addressing (base : String) (remote : Remote) : Prop where
  root : base = remote.root ++ "/" ∨ base = remote.root ∧ base.toList.getLast? ≠ some '/'
  blank : ∀ id ≠ .null, Text.isBlankText (idText id) = true → ∀ call, call.AboutKit id → remote.Refuses call
  kit : ∀ id ≠ .null, Text.isBlankText (idText id) = false → ∀ call, call.AboutKit id →
    remote.SendsTo call (remote.root ++ "/kits/" ++ Text.strip (idText id))
  collection : ∀ call, call.AboutAll → remote.SendsTo call (remote.root ++ "/kits")
  /-- No call about a kit goes where a call about all kits goes. -/
  apart : ∀ id ≠ .null, ∀ c d, c.AboutKit id → d.AboutAll →
    ∀ url url', remote.SendsTo c url → remote.SendsTo d url' → url ≠ url'
  /-- Calls about two kits go to one address exactly if the ids are the same but for the blanks around them. -/
  same : ∀ s t c d, c.AboutKit (.string s) → d.AboutKit (.string t) →
    ∀ url url', remote.SendsTo c url → remote.SendsTo d url' → (url = url' ↔ Text.strip s = Text.strip t)
  /-- A slash at the end of the address makes no difference. -/
  slash : base.toList.getLast? ≠ some '/' →
    ∃ remote', connect (base ++ "/") remote.transport = .ok remote' ∧ remote'.serve = remote.serve

/-- A call about a kit is refused for a blank id, and goes to the address of the kit otherwise. -/
theorem serve_aboutKit (remote : Remote) {id : Json} (hid : id ≠ .null) {call : Call} (h : call.AboutKit id) :
    (Text.isBlankText (idText id) = true → remote.Refuses call) ∧
    (Text.isBlankText (idText id) = false →
      remote.SendsTo call (remote.root ++ "/kits/" ++ Text.strip (idText id))) := by
  have hurl := (remote.urlOf_aboutKit hid h).trans (remote.kitUrl_eq id)
  constructor
  · intro hblank
    rw [if_pos hblank] at hurl
    exact refuses_of_urlOf hurl
  · intro hblank
    rw [if_neg (by simp [hblank])] at hurl
    exact sendsTo_of_urlOf hurl

/-- Only a call about a kit with an id that is not blank is sent anywhere, and it goes to the address of the kit. -/
theorem SendsTo.url_eq {id : Json} {url : String} (h : remote.SendsTo call url) (hid : id ≠ .null)
    (hcall : call.AboutKit id) : url = remote.root ++ "/kits/" ++ Text.strip (idText id) := by
  obtain ⟨hrefuses, hsends⟩ := remote.serve_aboutKit hid hcall
  cases hblank : Text.isBlankText (idText id) with
  | true => exact absurd h ((hrefuses hblank).not_sendsTo url)
  | false => exact h.unique (hsends hblank)

/-- Two services with one root and one transport are the same service. -/
theorem serve_congr {remote' : Remote} (hroot : remote'.root = remote.root)
    (htransport : remote'.transport = remote.transport) : remote'.serve = remote.serve := by
  have hurl : ∀ call, remote'.urlOf call = remote.urlOf call := by
    intro call
    unfold urlOf collectionUrl kitUrl
    rw [hroot]
  funext call wire
  rw [serve_eq, serve_eq, requestFor, requestFor, hurl, htransport]

/-- **A call about a kit goes to the address of that kit or nowhere**, never to the address of all kits or of another
kit, whatever the outcomes of its requests are. -/
theorem serve_addressing {base : String} (h : base ≠ "") (transport : Transport) :
    ∃ remote, connect base transport = .ok remote ∧ remote.Addressing base := by
  refine ⟨_, connect_of_ne h transport, ?_⟩
  generalize hremote : ({ baseUrl := base, transport } : Remote) = remote
  obtain rfl : remote.baseUrl = base := by rw [← hremote]
  refine ⟨remote.root_cases, fun id hid hblank call hcall => ?_, fun id hid hblank call hcall => ?_,
    fun call hcall => ?_, fun id hid c d hc hd url url' hurl hurl' => ?_,
    fun s t c d hc hd url url' hurl hurl' => ?_, fun hslash => ?_⟩
  · exact (remote.serve_aboutKit hid hcall).1 hblank
  · exact (remote.serve_aboutKit hid hcall).2 hblank
  · exact sendsTo_of_urlOf (remote.urlOf_aboutAll hcall)
  · rw [hurl.url_eq hid hc, hurl'.unique (sendsTo_of_urlOf (remote.urlOf_aboutAll hd))]
    exact kit_ne_collection _ _
  · have hnull : ∀ x : String, Json.string x ≠ .null := by
      intro x hx
      cases hx
    rw [hurl.url_eq (hnull s) hc, hurl'.url_eq (hnull t) hd, idText_string, idText_string]
    exact String.append_right_inj _
  · have hne : remote.baseUrl ++ "/" ≠ "" := fun hempty => h (String.append_eq_empty_iff.1 hempty).1
    refine ⟨_, connect_of_ne hne remote.transport, serve_congr ?_ rfl⟩
    exact (root_of_slash rfl).trans (root_of_no_slash hslash).symm

/-- An address with a slash at its end. -/
theorem serve_addressing_slash : "https://kits.example/v1/" ≠ "" ∧
    ∃ remote, connect "https://kits.example/v1/" {} = .ok remote ∧ remote.Addressing "https://kits.example/v1/" :=
  ⟨by decide, serve_addressing (by decide) {}⟩

end Remote

end KitConsole
