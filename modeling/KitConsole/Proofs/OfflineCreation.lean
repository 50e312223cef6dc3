import KitConsole.Proofs.Desk

/-!
# Creating a kit offline

* `Offline.entered`, `Offline.created` — the kit that the answers describe, and the store with a kit more.
* `Offline.answer_create` — a store without failures takes a new kit at its end.
* `operate_creates` — the plan of a session in which the user creates a kit.
* `conduct_creates` — a session in which the user creates a kit adds that kit to the store, and changes no other.
-/

namespace KitConsole

open Dialogue KitConsole.Flow Session

/-! ## the store -/

namespace Offline

/-- The kit with these answers under the next id. -/
def entered (store : Offline) (name domains : String) (families : List String) : Kit where
  id := store.newId
  name := name
  domains := (((Console.pieces domains.toList).map .ofList).filter (· ≠ "")).map .string
  families := families.filter (· ≠ "")
  analytics := false
  optimizePerformance := false
  id_not_blank := store.isBlankText_newId

/-- The store once the kit is created from the fields. -/
def created (store : Offline) (fields : Fields) (kit : Kit) : Offline where
  kits := store.kits ++ [(kit.id, kit)]
  flags := store.flags
  calls := store.calls ++ [.saveKit fields .null]
  draws := store.draws
  drawn := store.drawn + 1

theorem answer_create {store : Offline} (hauth : store.flags.authError = false)
    (hbad : store.flags.badRequestError = false) (hfresh : store.newId ∉ store.kits.keys)
    (name domains : String) (families : List String) :
    store.answer (.saveKit (Console.fieldsFrom name domains families) .null) =
      (.ok (kitReply (store.entered name domains families)),
        store.created (Console.fieldsFrom name domains families) (store.entered name domains families)) := by
  have hname : (if name = "" then "" else name) = name := by
    split <;> simp_all
  have hlist : ∀ {γ : Type} (l : List String) (f : String → γ), (if l = [] then [] else l.map f) = l.map f := by
    intro γ l f
    split <;> simp_all
  have hfamilies := hlist (families.filter (· ≠ "")) id
  have hmerge : merge store.newKit (Console.fieldsFrom name domains families) =
      .ok (store.entered name domains families) := by
    rw [List.map_id] at hfamilies
    rw [newKit, merge_fieldsFrom, hname, hlist, hfamilies, Console.splitList_eq]
    rfl
  have hheard : (store.heard (.saveKit (Console.fieldsFrom name domains families) .null)).newKit = store.newKit := rfl
  have hid : (store.entered name domains families).id ∉ store.kits.keys := hfresh
  rw [answer_saveKit_null hauth hbad, create, hheard, saveInto, hmerge]
  simp only [put, created, heard]
  rw [Entries.put_of_not_mem hid]

end Offline

variable {store store' : Offline} {lines rest : List String}

/-! ## the session -/

/-- The answers to the four questions, and the fields that they are collected into. -/
theorem reads_fields {count : String} {families : List String}
    (hcount : Number.readInt (Text.strip count).toList = .ok (families.length : Int)) (name domains : String)
    (rest : List String) : Console.Reads Console.collectFields (name :: domains :: count :: (families ++ rest))
      (Console.fieldsFrom (Text.strip name) (Text.strip domains) (families.map Text.strip)) rest := by
  have hfamilies : Console.familyCount (Text.strip count) = families.length := by
    simp [Console.familyCount, hcount]
  have hreads := Console.reads_collectFields (name :: domains :: count :: (families ++ rest))
  simp only [Console.answerOf, List.headD_cons, List.tail_cons, hfamilies, Console.answersOf_append, List.drop_left]
    at hreads
  exact hreads

/-- The plan of a creation: the menu, the fields, the save, and the end. -/
theorem operate_creates (hauth : store.flags.authError = false) (hbad : store.flags.badRequestError = false)
    (hfresh : store.newId ∉ store.kits.keys) {menu name domains : String} {families : List String}
    (hmenu : Text.strip menu = "2")
    (hread : Console.Reads Console.collectFields lines (Console.fieldsFrom name domains families) rest) (n : Nat)
    {s : Session (Offline × Console)} (hs : Stands (Desk store (menu :: lines)) [.mainMenu, .quit] .null s) :
    ∃ s' plan last, operate desk (n + 4) s = (.finished, s') ∧
      Stands (Desk (store.created (Console.fieldsFrom name domains families) (store.entered name domains families))
        rest) plan last s' := by
  -- no answer stands under the key of the id, so what the save takes out again is the null id alone
  have hkeys : idField ∉ Entries.keys (Console.fieldsFrom name domains families) := idField_not_mem_keys _ _ _
  have hcreate := Offline.answer_create hauth hbad hfresh name domains families
  have hmainMenu : Yields desk (Desk store (menu :: lines)) (step .mainMenu .null) [.collectFields] .null
      (Desk store lines) := by
    have hposition : Console.position? 3 "2" = some 1 := by decide
    have hchosen : Console.chosen 3 0 (menu :: lines) = (1, lines) := by
      simp only [Console.chosen, hmenu, hposition]
    have hyields := yields_mainMenu store (menu :: lines) .null
    rwa [hchosen] at hyields
  obtain ⟨s₁, hchosen, hs₁⟩ := reaches_of_yields hmainMenu (by simp) hs
  obtain ⟨s₂, hcollected, hs₂⟩ := reaches_of_yields (yields_collectFields hread) (by simp) hs₁
  obtain ⟨s₃, hsaved, hs₃⟩ := reaches_of_yields (yields_save hkeys hcreate (by simp [Offline.kitReply, Reply.success]))
    (by simp) hs₂
  obtain ⟨s₄, hquit, hs₄⟩ := operate_quit hs₃ n
  exact ⟨s₄, _, _, by rw [hchosen (n + 3), hcollected (n + 2), hsaved (n + 1), hquit], hs₄⟩

/-- **A kit that is created is stored as entered**, behind the kits that were there: its name is the stripped line,
its domains are the pieces of the stripped line that are not empty, and its families the stripped lines that are not
blank. -/
theorem conduct_creates {store : Offline} (hauth : store.flags.authError = false)
    (hbad : store.flags.badRequestError = false) (hfresh : store.newId ∉ store.kits.keys)
    {menu count : String} {families : List String} (hmenu : Text.strip menu = "2")
    (hcount : Number.readInt (Text.strip count).toList = .ok (families.length : Int)) (name domains : String)
    (rest : List String) (output : String) {n : Nat} (hn : 4 ≤ n) :
    ∃ s, conduct desk n
          { world := (store, { lines := menu :: name :: domains :: count :: (families ++ rest), output }) } =
        (.status 0, s) ∧
      s.world.1.kits = store.kits ++ [(store.newId,
        store.entered (Text.strip name) (Text.strip domains) (families.map Text.strip))] ∧
      s.world.2.lines = rest := by
  obtain ⟨m, rfl⟩ := Nat.exists_eq_add_of_le' hn
  have hdesk : Desk store (menu :: name :: domains :: count :: (families ++ rest))
      (store, { lines := menu :: name :: domains :: count :: (families ++ rest), output }) := ⟨rfl, rfl, rfl⟩
  have hlisted : store.listed.flags.authError = false := hauth
  have hworked := fun s => operate_creates hlisted hbad hfresh hmenu (reads_fields hcount name domains rest) m (s := s)
  obtain ⟨s, hconduct, hs⟩ := conduct_of_operate hdesk (yields_authenticate hauth) (yields_notify _) hworked
    (yields_notify _)
  refine ⟨s, hconduct, ?_, hs.console.lines⟩
  rw [hs.store]
  rfl

theorem conduct_creates_twoFamilies :
    Offline.freshId 1 ∉ (Offline.withExampleKit {}).kits.keys ∧ Text.strip " 2" = "2" ∧
    Number.readInt (Text.strip "+2").toList = .ok (["abc", " "].length : Int) ∧
    ∃ s, conduct desk 4 { world := (Offline.withExampleKit {},
          { lines := " 2" :: " Mine " :: "a.org, b.org,," :: "+2" :: (["abc", " "] ++ ["more"]), output := "" }) } =
        (.status 0, s) ∧
      s.world.1.kits = (Offline.withExampleKit {}).kits ++ [(Offline.freshId 1,
        (Offline.withExampleKit {}).entered (Text.strip " Mine ") (Text.strip "a.org, b.org,,")
          (["abc", " "].map Text.strip))] ∧
      s.world.2.lines = ["more"] := by
  have hfresh : Offline.freshId 1 ∉ (Offline.withExampleKit {}).kits.keys := by decide +kernel
  have hmenu : Text.strip " 2" = "2" := by decide +kernel
  have hcount : Number.readInt (Text.strip "+2").toList = .ok (["abc", " "].length : Int) := rfl
  exact ⟨hfresh, hmenu, hcount,
    conduct_creates rfl rfl hfresh hmenu hcount " Mine " "a.org, b.org,," ["more"] "" (by decide)⟩

example : ((Offline.withExampleKit {}).entered "Mine" "a.org, b.org,," ["abc", ""]).domains =
    [.string "a.org", .string "b.org"] := by
  decide +kernel

end KitConsole
