import KitConsole.Launch
import KitConsole.Proofs.SettingsLayers

/-!
# Usable settings

* `Usable` — settings with an address, a time limit and retries, with which a launch gets ready or says that it is not.
* `BlankAddress` — the address that counts is given, but nothing is left of it without its blanks.
* `Launch.ensureReady_eq_error_iff` — a launch that is not offline fails exactly with a token and without an address.
* `load_usable_iff` — settings that were loaded are usable exactly if no blank address was given; the numbers are
  always in range.
-/

namespace KitConsole

/-- Without an address a launch cannot be connected, which comes up if it is to be connected at all. -/
theorem Launch.ensureReady_eq_error_iff {l : Launch} (hbackend : l.backend = none) (wire : Wire) (store : Offline)
    (f : Fault) : (l.ensureReady wire store).result = .error f ↔
      l.offline = false ∧ l.settings.token ≠ "" ∧ l.settings.baseUrl = "" ∧ f = .noBaseUrl := by
  unfold Launch.ensureReady Remote.connect
  rw [hbackend, if_neg (by simp)]
  by_cases hoffline : l.offline
  · simp [hoffline]
  · by_cases htoken : l.settings.token = ""
    · simp [hoffline, htoken]
    · by_cases hurl : l.settings.baseUrl = ""
      · simp [hoffline, htoken, hurl, eq_comm]
      · simp [hoffline, htoken, hurl]

namespace Settings

/-! ## loaded settings -/

theorem not_refuses_of_value? {entries : Entries Json} {key : Key} {value : Json} (h : refusedValue? entries = none)
    (hvalue : value? entries key = some value) : key.refuses value = false := by
  obtain ⟨hget, habsent⟩ := Option.filter_eq_some_iff.1 hvalue
  have hrefused : isRefused (key.name, value) = false := by
    simpa using List.find?_eq_none.1 (Option.map_eq_none_iff.1 h) _ (Entries.mem_of_get? hget)
  simpa [isRefused, Key.ofName?_name, habsent] using hrefused

theorem not_refuses_of_environmentValue? {env : Environment} {key : Key} {value : Json}
    (h : refusedVariable? env = none) (hvalue : environmentValue? env key = some value) :
    key.refuses value = false := by
  rw [← refusedValue?_ofEnvironment] at h
  rw [← value?_ofEnvironment] at hvalue
  exact not_refuses_of_value? h hvalue

/-- Loaded settings have the given values, none of which is refused. -/
theorem given_of_load {path : String} {file : File} {env : Environment} {s : Settings}
    (h : (load path file env).1 = .ok s) : ∃ entries log, file.preferences path = .ok (entries, log) ∧
      s = update {} (given? entries env) ∧
      ∀ key value, given? entries env key = some value → key.refuses value = false := by
  rcases hfile : file.preferences path with e | ⟨entries, log⟩
  · simp only [load] at h
    rw [hfile] at h
    simp at h
  · have hload := mapError_load hfile env
    rw [h, layered] at hload
    rcases hrefused : (refusedValue? entries).or (refusedVariable? env) with _ | name <;> rw [hrefused] at hload
    · obtain ⟨hentries, hvariables⟩ := Option.or_eq_none_iff.1 hrefused
      refine ⟨entries, log, rfl, Except.ok.inj hload, fun key value hvalue => ?_⟩
      rcases Option.or_eq_some_iff.1 hvalue with hvalue | ⟨-, hvalue⟩
      · exact not_refuses_of_environmentValue? hvariables hvalue
      · exact not_refuses_of_value? hentries hvalue
    · have hsame : (.ok s : Except String Settings) = .error name := hload
      simp at hsame

/-- A number that is not refused is not too small. -/
theorem le_asInteger {key : Key} {least : Int} {value : Json} (hleast : key.least? = some least)
    (h : key.refuses value = false) : least ≤ asInteger value := by
  simp only [Key.refuses, hleast, Option.any_some] at h
  unfold asInteger
  rcases hn : numeral? value with _ | n <;> rw [hn] at h
  · simp at h
  · simpa using h

theorem baseUrl_update_eq_empty_iff (f : Key → Option Json) :
    (update {} f).baseUrl = "" ↔ ∃ value, f .baseUrl = some value ∧ asText value = "" := by
  rcases hvalue : f .baseUrl with _ | value <;> simp [update, hvalue]

/-! ## usable settings -/

/-- Settings with an address and with numbers in range, for which every launch says whether it is ready. -/
structure Usable (s : Settings) : Prop where
  baseUrl : s.baseUrl ≠ ""
  timeoutSeconds : 1 ≤ s.timeoutSeconds
  retries : 0 ≤ s.retries
  answers : ∀ offline wire store, ∃ ready, (Launch.ensureReady wire store { settings := s, offline }).result = .ok ready

/-- The address that counts is given, and it has nothing but blanks. -/
def BlankAddress (entries : Entries Json) (env : Environment) : Prop :=
  ∃ value, given? entries env .baseUrl = some value ∧ asText value = ""

/-- **Loaded settings are usable exactly if no blank address was given**; their numbers are in range in any case. -/
theorem load_usable_iff {path : String} {file : File} {env : Environment} {s : Settings}
    (h : (load path file env).1 = .ok s) :
    ∃ entries log, file.preferences path = .ok (entries, log) ∧ 1 ≤ s.timeoutSeconds ∧ 0 ≤ s.retries ∧
      (s.Usable ↔ ¬ BlankAddress entries env) := by
  obtain ⟨entries, log, hfile, rfl, hgiven⟩ := given_of_load h
  have htimeout : 1 ≤ (update {} (given? entries env)).timeoutSeconds := by
    rcases hvalue : given? entries env .timeoutSeconds with _ | value
    · simp [update, hvalue]
    · simpa [update, hvalue] using le_asInteger rfl (hgiven _ _ hvalue)
  have hretries : 0 ≤ (update {} (given? entries env)).retries := by
    rcases hvalue : given? entries env .retries with _ | value
    · simp [update, hvalue]
    · simpa [update, hvalue] using le_asInteger rfl (hgiven _ _ hvalue)
  refine ⟨entries, log, hfile, htimeout, hretries, ?_⟩
  have haddress := baseUrl_update_eq_empty_iff (given? entries env)
  constructor
  · intro husable hblank
    exact husable.baseUrl (haddress.2 hblank)
  · intro hblank
    have hurl : (update {} (given? entries env)).baseUrl ≠ "" := fun hurl => hblank (haddress.1 hurl)
    refine ⟨hurl, htimeout, hretries, fun offline wire store => ?_⟩
    rcases hready : (Launch.ensureReady wire store
      { settings := update {} (given? entries env), offline }).result with f | b
    · obtain ⟨-, -, hempty, -⟩ := (Launch.ensureReady_eq_error_iff rfl wire store f).1 hready
      exact absurd hempty hurl
    · exact ⟨b, rfl⟩

/-- The settings of the patient file behind an address of the environment. -/
def patient : Settings := { baseUrl := "https://kits.example", retries := 3 }

theorem load_usable_iff_patient :
    (load fileName (.text patientText) [("KITINFO_API_URL", " https://kits.example ")]).1 = .ok patient ∧
      ∃ entries log, File.preferences fileName (.text patientText) = .ok (entries, log) ∧
        1 ≤ patient.timeoutSeconds ∧ 0 ≤ patient.retries ∧
        (patient.Usable ↔ ¬ BlankAddress entries [("KITINFO_API_URL", " https://kits.example ")]) := by
  have hread : Json.read? patientText = some (.object patientEntries) := by decide +kernel
  have hfile : File.preferences fileName (.text patientText) = .ok (patientEntries, []) := by
    simp only [File.preferences]
    rw [hread]
  have hload : (load fileName (.text patientText) [("KITINFO_API_URL", " https://kits.example ")]).1 = .ok patient := by
    rw [load_of_preferences hfile]
    rfl
  exact ⟨hload, load_usable_iff hload⟩

/-- A blank address is accepted, and with a token the launch then fails. -/
theorem load_blank_address :
    (load fileName .missing [("KITINFO_API_URL", " "), ("KITINFO_API_TOKEN", "t")]).1 =
        .ok { baseUrl := "", token := "t" } ∧
      (Launch.ensureReady .unplugged {} { settings := { baseUrl := "", token := "t" } }).result = .error .noBaseUrl :=
  ⟨rfl, rfl⟩

end Settings

end KitConsole
