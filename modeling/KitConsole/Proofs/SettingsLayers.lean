import KitConsole.Settings

/-!
# The layers of the settings

* `Key.refuses` — a key that takes numbers refuses what is no numeral and what is too small.
* `value?`, `environmentValue?`, `given?` — the value that the entries of a source, the environment, and the two of them
  give to a key.
* `layered` — the settings as the layers define them: the first refused value decides, those of the file before those
  of the environment; else every key has its value from the environment, or from the file, or by default.
* `overlay_eq` — overlaying a source comes to the same as looking every key up in it.
* `load_layered` — loading the settings comes to the same as `layered`.
-/

namespace KitConsole.Settings

/-! ## the reference -/

/-- The least number that a key takes; the other keys take any text. -/
def Key.least? : Key → Option Int
  | .timeoutSeconds => some 1
  | .retries => some 0
  | .baseUrl | .token => none

/-- The integer that a value's text is the numeral of. -/
def numeral? (value : Json) : Option Int := (Number.readInt (asText value).toList).toOption

/-- The key takes numbers only, and the value is no numeral or too small. -/
def Key.refuses (key : Key) (value : Json) : Bool :=
  key.least?.any fun least => (numeral? value).all fun n => n < least

/-- The integer that a value which is not refused stands for. -/
def asInteger (value : Json) : Int := (numeral? value).getD 0

/-- The value that the entries of a source give to a key. -/
def value? (entries : Entries Json) (key : Key) : Option Json :=
  (Entries.get? key.name entries).filter fun value => !isAbsent value

/-- The variables of a key, the one that counts first in front. -/
def Key.variables : Key → List String
  | .baseUrl => ["KITINFO_API_URL"]
  | .token => ["KITINFO_API_TOKEN", "TYPEKIT_API_TOKEN"]
  | .timeoutSeconds => ["KITINFO_TIMEOUT_S"]
  | .retries => ["KITINFO_RETRIES"]

/-- The text of the first variable of a key that is not empty. -/
def environmentValue? (env : Environment) (key : Key) : Option Json :=
  ((key.variables.map env.text).find? (· ≠ "")).map .string

def given? (entries : Entries Json) (env : Environment) (key : Key) : Option Json :=
  (environmentValue? env key).or (value? entries key)

/-- The entry gives a value to a key that refuses it. -/
def isRefused (entry : String × Json) : Bool :=
  (Key.ofName? entry.1).any fun key => !isAbsent entry.2 && key.refuses entry.2

def refusedValue? (entries : Entries Json) : Option String := (entries.find? isRefused).map (·.1)

def refusedVariable? (env : Environment) : Option String :=
  ([Key.timeoutSeconds, .retries].find? fun key => (environmentValue? env key).any key.refuses).map Key.name

/-- The settings `s` with the values that `given?` holds, as far as it holds one for a key. -/
def update (s : Settings) (given? : Key → Option Json) : Settings where
  baseUrl := (given? .baseUrl).elim s.baseUrl asText
  token := (given? .token).elim s.token asText
  timeoutSeconds := (given? .timeoutSeconds).elim s.timeoutSeconds asInteger
  retries := (given? .retries).elim s.retries asInteger

/-- The settings of a file and an environment, or the name of the value that is refused. -/
def layered (entries : Entries Json) (env : Environment) : Except String Settings :=
  match (refusedValue? entries).or (refusedVariable? env) with
  | some name => .error name
  | none => .ok (update {} (given? entries env))

/-! ## one value -/

/-- The settings with a value that is not refused. -/
def assign (s : Settings) (value : Json) : Key → Settings
  | .baseUrl => { s with baseUrl := asText value }
  | .token => { s with token := asText value }
  | .timeoutSeconds => { s with timeoutSeconds := asInteger value }
  | .retries => { s with retries := asInteger value }

theorem asNumber_of_refuses {key : Key} {least : Int} {value : Json} (hleast : key.least? = some least)
    (h : key.refuses value = true) : ∃ e, asNumber key least value = .error e ∧ e.key = key.name := by
  simp only [Key.refuses, hleast, Option.any_some, numeral?] at h
  unfold asNumber
  rcases hread : Number.readInt (asText value).toList with f | n <;> rw [hread] at h
  · exact ⟨_, rfl, rfl⟩
  · have hn : n < least := by simpa [Except.toOption] using h
    exact ⟨_, if_pos hn, rfl⟩

theorem asNumber_of_not_refuses {key : Key} {least : Int} {value : Json} (hleast : key.least? = some least)
    (h : key.refuses value = false) : asNumber key least value = .ok (asInteger value) := by
  simp only [Key.refuses, hleast, Option.any_some, numeral?] at h
  unfold asNumber asInteger numeral?
  rcases hread : Number.readInt (asText value).toList with f | n <;> rw [hread] at h
  · simp [Except.toOption] at h
  · have hn : ¬ n < least := by simpa [Except.toOption] using h
    exact if_neg hn

theorem set_of_refuses {key : Key} {value : Json} (h : key.refuses value = true) (s : Settings) :
    ∃ e, s.set key value = .error e ∧ e.key = key.name := by
  cases key with
  | baseUrl => simp [Key.refuses, Key.least?] at h
  | token => simp [Key.refuses, Key.least?] at h
  | _ =>
    obtain ⟨e, he, hkey⟩ := asNumber_of_refuses rfl h
    simp only [set]
    rw [he]
    exact ⟨e, rfl, hkey⟩

theorem set_of_not_refuses {key : Key} {value : Json} (h : key.refuses value = false) (s : Settings) :
    s.set key value = .ok (s.assign value key) := by
  cases key with
  | baseUrl => rfl
  | token => rfl
  | _ =>
    simp only [set]
    rw [asNumber_of_not_refuses rfl h]
    rfl

/-! ## keys -/

namespace Key

theorem ofName?_name (key : Key) : ofName? key.name = some key := by cases key <;> rfl

theorem name_of_ofName? {name : String} {key : Key} (h : ofName? name = some key) : name = key.name := by
  have hname : key.name = name := by simpa using List.find?_some h
  exact hname.symm

theorem name_ne {key key' : Key} (h : key ≠ key') : key.name ≠ key'.name := by
  intro hname
  have := congrArg ofName? hname
  rw [ofName?_name, ofName?_name] at this
  exact h (Option.some.inj this)

end Key

theorem value?_cons_of_ne {name : String} {key : Key} (h : name ≠ key.name) (value : Json) (entries : Entries Json) :
    value? ((name, value) :: entries) key = value? entries key := by
  simp [value?, Entries.get?, h]

theorem value?_cons_self (key : Key) (value : Json) (entries : Entries Json) :
    value? ((key.name, value) :: entries) key = if isAbsent value then none else some value := by
  cases h : isAbsent value <;> simp [value?, Entries.get?, h]

theorem value?_of_not_mem {key : Key} {entries : Entries Json} (h : key.name ∉ entries.keys) :
    value? entries key = none := by
  have hget : Entries.get? key.name entries = none := by
    rw [← Option.not_isSome_iff_eq_none, Entries.get?_isSome_iff]
    exact h
  simp [value?, hget]

/-! ## one source -/

theorem update_congr {f g : Key → Option Json} (h : ∀ key, f key = g key) (s : Settings) : s.update f = s.update g := by
  rw [funext h]

/-- A value in front of entries that do not hold its key is assigned first. -/
theorem update_cons {key : Key} {value : Json} {entries : Entries Json} (hkey : key.name ∉ entries.keys)
    (hvalue : isAbsent value = false) (s : Settings) :
    s.update (value? ((key.name, value) :: entries)) = (s.assign value key).update (value? entries) := by
  have hself : value? ((key.name, value) :: entries) key = some value := by simp [value?_cons_self, hvalue]
  have hrest : value? entries key = none := value?_of_not_mem hkey
  have hother : ∀ key', key' ≠ key → value? ((key.name, value) :: entries) key' = value? entries key' :=
    fun key' hne => value?_cons_of_ne (Key.name_ne hne.symm) value entries
  cases key <;> simp [update, assign, hself, hrest, hother]

/-- **Overlaying a source comes to the same as looking every key up in it**, unless an entry is refused; then the
first such entry decides. -/
theorem overlay_eq {entries : Entries Json} (h : entries.keys.Nodup) (s : Settings) :
    (s.overlay entries).mapError SettingsError.key =
      match refusedValue? entries with
      | some name => .error name
      | none => .ok (s.update (value? entries)) := by
  induction entries generalizing s with
  | nil => rfl
  | cons e entries ih =>
    obtain ⟨name, value⟩ := e
    obtain ⟨hname, hentries⟩ : name ∉ Entries.keys entries ∧ (Entries.keys entries).Nodup := List.nodup_cons.1 h
    -- an entry that is left out leaves the values of all keys as they are
    have skipped (hskip : s.overlayEntry (name, value) = .ok s) (hrefused : isRefused (name, value) = false)
        (hvalue : ∀ key, value? ((name, value) :: entries) key = value? entries key) :
        (s.overlay ((name, value) :: entries)).mapError SettingsError.key =
          match refusedValue? ((name, value) :: entries) with
          | some name => .error name
          | none => .ok (s.update (value? ((name, value) :: entries))) := by
      have hrest : refusedValue? ((name, value) :: entries) = refusedValue? entries := by
        simp [refusedValue?, hrefused]
      rw [hrest, update_congr hvalue, ← ih hentries s]
      simp only [overlay]
      rw [hskip]
      rfl
    rcases hkey : Key.ofName? name with _ | key
    · refine skipped ?_ ?_ fun key => value?_cons_of_ne ?_ value entries
      · simp [overlayEntry, hkey]
      · simp [isRefused, hkey]
      · rintro rfl
        simp [Key.ofName?_name] at hkey
    · obtain rfl := Key.name_of_ofName? hkey
      cases habsent : isAbsent value with
      | true =>
        refine skipped ?_ ?_ fun key' => ?_
        · simp [overlayEntry, hkey, habsent]
        · simp [isRefused, hkey, habsent]
        · by_cases hne : key = key'
          · subst hne
            rw [value?_cons_self, value?_of_not_mem hname, habsent]
            rfl
          · exact value?_cons_of_ne (Key.name_ne hne) value entries
      | false =>
        have hset : s.overlayEntry (key.name, value) = s.set key value := by simp [overlayEntry, hkey, habsent]
        have hrefused : isRefused (key.name, value) = key.refuses value := by simp [isRefused, hkey, habsent]
        simp only [overlay]
        rw [hset]
        cases hrefuses : key.refuses value with
        | true =>
          obtain ⟨e, he, hekey⟩ := set_of_refuses hrefuses s
          have hfirst : refusedValue? ((key.name, value) :: entries) = some key.name := by
            simp [refusedValue?, hrefused, hrefuses]
          rw [he, hfirst]
          exact congrArg Except.error hekey
        | false =>
          have hrest : refusedValue? ((key.name, value) :: entries) = refusedValue? entries := by
            simp [refusedValue?, hrefused, hrefuses]
          rw [set_of_not_refuses hrefuses, hrest, update_cons hname habsent]
          exact ih hentries _

/-! ## the environment as a source -/

/-- The keys in the order in which their variables are read. -/
def Key.asRead : List Key := [.baseUrl, .timeoutSeconds, .retries, .token]

def assigned? (env : Environment) (key : Key) : Option (String × Json) :=
  (environmentValue? env key).map fun value => (key.name, value)

theorem ofEnvironment_eq (env : Environment) : ofEnvironment env = Key.asRead.filterMap (assigned? env) := by
  have one : ∀ name key, key.variables = [name] → fromVariable env name key = (assigned? env key).toList := by
    intro name key hname
    by_cases h : env.text name = "" <;> simp [fromVariable, assigned?, environmentValue?, hname, h]
  have token : tokenFrom env = (assigned? env .token).toList := by
    by_cases h : env.text "KITINFO_API_TOKEN" = "" <;> by_cases h' : env.text "TYPEKIT_API_TOKEN" = "" <;>
      simp [tokenFrom, fromVariable, assigned?, environmentValue?, Key.variables, h, h']
  rw [ofEnvironment, one _ .baseUrl rfl, one _ .timeoutSeconds rfl, one _ .retries rfl, token]
  simp only [Key.asRead, List.filterMap_cons, List.filterMap_nil]
  rcases assigned? env .baseUrl with _ | u <;> rcases assigned? env .timeoutSeconds with _ | t <;>
    rcases assigned? env .retries with _ | r <;> rcases assigned? env .token with _ | k <;> rfl

theorem isAbsent_of_environmentValue? {env : Environment} {key : Key} {value : Json}
    (h : environmentValue? env key = some value) : isAbsent value = false := by
  obtain ⟨text, htext, rfl⟩ := Option.map_eq_some_iff.1 h
  simpa [isAbsent] using List.find?_some htext

theorem value?_variables (env : Environment) {keys : List Key} (hkeys : keys.Nodup) (key : Key) :
    value? (keys.filterMap (assigned? env)) key = if key ∈ keys then environmentValue? env key else none := by
  induction keys with
  | nil => rfl
  | cons first keys ih =>
    obtain ⟨hfirst, hkeys⟩ := List.nodup_cons.1 hkeys
    rcases hvalue : environmentValue? env first with _ | value
    · rw [List.filterMap_cons_none (by simp [assigned?, hvalue]), ih hkeys]
      by_cases hkey : key = first
      · subst hkey
        simp [hfirst, hvalue]
      · simp [hkey]
    · rw [List.filterMap_cons_some (by rw [assigned?, hvalue]; rfl)]
      by_cases hkey : key = first
      · subst hkey
        simp [value?_cons_self, isAbsent_of_environmentValue? hvalue, hvalue]
      · rw [value?_cons_of_ne (Key.name_ne (Ne.symm hkey)), ih hkeys]
        simp [hkey]

theorem value?_ofEnvironment (env : Environment) (key : Key) :
    value? (ofEnvironment env) key = environmentValue? env key := by
  rw [ofEnvironment_eq, value?_variables env (by decide), if_pos (by cases key <;> decide)]

theorem keys_variables_sublist (env : Environment) (keys : List Key) :
    (Entries.keys (keys.filterMap (assigned? env))).Sublist (keys.map Key.name) := by
  induction keys with
  | nil => exact .slnil
  | cons first keys ih =>
    rcases hvalue : environmentValue? env first with _ | value
    · rw [List.filterMap_cons_none (by simp [assigned?, hvalue])]
      exact ih.cons _
    · rw [List.filterMap_cons_some (by rw [assigned?, hvalue]; rfl)]
      exact ih.cons_cons _

theorem nodup_keys_ofEnvironment (env : Environment) : (Entries.keys (ofEnvironment env)).Nodup := by
  rw [ofEnvironment_eq]
  exact (keys_variables_sublist env Key.asRead).nodup (by decide)

theorem isRefused_assigned? (env : Environment) (key : Key) :
    (assigned? env key).any isRefused = (environmentValue? env key).any key.refuses := by
  rcases hvalue : environmentValue? env key with _ | value
  · simp [assigned?, hvalue]
  · simp [assigned?, hvalue, isRefused, Key.ofName?_name, isAbsent_of_environmentValue? hvalue]

/-- Of the variables, those of the time limit and the retries can be refused, in this order. -/
theorem refusedValue?_ofEnvironment (env : Environment) : refusedValue? (ofEnvironment env) = refusedVariable? env := by
  have untaken : ∀ key, Key.least? key = none → (environmentValue? env key).any key.refuses = false := by
    intro key h
    cases environmentValue? env key <;> simp [Key.refuses, h]
  have named : ∀ key, (environmentValue? env key).any key.refuses = true →
      (assigned? env key).map (·.1) = some key.name := by
    intro key h
    rcases hvalue : environmentValue? env key with _ | value
    · simp [hvalue] at h
    · simp [assigned?, hvalue]
  have hfind : Key.asRead.find? (fun key => (environmentValue? env key).any key.refuses) =
      [Key.timeoutSeconds, .retries].find? fun key => (environmentValue? env key).any key.refuses := by
    simp [Key.asRead, List.find?_cons, untaken .baseUrl rfl, untaken .token rfl]
  rw [ofEnvironment_eq, refusedValue?, List.find?_filterMap, refusedVariable?]
  simp only [isRefused_assigned?, hfind]
  rcases hkey : [Key.timeoutSeconds, .retries].find? fun key => (environmentValue? env key).any key.refuses with _ | key
  · rfl
  · have hrefuses := List.find?_some hkey
    exact named key hrefuses

/-! ## the two sources -/

theorem update_update (s : Settings) (f g : Key → Option Json) :
    (s.update f).update g = s.update fun key => (g key).or (f key) := by
  have elim : ∀ {α : Type} (x y : Option Json) (d : α) (h : Json → α), x.elim (y.elim d h) h = (x.or y).elim d h := by
    intro α x y d h
    cases x <;> rfl
  simp only [update, elim]

/-- Entries under unknown keys change nothing. -/
theorem overlay_known (s : Settings) (entries : Entries Json) :
    s.overlay (entries.filter fun e => (Key.ofName? e.1).isSome) = s.overlay entries := by
  induction entries generalizing s with
  | nil => rfl
  | cons e entries ih =>
    rcases hkey : Key.ofName? e.1 with _ | key
    · have hskip : s.overlayEntry e = .ok s := by simp [overlayEntry, hkey]
      rw [List.filter_cons_of_neg (by simp [hkey]), ih, overlay, hskip]
      rfl
    · rw [List.filter_cons_of_pos (by simp [hkey]), overlay, overlay]
      rcases s.overlayEntry e with x | s
      · rfl
      · exact ih s

theorem nodup_keys_of_preferences {path : String} {file : File} {entries : Entries Json} {log : List Log.Record}
    (h : file.preferences path = .ok (entries, log)) : (Entries.keys entries).Nodup := by
  unfold File.preferences at h
  split at h
  · obtain ⟨rfl, -⟩ := Prod.mk.inj (Except.ok.inj h)
    simp [Entries.keys]
  · simp at h
  · split at h
    · simp at h
    · rename_i hread
      obtain ⟨rfl, -⟩ := Prod.mk.inj (Except.ok.inj h)
      exact Json.nodup_keys_of_read? hread
    · obtain ⟨rfl, -⟩ := Prod.mk.inj (Except.ok.inj h)
      simp [Entries.keys]

theorem load_of_preferences {path : String} {file : File} {entries : Entries Json} {log : List Log.Record}
    (h : file.preferences path = .ok (entries, log)) (env : Environment) :
    (load path file env).1 = (overlay {} entries).bind fun s => s.overlay (ofEnvironment env) := by
  simp only [load]
  rw [h]

theorem mapError_load {path : String} {file : File} {entries : Entries Json} {log : List Log.Record}
    (h : file.preferences path = .ok (entries, log)) (env : Environment) :
    (load path file env).1.mapError SettingsError.key = layered entries env := by
  have hfile := overlay_eq (nodup_keys_of_preferences h) {}
  have henvironment := overlay_eq (nodup_keys_ofEnvironment env) (update {} (value? entries))
  rw [refusedValue?_ofEnvironment, update_congr (value?_ofEnvironment env), update_update] at henvironment
  rw [load_of_preferences h, layered]
  rcases hoverlay : overlay {} entries with e | s <;> rw [hoverlay] at hfile
  · rcases hrefused : refusedValue? entries with _ | name <;> rw [hrefused] at hfile
    · have hsame : (.error e.key : Except String Settings) = .ok _ := hfile
      simp at hsame
    · exact hfile
  · rcases hrefused : refusedValue? entries with _ | name <;> rw [hrefused] at hfile
    · obtain rfl : s = update {} (value? entries) := Except.ok.inj hfile
      exact henvironment
    · have hsame : (.ok s : Except String Settings) = .error name := hfile
      simp at hsame

/-- **Loading the settings comes to what the layers define**: the error names the first entry of the file that is
refused, else the first variable; where nothing is refused, every key has the value of its variable, else that of the
file, else the default, whatever the other keys have.  Entries under unknown keys change nothing. -/
theorem load_layered {path : String} {file : File} {entries : Entries Json} {log : List Log.Record}
    (h : file.preferences path = .ok (entries, log)) (env : Environment) :
    (load path file env).1.mapError SettingsError.key = layered entries env ∧
      ∀ (file' : File) entries' log', file'.preferences path = .ok (entries', log') →
        (entries'.filter fun e => (Key.ofName? e.1).isSome) = entries.filter (fun e => (Key.ofName? e.1).isSome) →
        (load path file' env).1 = (load path file env).1 := by
  refine ⟨mapError_load h env, fun file' entries' log' h' hknown => ?_⟩
  rw [load_of_preferences h, load_of_preferences h', ← overlay_known _ entries', hknown, overlay_known]

/-- A file with a key that nobody knows, retries given as text, and no time limit. -/
def patientText : String := "\x7b\"colour\": 1, \"retries\": \" 3 \", \"request_timeout_s\": \"\"\x7d"

def patientEntries : Entries Json := [("colour", .int 1), ("retries", .string " 3 "), ("request_timeout_s", .string "")]

theorem load_layered_patient :
    File.preferences fileName (.text patientText) = .ok (patientEntries, []) ∧
      (load fileName (.text patientText) [("KITINFO_TIMEOUT_S", "30")]).1.mapError SettingsError.key =
        layered patientEntries [("KITINFO_TIMEOUT_S", "30")] ∧
      ∀ (file' : File) entries' log', file'.preferences fileName = .ok (entries', log') →
        (entries'.filter fun e => (Key.ofName? e.1).isSome) =
          patientEntries.filter (fun e => (Key.ofName? e.1).isSome) →
        (load fileName file' [("KITINFO_TIMEOUT_S", "30")]).1 =
          (load fileName (.text patientText) [("KITINFO_TIMEOUT_S", "30")]).1 := by
  have hread : Json.read? patientText = some (.object patientEntries) := by decide +kernel
  have hfile : File.preferences fileName (.text patientText) = .ok (patientEntries, []) := by
    simp only [File.preferences]
    rw [hread]
  exact ⟨hfile, load_layered hfile [("KITINFO_TIMEOUT_S", "30")]⟩

example : (layered patientEntries [("KITINFO_TIMEOUT_S", "30")]).toOption =
    some { timeoutSeconds := 30, retries := 3 } := by
  decide +kernel

/-- A refused value of the file counts although the environment has another one. -/
example : (layered [("retries", .string "some")]
    [("KITINFO_TIMEOUT_S", "0"), ("KITINFO_RETRIES", "1")]).toOption = none := by
  decide +kernel

end KitConsole.Settings
