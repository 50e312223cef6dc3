import KitConsole.Environment
import KitConsole.Json.Inline
import KitConsole.Json.Reader
import KitConsole.Log
import KitConsole.Text.Blank

/-!
# Settings

* `Settings` — the service address, the token, the time limit and the number of retries.
* `Settings.overlay` — settings with the values of a source that are neither null nor empty.
* `Settings.load` — the defaults, overlaid with the settings file, overlaid with the environment.
* `Settings.masked` — the settings as logs show them, without the token.
-/

namespace KitConsole

structure SettingsError where
  key : String
  problem : String
  deriving DecidableEq, Repr

def SettingsError.message (e : SettingsError) : String := e.key ++ ": " ++ e.problem

structure Settings where
  baseUrl : String := "https://typekit.com/api/v1/json/"
  token : String := ""
  timeoutSeconds : Int := 10
  retries : Int := 2
  deriving DecidableEq, Repr, Inhabited

namespace Settings

inductive Key
  | baseUrl
  | token
  | timeoutSeconds
  | retries
  deriving DecidableEq, Repr

namespace Key

def all : List Key := [baseUrl, token, timeoutSeconds, retries]

def name : Key → String
  | baseUrl => "api_base_url"
  | token => "api_token"
  | timeoutSeconds => "request_timeout_s"
  | retries => "retries"

def ofName? (s : String) : Option Key := all.find? (·.name = s)

end Key

/-! ## one value -/

/-- A value that counts as not given. -/
def isAbsent : Json → Bool
  | .null => true
  | .string s => s = ""
  | _ => false

def asText (value : Json) : String := Text.strip value.text

/-- The integer that a value's text is a numeral of, at least `least`. -/
def asNumber (key : Key) (least : Int) (value : Json) : Except SettingsError Int :=
  match Number.readInt (asText value).toList with
  | .error _ => .error ⟨key.name, "expected an integer, got " ++ value.inline⟩
  | .ok n => if n < least then .error ⟨key.name, "out of range: " ++ Number.intText n⟩ else .ok n

/-- The settings with one value replaced. -/
def set (s : Settings) (key : Key) (value : Json) : Except SettingsError Settings :=
  match key with
  | .baseUrl => .ok { s with baseUrl := asText value }
  | .token => .ok { s with token := asText value }
  | .timeoutSeconds => (asNumber key 1 value).map fun n => { s with timeoutSeconds := n }
  | .retries => (asNumber key 0 value).map fun n => { s with retries := n }

/-! ## sources -/

/-- One entry of a source; unknown keys and absent values change nothing. -/
def overlayEntry (s : Settings) (entry : String × Json) : Except SettingsError Settings :=
  match Key.ofName? entry.1 with
  | none => .ok s
  | some key => if isAbsent entry.2 then .ok s else s.set key entry.2

/-- The entries of a source one after the other, up to the first one that is not valid. -/
def overlay (s : Settings) : Entries Json → Except SettingsError Settings
  | [] => .ok s
  | e :: es => (s.overlayEntry e).bind fun s => s.overlay es

/-- A variable's text as the value of a key, if the variable is set and not empty. -/
def fromVariable (env : Environment) (name : String) (key : Key) : Entries Json :=
  if env.text name = "" then [] else [(key.name, .string (env.text name))]

/-- The first of the two token variables that is not empty. -/
def tokenFrom (env : Environment) : Entries Json :=
  if env.text "KITINFO_API_TOKEN" = "" then fromVariable env "TYPEKIT_API_TOKEN" .token
  else fromVariable env "KITINFO_API_TOKEN" .token

def ofEnvironment (env : Environment) : Entries Json :=
  fromVariable env "KITINFO_API_URL" .baseUrl ++ fromVariable env "KITINFO_TIMEOUT_S" .timeoutSeconds
    ++ fromVariable env "KITINFO_RETRIES" .retries ++ tokenFrom env

/-! ## the settings file -/

def fileName : String := "settings.json"

/-- What is found at the path of the settings file. -/
inductive File
  | missing
  | undecodable
  | text (contents : String)
  deriving DecidableEq, Repr

/-- A file's bytes as text, if they are well-formed UTF-8. -/
def File.ofBytes (bytes : ByteArray) : File :=
  match String.fromUTF8? bytes with
  | some s => .text s
  | none => .undecodable

def File.invalid : SettingsError := ⟨fileName, "not valid JSON"⟩

/-- The preferences in a file: none where there is no file, and none, with a warning, where the file holds another
value than an object. -/
def File.preferences (path : String) : File → Except SettingsError (Entries Json × List Log.Record)
  | missing => .ok ([], [])
  | undecodable => .error invalid
  | text contents =>
    match Json.read? contents with
    | none => .error invalid
    | some (.object entries) => .ok (entries, [])
    | some _ => .ok ([], [⟨.warning, .settings, "Ignoring " ++ path ++ ": expected a JSON object"⟩])

/-- The settings with the records logged on the way. -/
def load (path : String) (file : File) (env : Environment) : Except SettingsError Settings × List Log.Record :=
  match file.preferences path with
  | .error e => (.error e, [])
  | .ok (preferences, log) =>
    ((overlay {} preferences).bind fun s => s.overlay (ofEnvironment env), log)

/-! ## for logs -/

def mask (token : String) : String := if token = "" then "" else "***"

def masked (s : Settings) : Entries Json :=
  [("api_base_url", .string s.baseUrl), ("api_token", .string (mask s.token)),
   ("request_timeout_s", .int s.timeoutSeconds), ("retries", .int s.retries)]

end Settings

end KitConsole
