import KitConsole.CommandLine.Arguments
import KitConsole.Console
import KitConsole.Launch
import KitConsole.Settings.Location

/-!
# The command line program

* `CommandLine.Inputs` — all that a run depends on.
* `CommandLine.run` — a run: the arguments, the root logger, the settings, the backend, one session.
* `CommandLine.Report` — how a run ended, what it printed, what it logged, and the requests that went out.
-/

namespace KitConsole.CommandLine

def helpLines : List String :=
  ["usage: kitinfo [-h] [--offline] [--settings-dir SETTINGS_DIR] [--log-level LOG_LEVEL]",
   "",
   "Interactively list, view, create, update, and delete Typekit kits.",
   "",
   "options:",
   "  -h, --help            show this help message and exit",
   "  --offline             use an in-memory kit store instead of the Typekit API",
   "  --settings-dir SETTINGS_DIR",
   "                        directory holding settings.json",
   "  --log-level LOG_LEVEL",
   "                        log level name or number (default: WARNING)"]

def helpText : String := String.join (helpLines.map (· ++ "\n"))

structure Inputs where
  arguments : List String
  environment : Environment
  home : String
  file : (path : String) → Settings.File
  console : Console
  wire : Wire
  store : Offline

inductive Ending
  | status (n : Nat)
  | help
  | wrongUsage (e : Arguments.UsageError)
  | badLevel (f : Log.LevelFault)
  | stopped (s : Stop)
  | unfinished
  deriving DecidableEq, Repr

structure Report where
  ending : Ending
  output : String := ""
  log : List Log.Record := []
  sent : List Wire.Request := []

def usageLine (e : Arguments.UsageError) : String := "kitinfo: error: " ++ e.message

/-- The lines of an error, printed on a console that is then done with. -/
def errorOutput (console : Console) (lines : List String) : String :=
  ((lines.forM Console.error).run.run console).2.output

def invalidSettings (console : Console) (e : SettingsError) (log : List Log.Record) : Report :=
  { ending := .status 2, output := errorOutput console ["Invalid setting " ++ e.message], log }

def missingToken (console : Console) (log : List Log.Record) : Report :=
  { ending := .status 2
    output := errorOutput console
      ["No API token configured.", "Set KITINFO_API_TOKEN or add \"api_token\" to settings.json."]
    log }

def endingOf : Session.Exit → Ending
  | .status n => .status n
  | .stopped s => .stopped s
  | .unfinished => .unfinished

/-- One session over a backend.  Every yes takes a line of the input, so its lines bound the operations. -/
def converse (console : Console) (backend : Backend) (log : List Log.Record) : Report :=
  let session : Session (Backend × Console) := { world := (backend, console) }
  let allowed := Session.allowance session.plan (console.lines.length + 1)
  let (exit, session) := session.conduct (.of Backend.serve Console.surface) allowed
  { ending := endingOf exit
    output := session.world.2.output
    log := log ++ session.log
    sent := session.world.1.sent }

def launch (i : Inputs) (l : Launch) (log : List Log.Record) : Report :=
  let t := l.ensureReady i.wire i.store
  let log := log ++ t.log
  match t.result, t.world.backend with
  | .error f, _ => { ending := .stopped (.fault f), log }
  | .ok true, some backend => converse i.console backend log
  | .ok _, _ => missingToken i.console log

/-- A run with all its log records. -/
def perform (i : Inputs) (a : Arguments) : Report :=
  let path := Settings.path (Settings.directory i.home a.settingsDirectory)
  match Settings.load path (i.file path) i.environment with
  | (.error e, log) => invalidSettings i.console e log
  | (.ok settings, log) => launch i { settings, offline := a.offline } log

/-- A run; of its log records those that the root logger lets pass. -/
def run (i : Inputs) : Report :=
  match Arguments.read i.arguments with
  | .help => { ending := .help, output := helpText }
  | .wrong e => { ending := .wrongUsage e }
  | .options a =>
    match Log.Root.configure a.logLevel i.environment {} with
    | (.error f, _) => { ending := .badLevel f }
    | (.ok _, root) =>
      let report := perform i a
      { report with log := Log.visible root.level report.log }

end KitConsole.CommandLine
