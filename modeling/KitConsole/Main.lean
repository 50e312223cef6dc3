import KitConsole.CommandLine

/-!
# The program

* `main` — one run on the process's arguments, environment, settings file and terminal.

A run is a function of the lines entered, so it is taken up again with one line more whenever it waits for input;
what is new in its output is printed each time.
-/

namespace KitConsole.Program

/-- The variables that a run looks at. -/
def knownVariables : List String :=
  [Log.levelVariable, Log.debugVariable, "KITINFO_API_URL", "KITINFO_TIMEOUT_S", "KITINFO_RETRIES",
   "KITINFO_API_TOKEN", "TYPEKIT_API_TOKEN"]

def readEnvironment : IO Environment :=
  knownVariables.filterMapM fun name => do return (← IO.getEnv name).map fun text => (name, text)

def readSettings (path : String) : IO Settings.File := do
  try return .ofBytes (← IO.FS.readBinFile path) catch _ => return .missing

/-- The settings file that the arguments ask for. -/
def settingsFor (home : String) (arguments : List String) : IO Settings.File :=
  match Arguments.read arguments with
  | .options a => readSettings (Settings.path (Settings.directory home a.settingsDirectory))
  | _ => return .missing

def exitCode : CommandLine.Ending → UInt32
  | .status n => n.toUInt32
  | .help => 0
  | .wrongUsage _ => 2
  | _ => 1

/-- What is left to say once a run is over. -/
def lastWords : CommandLine.Ending → List String
  | .wrongUsage e => [CommandLine.usageLine e]
  | .badLevel f => [f.message]
  | .stopped s => [s.message]
  | _ => []

/-- The number at a place of the sequence that a generator gives. -/
def numberAt : StdGen → Nat → Nat
  | generator, 0 => (stdNext generator).1
  | generator, n + 1 => numberAt (stdNext generator).2 n

def withoutLineEnd (line : String) : String :=
  if line.toList.getLast? = some '\n' then .ofList line.toList.dropLast else line

/-- The run on the lines entered so far, of whose output `printed` characters and `logged` records are out. -/
partial def proceed (inputs : CommandLine.Inputs) (lines : List String) (printed logged : Nat) : IO UInt32 := do
  let report := CommandLine.run { inputs with console := { lines, source := .terminal } }
  let out ← IO.getStdout
  out.putStr (.ofList (report.output.toList.drop printed))
  out.flush
  for record in report.log.drop logged do IO.eprintln record.line
  let line ← if report.ending = .stopped (.fault .endOfInput) then (← IO.getStdin).getLine else pure ""
  if line = "" then
    for text in lastWords report.ending do IO.eprintln text
    return exitCode report.ending
  else proceed inputs (lines ++ [withoutLineEnd line]) report.output.length report.log.length

end KitConsole.Program

open KitConsole Program in
def main (arguments : List String) : IO UInt32 := do
  let home := (← IO.getEnv "HOME").getD ""
  let environment ← readEnvironment
  let file ← settingsFor home arguments
  let seed ← IO.rand 0 (Nat.pow 16 7 - 1)
  proceed
    { arguments, environment, home
      file := fun _ => file
      console := { lines := [], source := .terminal }
      wire := .unplugged
      store := { Offline.withExampleKit {} with draws := numberAt (mkStdGen seed) } }
    [] 0 0
