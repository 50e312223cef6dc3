import KitConsole.Settings

/-!
# Where the settings are kept

* `Settings.directory` — the chosen directory, or `~/.kitinfo`, with the home directory for a leading tilde.
* `Settings.path` — the settings file in a directory.
-/

namespace KitConsole.Settings

def defaultDirectory : String := "~/.kitinfo"

def dropTrailingSlashes (cs : List Char) : List Char := (cs.reverse.dropWhile (· == '/')).reverse

/-- A leading tilde, alone or before a slash, stands for the home directory. -/
def expandHome (home : List Char) : List Char → List Char
  | '~' :: rest =>
    if rest.head?.all (· == '/') then
      match dropTrailingSlashes home ++ rest with
      | [] => ['/']
      | path => path
    else '~' :: rest
  | path => path

/-- The directory of the settings; an empty choice is none. -/
def directory (home : String) (chosen : Option String) : String :=
  let dir := chosen.getD ""
  .ofList (expandHome home.toList (if dir = "" then defaultDirectory else dir).toList)

def path (directory : String) : String :=
  if directory = "" ∨ directory.toList.getLast? = some '/' then directory ++ fileName
  else directory ++ "/" ++ fileName

end KitConsole.Settings
