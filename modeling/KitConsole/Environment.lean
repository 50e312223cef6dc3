import KitConsole.Entries

/-!
# The environment

* `Environment` — the variables of the process.
* `Environment.text` — a variable's text, empty where it is not set.
-/

namespace KitConsole

abbrev Environment := Entries String

def Environment.text (env : Environment) (name : String) : String := (Entries.get? name env).getD ""

end KitConsole
