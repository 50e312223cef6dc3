/-!
# Operations and the plan of a session

* `Operation` — the closed set of steps that a session is made of.
* `Plan` — the operations still to do, the next one first; `push` schedules in front, `pop` takes the next one and
  answers `quit` once the plan is empty.
-/

namespace KitConsole

inductive Operation
  | authenticate
  | mainMenu
  | listAndChoose
  | chooseAction
  | afterView
  | collectFields
  | view
  | save
  | delete
  | quit
  deriving DecidableEq, Repr, Inhabited

namespace Operation

def all : List Operation :=
  [authenticate, mainMenu, listAndChoose, chooseAction, afterView, collectFields, view, save, delete, quit]

def name : Operation → String
  | authenticate => "authenticate"
  | mainMenu => "main_menu"
  | listAndChoose => "list_and_choose"
  | chooseAction => "choose_action"
  | afterView => "after_view"
  | collectFields => "collect_fields"
  | view => "view"
  | save => "save"
  | delete => "delete"
  | quit => "quit"

def ofName? (s : String) : Option Operation := all.find? (·.name = s)

end Operation

abbrev Plan := List Operation

namespace Plan

def startup : Plan := [.authenticate, .mainMenu, .quit]

/-- The plan with `ops` in front, in their order. -/
def push (ops : List Operation) (plan : Plan) : Plan := ops ++ plan

def pop : Plan → Operation × Plan
  | [] => (.quit, [])
  | op :: rest => (op, rest)

def peek? (plan : Plan) : Option Operation := plan.head?

/-- The plan as log messages show it. -/
def describe (plan : Plan) : String := "OperationQueue([" ++ ", ".intercalate (plan.map (·.name)) ++ "])"

end Plan

end KitConsole
