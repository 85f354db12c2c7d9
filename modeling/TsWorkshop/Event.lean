import TsWorkshop.Text.Basic
import TsWorkshop.Assoc

/-!
Events: what a command reports while it runs.
-/

namespace TsWorkshop

/-- How important an event is. -/
inductive Level where
  | debug | info | warn | error
  deriving DecidableEq, Repr

namespace Level

def name : Level → String
  | debug => "DEBUG"
  | info => "INFO"
  | warn => "WARN"
  | error => "ERROR"

/-- Larger for a more important level. -/
def rank : Level → Nat
  | debug => 0
  | info => 1
  | warn => 2
  | error => 3

end Level

/-- A reported event: where it comes from, a message, and named texts. -/
structure Event where
  level : Level
  target : String
  message : String
  fields : Assoc String := []
  deriving DecidableEq, Repr

/-- The line of an event in a log. -/
def Event.line (e : Event) : String :=
  Text.join " "
    (e.level.name :: e.message :: e.fields.map fun (name, value) => name ++ "=" ++ value)

end TsWorkshop
