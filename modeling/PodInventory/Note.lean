import PodInventory.Text.Numeral

namespace PodInventory

inductive Level
  | debug
  | info
  | warn
  deriving DecidableEq, Inhabited

/-- One line of a program's log. -/
structure Note where
  level : Level
  text : String
  deriving DecidableEq, Inhabited

def Level.text : Level → String
  | debug => "DEBUG"
  | info => "INFO"
  | warn => "WARN"

def Note.line (n : Note) : String := n.level.text ++ " " ++ n.text

/-- A number as it stands in a message. -/
def shown (n : Nat) : String := .ofList (Text.decimal n)

end PodInventory
