import PodInventory.Json.Binary64
import PodInventory.Dict

namespace PodInventory

open Text

/-- A JSON number as a reader keeps it. Integers stay exact, all else is a double. -/
inductive Number
  | integer (value : Int)
  | float (value : Binary64)
  deriving DecidableEq, Inhabited

def Number.text : Number → List Char
  | .integer i => (if i < 0 then ['-'] else []) ++ decimal i.natAbs
  | .float x => x.text

/-- A JSON value. Readers leave the members of an object in ascending order of their keys; an
encoder lists them in the order in which they are written. -/
inductive Json
  | null
  | bool (value : Bool)
  | number (value : Number)
  | text (value : String)
  | list (items : List Json)
  | object (members : List (String × Json))
  deriving Inhabited

namespace Json

def nat (n : Nat) : Json := .number (.integer n)

def optional {α : Type} (encode : α → Json) : Option α → Json
  | none => .null
  | some a => encode a

def dict {α : Type} (encode : α → Json) (d : Dict α) : Json :=
  .object (d.entries.map (fun e ↦ (e.1, encode e.2)))

def member? (key : String) : Json → Option Json
  | .object members => members.lookup key
  | _ => none

/-- Adds members behind those of an object. -/
def extend (more : List (String × Json)) : Json → Json
  | .object members => .object (members ++ more)
  | other => other

end Json

end PodInventory
