import PodInventory.Worker.Error

namespace PodInventory

/-- A named remote call with its arguments. -/
structure Call where
  method : String
  args : Json
  deriving Inhabited

namespace Call

def json (c : Call) : Json := .object [("method", .text c.method), ("args", c.args)]

open Decode

def layout : Layout where
  title := "struct RpcCall"
  fields := [.of "method" string, .of "args" value]

def decode : Decoder Call := fun n ↦ do
  let fields ← layout.read n
  return ⟨← fields.need "method" string, ← fields.need "args" value⟩

end Call

/-- What a worker does once its delay has passed. -/
inductive Action
  | reply (value : Json)
  | fail (error : WorkerError)
  | panic (message : String)
  | hang
  deriving Inhabited

/-- The connection to one worker, given by what a call to it comes to and after how many
milliseconds. -/
structure Worker where
  id : WorkerId
  delay : Nat
  action : Action
  deriving Inhabited

end PodInventory
