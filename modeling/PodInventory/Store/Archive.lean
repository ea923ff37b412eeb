import PodInventory.Json.Render
import PodInventory.Service

namespace PodInventory

/-- All of a service that is kept between two runs. -/
structure Archive where
  created : Nat
  changed : Nat
  pods : List PodRecord
  deriving DecidableEq, Inhabited

namespace Archive

def empty : Archive := ⟨0, 0, []⟩

def json (a : Archive) : Json :=
  .object [("created", .nat a.created), ("changed", .nat a.changed),
    ("pods", .list (a.pods.map PodRecord.json))]

open Decode

def layout : Layout where
  title := "a pod database"
  fields := [.of "created" (natural 64), .of "changed" (natural 64),
    .of "pods" (list PodRecord.decode)]
  sealed := true

def decode : Decoder Archive := fun n ↦ do
  let fields ← layout.read n
  return ⟨← fields.need "created" (natural 64), ← fields.need "changed" (natural 64),
    ← fields.need "pods" (list PodRecord.decode)⟩

def tables (a : Archive) : Tables := ⟨a.pods.map .ofRecord, a.pods.flatMap PodRecord.routeRows⟩

/-- The service that goes on from an archive at a path. -/
def service (a : Archive) (path : String) : Service :=
  { Service.start (.durable path a.tables []) with created := a.created, changed := a.changed }

def ofService (s : Service) : Except StoreError Archive := do
  return ⟨s.created, s.changed, ← PodStore.list s.store⟩

/-- An archive from the text of a file. Nothing at all stands for an empty one. -/
def ofText (text : String) : Except StoreError Archive :=
  if text.isEmpty then .ok .empty
  else
    (Decode.ofText decode text).mapError
      (fun _ ↦ .internal (Statement.failed "26" "file is not a database"))

end Archive

end PodInventory
