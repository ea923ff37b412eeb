import PodInventory.Note
import PodInventory.Worker.Call

namespace PodInventory

/-- The connected workers, one handle for an id, in no particular order. -/
structure Registry where
  handles : List Worker
  deriving Inhabited

namespace Registry

def empty : Registry := ⟨[]⟩

def contains (r : Registry) (id : WorkerId) : Bool := r.handles.any (fun w ↦ w.id == id)

def without (r : Registry) (id : WorkerId) : Registry :=
  ⟨r.handles.filter (fun w ↦ w.id != id)⟩

/-- A new handle takes the place of one with the same id. -/
def register (r : Registry) (w : Worker) : Registry × Note :=
  (⟨w :: (r.without w.id).handles⟩,
    if r.contains w.id then
      ⟨.warn, "Worker " ++ w.id ++ " re-registered, replacing previous handle"⟩
    else ⟨.info, "Worker " ++ w.id ++ " registered"⟩)

/-- Answers whether the worker was registered. -/
def deregister (r : Registry) (id : WorkerId) : Bool × Registry × List Note :=
  if r.contains id then (true, r.without id, [⟨.info, "Worker " ++ id ++ " deregistered"⟩])
  else (false, r, [])

def size (r : Registry) : Nat := r.handles.length

def isEmpty (r : Registry) : Bool := r.handles.isEmpty

/-- All handles by ascending id, whatever order they are kept in. -/
def snapshot (r : Registry) : List Worker := r.handles.mergeSort (fun v w ↦ v.id ≤ w.id)

end Registry

end PodInventory
