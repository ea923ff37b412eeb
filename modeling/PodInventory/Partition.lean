import PodInventory.Worker.Error

namespace PodInventory

/-- What a call to one worker came to. -/
abbrev Outcome (α : Type) := Except WorkerError α

/-- The outcomes of many workers, those that succeeded apart from those that failed. -/
structure Partition (α : Type) where
  succeeded : Dict α
  failed : Dict WorkerError
  deriving DecidableEq, Inhabited

namespace Partition

variable {α β : Type}

def empty : Partition α := ⟨∅, ∅⟩

/-- A later outcome of a worker takes the place of an earlier one. -/
def record (p : Partition α) (id : WorkerId) : Outcome α → Partition α
  | .ok a => ⟨p.succeeded.insert id a, p.failed.erase id⟩
  | .error e => ⟨p.succeeded.erase id, p.failed.insert id e⟩

def ofOutcomes (outcomes : List (WorkerId × Outcome α)) : Partition α :=
  outcomes.foldl (fun p o ↦ p.record o.1 o.2) empty

def size (p : Partition α) : Nat := p.succeeded.size + p.failed.size

def isEmpty (p : Partition α) : Bool := p.succeeded.isEmpty && p.failed.isEmpty

def contains (p : Partition α) (id : WorkerId) : Bool :=
  p.succeeded.contains id || p.failed.contains id

/-- Converts every success. One that cannot be converted becomes a failure. -/
def tryMap (convert : α → Outcome β) (p : Partition α) : Partition β :=
  p.succeeded.entries.foldl (fun q e ↦
    match convert e.2 with
    | .ok b => ⟨q.succeeded.insert e.1 b, q.failed⟩
    | .error err => ⟨q.succeeded, q.failed.insert e.1 err⟩) ⟨∅, p.failed⟩

def json (encode : α → Json) (p : Partition α) : Json :=
  .object [("succeeded", .dict encode p.succeeded), ("failed", .dict WorkerError.json p.failed)]

end Partition

end PodInventory
