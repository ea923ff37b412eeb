import PodInventory.Failure
import PodInventory.Note
import PodInventory.Partition

namespace PodInventory.Plan

/-- All workers see one target, so any success will do. The lowest id keeps repeated runs stable. -/
def selected? (result : Partition Snapshot) : Option (WorkerId × Snapshot) :=
  result.succeeded.first?

/-- Workers that answered become routable, workers that failed unroutable. -/
def routes (result : Partition Snapshot) : Dict Bool :=
  (result.succeeded.map (fun _ ↦ true)).insertAll (result.failed.map (fun _ ↦ false))

def update (result : Partition Snapshot) : Except SyncError Update :=
  match selected? result with
  | none => .error (.noViableWorker result.failed)
  | some (_, snapshot) => .ok ⟨snapshot, routes result⟩

def notes (pod : PodRecord) (result : Partition Snapshot) : List Note :=
  match selected? result with
  | none =>
    [⟨.warn, "No worker could discover pod " ++ pod.name ++ " (" ++ pod.id ++ "): "
      ++ (SyncError.noViableWorker result.failed).text⟩]
  | some (worker, _) =>
    [⟨.info, "Reconciling pod " ++ pod.name ++ " (" ++ pod.id ++ ") from worker " ++ worker ++ ": "
      ++ shown result.succeeded.size ++ " routable, " ++ shown result.failed.size
      ++ " unroutable"⟩]

end PodInventory.Plan
