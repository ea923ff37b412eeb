import PodInventory.Note
import PodInventory.Pod.Record
import PodInventory.Text.Quoted

namespace PodInventory

/-- One entry of the audit trail, with the pod that it concerns. -/
structure AuditEntry where
  pod : PodId
  note : Note
  deriving DecidableEq, Inhabited

namespace AuditEntry

def created (pod : PodRecord) : AuditEntry :=
  ⟨pod.id, .info, "Pod created: " ++ pod.name ++ " (" ++ pod.id ++ ") type " ++ pod.kind⟩

def deleted (id : PodId) : AuditEntry := ⟨id, .info, "Pod deleted: " ++ id⟩

def synced (pod : PodRecord) : AuditEntry :=
  ⟨pod.id, .info, "Pod synced: " ++ pod.name ++ " (" ++ pod.id ++ ") version "
    ++ shown pod.version.toNat ++ ", routable via " ++ Text.quotedList pod.routableWorkers
    ++ ", unroutable via " ++ Text.quotedList pod.unroutableWorkers⟩

def syncFailed (pod : PodRecord) (reason : String) : AuditEntry :=
  ⟨pod.id, .warn, "Pod sync failed: " ++ pod.name ++ " (" ++ pod.id ++ "): " ++ reason⟩

end AuditEntry

end PodInventory
