import PodInventory.Audit
import PodInventory.Discovery
import PodInventory.Plan
import PodInventory.Store.Basic

namespace PodInventory

/-- What a reconciliation leaves behind. -/
structure Reconciled (σ : Type) where
  answer : Except SyncError PodRecord
  store : σ
  events : List Event := []
  notes : List Note := []

namespace Reconciled

variable {σ : Type} [PodStore σ]

/-- Writes what was planned. Where nothing was planned the store stays untouched. -/
def write (store : σ) (time : String) (id : PodId) : Except SyncError Update → Reconciled σ
  | .error e => { answer := .error e, store }
  | .ok update =>
    let w := PodStore.apply store time id update
    { answer := w.answer.mapError .ofStore
      store := w.store
      events := w.events
      notes := w.notes }

end Reconciled

/-- Brings a stored pod up to date with what was discovered. Of the record handed in only the id
matters for the write. -/
def reconcile {σ : Type} [PodStore σ] (store : σ) (time : String) (pod : PodRecord)
    (result : Partition Snapshot) : Reconciled σ :=
  let r := Reconciled.write store time pod.id (Plan.update result)
  { r with notes := Plan.notes pod result ++ r.notes }

/-- A sync between its discovery, which touches no store, and its write. There is no report where
no worker was called. -/
structure Sync where
  pod : PodRecord
  found : Except SyncError Discovery.Report
  notes : List Note
  deriving Inhabited

namespace Sync

def start (pod : PodRecord) (workers : List Worker) (timeout : Duration) : Sync :=
  if Text.allBlank pod.kind then
    ⟨pod, .error (.invalidTarget ("pod " ++ pod.id ++ " has no power type")), []⟩
  else
    let notes := [⟨.info, "Syncing pod " ++ pod.name ++ " (" ++ pod.id ++ ") through "
      ++ shown workers.length ++ " workers"⟩]
    match Discovery.run .pod (.ofPod pod) workers timeout with
    | .error e => ⟨pod, .error e, notes⟩
    | .ok report => ⟨pod, .ok report, notes ++ report.notes⟩

/-- The milliseconds from a sync's start to its write. -/
def elapsed (s : Sync) : Nat :=
  match s.found with
  | .ok report => report.elapsed
  | .error _ => 0

/-- Whether any worker has to answer before the write. -/
def waits (s : Sync) : Bool :=
  match s.found with
  | .ok report => 0 < report.result.size
  | .error _ => false

def call? (s : Sync) : Option Call := s.found.toOption.map Discovery.Report.call

/-- The single write of a sync. -/
def commit {σ : Type} [PodStore σ] (s : Sync) (store : σ) (time : String) : Reconciled σ :=
  match s.found with
  | .error e => { answer := .error e, store }
  | .ok report => reconcile store time s.pod report.result

/-- The audit trail of a sync that came to this answer. A disabled trail stays empty. -/
def audit (enabled : Bool) (pod : PodRecord) (answer : Except SyncError PodRecord) :
    List AuditEntry :=
  if enabled then
    match answer with
    | .ok updated => [.synced updated]
    | .error e => [.syncFailed pod e.text]
  else []

/-- A sync without anything in between. -/
def run {σ : Type} [PodStore σ] (store : σ) (time : String) (pod : PodRecord)
    (workers : List Worker) (timeout : Duration) : Reconciled σ :=
  let s := start pod workers timeout
  let r := s.commit store time
  { r with notes := s.notes ++ r.notes }

end Sync

end PodInventory
