import PodInventory.Proofs.Pod.Record
import PodInventory.Proofs.Store.Operation

namespace PodInventory

/-- A worker before it is called. What it does may depend on what it is asked. -/
structure Peer where
  id : WorkerId
  respond : Call → Nat × Action

/-- What a client brings to a sync besides the record. -/
structure Attempt where
  peers : List Peer
  timeout : Duration

def Peer.asked (call : Call) (p : Peer) : Worker := ⟨p.id, (p.respond call).1, (p.respond call).2⟩

def Attempt.workers (a : Attempt) (pod : PodRecord) : List Worker :=
  a.peers.map (Peer.asked ((Request.ofPod pod).call .pod))

def Sync.attempt (pod : PodRecord) (a : Attempt) : Sync := .start pod (a.workers pod) a.timeout

theorem Request.ofPod_congr {r c : PodRecord} (h : r.SamePod c) : ofPod r = ofPod c := by
  simp only [ofPod, h.id, h.name, h.kind, h.powerParameters]

namespace PodRecord.SamePod

variable {r c : PodRecord} (h : r.SamePod c)

include h

theorem workers (a : Attempt) : a.workers r = a.workers c := by
  rw [Attempt.workers, Attempt.workers, Request.ofPod_congr h]

/-- Two syncs of one pod differ in nothing but the record that they carry along. -/
theorem attempt (a : Attempt) : Sync.attempt r a = { Sync.attempt c a with pod := r } := by
  simp only [Sync.attempt, h.workers, Sync.start, h.id, h.name, h.kind, Request.ofPod_congr h]
  split
  · rfl
  · cases Discovery.run .pod (.ofPod c) (a.workers c) a.timeout <;> rfl

theorem call? (a : Attempt) : (Sync.attempt r a).call? = (Sync.attempt c a).call? := by
  rw [h.attempt]
  rfl

variable {σ : Type} [PodStore σ] (s : σ) (time : String)

theorem reconcile (result : Partition Snapshot) :
    PodInventory.reconcile s time r result = PodInventory.reconcile s time c result := by
  simp only [PodInventory.reconcile, Plan.notes, h.id, h.name]

theorem commit (a : Attempt) :
    (Sync.attempt r a).commit s time = (Sync.attempt c a).commit s time := by
  have hpod : (Sync.attempt c a).pod = c := Sync.pod_start c _ _
  rw [h.attempt, Sync.commit, Sync.commit, hpod]
  cases (Sync.attempt c a).found with
  | error e => rfl
  | ok report => exact h.reconcile s time report.result

theorem run (a : Attempt) :
    Sync.run s time r (a.workers r) a.timeout = Sync.run s time c (a.workers c) a.timeout := by
  have hcommit := h.commit s time a
  have hnotes : (Sync.attempt r a).notes = (Sync.attempt c a).notes := by
    rw [h.attempt]
  unfold Sync.attempt at hcommit hnotes
  rw [Sync.run, Sync.run, hcommit, hnotes]

omit [PodStore σ] in
theorem audit (enabled : Bool) (answer : Except SyncError PodRecord) :
    Sync.audit enabled r answer = Sync.audit enabled c answer := by
  cases answer with
  | ok updated => rfl
  | error e => simp only [Sync.audit, AuditEntry.syncFailed, h.id, h.name]

end PodRecord.SamePod

end PodInventory
