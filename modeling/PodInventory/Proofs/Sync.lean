import PodInventory.Proofs.Discovery
import PodInventory.Proofs.Store.Turn

namespace PodInventory

open Discovery

/-- What a discovery comes to that somebody answers: the snapshot of the lowest worker that does,
and for every worker whether it does. -/
structure Yields (deadline : Nat) (workers : List Worker) (u : Update) : Prop where
  lowest : ∃ id, Answers .pod deadline workers id u.discovered ∧
    ∀ id' snapshot, Answers .pod deadline workers id' snapshot → id ≤ id'
  routable : ∀ id, u.routable.get? id = some true ↔
    ∃ snapshot, Answers .pod deadline workers id snapshot
  unroutable : ∀ id, u.routable.get? id = some false ↔
    (∃ w ∈ workers, w.id = id) ∧ ¬ ∃ snapshot, Answers .pod deadline workers id snapshot

/-- Failures of all workers, and a text that is that of the lowest among them. -/
structure Explains (workers : List Worker) (causes : Dict WorkerError) : Prop where
  entries : ∀ id, (∃ e, causes.get? id = some e) ↔ ∃ w ∈ workers, w.id = id
  lowest : ∀ id e, causes.get? id = some e → (∀ id' ∈ causes.keys, id ≤ id') →
    (SyncError.noViableWorker causes).text = e.text
  nobody : causes.keys = [] →
    (SyncError.noViableWorker causes).text = "no workers available to discover the target"

namespace SyncError

variable {causes : Dict WorkerError}

theorem text_of_lowest {id : WorkerId} {e : WorkerError} (he : causes.get? id = some e)
    (hlowest : ∀ id' ∈ causes.keys, id ≤ id') : (noViableWorker causes).text = e.text := by
  have hfirst : causes.first? = some (id, e) := Dict.first?_eq_some_iff.2 ⟨he, hlowest⟩
  unfold text
  simp only [hfirst]

theorem text_of_nobody (h : causes.keys = []) :
    (noViableWorker causes).text = "no workers available to discover the target" := by
  have hnone : causes.first? = none := List.head?_eq_none_iff.2 (List.map_eq_nil_iff.1 h)
  unfold text
  simp only [hnone]

end SyncError

namespace Plan

variable {result : Partition Snapshot}

theorem get?_routes_true (hresult : result.Disjoint) (id : WorkerId) :
    (routes result).get? id = some true ↔ ∃ snapshot, result.succeeded.get? id = some snapshot := by
  rw [routes, Dict.get?_insertAll, Dict.get?_map, Dict.get?_map]
  cases hs : result.succeeded.get? id with
  | none => cases result.failed.get? id <;> simp
  | some snapshot =>
    have hnone := (hresult id).resolve_left (by simp [hs])
    simp [hnone]

theorem get?_routes_false (id : WorkerId) :
    (routes result).get? id = some false ↔ ∃ e, result.failed.get? id = some e := by
  rw [routes, Dict.get?_insertAll, Dict.get?_map, Dict.get?_map]
  cases result.failed.get? id with
  | none => cases result.succeeded.get? id <;> simp
  | some e => simp

/-- Where there is a success, one is selected that is no higher. -/
theorem exists_selected? {id : WorkerId} {snapshot : Snapshot}
    (h : result.succeeded.get? id = some snapshot) :
    ∃ id' snapshot', selected? result = some (id', snapshot') ∧ id' ≤ id := by
  cases hselected : selected? result with
  | none =>
    have hnone := Dict.first?_eq_none_iff.1 hselected id
    cases h.symm.trans hnone
  | some selected =>
    obtain ⟨id', snapshot'⟩ := selected
    obtain ⟨-, hlowest⟩ := Dict.first?_eq_some_iff.1 hselected
    exact ⟨id', snapshot', rfl, hlowest id (Dict.mem_keys_iff.2 ⟨snapshot, h⟩)⟩

theorem exists_update (h : ∃ worker snapshot, result.succeeded.get? worker = some snapshot) :
    ∃ u, update result = .ok u := by
  obtain ⟨worker, snapshot, hworker⟩ := h
  obtain ⟨id', snapshot', hselected, -⟩ := exists_selected? hworker
  rw [update, hselected]
  exact ⟨_, rfl⟩

end Plan

section Report

variable {request : Request} {workers : List Worker} {timeout : Duration}

/-- A worker that gives no answer has failed. -/
theorem failed_report_iff (id : WorkerId) :
    (∃ e, (report .pod request workers timeout).result.failed.get? id = some e) ↔
      (∃ w ∈ workers, w.id = id) ∧
        ¬ ∃ snapshot, Answers .pod timeout.ticks workers id snapshot := by
  have hdisjoint : (report .pod request workers timeout).result.Disjoint := disjoint_report
  rw [← report_covers .pod request workers timeout id]
  constructor
  · intro hex
    obtain ⟨e, he⟩ := hex
    refine ⟨.inr ⟨e, he⟩, ?_⟩
    intro hex
    obtain ⟨snapshot, hs⟩ := hex
    rcases hdisjoint id with hnone | hnone
    · exact absurd ((succeeded_report_iff.2 hs).symm.trans hnone) (by simp)
    · exact absurd (he.symm.trans hnone) (by simp)
  · intro hex
    obtain ⟨⟨snapshot, hs⟩ | he, hno⟩ := hex
    · exact absurd ⟨snapshot, succeeded_report_iff.1 hs⟩ hno
    · exact he

theorem explains_failed
    (h : ∀ id snapshot, ¬ Answers .pod timeout.ticks workers id snapshot) :
    Explains workers (report .pod request workers timeout).result.failed where
  entries id := by
    have hno : ¬ ∃ snapshot, Answers .pod timeout.ticks workers id snapshot := by
      intro hex
      obtain ⟨snapshot, hs⟩ := hex
      exact h id snapshot hs
    rw [failed_report_iff]
    exact and_iff_left hno
  lowest _ _ he hlowest := SyncError.text_of_lowest he hlowest
  nobody hkeys := SyncError.text_of_nobody hkeys

theorem yields_update {id : WorkerId} {snapshot : Snapshot}
    (h : (report .pod request workers timeout).result.succeeded.first? = some (id, snapshot)) :
    Yields timeout.ticks workers
      ⟨snapshot, Plan.routes (report .pod request workers timeout).result⟩ where
  lowest := by
    obtain ⟨hid, hlowest⟩ := Dict.first?_eq_some_iff.1 h
    refine ⟨id, succeeded_report_iff.1 hid, fun id' snapshot' hs ↦ hlowest id' ?_⟩
    exact Dict.mem_keys_iff.2 ⟨snapshot', succeeded_report_iff.2 hs⟩
  routable id' := by
    rw [Plan.get?_routes_true disjoint_report]
    simp only [succeeded_report_iff]
  unroutable id' := by
    rw [Plan.get?_routes_false, failed_report_iff]

end Report

namespace Sync

variable {pod : PodRecord} {workers : List Worker} {timeout : Duration}

theorem run_eq {σ : Type} [PodStore σ] (s : σ) (time : String) (pod : PodRecord)
    (workers : List Worker) (timeout : Duration) :
    (run s time pod workers timeout).answer =
        (Reconciled.write s time pod.id (start pod workers timeout).plan).answer ∧
      (run s time pod workers timeout).store =
        (Reconciled.write s time pod.id (start pod workers timeout).plan).store ∧
      (run s time pod workers timeout).events =
        (Reconciled.write s time pod.id (start pod workers timeout).plan).events := by
  have hcommit := (start pod workers timeout).commit_eq s time
  rw [pod_start] at hcommit
  exact hcommit

theorem found_of_blank (h : ∀ c ∈ pod.kind.toList, Text.isBlank c = true) :
    (start pod workers timeout).found =
      .error (.invalidTarget ("pod " ++ pod.id ++ " has no power type")) := by
  rw [found_start, if_pos (show Text.allBlank pod.kind = true from List.all_eq_true.2 h)]

theorem plan_of_not_blank (h : ¬ ∀ c ∈ pod.kind.toList, Text.isBlank c = true) :
    (start pod workers timeout).plan =
      Plan.update (report .pod (.ofPod pod) workers timeout).result := by
  have hblank : ¬ Text.allBlank pod.kind = true := mt List.all_eq_true.1 h
  have hrun : Discovery.run .pod (.ofPod pod) workers timeout =
      .ok (report .pod (.ofPod pod) workers timeout) := if_neg hblank
  rw [plan, found_start, if_neg hblank, hrun]
  rfl

/-- Without a success there is nothing to write, and every failure is kept. -/
theorem plan_of_no_success (hkind : ¬ ∀ c ∈ pod.kind.toList, Text.isBlank c = true)
    (hnone : ∀ id, (report .pod (.ofPod pod) workers timeout).result.succeeded.get? id = none) :
    (start pod workers timeout).plan =
      .error (.noViableWorker (report .pod (.ofPod pod) workers timeout).result.failed) := by
  have hfirst : Plan.selected? (report .pod (.ofPod pod) workers timeout).result = none :=
    Dict.first?_eq_none_iff.2 hnone
  rw [plan_of_not_blank hkind, Plan.update, hfirst]

theorem plan_of_nobody (hkind : ¬ ∀ c ∈ pod.kind.toList, Text.isBlank c = true)
    (hnobody : ∀ id snapshot, ¬ Answers .pod timeout.ticks workers id snapshot) :
    ∃ causes, Explains workers causes ∧
      (start pod workers timeout).plan = .error (.noViableWorker causes) := by
  refine ⟨_, explains_failed hnobody, plan_of_no_success hkind (fun id ↦ ?_)⟩
  cases hs : (report .pod (.ofPod pod) workers timeout).result.succeeded.get? id with
  | none => rfl
  | some snapshot => exact absurd (succeeded_report_iff.1 hs) (hnobody id snapshot)

/-- Where somebody answers there is what the discovery yields. -/
theorem plan_of_somebody (hkind : ¬ ∀ c ∈ pod.kind.toList, Text.isBlank c = true)
    (hsomebody : ∃ id snapshot, Answers .pod timeout.ticks workers id snapshot) :
    ∃ u, Yields timeout.ticks workers u ∧ (start pod workers timeout).plan = .ok u := by
  obtain ⟨id, snapshot, hanswers⟩ := hsomebody
  cases hfirst : (report .pod (.ofPod pod) workers timeout).result.succeeded.first? with
  | none =>
    have hnone := Dict.first?_eq_none_iff.1 hfirst id
    rw [succeeded_report_iff.2 hanswers] at hnone
    cases hnone
  | some answer =>
    refine ⟨⟨answer.2, Plan.routes (report .pod (.ofPod pod) workers timeout).result⟩,
      yields_update hfirst, ?_⟩
    rw [plan_of_not_blank hkind, Plan.update, Plan.selected?, hfirst]

end Sync

/-- What a sync comes to. It begins at a moment from which the clock gets to the deadline of the
calls. From later ones their dispatch panics. -/
theorem sync_run_spec (o : Outage Backing) (ho : o.store.Sound) (time : String) (pod : PodRecord)
    (workers : List Worker) {now : Instant} (ms : Nat) (hclock : (now.after? ms).isSome = true) :
    let r := Sync.run o time pod workers (.ofMillis ms)
    ((∀ c ∈ pod.kind.toList, Text.isBlank c = true) →
      (Sync.start pod workers (.ofMillis ms)).call? = none ∧
        r.answer = .error (.invalidTarget ("pod " ++ pod.id ++ " has no power type")) ∧
        r.store = o ∧ r.events = []) ∧
    ((¬ ∀ c ∈ pod.kind.toList, Text.isBlank c = true) →
      (∀ id snapshot, ¬ Answers .pod ms workers id snapshot) →
        ∃ causes, Explains workers causes ∧ r.answer = .error (.noViableWorker causes) ∧
          r.store = o ∧ r.events = []) ∧
    ((¬ ∀ c ∈ pod.kind.toList, Text.isBlank c = true) →
      (∃ id snapshot, Answers .pod ms workers id snapshot) →
        ∃ u, Yields ms workers u ∧
          (∀ detail, (PodStore.apply o time pod.id u).answer = .error (.notFound detail) ∨
            (PodStore.apply o time pod.id u).answer = .error (.conflict detail) →
              r.answer = .error (.persistenceConflict detail) ∧ r.store = o ∧ r.events = []) ∧
          (∀ detail, (PodStore.apply o time pod.id u).answer = .error (.internal detail) →
            r.answer = .error (.persistence detail) ∧ r.store = o ∧ r.events = []) ∧
          ∀ record, (PodStore.apply o time pod.id u).answer = .ok record →
            r.answer = .ok record ∧ PodStore.find r.store pod.id = .ok (some record) ∧
              record.discovered = u.discovered ∧ record.routable = u.routable) := by
  intro r
  have hticks := Instant.ticks_of_after? hclock
  obtain ⟨hanswer, hstore, hevents⟩ := Sync.run_eq o time pod workers (.ofMillis ms)
  refine ⟨fun hblank ↦ ?_, fun hkind hnobody ↦ ?_, fun hkind hsomebody ↦ ?_⟩
  · have hfound : (Sync.start pod workers (.ofMillis ms)).found = _ := Sync.found_of_blank hblank
    rw [Sync.plan, hfound] at hanswer hstore hevents
    refine ⟨?_, hanswer, hstore, hevents⟩
    rw [Sync.call?, hfound]
    rfl
  · obtain ⟨causes, hexplains, hplan⟩ := Sync.plan_of_nobody hkind (hticks.symm ▸ hnobody)
    rw [hplan] at hanswer hstore hevents
    exact ⟨causes, hexplains, hanswer, hstore, hevents⟩
  · obtain ⟨u, hyields, hplan⟩ := Sync.plan_of_somebody hkind (hticks.symm ▸ hsomebody)
    rw [hplan] at hanswer hstore hevents
    have hlawful : Lawful (fun o : Outage Backing ↦ o.store.Sound) := Outage.lawful Backing.lawful
    -- an update that fails leaves the store as it was, and its error tells how the sync fails
    have hfailed {e : StoreError} (he : (PodStore.apply o time pod.id u).answer = .error e) :
        r.answer = .error (.ofStore e) ∧ r.store = o ∧ r.events = [] := by
      obtain ⟨hsame, hnone⟩ := hlawful.apply_error ho he
      exact ⟨hanswer.trans (congrArg (Except.mapError SyncError.ofStore) he), hstore.trans hsame,
        hevents.trans hnone⟩
    refine ⟨u, hticks ▸ hyields, ?_, fun detail he ↦ hfailed he, fun record hr ↦ ?_⟩
    · intro detail he
      rcases he with he | he
      · exact hfailed he
      · exact hfailed he
    · obtain ⟨⟨old, -, rfl⟩, -, hfind⟩ := hlawful.apply_ok ho hr
      refine ⟨hanswer.trans (congrArg (Except.mapError SyncError.ofStore) hr), ?_,
        old.apply_content time⟩
      rw [hstore]
      exact (hfind pod.id).trans (if_pos rfl)

/-- One worker that cannot be reached and one that answers. -/
def oneOfTwo : List Worker :=
  [⟨"a", 0, .fail (.transport "refused")⟩,
    ⟨"b", 1000, .reply (.object [("pod", Snapshot.blank.json)])⟩]

theorem answers_oneOfTwo : Answers .pod 1000 oneOfTwo "b" .blank := by
  have hfind : oneOfTwo.find? (fun w ↦ w.id == "b") =
      some ⟨"b", 1000, .reply (.object [("pod", Snapshot.blank.json)])⟩ := rfl
  have hmember : (Json.object [("pod", Snapshot.blank.json)]).member? Target.pod.name =
      some Snapshot.blank.json := rfl
  exact ⟨_, _, _, hfind, rfl, le_rfl, hmember, rfl⟩

theorem sync_run_spec_refused :
    Backing.Sound (.memory .empty) ∧ ((⟨0, by decide⟩ : Instant).after? 1000).isSome = true ∧
      (Sync.run (⟨.memory .empty, some (.internal "disk full")⟩ : Outage Backing) "now"
        (.create "1" "then" ⟨"rack", "virsh", "default", "default", ∅⟩) oneOfTwo
        (.ofMillis 1000)).answer = .error (.persistence "disk full") := by
  have hsound : Backing.Sound (.memory .empty) := List.nodup_nil
  have hclock : ((⟨0, by decide⟩ : Instant).after? 1000).isSome = true := rfl
  refine ⟨hsound, hclock, ?_⟩
  obtain ⟨-, -, hsomebody⟩ := sync_run_spec ⟨.memory .empty, some (.internal "disk full")⟩ hsound
    "now" (.create "1" "then" ⟨"rack", "virsh", "default", "default", ∅⟩) oneOfTwo 1000 hclock
  have hkind : ¬ ∀ c ∈ "virsh".toList, Text.isBlank c = true := by
    intro hblank
    cases hblank 'v' List.mem_cons_self
  obtain ⟨u, -, -, herror, -⟩ := hsomebody hkind ⟨"b", .blank, answers_oneOfTwo⟩
  exact (herror "disk full" rfl).1

end PodInventory
