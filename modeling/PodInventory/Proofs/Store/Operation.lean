import PodInventory.Store.Operation

namespace PodInventory

theorem eq_ok_of_toOption {ε α : Type} {x : Except ε α} {a : α} (h : x.toOption = some a) :
    x = .ok a := by
  cases x with
  | error e => cases h
  | ok a' => exact congrArg Except.ok (Option.some.inj h)

theorem exists_error_of_toOption {ε α : Type} {x : Except ε α} (h : x.toOption = none) :
    ∃ e, x = .error e := by
  cases x with
  | error e => exact ⟨e, rfl⟩
  | ok a => cases h

namespace Sync

/-- What a sync has found to write, or the error that it ends in without a write. -/
def plan (y : Sync) : Except SyncError Update :=
  y.found.bind (fun report ↦ Plan.update report.result)

theorem found_start (pod : PodRecord) (workers : List Worker) (timeout : Duration) :
    (start pod workers timeout).found =
      if Text.allBlank pod.kind then
        .error (.invalidTarget ("pod " ++ pod.id ++ " has no power type"))
      else Discovery.run .pod (.ofPod pod) workers timeout := by
  unfold start
  split
  · rfl
  · cases Discovery.run .pod (.ofPod pod) workers timeout <;> rfl

theorem pod_start (pod : PodRecord) (workers : List Worker) (timeout : Duration) :
    (start pod workers timeout).pod = pod := by
  unfold start
  split
  · rfl
  · cases Discovery.run .pod (.ofPod pod) workers timeout <;> rfl

end Sync

section Reconciled

variable {σ : Type} [PodStore σ] (s : σ) (time : String)

/-- A sync ends in one write of what it has found. -/
theorem Sync.commit_eq (y : Sync) :
    (y.commit s time).answer = (Reconciled.write s time y.pod.id y.plan).answer ∧
      (y.commit s time).store = (Reconciled.write s time y.pod.id y.plan).store ∧
      (y.commit s time).events = (Reconciled.write s time y.pod.id y.plan).events := by
  obtain ⟨pod, found, notes⟩ := y
  cases found with
  | error e => exact ⟨rfl, rfl, rfl⟩
  | ok report => exact ⟨rfl, rfl, rfl⟩

theorem Reconciled.write_of_some (id : PodId) {plan : Except SyncError Update} {u : Update}
    (h : plan.toOption = some u) :
    (write s time id plan).answer.toOption = (PodStore.apply s time id u).answer.toOption ∧
      (write s time id plan).store = (PodStore.apply s time id u).store := by
  cases plan with
  | error e => cases h
  | ok u' =>
    cases h
    refine ⟨?_, rfl⟩
    have hanswer : (write s time id (.ok u)).answer =
        (PodStore.apply s time id u).answer.mapError .ofStore := rfl
    rw [hanswer]
    cases (PodStore.apply s time id u).answer with
    | error e => rfl
    | ok r => rfl

theorem Reconciled.write_of_none (id : PodId) {plan : Except SyncError Update}
    (h : plan.toOption = none) : (write s time id plan).store = s := by
  cases plan with
  | error e => rfl
  | ok u => cases h

theorem Reconciled.write_answer_of_none (id : PodId) {plan : Except SyncError Update}
    (h : plan.toOption = none) : (write s time id plan).answer.toOption = none := by
  cases plan with
  | error e => rfl
  | ok u => cases h

end Reconciled

namespace Operation

/-- The pod that an operation is about to update, and with what. -/
def update? : Operation → Option (PodId × Update)
  | .apply _ id u => some (id, u)
  | .reconcile _ pod result => (Plan.update result).toOption.map (pod.id, ·)
  | .commit _ y => y.plan.toOption.map (y.pod.id, ·)
  | _ => none

variable {σ : Type} [PodStore σ]

/-- An operation that updates a pod, on a store that takes the update. -/
structure Commits (s : σ) (o : Operation) (id : PodId) (u : Update) : Prop where
  update : o.update? = some (id, u)
  accepted : (o.perform s).answer.record?.isSome = true

theorem perform_of_update? {o : Operation} {id : PodId} {u : Update}
    (h : o.update? = some (id, u)) (s : σ) :
    ∃ time, (o.perform s).answer.record? = (PodStore.apply s time id u).answer.toOption ∧
      (o.perform s).store = (PodStore.apply s time id u).store := by
  cases o with
  | apply time id' u' =>
    cases h
    exact ⟨time, rfl, rfl⟩
  | reconcile time pod result =>
    obtain ⟨u', hu', heq⟩ := Option.map_eq_some_iff.1 h
    cases heq
    exact ⟨time, Reconciled.write_of_some s time pod.id hu'⟩
  | commit time y =>
    obtain ⟨u', hu', heq⟩ := Option.map_eq_some_iff.1 h
    cases heq
    obtain ⟨hanswer, hstore, -⟩ := y.commit_eq s time
    obtain ⟨hrecord, happly⟩ := Reconciled.write_of_some s time y.pod.id hu'
    exact ⟨time, (congrArg Except.toOption hanswer).trans hrecord, hstore.trans happly⟩
  | _ => cases h

/-- Only an update and a creation hand out a record. -/
theorem record?_of_update?_none {o : Operation} (h : o.update? = none)
    (hcreate : ∀ id time pod, o ≠ .create id time pod) (s : σ) :
    (o.perform s).answer.record? = none := by
  cases o with
  | create id time pod => exact absurd rfl (hcreate id time pod)
  | apply time id u => cases h
  | reconcile time pod result =>
    have hplan := Option.map_eq_none_iff.1 h
    exact Reconciled.write_answer_of_none s time pod.id hplan
  | commit time y =>
    obtain ⟨hanswer, -⟩ := y.commit_eq s time
    have hplan := Option.map_eq_none_iff.1 h
    refine (congrArg Except.toOption hanswer).trans ?_
    exact Reconciled.write_answer_of_none s time y.pod.id hplan
  | _ => rfl

end Operation

end PodInventory
