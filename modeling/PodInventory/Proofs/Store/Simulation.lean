import PodInventory.Proofs.Store.Operation

namespace PodInventory

/-- Two writes that come to the same, on stores that still stand for each other. -/
structure Agrees {σ τ α : Type} (R : σ → τ → Prop) (v : Written σ α) (w : Written τ α) : Prop where
  answer : v.answer = w.answer
  events : v.events = w.events
  store : R v.store w.store

/-- Whether a create would come with an id that no stored pod has. One that finds its name taken
uses no id. -/
def Operation.New {σ : Type} [PodStore σ] (s : σ) (o : Operation) : Prop :=
  ∀ id time pod, o = .create id time pod →
    PodStore.findNamed s pod.name = .ok none → PodStore.find s id = .ok none

/-- A way in which stores of two kinds stand for each other, so that nothing that is done to both
tells them apart. -/
structure Simulation {σ τ : Type} [PodStore σ] [PodStore τ] (R : σ → τ → Prop) : Prop where
  create {s t} (h : R s t) (id : PodId) (time : String) (pod : NewPod)
    (hnew : PodStore.findNamed t pod.name = .ok none → PodStore.find t id = .ok none) :
    Agrees R (PodStore.create s id time pod) (PodStore.create t id time pod)
  apply {s t} (h : R s t) (time : String) (id : PodId) (u : Update) :
    Agrees R (PodStore.apply s time id u) (PodStore.apply t time id u)
  delete {s t} (h : R s t) (id : PodId) : Agrees R (PodStore.delete s id) (PodStore.delete t id)
  find {s t} (h : R s t) (id : PodId) : PodStore.find s id = PodStore.find t id
  findNamed {s t} (h : R s t) (name : String) :
    PodStore.findNamed s name = PodStore.findNamed t name
  list {s t} (h : R s t) : PodStore.list s = PodStore.list t

namespace Simulation

variable {σ τ : Type} [PodStore σ] [PodStore τ] {R : σ → τ → Prop} (hR : Simulation R) {s : σ}
  {t : τ}

include hR

theorem new_iff (h : R s t) (o : Operation) : o.New s ↔ o.New t := by
  simp only [Operation.New, hR.find h, hR.findNamed h]

theorem write (h : R s t) (time : String) (id : PodId) (plan : Except SyncError Update) :
    (Reconciled.write s time id plan).answer = (Reconciled.write t time id plan).answer ∧
      (Reconciled.write s time id plan).events = (Reconciled.write t time id plan).events ∧
      R (Reconciled.write s time id plan).store (Reconciled.write t time id plan).store := by
  cases plan with
  | error e => exact ⟨rfl, rfl, h⟩
  | ok u =>
    have happly := hR.apply h time id u
    exact ⟨congrArg (Except.mapError SyncError.ofStore) happly.answer, happly.events, happly.store⟩

theorem perform (h : R s t) (o : Operation) (hnew : o.New t) :
    (o.perform s).answer = (o.perform t).answer ∧ (o.perform s).events = (o.perform t).events ∧
      R (o.perform s).store (o.perform t).store := by
  cases o with
  | create id time pod =>
    have hcreate := hR.create h id time pod (hnew id time pod rfl)
    exact ⟨congrArg Answer.record hcreate.answer, hcreate.events, hcreate.store⟩
  | apply time id u =>
    have happly := hR.apply h time id u
    exact ⟨congrArg Answer.record happly.answer, happly.events, happly.store⟩
  | reconcile time pod result =>
    obtain ⟨hanswer, hevents, hstore⟩ := hR.write h time pod.id (Plan.update result)
    exact ⟨congrArg Answer.reconciled hanswer, hevents, hstore⟩
  | commit time y =>
    obtain ⟨hanswer, hevents, hstore⟩ := hR.write h time y.pod.id y.plan
    obtain ⟨hanswerS, hstoreS, heventsS⟩ := y.commit_eq s time
    obtain ⟨hanswerT, hstoreT, heventsT⟩ := y.commit_eq t time
    rw [← hanswerS, ← hanswerT] at hanswer
    rw [← heventsS, ← heventsT] at hevents
    rw [← hstoreS, ← hstoreT] at hstore
    exact ⟨congrArg Answer.reconciled hanswer, hevents, hstore⟩
  | delete id =>
    have hdelete := hR.delete h id
    exact ⟨congrArg Answer.deleted hdelete.answer, hdelete.events, hdelete.store⟩
  | find id => exact ⟨congrArg Answer.found (hR.find h id), rfl, h⟩
  | findNamed name => exact ⟨congrArg Answer.found (hR.findNamed h name), rfl, h⟩
  | list => exact ⟨congrArg Answer.listed (hR.list h), rfl, h⟩

end Simulation

/-- Whether every pod that operations create gets an id that no stored pod has at that time. -/
def Operation.Fresh {σ : Type} [PodStore σ] (s : σ) : List Operation → Prop
  | [] => True
  | o :: rest => o.New s ∧ Fresh (o.perform s).store rest

/-- Whatever sequence of operations is performed on both, the two stores answer alike. -/
theorem Simulation.performAll {σ τ : Type} [PodStore σ] [PodStore τ] {R : σ → τ → Prop}
    (hR : Simulation R) (ops : List Operation) {s : σ} {t : τ} (h : R s t)
    (hfresh : Operation.Fresh t ops) :
    (Operation.performAll s ops).1 = (Operation.performAll t ops).1 ∧
      (Operation.performAll s ops).2.2 = (Operation.performAll t ops).2.2 ∧
      R (Operation.performAll s ops).2.1 (Operation.performAll t ops).2.1 := by
  induction ops generalizing s t with
  | nil => exact ⟨rfl, rfl, h⟩
  | cons o rest ih =>
    obtain ⟨hanswer, hevents, hstore⟩ := hR.perform h o hfresh.1
    obtain ⟨hanswers, hevents', hstore'⟩ := ih hstore hfresh.2
    simp only [Operation.performAll]
    exact ⟨by rw [hanswer, hanswers], by rw [hevents, hevents'], hstore'⟩

end PodInventory
