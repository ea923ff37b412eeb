import PodInventory.Proofs.Store.Course
import PodInventory.Proofs.Sync

namespace PodInventory

namespace Operation

/-- The same reconciliation at another time, of any record of the same pod: with the same result, or
through workers that do the same. -/
inductive Repeats : Operation → Operation → Prop
  | reconcile (time time' : String) {pod pod' : PodRecord} (hid : pod'.id = pod.id)
    (result : Partition Snapshot) :
    Repeats (.reconcile time pod result) (.reconcile time' pod' result)
  | sync (time time' : String) {pod pod' : PodRecord} (hid : pod'.id = pod.id)
    (workers : List Worker) (timeout : Duration) :
    Repeats (.commit time (.start pod workers timeout))
      (.commit time' (.start pod' workers timeout))

/-- Only a sync of a record without a power type asks nobody. -/
def Asks : Operation → Prop
  | .commit _ y => ¬ ∀ c ∈ y.pod.kind.toList, Text.isBlank c = true
  | _ => True

/-- An operation on other pods, or on none. -/
structure Spares (id : PodId) (o : Operation) : Prop where
  create : ∀ time pod, o ≠ .create id time pod
  update : ∀ u, o.update? ≠ some (id, u)
  delete : o ≠ .delete id

variable {o o' : Operation} {time : String} {id : PodId} {u : Update}

/-- A repeated reconciliation finds the same to write, unless it asks nobody. -/
theorem Repeats.plan? (h : o.Repeats o') (ho : o.plan? = some (time, id, .ok u)) :
    ∃ time' plan, o'.plan? = some (time', id, plan) ∧
      (plan = .ok u ∨ (∃ e, plan = .error e) ∧ ¬ (o.Asks → o'.Asks)) := by
  cases h with
  | @reconcile _ time' pod pod' hid result =>
    simp only [Operation.plan?, Option.some.injEq, Prod.mk.injEq] at ho
    obtain ⟨-, rfl, hplan⟩ := ho
    refine ⟨time', Plan.update result, ?_, .inl hplan⟩
    rw [Operation.plan?, hid]
  | @sync _ time' pod pod' hid workers timeout =>
    simp only [Operation.plan?, Option.some.injEq, Prod.mk.injEq, Sync.pod_start] at ho
    obtain ⟨-, rfl, hplan⟩ := ho
    have hasks : ¬ ∀ c ∈ pod.kind.toList, Text.isBlank c = true := by
      intro hblank
      rw [Sync.plan, Sync.found_of_blank hblank] at hplan
      cases hplan
    refine ⟨time', (Sync.start pod' workers timeout).plan, ?_, ?_⟩
    · rw [Operation.plan?, Sync.pod_start, hid]
    by_cases hblank : ∀ c ∈ pod'.kind.toList, Text.isBlank c = true
    · refine .inr ⟨?_, ?_⟩
      · rw [Sync.plan, Sync.found_of_blank hblank]
        exact ⟨_, rfl⟩
      · simp only [Asks, Sync.pod_start]
        exact fun h ↦ h hasks hblank
    · -- what the workers answer does not depend on the request
      rw [Sync.plan_of_not_blank hasks] at hplan
      rw [Sync.plan_of_not_blank hblank]
      exact .inl hplan

theorem Repeats.update?_eq (h : o.Repeats o') (ho : o.plan? = some (time, id, .ok u)) {u' : Update}
    (ho' : o'.update? = some (id, u')) : u' = u := by
  obtain ⟨time', plan, hplan, hsame⟩ := h.plan? ho
  rw [update?_of_plan? hplan] at ho'
  rcases hsame with rfl | ⟨⟨e, rfl⟩, -⟩
  · cases ho'
    rfl
  · cases ho'

end Operation

/-- An episode that repeats a reconciliation, or that its pod has no part in. -/
inductive Episode.Leaves (o : Operation) (id : PodId) : Episode → Prop
  | repeats {o' : Operation} (h : o.Repeats o') : Leaves o id (.operate o')
  | spares {o' : Operation} (h : o'.Spares id) : Leaves o id (.operate o')
  | disturb (t : Trouble) : Leaves o id (.disturb t)

section Reconciled

variable {o o' : Operation} {time : String} {r : PodRecord} {u : Update}

/-- What a reconciliation has found and written stays, until something else is done to the pod. -/
theorem Episode.Leaves.keeps {e : Episode} (he : e.Leaves o r.id)
    (ho : o.plan? = some (time, r.id, .ok u)) (hu : r.differs u = false)
    {found : Option PodRecord} (hmakes : e.Makes r.id (some r) found) : found = some r := by
  cases hmakes with
  | keeps => rfl
  | reopens => cases he
  | creates time' pod =>
    cases he with
    | repeats h => cases h
    | spares h => exact absurd rfl (h.create time' pod)
  | deletes =>
    cases he with
    | repeats h => cases h
    | spares h => exact absurd rfl h.delete
  | commits o' time' u' old ho' hold =>
    obtain rfl := Option.some.inj hold
    cases he with
    | repeats h =>
      obtain rfl := h.update?_eq ho ho'
      rw [r.apply_unchanged time' hu]
    | spares h => exact absurd ho' (h.update u')

theorem Operation.Repeats.perform (h : o.Repeats o') (ho : o.plan? = some (time, r.id, .ok u))
    (hu : r.differs u = false) {s : Outage Backing} (hr : PodStore.find s r.id = .ok (some r)) :
    (o'.perform s).store = s ∧ (o'.perform s).events = [] ∧
      (s.Ready → (o.Asks → o'.Asks) → (o'.perform s).answer = .reconciled (.ok r)) := by
  obtain ⟨time', plan, hplan, hsame⟩ := h.plan? ho
  obtain ⟨hanswer, hstore, hevents⟩ := perform_of_plan? s hplan
  rcases hsame with rfl | ⟨⟨e, rfl⟩, hasks⟩
  · obtain ⟨hsame, hnone⟩ := Outage.store_apply_of_unchanged time' hr hu
    refine ⟨hstore.trans hsame, hevents.trans hnone, fun hready _ ↦ ?_⟩
    have happly := hready.apply_of_unchanged time' hr hu
    exact hanswer.trans (congrArg (fun a ↦ Answer.reconciled (a.mapError .ofStore)) happly)
  · exact ⟨hstore, hevents, fun _ h ↦ absurd h hasks⟩

end Reconciled

/-- Reconciling twice comes to the same as reconciling once, whatever is done to other pods in
between, and however old the record is that the second reconciliation is handed. It answers the same
as the first, unless the store turns down even what has nothing to write, or it is a sync that asks
nobody although the first one asked. Then only one of the two was handed a record with a blank type,
and as a pod keeps its type, not both of these records come from the store. -/
theorem reconciliation_idempotent {b : Backing} (hb : b.Blank) (error : Option StoreError)
    (before : List Episode) {o : Operation} {r : PodRecord}
    (hfirst : (o.perform (Outage.through ⟨b, error⟩ before)).answer = .reconciled (.ok r))
    {between : List Episode} (hbetween : ∀ e ∈ between, e.Leaves o r.id) {o' : Operation}
    (hagain : o.Repeats o') :
    let s := Outage.through ⟨b, error⟩ (before ++ .operate o :: between)
    (o'.perform s).store = s ∧ (o'.perform s).events = [] ∧
      (s.Ready → (o.Asks → o'.Asks) → (o'.perform s).answer = .reconciled (.ok r)) := by
  intro s
  have hlawful : Lawful (fun o : Outage Backing ↦ o.store.Sound) := Outage.lawful Backing.lawful
  obtain ⟨k, hk⟩ := Outage.holds_of_blank hb error before
  obtain ⟨_, u, hplan, time, old, -, heq, hfind⟩ := hlawful.of_reconciled hk.sound hfirst
  have hu : r.differs u = false := heq ▸ old.differs_apply time u
  obtain ⟨found, hfound, rfl⟩ := Outage.found_of_blank hb error before (e := .operate o) hfind
    (Q := (· = some r)) rfl
    (fun e he found found' hQ hmakes ↦ (hbetween e he).keeps hplan hu (hQ ▸ hmakes))
  exact hagain.perform hplan hu hfound

/-- A pod that is reconciled a second time with the record that it was created as, after another pod
was created. -/
theorem reconciliation_idempotent_stale :
    let first := Operation.reconcile "t2" TableStore.unsynced (.ofOutcomes [("a", .ok .blank)])
    let again := Operation.reconcile "t4" TableStore.unsynced (.ofOutcomes [("a", .ok .blank)])
    let created := [Episode.operate (.create "1" "then" ⟨"rack", "virsh", "default", "default", ∅⟩)]
    let other := Episode.operate (.create "2" "t3" ⟨"shelf", "virsh", "default", "default", ∅⟩)
    ∃ r, (first.perform (Outage.through ⟨.memory .empty, none⟩ created)).answer =
        .reconciled (.ok r) ∧
      (again.perform (Outage.through ⟨.memory .empty, none⟩
        (created ++ [.operate first, other]))).answer = .reconciled (.ok r) := by
  intro first again created other
  refine ⟨_, rfl, ?_⟩
  have hbetween : ∀ e ∈ [other], e.Leaves first "1" := by
    intro e he
    cases List.mem_singleton.1 he
    exact .spares ⟨by simp, by simp [Operation.update?], by simp⟩
  have hagain : first.Repeats again := .reconcile _ _ rfl _
  obtain ⟨-, -, hanswer⟩ := reconciliation_idempotent .memory none created rfl hbetween hagain
  exact hanswer ⟨rfl, trivial⟩ id

end PodInventory
