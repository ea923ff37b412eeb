import PodInventory.Proofs.Store.Atomicity
import PodInventory.Proofs.Store.Laws

namespace PodInventory

namespace Operation

/-- The write of an operation, unless it has nothing to write. -/
def write? : Operation → Option Write
  | .create id time pod => some (.create id time pod)
  | .apply time id u => some (.apply time id u)
  | .reconcile time pod result => (Plan.update result).toOption.map (.apply time pod.id)
  | .commit time y => y.plan.toOption.map (.apply time y.pod.id)
  | .delete id => some (.delete id)
  | .find _ | .findNamed _ | .list => none

theorem eq_create {o : Operation} {id : PodId} {time : String} {pod : NewPod}
    (h : o.write? = some (.create id time pod)) : o = .create id time pod := by
  cases o with
  | create id' time' pod' =>
    cases h
    rfl
  | reconcile time' pod' result =>
    obtain ⟨u, -, heq⟩ := Option.map_eq_some_iff.1 h
    cases heq
  | commit time' y =>
    obtain ⟨u, -, heq⟩ := Option.map_eq_some_iff.1 h
    cases heq
  | _ => cases h

variable {σ : Type} [PodStore σ] (s : σ)

theorem settled_write (time : String) (id : PodId) (u : Update) :
    (settled (Reconciled.write s time id (.ok u))).answer.failed =
        ((Operation.apply time id u).perform s).answer.failed ∧
      (settled (Reconciled.write s time id (.ok u))).answer.record? =
        ((Operation.apply time id u).perform s).answer.record? := by
  have hanswer : (settled (Reconciled.write s time id (.ok u))).answer =
      .reconciled ((PodStore.apply s time id u).answer.mapError .ofStore) := rfl
  have hrecord : ((Operation.apply time id u).perform s).answer =
      .record (PodStore.apply s time id u).answer := rfl
  rw [hanswer, hrecord]
  cases (PodStore.apply s time id u).answer with
  | error e => exact ⟨rfl, rfl⟩
  | ok r => exact ⟨rfl, rfl⟩

theorem commit_perform (time : String) (y : Sync) :
    ((Operation.commit time y).perform s).answer =
        (settled (Reconciled.write s time y.pod.id y.plan)).answer ∧
      ((Operation.commit time y).perform s).store =
        (settled (Reconciled.write s time y.pod.id y.plan)).store ∧
      ((Operation.commit time y).perform s).events =
        (settled (Reconciled.write s time y.pod.id y.plan)).events := by
  obtain ⟨hanswer, hstore, hevents⟩ := y.commit_eq s time
  exact ⟨congrArg Answer.reconciled hanswer, hstore, hevents⟩

theorem perform_of_write? {o : Operation} {w : Write} (h : o.write? = some w) :
    (o.perform s).answer.failed = (w.operation.perform s).answer.failed ∧
      (o.perform s).answer.record? = (w.operation.perform s).answer.record? ∧
      (o.perform s).store = (w.operation.perform s).store ∧
      (o.perform s).events = (w.operation.perform s).events := by
  cases o with
  | create id time pod =>
    cases h
    exact ⟨rfl, rfl, rfl, rfl⟩
  | apply time id u =>
    cases h
    exact ⟨rfl, rfl, rfl, rfl⟩
  | reconcile time pod result =>
    obtain ⟨u, hu, rfl⟩ := Option.map_eq_some_iff.1 h
    obtain ⟨hfailed, hrecord⟩ := settled_write s time pod.id u
    have hanswer : ((Operation.reconcile time pod result).perform s).answer =
        (settled (Reconciled.write s time pod.id (.ok u))).answer := by
      rw [← eq_ok_of_toOption hu]
      rfl
    rw [hanswer]
    refine ⟨hfailed, hrecord, ?_, ?_⟩
    · change (Reconciled.write s time pod.id (Plan.update result)).store = _
      rw [eq_ok_of_toOption hu]
      rfl
    · change (Reconciled.write s time pod.id (Plan.update result)).events = _
      rw [eq_ok_of_toOption hu]
      rfl
  | commit time y =>
    obtain ⟨u, hu, rfl⟩ := Option.map_eq_some_iff.1 h
    obtain ⟨hanswer, hstore, hevents⟩ := commit_perform s time y
    obtain ⟨hfailed, hrecord⟩ := settled_write s time y.pod.id u
    rw [hanswer, hstore, hevents, eq_ok_of_toOption hu]
    exact ⟨hfailed, hrecord, rfl, rfl⟩
  | delete id =>
    cases h
    exact ⟨rfl, rfl, rfl, rfl⟩
  | _ => cases h

theorem perform_of_write?_none {o : Operation} (h : o.write? = none) :
    (o.perform s).store = s ∧ (o.perform s).events = [] := by
  cases o with
  | reconcile time pod result =>
    obtain ⟨e, he⟩ := exists_error_of_toOption (Option.map_eq_none_iff.1 h)
    change (Reconciled.write s time pod.id (Plan.update result)).store = _ ∧
      (Reconciled.write s time pod.id (Plan.update result)).events = _
    rw [he]
    exact ⟨rfl, rfl⟩
  | commit time y =>
    obtain ⟨e, he⟩ := exists_error_of_toOption (Option.map_eq_none_iff.1 h)
    obtain ⟨-, hstore, hevents⟩ := commit_perform s time y
    rw [hstore, hevents, he]
    exact ⟨rfl, rfl⟩
  | find id => exact ⟨rfl, rfl⟩
  | findNamed name => exact ⟨rfl, rfl⟩
  | list => exact ⟨rfl, rfl⟩
  | _ => cases h

/-- What a reconciliation has found to write, and the pod and the time that it writes with. -/
def plan? : Operation → Option (String × PodId × Except SyncError Update)
  | .reconcile time pod result => some (time, pod.id, Plan.update result)
  | .commit time y => some (time, y.pod.id, y.plan)
  | _ => none

theorem perform_of_plan? {o : Operation} {time : String} {id : PodId}
    {plan : Except SyncError Update} (h : o.plan? = some (time, id, plan)) :
    (o.perform s).answer = .reconciled (Reconciled.write s time id plan).answer ∧
      (o.perform s).store = (Reconciled.write s time id plan).store ∧
      (o.perform s).events = (Reconciled.write s time id plan).events := by
  cases o with
  | reconcile time' pod result =>
    cases h
    exact ⟨rfl, rfl, rfl⟩
  | commit time' y =>
    cases h
    exact commit_perform s time y
  | _ => cases h

theorem exists_plan?_of_reconciled {o : Operation} {answer : Except SyncError PodRecord}
    (h : (o.perform s).answer = .reconciled answer) :
    ∃ time id plan, o.plan? = some (time, id, plan) := by
  cases o with
  | reconcile time pod result => exact ⟨time, pod.id, Plan.update result, rfl⟩
  | commit time y => exact ⟨time, y.pod.id, y.plan, rfl⟩
  | _ => cases h

theorem write?_of_plan? {o : Operation} {time : String} {id : PodId}
    {plan : Except SyncError Update} (h : o.plan? = some (time, id, plan)) :
    o.write? = plan.toOption.map (.apply time id) := by
  cases o with
  | reconcile time' pod result =>
    cases h
    rfl
  | commit time' y =>
    cases h
    rfl
  | _ => cases h

theorem update?_of_plan? {o : Operation} {time : String} {id : PodId}
    {plan : Except SyncError Update} (h : o.plan? = some (time, id, plan)) :
    o.update? = plan.toOption.map (id, ·) := by
  cases o with
  | reconcile time' pod result =>
    cases h
    rfl
  | commit time' y =>
    cases h
    rfl
  | _ => cases h

/-- An operation that fails, leaves the store as it was and tells nobody. -/
structure Bounces (o : Operation) : Prop where
  failed : (o.perform s).answer.failed = true
  store : (o.perform s).store = s
  events : (o.perform s).events = []

theorem exists_error_of_failed {ε α : Type} {x : Except ε α} (h : (!x.isOk) = true) :
    ∃ e, x = .error e := by
  cases x with
  | error e => exact ⟨e, rfl⟩
  | ok a => cases h

/-- Whatever fails bounces. -/
theorem bounces_of_failed {Sound : σ → Prop} (hσ : Lawful Sound) {s : σ} (h : Sound s)
    {o : Operation} (hfailed : (o.perform s).answer.failed = true) : o.Bounces s := by
  cases hwrite : o.write? with
  | none =>
    obtain ⟨hstore, hevents⟩ := perform_of_write?_none s hwrite
    exact ⟨hfailed, hstore, hevents⟩
  | some w =>
    obtain ⟨hsame, -, hstore, hevents⟩ := perform_of_write? s hwrite
    have hstays : (w.operation.perform s).store = s ∧ (w.operation.perform s).events = [] := by
      rw [hsame] at hfailed
      cases w with
      | create id time pod =>
        obtain ⟨e, he⟩ := exists_error_of_failed hfailed
        exact hσ.create_error h he
      | apply time id u =>
        obtain ⟨e, he⟩ := exists_error_of_failed hfailed
        exact hσ.apply_error h he
      | delete id =>
        obtain ⟨e, he⟩ := exists_error_of_failed hfailed
        exact hσ.delete_error h he
    exact ⟨hfailed, hstore.trans hstays.1, hevents.trans hstays.2⟩

theorem bounces_of_plan? {o : Operation} {time : String} {id : PodId} {e : SyncError}
    (h : o.plan? = some (time, id, .error e)) : o.Bounces s := by
  obtain ⟨hanswer, hstore, hevents⟩ := perform_of_plan? s h
  exact ⟨congrArg Answer.failed hanswer, hstore, hevents⟩

theorem bounces_reconcile (time : String) (pod : PodRecord) {result : Partition Snapshot}
    {e : SyncError} (h : Plan.update result = .error e) :
    (Operation.reconcile time pod result).Bounces s := by
  have hplan : (Operation.reconcile time pod result).plan? = some (time, pod.id, .error e) := by
    rw [plan?, h]
  exact bounces_of_plan? s hplan

theorem bounces_commit (time : String) {y : Sync} {e : SyncError} (h : y.plan = .error e) :
    (Operation.commit time y).Bounces s := by
  have hplan : (Operation.commit time y).plan? = some (time, y.pod.id, .error e) := by
    rw [plan?, h]
  exact bounces_of_plan? s hplan

end Operation

/-- A write next to the same write of pods in memory. It is turned down and changes nothing, or it
comes to the same. -/
inductive Follows {σ α : Type} (R : σ → KeyedStore → Prop) (k : KeyedStore) (v : Written σ α)
    (w : Written KeyedStore α) : Prop
  | refused (e : StoreError) (answer : v.answer = .error e) (events : v.events = [])
    (store : R v.store k)
  | agrees (h : Agrees R v w)

/-- A way in which a store holds the pods of a store in memory, whatever it may turn down. -/
structure Holding {σ : Type} [PodStore σ] (R : σ → KeyedStore → Prop) : Prop where
  create {s k} (h : R s k) (id : PodId) (time : String) (pod : NewPod) :
    Follows R k (PodStore.create s id time pod) (k.create id time pod)
  apply {s k} (h : R s k) (time : String) (id : PodId) (u : Update) :
    Follows R k (PodStore.apply s time id u) (k.apply time id u)
  delete {s k} (h : R s k) (id : PodId) : Follows R k (PodStore.delete s id) (k.delete id)
  find {s k} (h : R s k) (id : PodId) : PodStore.find s id = .ok (k.find? id)
  findNamed {s k} (h : R s k) (name : String) : PodStore.findNamed s name = .ok (k.findNamed? name)
  list {s k} (h : R s k) : PodStore.list s = .ok k.list

section Follows

variable {σ α : Type} {R : σ → KeyedStore → Prop} {k : KeyedStore} {v : Written σ α}

theorem Follows.of_error {e : StoreError} {notes : List Note}
    (h : Follows R k v ⟨.error e, k, [], notes⟩) :
    v.answer.isOk = false ∧ v.events = [] ∧ R v.store k := by
  cases h with
  | refused e answer events store => exact ⟨by rw [answer]; rfl, events, store⟩
  | agrees h => exact ⟨by rw [h.answer]; rfl, h.events, h.store⟩

theorem Follows.of_ok {a : α} {k' : KeyedStore} {events : List Event} {notes : List Note}
    (h : Follows R k v ⟨.ok a, k', events, notes⟩) :
    (v.answer.isOk = false ∧ v.events = [] ∧ R v.store k) ∨
      v.answer = .ok a ∧ v.events = events ∧ R v.store k' := by
  cases h with
  | refused e answer events store => exact .inl ⟨by rw [answer]; rfl, events, store⟩
  | agrees h => exact .inr ⟨h.answer, h.events, h.store⟩

theorem Follows.carry {τ : Type} {R' : τ → KeyedStore → Prop} {v' : Written τ α}
    {w : Written KeyedStore α} (h : Follows R k v w) (hanswer : v'.answer = v.answer)
    (hevents : v'.events = v.events) (hstore : ∀ k', R v.store k' → R' v'.store k') :
    Follows R' k v' w := by
  cases h with
  | refused e answer events store =>
    exact .refused e (hanswer.trans answer) (hevents.trans events) (hstore k store)
  | agrees h =>
    exact .agrees ⟨hanswer.trans h.answer, hevents.trans h.events, hstore _ h.store⟩

end Follows

/-- What an operation can do to the pods that a store holds, and what it hands out and tells. -/
inductive Effect {σ : Type} (R : σ → KeyedStore → Prop) (k : KeyedStore) (write : Option Write)
    (failed : Bool) (record : Option PodRecord) (events : List Event) (s : σ) : Prop
  | nothing (hnothing : failed = true ∨ write = none) (hevents : events = []) (hs : R s k)
  | creates (id : PodId) (time : String) (pod : NewPod)
    (hwrite : write = some (.create id time pod)) (haccepted : failed = false)
    (hname : k.findNamed? pod.name = none) (hrecord : record = some (.create id time pod))
    (hevents : events = [.created (.create id time pod)]) (hs : R s ⟨.create id time pod :: k.without id⟩)
  | keeps (time : String) (id : PodId) (u : Update) (old : PodRecord)
    (hwrite : write = some (.apply time id u)) (haccepted : failed = false)
    (hold : k.find? id = some old) (hu : old.differs u = false) (hevents : events = []) (hs : R s k)
  | changes (time : String) (id : PodId) (u : Update) (old : PodRecord)
    (hwrite : write = some (.apply time id u)) (haccepted : failed = false)
    (hold : k.find? id = some old) (hu : old.differs u = true)
    (hrecord : record = some (old.apply time u)) (hevents : events = [.synced old (old.apply time u)])
    (hs : R s ⟨old.apply time u :: k.without id⟩)
  | deletes (id : PodId) (old : PodRecord) (hwrite : write = some (.delete id))
    (haccepted : failed = false) (hold : k.find? id = some old)
    (hevents : events = [.deleted id]) (hs : R s ⟨k.without id⟩)

theorem Effect.of_refused {σ α : Type} {R : σ → KeyedStore → Prop} {k : KeyedStore}
    {v : Written σ α} (h : v.answer.isOk = false ∧ v.events = [] ∧ R v.store k)
    (write : Option Write) (record : Option PodRecord) :
    Effect R k write (!v.answer.isOk) record v.events v.store :=
  .nothing (.inl (congrArg not h.1)) h.2.1 h.2.2

namespace Holding

variable {σ : Type} [PodStore σ] {R : σ → KeyedStore → Prop} (hR : Holding R) {s : σ}
  {k : KeyedStore} (h : R s k)

include hR h

theorem effect_of_write (w : Write) :
    Effect R k (some w) (w.operation.perform s).answer.failed
      (w.operation.perform s).answer.record? (w.operation.perform s).events
      (w.operation.perform s).store := by
  have failed {α : Type} {answer : Except StoreError α} {a : α} (hok : answer = .ok a) :
      (!answer.isOk) = false := by
    rw [hok]
    rfl
  cases w with
  | create id time pod =>
    have hfollows := hR.create h id time pod
    cases hname : k.findNamed? pod.name with
    | some r =>
      rw [KeyedStore.create, hname] at hfollows
      exact .of_refused hfollows.of_error _ _
    | none =>
      rw [KeyedStore.create, hname] at hfollows
      rcases hfollows.of_ok with hrefused | ⟨hok, hevents, hs⟩
      · exact .of_refused hrefused _ _
      · exact .creates id time pod rfl (failed hok) hname (congrArg Except.toOption hok) hevents hs
  | apply time id u =>
    have hfollows := hR.apply h time id u
    cases hold : k.find? id with
    | none =>
      rw [KeyedStore.apply, hold] at hfollows
      exact .of_refused hfollows.of_error _ _
    | some old =>
      cases hu : old.differs u with
      | false =>
        rw [KeyedStore.apply_of_unchanged time hold hu] at hfollows
        rcases hfollows.of_ok with hrefused | ⟨hok, hevents, hs⟩
        · exact .of_refused hrefused _ _
        · exact .keeps time id u old rfl (failed hok) hold hu hevents hs
      | true =>
        rw [KeyedStore.apply_of_changed time hold hu] at hfollows
        rcases hfollows.of_ok with hrefused | ⟨hok, hevents, hs⟩
        · exact .of_refused hrefused _ _
        · exact .changes time id u old rfl (failed hok) hold hu (congrArg Except.toOption hok)
            hevents hs
  | delete id =>
    have hfollows := hR.delete h id
    cases hold : k.find? id with
    | none =>
      rw [KeyedStore.delete, hold] at hfollows
      exact .of_refused hfollows.of_error _ _
    | some old =>
      rw [KeyedStore.delete, hold] at hfollows
      rcases hfollows.of_ok with hrefused | ⟨hok, hevents, hs⟩
      · exact .of_refused hrefused _ _
      · exact .deletes id old rfl (failed hok) hold hevents hs

/-- An operation has at most one effect, and tells of it by just one event. -/
theorem effect (o : Operation) :
    Effect R k o.write? (o.perform s).answer.failed (o.perform s).answer.record?
      (o.perform s).events (o.perform s).store := by
  cases hwrite : o.write? with
  | none =>
    obtain ⟨hstore, hevents⟩ := Operation.perform_of_write?_none s hwrite
    exact .nothing (.inr rfl) hevents (by rw [hstore]; exact h)
  | some w =>
    obtain ⟨hfailed, hrecord, hstore, hevents⟩ := Operation.perform_of_write? s hwrite
    rw [hfailed, hrecord, hstore, hevents]
    exact hR.effect_of_write h w

end Holding

namespace KeyedStore

structure Distinct (k : KeyedStore) : Prop where
  ids : (k.pods.map PodRecord.id).Nodup
  names : (k.pods.map PodRecord.name).Nodup

variable {k : KeyedStore}

theorem Distinct.without (h : k.Distinct) (id : PodId) : Distinct ⟨k.without id⟩ where
  ids := h.ids.sublist (List.filter_sublist.map _)
  names := h.names.sublist (List.filter_sublist.map _)

theorem Distinct.adding (h : k.Distinct) {r : PodRecord}
    (hname : k.findNamed? r.name = none) : Distinct ⟨r :: k.without r.id⟩ where
  ids := Sound.cons_without h.ids r
  names := by
    refine List.nodup_cons.2 ⟨fun hmem ↦ ?_, (h.without r.id).names⟩
    obtain ⟨r', hr', heq⟩ := List.mem_map.1 hmem
    have hne := List.find?_eq_none.1 hname r' (List.mem_filter.1 hr').1
    exact hne (beq_iff_eq.2 heq)

theorem Distinct.replacing (h : k.Distinct) {old : PodRecord} (hold : old ∈ k.pods)
    (time : String) (u : Update) : Distinct ⟨old.apply time u :: k.without old.id⟩ := by
  have hperm : k.pods.Perm (old :: k.without old.id) := perm_cons_filter_ne h.ids hold
  have hsame := old.samePod_apply time u
  constructor
  · rw [List.map_cons, hsame.id]
    exact (hperm.map _).nodup_iff.1 h.ids
  · rw [List.map_cons, hsame.name]
    exact (hperm.map _).nodup_iff.1 h.names

theorem holding : Holding (fun k' k : KeyedStore ↦ k' = k ∧ k.Distinct) where
  create := by
    rintro _ k ⟨rfl, h⟩ id time pod
    refine .agrees ⟨rfl, rfl, rfl, ?_⟩
    rw [create]
    split
    · exact h
    · rename_i hname
      exact h.adding (r := .create id time pod) hname
  apply := by
    rintro _ k ⟨rfl, h⟩ time id u
    refine .agrees ⟨rfl, rfl, rfl, ?_⟩
    cases hold : find? _ id with
    | none =>
      rw [apply, hold]
      exact h
    | some old =>
      obtain ⟨hmem, rfl⟩ := of_find?_eq_some hold
      cases hu : old.differs u with
      | false =>
        rw [apply_of_unchanged time hold hu]
        exact h
      | true =>
        rw [apply_of_changed time hold hu]
        exact h.replacing hmem time u
  delete := by
    rintro _ k ⟨rfl, h⟩ id
    refine .agrees ⟨rfl, rfl, rfl, ?_⟩
    rw [delete]
    split
    · exact h
    · exact h.without id
  find := by
    rintro _ k ⟨rfl, -⟩ id
    rfl
  findNamed := by
    rintro _ k ⟨rfl, -⟩ name
    rfl
  list := by
    rintro _ k ⟨rfl, -⟩
    rfl

end KeyedStore

namespace TableStore

variable {s : TableStore} {k : KeyedStore}

/-- The same tables in a database that refuses nothing. -/
def willing (s : TableStore) : TableStore := ⟨s.tables, fun _ _ _ ↦ none⟩

theorem stores_willing (h : Represents s.tables k) : s.willing.Stores k := ⟨fun _ _ _ ↦ rfl, h⟩

/-- A refusal can make a transaction fail, and nothing else. -/
theorem transact_willing {α : Type} {x : Transaction α} (hx : x.Tidy) :
    (∃ e, (s.transact x).answer = .error e) ∨
      (s.transact x).answer = (s.willing.transact x).answer ∧
        (s.transact x).events = (s.willing.transact x).events ∧
        (s.transact x).store.tables = (s.willing.transact x).store.tables := by
  cases hperform : ((Connection.opened s.tables).perform s.refuses 0 (x.script s.tables)).1 with
  | some message =>
    left
    rw [transact_eq hx, hperform]
    exact ⟨_, rfl⟩
  | none =>
    right
    have hwilling : ((Connection.opened s.willing.tables).perform s.willing.refuses 0
        (x.script s.willing.tables)).1 = none := by
      rw [Connection.perform_eq_through_iff] at hperform ⊢
      intro i st hi
      exact (Option.or_eq_none_iff.1 (hperform i st hi)).2
    rw [transact_eq hx, transact_eq hx, hperform, hwilling]
    have htables : s.willing.tables = s.tables := rfl
    rw [htables]
    cases x.body s.tables with
    | error e => exact ⟨rfl, rfl, rfl⟩
    | ok draft =>
      cases ha : draft.answer with
      | error e =>
        simp only [ha]
        exact ⟨trivial, trivial, rfl⟩
      | ok a =>
        simp only [ha]
        exact ⟨trivial, trivial, rfl⟩

theorem follows_transact {α : Type} {x : Transaction α} (hx : x.Tidy) {w : Written KeyedStore α}
    (h : Represents s.tables k) (hw : Agrees Stores (s.willing.transact x) w) :
    Follows (fun s k ↦ Represents s.tables k) k (s.transact x) w := by
  rcases transact_willing (s := s) hx with ⟨e, he⟩ | ⟨hanswer, hevents, htables⟩
  · obtain ⟨hstore, hevents⟩ := transact_of_error hx he
    exact .refused e he hevents (by rw [hstore]; exact h)
  · refine .agrees ⟨hanswer.trans hw.answer, hevents.trans hw.events, ?_⟩
    rw [htables]
    exact hw.store.represents

theorem create_of_used (h : s.tables.Keyed) {id : PodId} (hid : ∃ row ∈ s.tables.pods, row.id = id)
    (time : String) (pod : NewPod) : ∃ e, (s.create id time pod).answer = .error e := by
  cases hanswer : (s.create id time pod).answer with
  | error e => exact ⟨e, rfl⟩
  | ok r =>
    have hkeyed : (s.create id time pod).store.tables.Keyed :=
      transact_keyed (tidy_creation id time pod) h
    obtain ⟨rfl, hstore⟩ := create_of_ok hanswer
    obtain ⟨row, hrow, rfl⟩ := hid
    have hids := hkeyed.ids
    rw [hstore, Tables.adding, List.map_append, List.nodup_append] at hids
    have hnew : row.id ∈ [PodRow.ofRecord (.create row.id time pod)].map PodRow.id :=
      List.mem_singleton_self _
    exact absurd rfl (hids.2.2 row.id (List.mem_map_of_mem hrow) row.id hnew)

theorem holding : Holding (fun (s : TableStore) k ↦ Represents s.tables k) where
  create := by
    intro s k h id time pod
    -- Memory would write over a pod of the same id, which a key of the tables forbids.
    by_cases hnew : k.findNamed? pod.name = none → k.find? id = none
    · exact follows_transact (tidy_creation id time pod) h
        ((stores_willing h).create id time pod hnew)
    · obtain ⟨-, hid⟩ := Classical.not_imp.1 hnew
      obtain ⟨r, hr⟩ := Option.ne_none_iff_exists'.1 hid
      obtain ⟨hmem, rfl⟩ := KeyedStore.of_find?_eq_some hr
      have hrow : PodRow.ofRecord r ∈ s.tables.pods := h.pods.mem_iff.2 (List.mem_map_of_mem hmem)
      obtain ⟨e, he⟩ : ∃ e, (s.create r.id time pod).answer = .error e :=
        create_of_used h.keyed ⟨_, hrow, rfl⟩ time pod
      obtain ⟨hstore, hevents⟩ := transact_of_error (tidy_creation _ time pod) he
      refine .refused e he hevents ?_
      change Represents (s.transact _).store.tables k
      rw [hstore]
      exact h
  apply h time id u :=
    follows_transact (tidy_change time id u) h ((stores_willing h).apply time id u)
  delete h id := follows_transact (tidy_deletion id) h ((stores_willing h).delete id)
  find h := h.find_eq
  findNamed h := h.findNamed_eq
  list h := h.list_eq

end TableStore

namespace Backing

def Holds : Backing → KeyedStore → Prop
  | .memory k', k => k' = k ∧ k.Distinct
  | .transient s, k => Represents s.tables k
  | .durable _ t _, k => Represents t k

section Holds

variable {b : Backing} {k : KeyedStore} (h : b.Holds k)

include h

theorem Holds.distinct : k.Distinct := by
  cases b with
  | memory k' => exact h.2
  | transient s => exact ⟨h.ids, h.names⟩
  | durable path t guards => exact ⟨h.ids, h.names⟩

theorem Holds.follows_write {α : Type} {memory : KeyedStore → Written KeyedStore α}
    {table : TableStore → Written TableStore α} {w : Written KeyedStore α}
    (hmemory : ∀ k', k' = k ∧ k.Distinct →
      Follows (fun k' k ↦ k' = k ∧ k.Distinct) k (memory k') w)
    (htable : ∀ s : TableStore, Represents s.tables k →
      Follows (fun s k ↦ Represents s.tables k) k (table s) w) :
    Follows Holds k (b.write memory table) w := by
  cases b with
  | memory k' => exact (hmemory k' h).carry rfl rfl (fun _ h ↦ h)
  | transient s => exact (htable s h).carry rfl rfl (fun _ h ↦ h)
  | durable path t guards => exact (htable (Backing.table t guards) h).carry rfl rfl (fun _ h ↦ h)

theorem Holds.read_eq {α : Type} {memory : KeyedStore → α} {table : TableStore → α} {a : α}
    (hmemory : ∀ k', k' = k ∧ k.Distinct → memory k' = a)
    (htable : ∀ s : TableStore, Represents s.tables k → table s = a) : b.read memory table = a := by
  cases b with
  | memory k' => exact hmemory k' h
  | transient s => exact htable s h
  | durable path t guards => exact htable (Backing.table t guards) h

end Holds

theorem holding : Holding Holds where
  create h id time pod :=
    h.follows_write (fun _ h ↦ KeyedStore.holding.create h id time pod)
      (fun _ h ↦ TableStore.holding.create h id time pod)
  apply h time id u :=
    h.follows_write (fun _ h ↦ KeyedStore.holding.apply h time id u)
      (fun _ h ↦ TableStore.holding.apply h time id u)
  delete h id :=
    h.follows_write (fun _ h ↦ KeyedStore.holding.delete h id)
      (fun _ h ↦ TableStore.holding.delete h id)
  find h id :=
    h.read_eq (fun _ h ↦ KeyedStore.holding.find h id) (fun _ h ↦ TableStore.holding.find h id)
  findNamed h name :=
    h.read_eq (fun _ h ↦ KeyedStore.holding.findNamed h name)
      (fun _ h ↦ TableStore.holding.findNamed h name)
  list h :=
    h.read_eq (fun _ h ↦ KeyedStore.holding.list h) (fun _ h ↦ TableStore.holding.list h)

end Backing

theorem Outage.holding {σ : Type} [PodStore σ] {R : σ → KeyedStore → Prop} (hR : Holding R) :
    Holding (fun (o : Outage σ) k ↦ R o.store k) where
  create h id time pod := (hR.create h id time pod).carry rfl rfl (fun _ h ↦ h)
  apply := by
    intro o k h time id u
    obtain ⟨s, error⟩ := o
    cases error with
    | some e => exact .refused e rfl rfl h
    | none => exact (hR.apply h time id u).carry rfl rfl (fun _ h ↦ h)
  delete h id := (hR.delete h id).carry rfl rfl (fun _ h ↦ h)
  find h := hR.find h
  findNamed h := hR.findNamed h
  list h := hR.list h

/-- What makes the writes of a store fail for a time. -/
structure Trouble where
  error : Option StoreError
  refuses : Refusal
  guards : List TableStore.Guard

namespace Backing

/-- Nothing is stored as yet. -/
inductive Blank : Backing → Prop
  | memory : Blank (.memory .empty)
  | transient (refuses : Refusal) : Blank (.transient ⟨.empty, refuses⟩)
  | durable (path : String) (guards : List TableStore.Guard) : Blank (.durable path .empty guards)

def troubled : Backing → Trouble → Backing
  | .memory k, _ => .memory k
  | .transient s, t => .transient ⟨s.tables, t.refuses⟩
  | .durable path tables _, t => .durable path tables t.guards

theorem Blank.holds {b : Backing} (h : b.Blank) : b.Holds .empty := by
  cases h with
  | memory => exact ⟨rfl, List.nodup_nil, List.nodup_nil⟩
  | transient refuses => exact Represents.empty
  | durable path guards => exact Represents.empty

theorem Holds.troubled {b : Backing} {k : KeyedStore} (h : b.Holds k) (t : Trouble) :
    (b.troubled t).Holds k := by
  cases b with
  | memory k' => exact h
  | transient s => exact h
  | durable path tables guards => exact h

end Backing

def Outage.troubled (o : Outage Backing) (t : Trouble) : Outage Backing :=
  ⟨o.store.troubled t, t.error⟩

end PodInventory
