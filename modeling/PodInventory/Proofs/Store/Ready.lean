import PodInventory.Proofs.Store.Laws

namespace PodInventory

theorem TableStore.accepts_transact {α : Type} {s : TableStore} (hs : s.Accepts)
    (x : Transaction α) : (s.transact x).store.Accepts := by
  rw [Accepts, refuses_transact]
  exact hs

/-- A store that turns no write down of its own accord. -/
def Backing.Accepts : Backing → Prop
  | .memory _ => True
  | .transient s => s.Accepts
  | .durable _ t guards => (table t guards).Accepts

theorem Backing.Accepts.write {b : Backing} (h : b.Accepts) {α : Type}
    (memory : KeyedStore → Written KeyedStore α) (x : TableStore.Transaction α) :
    (b.write memory (fun s ↦ s.transact x)).store.Accepts := by
  cases b with
  | memory k => exact trivial
  | transient s => exact TableStore.accepts_transact h x
  | durable path t guards => exact h

namespace Backing

/-- A store that turns down nothing which has nothing to write, as guards on writes never do. -/
def Ready : Backing → Prop
  | .transient s => s.Ready
  | .memory _ | .durable _ _ _ => True

theorem Accepts.ready {b : Backing} (h : b.Accepts) : b.Ready := by
  cases b with
  | memory k => exact trivial
  | transient s => exact TableStore.Accepts.ready h
  | durable path t guards => exact trivial

section Writes

variable {b : Backing} (time : String) {id : PodId} {u : Update} {old : PodRecord}

theorem store_apply_of_unchanged (h : PodStore.find b id = .ok (some old))
    (hu : old.differs u = false) :
    (PodStore.apply b time id u).store = b ∧ (PodStore.apply b time id u).events = [] := by
  cases b with
  | memory k =>
    have happly := KeyedStore.apply_of_unchanged time (Except.ok.inj h) hu
    refine ⟨?_, congrArg Written.events happly⟩
    exact congrArg (fun w : Written KeyedStore PodRecord ↦ memory w.store) happly
  | transient s =>
    obtain ⟨hstore, hevents⟩ := TableStore.store_apply_of_unchanged time h hu
    exact ⟨congrArg transient hstore, hevents⟩
  | durable path t guards =>
    obtain ⟨hstore, hevents⟩ :=
      TableStore.store_apply_of_unchanged (s := table t guards) time h hu
    exact ⟨congrArg (fun s : TableStore ↦ durable path s.tables guards) hstore, hevents⟩

theorem Ready.apply_of_unchanged (hb : b.Ready) (h : PodStore.find b id = .ok (some old))
    (hu : old.differs u = false) : (PodStore.apply b time id u).answer = .ok old := by
  cases b with
  | memory k =>
    exact congrArg Written.answer (KeyedStore.apply_of_unchanged time (Except.ok.inj h) hu)
  | transient s => exact TableStore.Ready.apply_of_unchanged hb time h hu
  | durable path t guards =>
    exact (TableStore.ready_guarded t guards).apply_of_unchanged time h hu

theorem Ready.apply_of_missing (hb : b.Ready) (u : Update) (h : PodStore.find b id = .ok none) :
    (PodStore.apply b time id u).answer = .error (.missing id) := by
  cases b with
  | memory k =>
    have hnone : k.find? id = none := Except.ok.inj h
    have hanswer : (k.apply time id u).answer = .error (.missing id) := by
      rw [KeyedStore.apply, hnone]
    exact hanswer
  | transient s => exact congrArg Written.answer (TableStore.Ready.apply_of_missing hb time u h)
  | durable path t guards =>
    exact congrArg Written.answer ((TableStore.ready_guarded t guards).apply_of_missing time u h)

theorem Ready.delete_of_missing (hb : b.Ready) (hsound : b.Sound)
    (h : PodStore.find b id = .ok none) :
    (PodStore.delete b id).answer = .error (.missing id) := by
  cases b with
  | memory k =>
    have hnone : k.find? id = none := Except.ok.inj h
    have hanswer : (k.delete id).answer = .error (.missing id) := by
      rw [KeyedStore.delete, hnone]
    exact hanswer
  | transient s =>
    have hrows := Tables.Keyed.id_ne_of_find hsound h
    exact congrArg Written.answer (TableStore.Ready.delete_of_missing hb hsound hrows)
  | durable path t guards =>
    have hrows := Tables.Keyed.id_ne_of_find hsound h
    exact congrArg Written.answer
      ((TableStore.ready_guarded t guards).delete_of_missing hsound hrows)

end Writes

end Backing

namespace Outage

/-- A store that is up, and that turns no write down of its own accord. -/
def Healthy (o : Outage Backing) : Prop := o.error = none ∧ o.store.Accepts

theorem lawful_healthy : Lawful (fun o : Outage Backing ↦ o.store.Sound ∧ o.Healthy) := by
  refine (Outage.lawful Backing.lawful).and ?_ ?_ ?_
  · intro o id time pod ho
    exact ⟨ho.1, ho.2.write _ (TableStore.creation id time pod)⟩
  · intro o time id u ho
    obtain ⟨b, error⟩ := o
    obtain ⟨herror, haccepts⟩ := ho
    cases error with
    | some e => cases herror
    | none => exact ⟨rfl, Backing.Accepts.write haccepts _ (TableStore.change time id u)⟩
  · intro o id ho
    exact ⟨ho.1, ho.2.write _ (TableStore.deletion id)⟩

/-- A store that is up, and that turns down nothing which has nothing to write. -/
def Ready (o : Outage Backing) : Prop := o.error = none ∧ o.store.Ready

theorem Healthy.ready {o : Outage Backing} (ho : o.Healthy) : o.Ready := ⟨ho.1, ho.2.ready⟩

section Writes

variable {o : Outage Backing} (time : String) {id : PodId} {u : Update} {old : PodRecord}

theorem store_apply_of_unchanged (h : PodStore.find o id = .ok (some old))
    (hu : old.differs u = false) :
    (PodStore.apply o time id u).store = o ∧ (PodStore.apply o time id u).events = [] := by
  obtain ⟨b, error⟩ := o
  cases error with
  | some e => exact ⟨rfl, rfl⟩
  | none =>
    obtain ⟨hstore, hevents⟩ := Backing.store_apply_of_unchanged time h hu
    exact ⟨congrArg (Outage.mk · none) hstore, hevents⟩

theorem Ready.apply_of_unchanged (ho : o.Ready) (h : PodStore.find o id = .ok (some old))
    (hu : old.differs u = false) : (PodStore.apply o time id u).answer = .ok old := by
  obtain ⟨b, error⟩ := o
  obtain ⟨rfl, hb⟩ := ho
  exact Backing.Ready.apply_of_unchanged time hb h hu

theorem Ready.apply_of_missing (ho : o.Ready) (u : Update) (h : PodStore.find o id = .ok none) :
    (PodStore.apply o time id u).answer = .error (.missing id) := by
  obtain ⟨b, error⟩ := o
  obtain ⟨rfl, hb⟩ := ho
  exact Backing.Ready.apply_of_missing time hb u h

end Writes

end Outage

end PodInventory
