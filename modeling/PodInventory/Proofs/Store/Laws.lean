import PodInventory.Proofs.Pod.Record
import PodInventory.Proofs.Store.Overwriting

namespace PodInventory

/-- What a store of pods promises, seen as a map from ids to records. -/
structure Lawful {σ : Type} [PodStore σ] (Sound : σ → Prop) : Prop where
  find_id {s} (h : Sound s) {id r} : PodStore.find s id = .ok (some r) → r.id = id
  find_of_findNamed {s} (h : Sound s) {name r} :
    PodStore.findNamed s name = .ok (some r) → PodStore.find s r.id = .ok (some r)
  find_of_list {s} (h : Sound s) {l} :
    PodStore.list s = .ok l → ∀ r ∈ l, PodStore.find s r.id = .ok (some r)
  create_ok {s} (h : Sound s) {id time pod r}
    (hr : (PodStore.create s id time pod).answer = .ok r) :
    r = .create id time pod ∧ Sound (PodStore.create s id time pod).store ∧
      ∀ id', PodStore.find (PodStore.create s id time pod).store id' =
        if id' = id then .ok (some r) else PodStore.find s id'
  create_error {s} (h : Sound s) {id time pod e}
    (he : (PodStore.create s id time pod).answer = .error e) :
    (PodStore.create s id time pod).store = s ∧ (PodStore.create s id time pod).events = []
  apply_ok {s} (h : Sound s) {time id u r} (hr : (PodStore.apply s time id u).answer = .ok r) :
    (∃ old, PodStore.find s id = .ok (some old) ∧ r = old.apply time u) ∧
      Sound (PodStore.apply s time id u).store ∧
      ∀ id', PodStore.find (PodStore.apply s time id u).store id' =
        if id' = id then .ok (some r) else PodStore.find s id'
  apply_error {s} (h : Sound s) {time id u e}
    (he : (PodStore.apply s time id u).answer = .error e) :
    (PodStore.apply s time id u).store = s ∧ (PodStore.apply s time id u).events = []
  delete_ok {s} (h : Sound s) {id} (hr : (PodStore.delete s id).answer = .ok ()) :
    PodStore.find s id ≠ .ok none ∧ Sound (PodStore.delete s id).store ∧
      ∀ id', PodStore.find (PodStore.delete s id).store id' =
        if id' = id then .ok none else PodStore.find s id'
  delete_error {s} (h : Sound s) {id e} (he : (PodStore.delete s id).answer = .error e) :
    (PodStore.delete s id).store = s ∧ (PodStore.delete s id).events = []

namespace KeyedStore

/-- No id stands for two records. -/
def Sound (k : KeyedStore) : Prop := (k.pods.map PodRecord.id).Nodup

variable {k : KeyedStore}

theorem find?_without (id id' : PodId) :
    KeyedStore.find? ⟨k.without id⟩ id' = if id' = id then none else k.find? id' := by
  by_cases h : id' = id
  · rw [if_pos h, h]
    refine List.find?_eq_none.2 (fun r hr ↦ ?_)
    simpa using (List.mem_filter.1 hr).2
  · rw [if_neg h, find?, find?, ← List.head?_filter, ← List.head?_filter, without]
    rw [filter_ne_filter h]

theorem find?_cons_without (r : PodRecord) (id : PodId) :
    KeyedStore.find? ⟨r :: k.without r.id⟩ id = if id = r.id then some r else k.find? id := by
  by_cases h : id = r.id
  · rw [if_pos h, h]
    exact List.find?_cons_of_pos (beq_self_eq_true _)
  · have hfind : KeyedStore.find? ⟨r :: k.without r.id⟩ id =
        KeyedStore.find? ⟨k.without r.id⟩ id :=
      List.find?_cons_of_neg (by simpa using Ne.symm h)
    rw [hfind, find?_without, if_neg h, if_neg h]

theorem Sound.without (h : k.Sound) (id : PodId) : Sound ⟨k.without id⟩ :=
  List.Nodup.sublist (List.filter_sublist.map _) h

theorem Sound.cons_without (h : k.Sound) (r : PodRecord) : Sound ⟨r :: k.without r.id⟩ := by
  refine List.nodup_cons.2 ⟨fun hmem ↦ ?_, h.without r.id⟩
  obtain ⟨r', hr', heq⟩ := List.mem_map.1 hmem
  simpa [heq] using (List.mem_filter.1 hr').2

theorem find_of_find? {k k' : KeyedStore} {id : PodId} {found : Option PodRecord}
    (h : ∀ id', k'.find? id' = if id' = id then found else k.find? id') (id' : PodId) :
    PodStore.find k' id' = if id' = id then .ok found else PodStore.find k id' := by
  refine (congrArg Except.ok (h id')).trans ?_
  split <;> rfl

theorem Sound.create_ok (h : k.Sound) {id : PodId} {time : String} {pod : NewPod} {r : PodRecord}
    (hr : (k.create id time pod).answer = .ok r) :
    r = .create id time pod ∧ Sound (k.create id time pod).store ∧
      ∀ id', (k.create id time pod).store.find? id' =
        if id' = id then some r else k.find? id' := by
  rw [create] at hr ⊢
  split at hr
  · cases hr
  · cases hr
    exact ⟨rfl, h.cons_without (.create id time pod), find?_cons_without (.create id time pod)⟩

theorem create_error {id : PodId} {time : String} {pod : NewPod} {e : StoreError}
    (he : (k.create id time pod).answer = .error e) :
    (k.create id time pod).store = k ∧ (k.create id time pod).events = [] := by
  rw [create] at he ⊢
  split at he
  · exact ⟨rfl, rfl⟩
  · cases he

theorem apply_of_ok {time : String} {id : PodId} {u : Update} {r : PodRecord}
    (h : (k.apply time id u).answer = .ok r) :
    ∃ old, k.find? id = some old ∧ r = old.apply time u ∧
      (k.apply time id u).store = if old.differs u then ⟨r :: k.without id⟩ else k := by
  cases hold : k.find? id with
  | none =>
    rw [apply, hold] at h
    cases h
  | some old =>
    refine ⟨old, rfl, ?_⟩
    cases hu : old.differs u with
    | false =>
      rw [apply_of_unchanged time hold hu] at h ⊢
      obtain rfl : old = r := Except.ok.inj h
      exact ⟨(old.apply_unchanged time hu).symm, rfl⟩
    | true =>
      rw [apply_of_changed time hold hu] at h ⊢
      cases h
      exact ⟨rfl, rfl⟩

theorem Sound.apply_ok (h : k.Sound) {time : String} {id : PodId} {u : Update} {r : PodRecord}
    (hr : (k.apply time id u).answer = .ok r) :
    (∃ old, k.find? id = some old ∧ r = old.apply time u) ∧ Sound (k.apply time id u).store ∧
      ∀ id', (k.apply time id u).store.find? id' = if id' = id then some r else k.find? id' := by
  obtain ⟨old, hold, rfl, hstore⟩ := apply_of_ok hr
  obtain ⟨-, rfl⟩ := of_find?_eq_some hold
  refine ⟨⟨old, hold, rfl⟩, ?_⟩
  rw [hstore]
  cases hu : old.differs u with
  | false =>
    rw [old.apply_unchanged time hu, if_neg Bool.false_ne_true]
    refine ⟨h, fun id' ↦ ?_⟩
    split
    · rename_i heq
      rw [heq, hold]
    · rfl
  | true =>
    have hid := (old.samePod_apply time u).id
    rw [if_pos rfl]
    exact ⟨hid ▸ h.cons_without (old.apply time u), hid ▸ find?_cons_without (old.apply time u)⟩

theorem apply_error {time : String} {id : PodId} {u : Update} {e : StoreError}
    (he : (k.apply time id u).answer = .error e) :
    (k.apply time id u).store = k ∧ (k.apply time id u).events = [] := by
  cases hold : k.find? id with
  | none =>
    rw [apply, hold]
    exact ⟨rfl, rfl⟩
  | some old =>
    cases hu : old.differs u with
    | false =>
      rw [apply_of_unchanged time hold hu]
      exact ⟨rfl, rfl⟩
    | true =>
      rw [apply_of_changed time hold hu] at he
      cases he

theorem Sound.delete_ok (h : k.Sound) {id : PodId} (hr : (k.delete id).answer = .ok ()) :
    k.find? id ≠ none ∧ Sound (k.delete id).store ∧
      ∀ id', (k.delete id).store.find? id' = if id' = id then none else k.find? id' := by
  rw [delete] at hr ⊢
  split at hr
  · cases hr
  · rename_i old hold
    exact ⟨by simp [hold], h.without id, find?_without id⟩

theorem delete_error {id : PodId} {e : StoreError} (he : (k.delete id).answer = .error e) :
    (k.delete id).store = k ∧ (k.delete id).events = [] := by
  rw [delete] at he ⊢
  split at he
  · exact ⟨rfl, rfl⟩
  · cases he

theorem lawful : Lawful Sound where
  find_id _ _ _ hr := (of_find?_eq_some (Except.ok.inj hr)).2
  find_of_findNamed h _ _ hr :=
    congrArg Except.ok (find?_eq_some_of_mem h (of_findNamed?_eq_some (Except.ok.inj hr)).1)
  find_of_list h _ hl _ hr := by
    obtain rfl := Except.ok.inj hl
    exact congrArg Except.ok (find?_eq_some_of_mem h (List.mem_mergeSort.1 hr))
  create_ok h _ _ _ _ hr := by
    obtain ⟨hrecord, hsound, hfind⟩ := h.create_ok hr
    exact ⟨hrecord, hsound, find_of_find? hfind⟩
  create_error _ _ _ _ _ he := create_error he
  apply_ok h _ _ _ _ hr := by
    obtain ⟨⟨old, hold, hrecord⟩, hsound, hfind⟩ := h.apply_ok hr
    exact ⟨⟨old, congrArg Except.ok hold, hrecord⟩, hsound, find_of_find? hfind⟩
  apply_error _ _ _ _ _ he := apply_error he
  delete_ok h _ hr := by
    obtain ⟨hstored, hsound, hfind⟩ := h.delete_ok hr
    exact ⟨fun hnone ↦ hstored (Except.ok.inj hnone), hsound, find_of_find? hfind⟩
  delete_error _ _ _ he := delete_error he

end KeyedStore

namespace TableStore

/-- Whatever the database refuses, its keys hold. -/
def Sound (s : TableStore) : Prop := s.tables.Keyed

variable {s : TableStore}

theorem Sound.create_ok (h : s.Sound) {id : PodId} {time : String} {pod : NewPod} {r : PodRecord}
    (hr : (s.create id time pod).answer = .ok r) :
    r = .create id time pod ∧ Sound (s.create id time pod).store ∧
      ∀ id', (s.create id time pod).store.tables.find id' =
        if id' = id then .ok (some r) else s.tables.find id' := by
  have hsound : (s.create id time pod).store.tables.Keyed :=
    transact_keyed (tidy_creation id time pod) h
  obtain ⟨rfl, hstore⟩ := create_of_ok hr
  refine ⟨rfl, hsound, ?_⟩
  rw [hstore] at hsound ⊢
  exact Tables.Keyed.find_adding h hsound rfl

theorem Sound.apply_ok (h : s.Sound) {time : String} {id : PodId} {u : Update} {r : PodRecord}
    (hr : (s.apply time id u).answer = .ok r) :
    (∃ old, s.tables.find id = .ok (some old) ∧ r = old.apply time u) ∧
      Sound (s.apply time id u).store ∧
      ∀ id', (s.apply time id u).store.tables.find id' =
        if id' = id then .ok (some r) else s.tables.find id' := by
  have hsound : (s.apply time id u).store.tables.Keyed :=
    transact_keyed (tidy_change time id u) h
  obtain ⟨old, hold, rfl, hstore⟩ := apply_of_ok hr
  refine ⟨⟨old, hold, rfl⟩, hsound, fun id' ↦ ?_⟩
  obtain ⟨row, -, hrowid, hrow⟩ := Tables.Keyed.of_find h hold
  obtain rfl : old.id = id := (Tables.recordOf_id hrow).trans hrowid
  rw [hstore] at hsound ⊢
  cases hu : old.differs u with
  | false =>
    rw [old.apply_unchanged time hu, if_neg Bool.false_ne_true]
    split
    · rename_i heq
      rw [heq]
      exact hold
    · rfl
  | true =>
    rw [hu, if_pos rfl] at hsound
    refine Tables.Keyed.find_replacing h hold hsound ?_ id'
    rw [old.apply_changed time hu]

theorem Sound.delete_ok (h : s.Sound) {id : PodId} (hr : (s.delete id).answer = .ok ()) :
    s.tables.find id ≠ .ok none ∧ Sound (s.delete id).store ∧
      ∀ id', (s.delete id).store.tables.find id' =
        if id' = id then .ok none else s.tables.find id' := by
  have hsound : (s.delete id).store.tables.Keyed := transact_keyed (tidy_deletion id) h
  obtain ⟨⟨row, hrow, hid⟩, hstore⟩ := delete_of_ok hr
  refine ⟨fun hnone ↦ Tables.Keyed.id_ne_of_find h hnone row hrow hid, hsound, ?_⟩
  rw [hstore] at hsound ⊢
  exact Tables.Keyed.find_without h id hsound

theorem Sound.find_of_list (h : s.Sound) {l : List PodRecord} (hl : s.tables.list = .ok l)
    {r : PodRecord} (hr : r ∈ l) : s.tables.find r.id = .ok (some r) := by
  rw [Tables.Keyed.list_eq h] at hl
  obtain ⟨row, hrow, hrecord⟩ := Tables.exists_of_mem_mapM hl hr
  rw [Tables.recordOf_id hrecord, Tables.Keyed.find_of_mem h (List.mem_mergeSort.1 hrow), hrecord]
  rfl

theorem Sound.find_of_findNamed (h : s.Sound) {name : String} {r : PodRecord}
    (hr : s.tables.findNamed name = .ok (some r)) : s.tables.find r.id = .ok (some r) := by
  rw [Tables.Keyed.findNamed_eq h] at hr
  cases hrow : s.tables.pods.find? (fun row ↦ row.name == name) with
  | none =>
    rw [hrow] at hr
    cases hr
  | some row =>
    rw [hrow, Option.elim_some] at hr
    cases hrecord : s.tables.recordOf row with
    | error e =>
      rw [hrecord] at hr
      cases hr
    | ok r' =>
      rw [hrecord] at hr
      obtain rfl : r' = r := Option.some.inj (Except.ok.inj hr)
      rw [Tables.recordOf_id hrecord, Tables.Keyed.find_of_mem h (List.mem_of_find?_eq_some hrow),
        hrecord]
      rfl

theorem lawful : Lawful Sound where
  find_id h _ _ hr := by
    obtain ⟨row, -, hid, hrecord⟩ := Tables.Keyed.of_find h hr
    exact (Tables.recordOf_id hrecord).trans hid
  find_of_findNamed h _ _ hr := Sound.find_of_findNamed h hr
  find_of_list h _ hl _ hr := Sound.find_of_list h hl hr
  create_ok h _ _ _ _ hr := Sound.create_ok h hr
  create_error _ _ _ _ _ he := transact_of_error (tidy_creation _ _ _) he
  apply_ok h _ _ _ _ hr := Sound.apply_ok h hr
  apply_error _ _ _ _ _ he := transact_of_error (tidy_change _ _ _) he
  delete_ok h _ hr := Sound.delete_ok h hr
  delete_error _ _ _ he := transact_of_error (tidy_deletion _) he

end TableStore

namespace Backing

def Sound : Backing → Prop
  | .memory k => k.Sound
  | .transient s => s.Sound
  | .durable _ tables _ => tables.Keyed

theorem write_error {b : Backing} (h : b.Sound) {α : Type}
    {memory : KeyedStore → Written KeyedStore α} {table : TableStore → Written TableStore α}
    {e : StoreError}
    (hmemory : ∀ k : KeyedStore, k.Sound → (memory k).answer = .error e →
      (memory k).store = k ∧ (memory k).events = [])
    (htable : ∀ s : TableStore, s.Sound → (table s).answer = .error e →
      (table s).store = s ∧ (table s).events = [])
    (he : (b.write memory table).answer = .error e) :
    (b.write memory table).store = b ∧ (b.write memory table).events = [] := by
  cases b with
  | memory k =>
    obtain ⟨hstore, hevents⟩ := hmemory k h he
    exact ⟨congrArg Backing.memory hstore, hevents⟩
  | transient s =>
    obtain ⟨hstore, hevents⟩ := htable s h he
    exact ⟨congrArg Backing.transient hstore, hevents⟩
  | durable path t guards =>
    obtain ⟨hstore, hevents⟩ := htable (Backing.table t guards) h he
    exact ⟨congrArg (fun s : TableStore ↦ durable path s.tables guards) hstore, hevents⟩

theorem lawful : Lawful Sound where
  find_id := by
    intro b h id r hr
    cases b with
    | memory k => exact KeyedStore.lawful.find_id h hr
    | transient s => exact TableStore.lawful.find_id h hr
    | durable path t guards => exact TableStore.lawful.find_id (s := table t guards) h hr
  find_of_findNamed := by
    intro b h name r hr
    cases b with
    | memory k => exact KeyedStore.lawful.find_of_findNamed h hr
    | transient s => exact TableStore.lawful.find_of_findNamed h hr
    | durable path t guards => exact TableStore.lawful.find_of_findNamed (s := table t guards) h hr
  find_of_list := by
    intro b h l hl
    cases b with
    | memory k => exact KeyedStore.lawful.find_of_list h hl
    | transient s => exact TableStore.lawful.find_of_list h hl
    | durable path t guards => exact TableStore.lawful.find_of_list (s := table t guards) h hl
  create_ok := by
    intro b h id time pod r hr
    cases b with
    | memory k => exact KeyedStore.lawful.create_ok h hr
    | transient s => exact TableStore.lawful.create_ok h hr
    | durable path t guards => exact TableStore.lawful.create_ok (s := table t guards) h hr
  create_error h _ _ _ _ he :=
    write_error h (fun _ h he ↦ KeyedStore.lawful.create_error h he)
      (fun _ h he ↦ TableStore.lawful.create_error h he) he
  apply_ok := by
    intro b h time id u r hr
    cases b with
    | memory k => exact KeyedStore.lawful.apply_ok h hr
    | transient s => exact TableStore.lawful.apply_ok h hr
    | durable path t guards => exact TableStore.lawful.apply_ok (s := table t guards) h hr
  apply_error h _ _ _ _ he :=
    write_error h (fun _ h he ↦ KeyedStore.lawful.apply_error h he)
      (fun _ h he ↦ TableStore.lawful.apply_error h he) he
  delete_ok := by
    intro b h id hr
    cases b with
    | memory k => exact KeyedStore.lawful.delete_ok h hr
    | transient s => exact TableStore.lawful.delete_ok h hr
    | durable path t guards => exact TableStore.lawful.delete_ok (s := table t guards) h hr
  delete_error h _ _ he :=
    write_error h (fun _ h he ↦ KeyedStore.lawful.delete_error h he)
      (fun _ h he ↦ TableStore.lawful.delete_error h he) he

end Backing

/-- Updates that fail for a while break no law. -/
theorem Outage.lawful {σ : Type} [PodStore σ] {Sound : σ → Prop} (hσ : Lawful Sound) :
    Lawful (fun o : Outage σ ↦ Sound o.store) where
  find_id h _ _ hr := hσ.find_id h hr
  find_of_findNamed h _ _ hr := hσ.find_of_findNamed h hr
  find_of_list h _ hl := hσ.find_of_list h hl
  create_ok h _ _ _ _ hr := hσ.create_ok h hr
  create_error {o} h _ _ _ _ he := by
    obtain ⟨hstore, hevents⟩ := hσ.create_error h he
    exact ⟨congrArg (Outage.mk · o.error) hstore, hevents⟩
  apply_ok := by
    intro o h time id u r hr
    obtain ⟨store, error⟩ := o
    cases error with
    | none => exact hσ.apply_ok h hr
    | some e => cases hr
  apply_error := by
    intro o h time id u e' he
    obtain ⟨store, error⟩ := o
    cases error with
    | none =>
      obtain ⟨hstore, hevents⟩ := hσ.apply_error h he
      exact ⟨congrArg (Outage.mk · none) hstore, hevents⟩
    | some e => exact ⟨rfl, rfl⟩
  delete_ok h _ hr := hσ.delete_ok h hr
  delete_error {o} h _ _ he := by
    obtain ⟨hstore, hevents⟩ := hσ.delete_error h he
    exact ⟨congrArg (Outage.mk · o.error) hstore, hevents⟩

/-- A property that no write touches goes along with the laws. -/
theorem Lawful.and {σ : Type} [PodStore σ] {Sound P : σ → Prop} (hσ : Lawful Sound)
    (hcreate : ∀ s id time pod, P s → P (PodStore.create s id time pod).store)
    (happly : ∀ s time id u, P s → P (PodStore.apply s time id u).store)
    (hdelete : ∀ s id, P s → P (PodStore.delete s id).store) :
    Lawful (fun s ↦ Sound s ∧ P s) where
  find_id h _ _ hr := hσ.find_id h.1 hr
  find_of_findNamed h _ _ hr := hσ.find_of_findNamed h.1 hr
  find_of_list h _ hl := hσ.find_of_list h.1 hl
  create_ok {s} h id time pod _ hr := by
    obtain ⟨hrecord, hsound, hfind⟩ := hσ.create_ok h.1 hr
    exact ⟨hrecord, ⟨hsound, hcreate s id time pod h.2⟩, hfind⟩
  create_error h _ _ _ _ he := hσ.create_error h.1 he
  apply_ok {s} h time id u _ hr := by
    obtain ⟨hrecord, hsound, hfind⟩ := hσ.apply_ok h.1 hr
    exact ⟨hrecord, ⟨hsound, happly s time id u h.2⟩, hfind⟩
  apply_error h _ _ _ _ he := hσ.apply_error h.1 he
  delete_ok {s} h id hr := by
    obtain ⟨hstored, hsound, hfind⟩ := hσ.delete_ok h.1 hr
    exact ⟨hstored, ⟨hsound, hdelete s id h.2⟩, hfind⟩
  delete_error h _ _ he := hσ.delete_error h.1 he

section Hands

variable {σ : Type} [PodStore σ]

/-- A store hands out a record, whatever it was asked. -/
inductive Hands (s : σ) (r : PodRecord) : Prop
  | found (id : PodId) (h : PodStore.find s id = .ok (some r))
  | named (name : String) (h : PodStore.findNamed s name = .ok (some r))
  | listed (l : List PodRecord) (h : PodStore.list s = .ok l) (hr : r ∈ l)

theorem Lawful.find_of_hands {Sound : σ → Prop} (hσ : Lawful Sound) {s : σ} (h : Sound s)
    {r : PodRecord} (hr : Hands s r) : PodStore.find s r.id = .ok (some r) := by
  cases hr with
  | found id hfind =>
    rw [hσ.find_id h hfind]
    exact hfind
  | named name hfind => exact hσ.find_of_findNamed h hfind
  | listed l hlist hmem => exact hσ.find_of_list h hlist r hmem

end Hands

end PodInventory
