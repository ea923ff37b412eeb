import PodInventory.Proofs.Store.Simulation
import PodInventory.Proofs.Store.Writes
import PodInventory.Store.Backing

namespace PodInventory

/-- Tables that hold just what a store in memory holds, in whatever order. -/
structure Represents (t : Tables) (k : KeyedStore) : Prop where
  pods : t.pods.Perm (k.pods.map .ofRecord)
  routes : t.routes.Perm (k.pods.flatMap PodRecord.routeRows)
  ids : (k.pods.map PodRecord.id).Nodup
  names : (k.pods.map PodRecord.name).Nodup

theorem map_routeRows (r : PodRecord) :
    r.routeRows.map (fun route ↦ (route.worker, route.routable)) = r.routable.entries := by
  simp [PodRecord.routeRows, Function.comp_def]

theorem filter_routeRows (r : PodRecord) (p : PodId → Bool) :
    r.routeRows.filter (fun route ↦ p route.pod) = if p r.id then r.routeRows else [] := by
  rw [PodRecord.routeRows, List.filter_map]
  cases h : p r.id <;> simp [Function.comp_def, h]

theorem filter_flatMap_routeRows (p : PodId → Bool) (l : List PodRecord) :
    (l.flatMap PodRecord.routeRows).filter (fun route ↦ p route.pod) =
      (l.filter (fun r ↦ p r.id)).flatMap PodRecord.routeRows := by
  induction l with
  | nil => rfl
  | cons r l ih =>
    rw [List.flatMap_cons, List.filter_append, ih, filter_routeRows, List.filter_cons]
    split <;> simp

namespace Represents

variable {t : Tables} {k : KeyedStore}

theorem empty : Represents .empty .empty :=
  ⟨.refl _, .refl _, List.nodup_nil, List.nodup_nil⟩

/-- In which order the pods stand in memory makes no difference. -/
theorem shuffled (h : Represents t k) {pods : List PodRecord} (hpods : pods.Perm k.pods) :
    Represents t ⟨pods⟩ where
  pods := h.pods.trans (hpods.map _).symm
  routes := h.routes.trans (hpods.flatMap_right _).symm
  ids := (hpods.map _).nodup_iff.2 h.ids
  names := (hpods.map _).nodup_iff.2 h.names

theorem map_id (h : Represents t k) : (t.pods.map PodRow.id).Perm (k.pods.map PodRecord.id) := by
  have hmap := h.pods.map PodRow.id
  rw [List.map_map] at hmap
  exact hmap

theorem map_name (h : Represents t k) :
    (t.pods.map PodRow.name).Perm (k.pods.map PodRecord.name) := by
  have hmap := h.pods.map PodRow.name
  rw [List.map_map] at hmap
  exact hmap

theorem keyed (h : Represents t k) : t.Keyed where
  ids := h.map_id.nodup_iff.2 h.ids
  names := h.map_name.nodup_iff.2 h.names
  routes := by
    refine (h.routes.map _).nodup_iff.2 ?_
    rw [List.map_flatMap]
    refine List.pairwise_flatMap.2 ⟨fun r _ ↦ ?_, ?_⟩
    · rw [PodRecord.routeRows, List.map_map]
      exact List.pairwise_map.2
        (r.routable.ascending.imp (fun hlt heq ↦ String.ne_of_lt hlt (Prod.ext_iff.1 heq).2))
    · refine (List.pairwise_map.1 h.ids).imp (fun hne a ha b hb heq ↦ hne ?_)
      obtain ⟨x, hx, rfl⟩ := List.mem_map.1 ha
      obtain ⟨y, hy, rfl⟩ := List.mem_map.1 hb
      obtain ⟨_, -, rfl⟩ := List.mem_map.1 hx
      obtain ⟨_, -, rfl⟩ := List.mem_map.1 hy
      exact (Prod.ext_iff.1 heq).1
  owned route hroute := by
    obtain ⟨r, hr, hroute⟩ := List.mem_flatMap.1 (h.routes.mem_iff.1 hroute)
    obtain ⟨e, -, rfl⟩ := List.mem_map.1 hroute
    exact h.map_id.mem_iff.2 (List.mem_map_of_mem hr)

theorem routes_of_mem (h : Represents t k) {r : PodRecord} (hr : r ∈ k.pods) :
    (t.routes.filter (fun route ↦ route.pod == r.id)).Perm r.routeRows := by
  have hperm := h.routes.filter (fun route ↦ route.pod == r.id)
  rw [filter_flatMap_routeRows (· == r.id), filter_eq_singleton h.ids hr,
    List.flatMap_singleton] at hperm
  exact hperm

theorem routesOf_eq (h : Represents t k) {r : PodRecord} (hr : r ∈ k.pods) :
    t.routesOf r.id = r.routable := by
  have hperm := (h.routes_of_mem hr).map (fun route ↦ (route.worker, route.routable))
  rw [map_routeRows] at hperm
  rw [Tables.routesOf, Dict.ofList_perm hperm (h.keyed.nodup_workers r.id), Dict.ofList_entries]

theorem recordOf_eq (h : Represents t k) {r : PodRecord} (hr : r ∈ k.pods) :
    t.recordOf (.ofRecord r) = .ok r := by
  rw [Tables.recordOf, (PodRow.reads_ofRecord r).record_eq, Except.map]
  exact congrArg Except.ok (congrArg (fun d ↦ { r with routable := d }) (h.routesOf_eq hr))

theorem query_eq (h : Represents t k) {f : PodRow → String} {g : PodRecord → String}
    (hfg : ∀ r, f (.ofRecord r) = g r) (hf : (t.pods.map f).Nodup) (key : String) :
    ((t.pods.find? (fun row ↦ f row == key)).elim (.ok none)
      (fun row ↦ (t.recordOf row).map some) : Except StoreError (Option PodRecord)) =
        .ok (k.pods.find? (fun r ↦ g r == key)) := by
  cases hr : k.pods.find? (fun r ↦ g r == key) with
  | some r =>
    have hmem := List.mem_of_find?_eq_some hr
    obtain rfl : g r = key := by simpa using List.find?_some hr
    have hrow : PodRow.ofRecord r ∈ t.pods := h.pods.mem_iff.2 (List.mem_map_of_mem hmem)
    rw [← hfg r, find?_eq_some_of_mem hf hrow, Option.elim_some, h.recordOf_eq hmem]
    rfl
  | none =>
    have hnone : t.pods.find? (fun row ↦ f row == key) = none := by
      rw [List.find?_eq_none] at hr ⊢
      intro row hrow
      obtain ⟨r, hmem, rfl⟩ := List.mem_map.1 (h.pods.mem_iff.1 hrow)
      rw [hfg]
      exact hr r hmem
    rw [hnone]
    rfl

theorem find_eq (h : Represents t k) (id : PodId) : t.find id = .ok (k.find? id) := by
  rw [h.keyed.find_eq]
  exact h.query_eq (fun _ ↦ rfl) h.keyed.ids id

theorem findNamed_eq (h : Represents t k) (name : String) :
    t.findNamed name = .ok (k.findNamed? name) := by
  rw [h.keyed.findNamed_eq]
  exact h.query_eq (fun _ ↦ rfl) h.keyed.names name

/-- Distinct names leave only one order by name. -/
theorem mergeSort_eq (h : Represents t k) :
    t.pods.mergeSort (fun a b ↦ a.name ≤ b.name) = k.list.map .ofRecord := by
  have hperm : (t.pods.mergeSort (fun a b ↦ a.name ≤ b.name)).Perm (k.list.map .ofRecord) :=
    (List.mergeSort_perm _ _).trans (h.pods.trans ((List.mergeSort_perm _ _).map _).symm)
  refine List.Perm.eq_of_pairwise (fun a b ha hb hab hba ↦ ?_) 
    (pairwise_mergeSort_key PodRow.name _) ?_ hperm
  · have hb : b ∈ t.pods := List.mem_mergeSort.1 (hperm.mem_iff.2 hb)
    exact List.inj_on_of_nodup_map h.keyed.names (List.mem_mergeSort.1 ha) hb
      (String.le_antisymm hab hba)
  · exact List.pairwise_map.2 (pairwise_mergeSort_key PodRecord.name _)

theorem list_eq (h : Represents t k) : t.list = .ok k.list := by
  have hread : ∀ l : List PodRecord, (∀ r ∈ l, r ∈ k.pods) →
      (l.map .ofRecord).mapM t.recordOf = .ok l := by
    intro l
    induction l with
    | nil => exact fun _ ↦ rfl
    | cons r l ih =>
      intro hl
      rw [List.map_cons, List.mapM_cons, h.recordOf_eq (hl r List.mem_cons_self),
        ih (fun r' hr' ↦ hl r' (List.mem_cons_of_mem _ hr'))]
      rfl
  rw [h.keyed.list_eq, h.mergeSort_eq]
  exact hread _ (fun r hr ↦ List.mem_mergeSort.1 hr)

theorem adding (h : Represents t k) {r : PodRecord} (hid : ∀ r' ∈ k.pods, r'.id ≠ r.id)
    (hname : ∀ r' ∈ k.pods, r'.name ≠ r.name) (hroutes : r.routable = ∅) :
    Represents (t.adding (.ofRecord r)) ⟨r :: k.without r.id⟩ := by
  have hwithout : k.without r.id = k.pods := by
    refine List.filter_eq_self.2 (fun r' hr' ↦ ?_)
    simpa using hid r' hr'
  rw [hwithout]
  refine ⟨?_, ?_, ?_, ?_⟩
  · rw [List.map_cons]
    exact (List.perm_append_singleton _ _).trans (h.pods.cons _)
  · have hnone : r.routeRows = [] := by
      rw [PodRecord.routeRows, hroutes]
      rfl
    rw [List.flatMap_cons, hnone]
    exact h.routes
  · exact List.nodup_cons.2 ⟨by simpa using hid, h.ids⟩
  · exact List.nodup_cons.2 ⟨by simpa using hname, h.names⟩

/-- Without the pods that a predicate on ids leaves out, the tables still hold the rest. -/
theorem filtering (h : Represents t k) (p : PodId → Bool) :
    Represents ⟨t.pods.filter (fun row ↦ p row.id), t.routes.filter (fun route ↦ p route.pod)⟩
      ⟨k.pods.filter (fun r ↦ p r.id)⟩ where
  pods := by
    have hfilter := h.pods.filter (fun row ↦ p row.id)
    rw [List.filter_map] at hfilter
    exact hfilter
  routes := by
    have hfilter := h.routes.filter (fun route ↦ p route.pod)
    rw [filter_flatMap_routeRows] at hfilter
    exact hfilter
  ids := h.ids.sublist (List.filter_sublist.map _)
  names := h.names.sublist (List.filter_sublist.map _)

theorem without (h : Represents t k) (id : PodId) : Represents (t.without id) ⟨k.without id⟩ :=
  h.filtering (· != id)

theorem replacing (h : Represents t k) {old new : PodRecord} (hold : old ∈ k.pods)
    (hid : new.id = old.id) (hname : new.name = old.name)
    (hrow : (PodRow.ofRecord old).withDiscovered (PodRow.ofRecord new).discovered = .ofRecord new) :
    Represents (t.replacing new) ⟨new :: k.without old.id⟩ := by
  have hperm : k.pods.Perm (old :: k.without old.id) := perm_cons_filter_ne h.ids hold
  refine ⟨?_, ?_, ?_, ?_⟩
  · have hothers : (k.without old.id).map (fun r ↦ if (PodRow.ofRecord r).id = new.id then
        (PodRow.ofRecord r).withDiscovered (PodRow.ofRecord new).discovered else .ofRecord r) =
          (k.without old.id).map .ofRecord := by
      refine List.map_congr_left (fun r hr ↦ if_neg ?_)
      change r.id ≠ new.id
      rw [hid]
      simpa using (List.mem_filter.1 hr).2
    have hwritten : (if (PodRow.ofRecord old).id = new.id then
        (PodRow.ofRecord old).withDiscovered (PodRow.ofRecord new).discovered
          else .ofRecord old) = .ofRecord new := by
      rw [← hrow]
      exact if_pos hid.symm
    have hmap := (h.pods.trans (hperm.map _)).map (fun row ↦
      if row.id = new.id then row.withDiscovered (PodRow.ofRecord new).discovered else row)
    rw [List.map_map, List.map_cons, Function.comp_def, hothers] at hmap
    exact hmap.trans (.of_eq (congrArg (· :: _) hwritten))
  · have hfilter := h.routes.filter (fun route ↦ route.pod != new.id)
    rw [filter_flatMap_routeRows (· != new.id)] at hfilter
    rw [List.flatMap_cons, ← hid]
    exact List.perm_append_comm.trans (hfilter.append_left _)
  · rw [List.map_cons, hid]
    exact (hperm.map _).nodup_iff.1 h.ids
  · rw [List.map_cons, hname]
    exact (hperm.map _).nodup_iff.1 h.names

end Represents

namespace KeyedStore

variable {k : KeyedStore}

theorem of_find?_eq_some {id : PodId} {r : PodRecord} (h : k.find? id = some r) :
    r ∈ k.pods ∧ r.id = id := by
  have hid := List.find?_some h
  exact ⟨List.mem_of_find?_eq_some h, eq_of_beq hid⟩

theorem of_findNamed?_eq_some {name : String} {r : PodRecord} (h : k.findNamed? name = some r) :
    r ∈ k.pods ∧ r.name = name := by
  have hname := List.find?_some h
  exact ⟨List.mem_of_find?_eq_some h, eq_of_beq hname⟩

theorem apply_of_unchanged (time : String) {id : PodId} {u : Update} {old : PodRecord}
    (h : k.find? id = some old) (hu : old.differs u = false) :
    k.apply time id u = { answer := .ok old, store := k } := by
  simp only [apply, h, hu, Bool.false_eq_true, ↓reduceIte]

theorem apply_of_changed (time : String) {id : PodId} {u : Update} {old : PodRecord}
    (h : k.find? id = some old) (hu : old.differs u = true) :
    k.apply time id u =
      { answer := .ok (old.apply time u), store := ⟨old.apply time u :: k.without id⟩,
        events := [.synced old (old.apply time u)] } := by
  simp only [apply, h, hu, ↓reduceIte]

end KeyedStore

namespace TableStore

/-- A database that refuses nothing and holds what a store in memory holds. -/
structure Stores (s : TableStore) (k : KeyedStore) : Prop where
  accepts : s.Accepts
  represents : Represents s.tables k

variable {s : TableStore} {k : KeyedStore}

theorem Stores.create (h : s.Stores k) (id : PodId) (time : String) (pod : NewPod)
    (hnew : k.findNamed? pod.name = none → k.find? id = none) :
    Agrees Stores (s.create id time pod) (k.create id time pod) := by
  cases hname : k.findNamed? pod.name with
  | some r =>
    obtain ⟨hmem, heq⟩ := KeyedStore.of_findNamed?_eq_some hname
    have htaken : ∃ row ∈ s.tables.pods, row.name = pod.name :=
      ⟨.ofRecord r, h.represents.pods.mem_iff.2 (List.mem_map_of_mem hmem), heq⟩
    rw [h.accepts.create_of_taken id time htaken, KeyedStore.create, hname]
    exact ⟨rfl, rfl, h⟩
  | none =>
    have hfree : ∀ r ∈ k.pods, r.name ≠ pod.name := by
      simpa using List.find?_eq_none.1 hname
    have hunused : ∀ r ∈ k.pods, r.id ≠ id := by
      simpa using List.find?_eq_none.1 (hnew hname)
    have hrows {f : PodRow → String} {g : PodRecord → String} {x : String}
        (hfg : ∀ r, f (.ofRecord r) = g r) (hx : ∀ r ∈ k.pods, g r ≠ x) :
        ∀ row ∈ s.tables.pods, f row ≠ x := by
      intro row hrow
      obtain ⟨r, hr, rfl⟩ := List.mem_map.1 (h.represents.pods.mem_iff.1 hrow)
      rw [hfg]
      exact hx r hr
    rw [h.accepts.create_of_free time (hrows (fun _ ↦ rfl) hfree) (hrows (fun _ ↦ rfl) hunused),
      KeyedStore.create, hname]
    exact ⟨rfl, rfl, h.accepts, h.represents.adding hunused hfree rfl⟩

theorem Stores.apply (h : s.Stores k) (time : String) (id : PodId) (u : Update) :
    Agrees Stores (s.apply time id u) (k.apply time id u) := by
  have hfind := h.represents.find_eq id
  cases hold : k.find? id with
  | none =>
    rw [hold] at hfind
    rw [h.accepts.ready.apply_of_missing time u hfind, KeyedStore.apply, hold]
    exact ⟨rfl, rfl, h⟩
  | some old =>
    rw [hold] at hfind
    obtain ⟨hmem, rfl⟩ := KeyedStore.of_find?_eq_some hold
    cases hu : old.differs u with
    | false =>
      have hanswer := h.accepts.ready.apply_of_unchanged time hfind hu
      obtain ⟨hstore, hevents⟩ := store_apply_of_unchanged time hfind hu
      rw [KeyedStore.apply_of_unchanged time hold hu]
      refine ⟨hanswer, hevents, ?_⟩
      rw [hstore]
      exact h
    | true =>
      have hid : old.id ∈ s.tables.pods.map PodRow.id :=
        h.represents.map_id.mem_iff.2 (List.mem_map_of_mem hmem)
      rw [h.accepts.apply_of_changed time hfind hu hid, KeyedStore.apply_of_changed time hold hu]
      refine ⟨rfl, rfl, h.accepts, ?_⟩
      rw [PodRecord.apply, if_pos hu]
      exact h.represents.replacing hmem rfl rfl rfl

theorem Stores.delete (h : s.Stores k) (id : PodId) :
    Agrees Stores (s.delete id) (k.delete id) := by
  cases hold : k.find? id with
  | none =>
    have hmissing : ∀ row ∈ s.tables.pods, row.id ≠ id := by
      intro row hrow
      obtain ⟨r, hr, rfl⟩ := List.mem_map.1 (h.represents.pods.mem_iff.1 hrow)
      have hne := List.find?_eq_none.1 hold r hr
      exact fun heq ↦ hne (beq_iff_eq.2 heq)
    rw [h.accepts.ready.delete_of_missing h.represents.keyed hmissing, KeyedStore.delete, hold]
    exact ⟨rfl, rfl, h⟩
  | some old =>
    obtain ⟨hmem, heq⟩ := KeyedStore.of_find?_eq_some hold
    have hstored : ∃ row ∈ s.tables.pods, row.id = id :=
      ⟨.ofRecord old, h.represents.pods.mem_iff.2 (List.mem_map_of_mem hmem), heq⟩
    rw [h.accepts.delete_of_stored hstored, KeyedStore.delete, hold]
    exact ⟨rfl, rfl, h.accepts, h.represents.without id⟩

/-- Tables behave as the records in memory do. -/
theorem simulation_stores : Simulation Stores where
  create h id time pod hnew := h.create id time pod (fun hname ↦ by
    have hfind := hnew (congrArg Except.ok hname)
    exact Except.ok.inj hfind)
  apply h := h.apply
  delete h := h.delete
  find h := h.represents.find_eq
  findNamed h := h.represents.findNamed_eq
  list h := h.represents.list_eq

end TableStore

namespace Backing

/-- A database on a disk that holds what a store in memory holds. -/
def Stores (b : Backing) (k : KeyedStore) : Prop :=
  ∃ path t, b = .durable path t [] ∧ Represents t k

theorem table_stores {t : Tables} {k : KeyedStore} (h : Represents t k) :
    (table t []).Stores k :=
  ⟨fun _ _ _ ↦ rfl, h⟩

theorem agrees_map {α : Type} (path : String) {v : Written TableStore α} {w : Written KeyedStore α}
    (h : Agrees TableStore.Stores v w) :
    Agrees Stores (map (fun s ↦ .durable path s.tables []) v) w :=
  ⟨h.answer, h.events, path, v.store.tables, rfl, h.store.represents⟩

theorem simulation_stores : Simulation Stores where
  create := by
    intro b k hb id time pod hnew
    obtain ⟨path, t, rfl, h⟩ := hb
    exact agrees_map path (TableStore.simulation_stores.create (table_stores h) id time pod hnew)
  apply := by
    intro b k hb time id u
    obtain ⟨path, t, rfl, h⟩ := hb
    exact agrees_map path ((table_stores h).apply time id u)
  delete := by
    intro b k hb id
    obtain ⟨path, t, rfl, h⟩ := hb
    exact agrees_map path ((table_stores h).delete id)
  find := by
    intro b k hb
    obtain ⟨path, t, rfl, h⟩ := hb
    exact h.find_eq
  findNamed := by
    intro b k hb
    obtain ⟨path, t, rfl, h⟩ := hb
    exact h.findNamed_eq
  list := by
    intro b k hb
    obtain ⟨path, t, rfl, h⟩ := hb
    exact h.list_eq

end Backing

/-- The id that a create comes with. -/
def Operation.newId? : Operation → Option PodId
  | .create id _ _ => some id
  | _ => none

namespace KeyedStore

variable {k : KeyedStore}

theorem id_of_mem_apply {time : String} {id : PodId} {u : Update} {r : PodRecord}
    (h : r ∈ (k.apply time id u).store.pods) : ∃ r' ∈ k.pods, r'.id = r.id := by
  cases hold : k.find? id with
  | none =>
    rw [apply, hold] at h
    exact ⟨r, h, rfl⟩
  | some old =>
    cases hu : old.differs u with
    | false =>
      rw [apply_of_unchanged time hold hu] at h
      exact ⟨r, h, rfl⟩
    | true =>
      rw [apply_of_changed time hold hu] at h
      rcases List.mem_cons.1 h with rfl | h
      · refine ⟨old, (of_find?_eq_some hold).1, ?_⟩
        rw [PodRecord.apply, if_pos hu]
      · exact ⟨r, (List.mem_filter.1 h).1, rfl⟩

theorem id_of_mem_write {time : String} {id : PodId} {plan : Except SyncError Update}
    {r : PodRecord} (h : r ∈ (Reconciled.write k time id plan).store.pods) :
    ∃ r' ∈ k.pods, r'.id = r.id := by
  cases plan with
  | error e => exact ⟨r, h, rfl⟩
  | ok u => exact id_of_mem_apply h

/-- Only a create adds an id, its own. -/
theorem id_of_mem_perform {o : Operation} {r : PodRecord} (h : r ∈ (o.perform k).store.pods) :
    (∃ r' ∈ k.pods, r'.id = r.id) ∨ o.newId? = some r.id := by
  cases o with
  | create id time pod =>
    change r ∈ (k.create id time pod).store.pods at h
    rw [create] at h
    split at h
    · exact .inl ⟨r, h, rfl⟩
    · rcases List.mem_cons.1 h with rfl | h
      · exact .inr rfl
      · exact .inl ⟨r, (List.mem_filter.1 h).1, rfl⟩
  | apply time id u => exact .inl (id_of_mem_apply h)
  | reconcile time pod result => exact .inl (id_of_mem_write h)
  | commit time y =>
    have hmem : r ∈ (y.commit k time).store.pods := h
    rw [(y.commit_eq k time).2.1] at hmem
    exact .inl (id_of_mem_write hmem)
  | delete id =>
    change r ∈ (k.delete id).store.pods at h
    rw [delete] at h
    split at h
    · exact .inl ⟨r, h, rfl⟩
    · exact .inl ⟨r, (List.mem_filter.1 h).1, rfl⟩
  | _ => exact .inl ⟨r, h, rfl⟩

/-- Ids that are all different are fresh. -/
theorem fresh_of_nodup (ops : List Operation) (h : (ops.filterMap Operation.newId?).Nodup)
    (hpods : ∀ r ∈ k.pods, r.id ∉ ops.filterMap Operation.newId?) : Operation.Fresh k ops := by
  induction ops generalizing k with
  | nil => trivial
  | cons o rest ih =>
    refine ⟨?_, ih ?_ (fun r hr hmem ↦ ?_)⟩
    · rintro id time pod rfl -
      refine congrArg Except.ok (List.find?_eq_none.2 (fun r hr heq ↦ hpods r hr ?_))
      rw [eq_of_beq heq]
      exact List.mem_cons_self
    · exact h.sublist ((List.sublist_cons_self o rest).filterMap _)
    · rcases id_of_mem_perform hr with ⟨r', hr', heq⟩ | hnew
      · exact hpods r' hr' (heq ▸ ((List.sublist_cons_self o rest).filterMap _).subset hmem)
      · rw [List.filterMap_cons_some hnew] at h
        exact (List.nodup_cons.1 h).1 hmem

/-- Performs operations on pods that are in another order before each of them. -/
def performShuffled (shuffle : Nat → List PodRecord → List PodRecord) (step : Nat)
    (k : KeyedStore) : List Operation → List Answer × KeyedStore × List Event
  | [] => ([], k, [])
  | o :: rest =>
    let p := o.perform (KeyedStore.mk (shuffle step k.pods))
    let (answers, k, events) := performShuffled shuffle (step + 1) p.store rest
    (p.answer :: answers, k, p.events ++ events)

theorem performShuffled_eq {shuffle : Nat → List PodRecord → List PodRecord}
    (hshuffle : ∀ step pods, (shuffle step pods).Perm pods) (ops : List Operation) {s : TableStore}
    {k k' : KeyedStore} (h : s.Stores k) (h' : s.Stores k') (hfresh : Operation.Fresh k ops)
    (step : Nat) :
    (performShuffled shuffle step k' ops).1 = (Operation.performAll s ops).1 ∧
      (performShuffled shuffle step k' ops).2.2 = (Operation.performAll s ops).2.2 := by
  induction ops generalizing s k k' step with
  | nil => exact ⟨rfl, rfl⟩
  | cons o rest ih =>
    have hshuffled : s.Stores ⟨shuffle step k'.pods⟩ :=
      ⟨h'.accepts, h'.represents.shuffled (hshuffle step k'.pods)⟩
    have hR := TableStore.simulation_stores
    have hnew := (hR.new_iff hshuffled o).1 ((hR.new_iff h o).2 hfresh.1)
    obtain ⟨-, -, hstore⟩ := hR.perform h o hfresh.1
    obtain ⟨hanswer, hevents, hstore'⟩ := hR.perform hshuffled o hnew
    obtain ⟨hanswers, hevents'⟩ := ih hstore hstore' hfresh.2 (step + 1)
    simp only [performShuffled, Operation.performAll]
    exact ⟨by rw [hanswer, hanswers], by rw [hevents, hevents']⟩

end KeyedStore

namespace Backing

/-- Performs operations on a store that is closed and opened again, before each of them as often as
the number beside it says. A database is opened the way that a directory with one is. -/
def performReopening (b : Backing) : List (Nat × Operation) → List Answer × Backing × List Event
  | [] => ([], b, [])
  | (times, o) :: rest =>
    let p := o.perform (reopened^[times] b)
    let (answers, b, events) := performReopening p.store rest
    (p.answer :: answers, b, p.events ++ events)

theorem performReopening_eq (ops : List (Nat × Operation)) {b : Backing} {k : KeyedStore}
    (h : b.Stores k) (hfresh : Operation.Fresh k (ops.map Prod.snd)) :
    (performReopening b ops).1 = (Operation.performAll k (ops.map Prod.snd)).1 ∧
      (performReopening b ops).2.2 = (Operation.performAll k (ops.map Prod.snd)).2.2 := by
  induction ops generalizing b k with
  | nil => exact ⟨rfl, rfl⟩
  | cons op rest ih =>
    obtain ⟨times, o⟩ := op
    have hreopened : reopened^[times] b = b := by
      obtain ⟨path, t, rfl, -⟩ := h
      exact Function.iterate_fixed (reopened_durable path t []) times
    obtain ⟨hanswer, hevents, hstore⟩ := simulation_stores.perform h o hfresh.1
    obtain ⟨hanswers, hevents'⟩ := ih hstore hfresh.2
    simp only [performReopening, hreopened, List.map_cons, Operation.performAll]
    exact ⟨by rw [hanswer, hanswers], by rw [hevents, hevents']⟩

end Backing

/-- Pods in memory and pods in a database cannot be told apart, whatever order the memory keeps them
in and however often the database is closed and opened again. -/
theorem stores_equivalent (shuffle : Nat → List PodRecord → List PodRecord)
    (hshuffle : ∀ step pods, (shuffle step pods).Perm pods) (path : String)
    (ops : List (Nat × Operation))
    (hfresh : Operation.Fresh KeyedStore.empty (ops.map Prod.snd)) :
    let inMemory := KeyedStore.performShuffled shuffle 0 .empty (ops.map Prod.snd)
    let inTables := Operation.performAll TableStore.empty (ops.map Prod.snd)
    let onDisk := Backing.performReopening (.durable path .empty []) ops
    (inTables.1 = inMemory.1 ∧ inTables.2.2 = inMemory.2.2) ∧
      onDisk.1 = inMemory.1 ∧ onDisk.2.2 = inMemory.2.2 := by
  have hempty : TableStore.empty.Stores .empty := ⟨fun _ _ _ ↦ rfl, .empty⟩
  obtain ⟨hshuffled, hshuffledEvents⟩ :=
    KeyedStore.performShuffled_eq hshuffle _ hempty hempty hfresh 0
  obtain ⟨hanswers, hevents, -⟩ := TableStore.simulation_stores.performAll _ hempty hfresh
  obtain ⟨hdisk, hdiskEvents⟩ :=
    Backing.performReopening_eq ops ⟨path, .empty, rfl, .empty⟩ hfresh
  refine ⟨⟨hshuffled.symm, hshuffledEvents.symm⟩, ?_, ?_⟩
  · exact hdisk.trans (hanswers.symm.trans hshuffled.symm)
  · exact hdiskEvents.trans (hevents.symm.trans hshuffledEvents.symm)

/-- Two pods, a sync of one, and a delete, with the database reopened in between. -/
def revisited : List (Nat × Operation) :=
  [(0, .create "1" "then" ⟨"rack", "virsh", "default", "default", ∅⟩),
    (1, .create "2" "then" ⟨"blade", "virsh", "default", "default", ∅⟩),
    (2, .apply "now" "1" ⟨.blank, .ofList [("a", true)]⟩), (0, .list), (3, .delete "2"),
    (0, .find "1")]

theorem stores_equivalent_revisited :
    Operation.Fresh KeyedStore.empty (revisited.map Prod.snd) ∧
      (Operation.performAll TableStore.empty (revisited.map Prod.snd)).1 =
        (KeyedStore.performShuffled (fun _ ↦ List.reverse) 0 .empty
          (revisited.map Prod.snd)).1 := by
  have hfresh : Operation.Fresh KeyedStore.empty (revisited.map Prod.snd) :=
    KeyedStore.fresh_of_nodup _ (by decide) (fun _ h ↦ nomatch h)
  exact ⟨hfresh, (stores_equivalent (fun _ ↦ List.reverse) (fun _ pods ↦ pods.reverse_perm)
    "pods.db" revisited hfresh).1.1⟩

end PodInventory
