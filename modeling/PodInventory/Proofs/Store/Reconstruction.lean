import PodInventory.Proofs.Store.Overwriting
import PodInventory.Proofs.Text.Order
import PodInventory.Store.Table

namespace PodInventory

theorem eq_toList_head? {α : Type} {l : List α} (h : l.length ≤ 1) : l = l.head?.toList := by
  match l, h with
  | [], _ => rfl
  | [a], _ => rfl

theorem mergeSort_filter_key {α : Type} (key : α → String) {l : List α} (h : (l.map key).Nodup)
    (p : α → Bool) :
    (l.filter p).mergeSort (fun a b ↦ key a ≤ key b) =
      (l.mergeSort (fun a b ↦ key a ≤ key b)).filter p := by
  have hperm : ((l.filter p).mergeSort (fun a b ↦ key a ≤ key b)).Perm
      ((l.mergeSort (fun a b ↦ key a ≤ key b)).filter p) :=
    (List.mergeSort_perm _ _).trans ((List.mergeSort_perm l _).symm.filter p)
  refine hperm.eq_of_pairwise (fun a b ha hb hab hba ↦ ?_)
    (pairwise_mergeSort_key key _) ((pairwise_mergeSort_key key l).filter p)
  have hmem : ∀ c, c ∈ (l.filter p).mergeSort (fun a b ↦ key a ≤ key b) → c ∈ l :=
    fun c hc ↦ (List.mem_filter.1 (List.mem_mergeSort.1 hc)).1
  exact List.inj_on_of_nodup_map h (hmem a ha) (hmem b (hperm.mem_iff.2 hb))
    (String.le_antisymm hab hba)

namespace Tables

/-- The tables without the routes of pods that are not there. -/
def owned (t : Tables) : Tables :=
  { t with routes := t.routes.filter (fun r ↦ t.pods.any (fun row ↦ row.id == r.pod)) }

variable {t : Tables}

theorem filter_routes_owned {row : PodRow} (h : row ∈ t.pods) :
    t.owned.routes.filter (fun r ↦ r.pod == row.id) =
      t.routes.filter (fun r ↦ r.pod == row.id) := by
  rw [owned, List.filter_filter]
  refine List.filter_congr (fun r _ ↦ ?_)
  cases hpod : r.pod == row.id with
  | false => rfl
  | true =>
    rw [Bool.true_and, List.any_eq_true]
    exact ⟨row, h, by rw [eq_of_beq hpod, beq_self_eq_true]⟩

/-- Routes of missing pods do not show in any query. -/
theorem query_owned (t : Tables) (p : PodRow → Bool) : t.owned.query p = t.query p := by
  have hjoined : ∀ row ∈ t.pods.filter p, t.owned.joinedWith row = t.joinedWith row := by
    intro row hrow
    rw [joinedWith, joinedWith, filter_routes_owned (List.mem_filter.1 hrow).1]
  have hrows : (t.owned.pods.filter p).flatMap t.owned.joinedWith =
      (t.pods.filter p).flatMap t.joinedWith := List.flatMap_congr hjoined
  rw [query, query, select, select, hrows]

theorem keyed_owned (hids : (t.pods.map PodRow.id).Nodup) (hnames : (t.pods.map PodRow.name).Nodup)
    (hroutes : (t.routes.map (fun r ↦ (r.pod, r.worker))).Nodup) : t.owned.Keyed where
  ids := hids
  names := hnames
  routes := hroutes.sublist (List.filter_sublist.map _)
  owned r hr := by
    have hany := (List.mem_filter.1 hr).2
    obtain ⟨row, hrow, heq⟩ := List.any_eq_true.1 hany
    exact List.mem_map.2 ⟨row, hrow, eq_of_beq heq⟩

/-- A record as it shows a row of the tables: in every column, and with all routes of its pod. -/
structure Shows (t : Tables) (row : PodRow) (r : PodRecord) : Prop where
  columns : row.Reads { r with routable := ∅ }
  routes : ∀ worker routable,
    r.routable.get? worker = some routable ↔ ⟨row.id, worker, routable⟩ ∈ t.routes

theorem get?_routesOf (ht : t.Keyed) (id : PodId) (worker : WorkerId) (routable : Bool) :
    (t.routesOf id).get? worker = some routable ↔ ⟨id, worker, routable⟩ ∈ t.routes := by
  have hnodup := ht.nodup_workers id
  rw [← List.nodup_reverse, ← List.map_reverse] at hnodup
  rw [routesOf, Dict.get?_ofList, Dict.lookup_eq_some_iff_mem hnodup, List.mem_reverse,
    List.mem_map]
  constructor
  · intro hex
    obtain ⟨r, hr, heq⟩ := hex
    obtain ⟨hr, hpod⟩ := List.mem_filter.1 hr
    obtain ⟨rfl, rfl⟩ := Prod.ext_iff.1 heq
    rw [← eq_of_beq hpod]
    exact hr
  · intro hmem
    exact ⟨_, List.mem_filter.2 ⟨hmem, beq_self_eq_true id⟩, rfl⟩

theorem Keyed.shows_of_recordOf (ht : t.Keyed) {row : PodRow} {r : PodRecord}
    (h : t.recordOf row = .ok r) : t.Shows row r := by
  obtain ⟨hrecord, hroutable⟩ := record_of_recordOf h
  refine ⟨PodRow.reads_of_record_eq hrecord, fun worker routable ↦ ?_⟩
  rw [hroutable]
  exact get?_routesOf ht row.id worker routable

theorem shows_of_owned {row : PodRow} {r : PodRecord} (hrow : row ∈ t.pods)
    (h : t.owned.Shows row r) : t.Shows row r := by
  refine ⟨h.columns, fun worker routable ↦ (h.routes worker routable).trans ?_⟩
  refine ⟨fun hmem ↦ (List.mem_filter.1 hmem).1, fun hmem ↦ List.mem_filter.2 ⟨hmem, ?_⟩⟩
  exact List.any_eq_true.2 ⟨row, hrow, beq_self_eq_true row.id⟩

theorem exists_forall₂ {α β : Type} {R : α → β → Prop} {l : List α} (h : ∀ a ∈ l, ∃ b, R a b) :
    ∃ bs, List.Forall₂ R l bs := by
  induction l with
  | nil => exact ⟨[], .nil⟩
  | cons a l ih =>
    obtain ⟨b, hb⟩ := h a List.mem_cons_self
    obtain ⟨bs, hbs⟩ := ih (fun a' ha' ↦ h a' (List.mem_cons_of_mem a ha'))
    exact ⟨b :: bs, .cons hb hbs⟩

/-- What a query selects, it takes from the list of all pods. -/
theorem Keyed.query_of_list (ht : t.Keyed) {l : List PodRecord} (hl : t.list = .ok l)
    {p : PodRow → Bool} {q : PodRecord → Bool}
    (hpq : ∀ row r, t.recordOf row = .ok r → (p row = true ↔ q r = true)) :
    t.query p = .ok (l.filter q) := by
  rw [ht.list_eq, mapM_eq_ok_iff] at hl
  rw [ht.query_eq, mergeSort_filter_key PodRow.name ht.names, mapM_eq_ok_iff]
  exact List.rel_filter (fun row r h ↦ by simpa using hpq row r h) hl

theorem recordOf_name {row : PodRow} {r : PodRecord} (h : t.recordOf row = .ok r) :
    r.name = row.name :=
  (PodRow.reads_of_record_eq (record_of_recordOf h).1).name.symm

theorem query_id_of_list (ht : t.Keyed) {l : List PodRecord} (hl : t.list = .ok l) (id : PodId) :
    t.query (fun row ↦ row.id == id) = .ok (l.filter (fun r ↦ r.id == id)) :=
  ht.query_of_list hl (fun row r h ↦ by rw [recordOf_id h])

theorem query_name_of_list (ht : t.Keyed) {l : List PodRecord} (hl : t.list = .ok l)
    (name : String) :
    t.query (fun row ↦ row.name == name) = .ok (l.filter (fun r ↦ r.name == name)) :=
  ht.query_of_list hl (fun row r h ↦ by rw [recordOf_name h])

theorem map_eq_of_forall₂ {α β γ : Type} {R : α → β → Prop} {f : α → γ} {g : β → γ} {as : List α}
    {bs : List β} (h : List.Forall₂ R as bs) (hfg : ∀ a b, R a b → g b = f a) :
    bs.map g = as.map f := by
  induction h with
  | nil => rfl
  | cons hab _ ih => rw [List.map_cons, List.map_cons, hfg _ _ hab, ih]

/-- The list of all pods, where every row can be read. -/
theorem Keyed.exists_list (ht : t.Keyed) (hdecodes : ∀ row ∈ t.pods, ∃ r, row.record = .ok r) :
    ∃ l rows, t.list = .ok l ∧ rows.Perm t.pods ∧
      List.Forall₂ (fun row r ↦ t.recordOf row = .ok r) rows l ∧
      l.Pairwise (fun a b ↦ a.name < b.name) := by
  have hrows : ∀ row ∈ t.pods.mergeSort (fun a b ↦ a.name ≤ b.name),
      ∃ r, t.recordOf row = .ok r := by
    intro row hrow
    obtain ⟨r, hr⟩ := hdecodes row (List.mem_mergeSort.1 hrow)
    exact ⟨_, by rw [recordOf, hr]; rfl⟩
  obtain ⟨l, hl⟩ := exists_forall₂ hrows
  have hnames := map_eq_of_forall₂ hl (fun _ _ ↦ recordOf_name)
  have hperm := List.mergeSort_perm t.pods (fun a b ↦ a.name ≤ b.name)
  have hsorted := List.pairwise_map.2 (pairwise_mergeSort_key PodRow.name t.pods)
  have hnodup : ((t.pods.mergeSort (fun a b ↦ a.name ≤ b.name)).map PodRow.name).Nodup :=
    (hperm.map _).nodup_iff.2 ht.names
  rw [← hnames] at hsorted hnodup
  refine ⟨l, _, ?_, hperm, hl, ?_⟩
  · rw [ht.list_eq, mapM_eq_ok_iff]
    exact hl
  · exact (List.pairwise_map.1 (hsorted.and hnodup)).imp
      (fun hab ↦ Std.lt_of_le_of_ne hab.1 hab.2)

end Tables

open Tables Text

/-- A query puts the records together again from the joined rows: one for each pod, by ascending
name, with the columns of its row and just the routes of its pod. With a key it comes to the pod of
that key in the list, or to nothing. -/
theorem query_rebuilds (s : TableStore) (hids : (s.tables.pods.map PodRow.id).Nodup)
    (hnames : (s.tables.pods.map PodRow.name).Nodup)
    (hroutes : (s.tables.routes.map (fun r ↦ (r.pod, r.worker))).Nodup)
    (hdecodes : ∀ row ∈ s.tables.pods, ∃ r, row.record = .ok r) :
    ∃ l, s.tables.query (fun _ ↦ true) = .ok l ∧
      l.Pairwise (fun a b ↦ bytes a.name < bytes b.name) ∧
      (∃ rows, rows.Perm s.tables.pods ∧ List.Forall₂ s.tables.Shows rows l) ∧
      (∀ id, s.tables.query (fun row ↦ row.id == id) =
        .ok (l.find? (fun r ↦ r.id == id)).toList) ∧
      (∀ name, s.tables.query (fun row ↦ row.name == name) =
        .ok (l.find? (fun r ↦ r.name == name)).toList) ∧
      PodStore.list s = .ok l ∧
      (∀ id, PodStore.find s id = .ok (l.find? (fun r ↦ r.id == id))) ∧
      ∀ name, PodStore.findNamed s name = .ok (l.find? (fun r ↦ r.name == name)) := by
  obtain ⟨t, refuses⟩ := s
  have ht := keyed_owned hids hnames hroutes
  obtain ⟨l, rows, hl, hperm, hread, hascending⟩ := ht.exists_list hdecodes
  have hlist : t.query (fun _ ↦ true) = .ok l := (query_owned t _).symm.trans hl
  have hrowIds : (l.map PodRecord.id).Nodup := by
    rw [map_eq_of_forall₂ hread (fun _ _ ↦ recordOf_id)]
    exact (hperm.map _).nodup_iff.2 hids
  have hrowNames : (l.map PodRecord.name).Nodup := by
    rw [map_eq_of_forall₂ hread (fun _ _ ↦ recordOf_name)]
    exact (hperm.map _).nodup_iff.2 hnames
  have hid : ∀ id, t.query (fun row ↦ row.id == id) =
      .ok (l.find? (fun r ↦ r.id == id)).toList := by
    intro id
    rw [← query_owned, query_id_of_list ht hl, ← List.head?_filter]
    exact congrArg Except.ok (eq_toList_head? (length_filter_le_one hrowIds id))
  have hname : ∀ name, t.query (fun row ↦ row.name == name) =
      .ok (l.find? (fun r ↦ r.name == name)).toList := by
    intro name
    rw [← query_owned, query_name_of_list ht hl, ← List.head?_filter]
    exact congrArg Except.ok (eq_toList_head? (length_filter_le_one hrowNames name))
  have hshows : List.Forall₂ t.Shows rows l :=
    ((List.forall₂_and_left rows l).2 ⟨fun row hrow ↦ hperm.mem_iff.1 hrow, hread⟩).imp
      (fun row r h ↦ shows_of_owned h.1 (ht.shows_of_recordOf h.2))
  refine ⟨l, hlist, hascending.imp bytes_lt_iff.2, ⟨rows, hperm, hshows⟩, hid, hname, hlist,
    fun id ↦ ?_, fun name ↦ ?_⟩
  · change (t.query _).map List.head? = _
    rw [hid id]
    exact congrArg Except.ok Option.head?_toList
  · change (t.query _).map List.head? = _
    rw [hname name]
    exact congrArg Except.ok Option.head?_toList

/-- Two pods, of which one has no routes, with the routes of a third one that is gone. -/
def scattered : TableStore where
  tables := {
    pods := [.ofRecord (.create "1" "t1" ⟨"cellar", "virsh", "default", "default", ∅⟩),
      .ofRecord (.create "2" "t2" ⟨"attic", "virsh", "default", "default", ∅⟩)]
    routes := [⟨"3", "w", true⟩, ⟨"1", "w2", false⟩, ⟨"3", "w2", true⟩, ⟨"1", "w", true⟩] }

theorem query_rebuilds_scattered :
    ((scattered.tables.pods.map PodRow.id).Nodup ∧ (scattered.tables.pods.map PodRow.name).Nodup ∧
        (scattered.tables.routes.map (fun r ↦ (r.pod, r.worker))).Nodup ∧
        ∀ row ∈ scattered.tables.pods, ∃ r, row.record = .ok r) ∧
      ∃ l, PodStore.list scattered = .ok l ∧ l.map PodRecord.name = ["attic", "cellar"] ∧
        PodStore.find scattered "1" = .ok (l.find? (fun r ↦ r.id == "1")) := by
  have hids : (scattered.tables.pods.map PodRow.id).Nodup := by decide
  have hnames : (scattered.tables.pods.map PodRow.name).Nodup := by decide
  have hroutes : (scattered.tables.routes.map (fun r ↦ (r.pod, r.worker))).Nodup := by decide
  have hdecodes : ∀ row ∈ scattered.tables.pods, ∃ r, row.record = .ok r := by
    simp only [scattered, List.forall_mem_cons]
    exact ⟨⟨_, (PodRow.reads_ofRecord _).record_eq⟩, ⟨_, (PodRow.reads_ofRecord _).record_eq⟩,
      List.forall_mem_nil _⟩
  refine ⟨⟨hids, hnames, hroutes, hdecodes⟩, ?_⟩
  obtain ⟨l, -, hascending, ⟨rows, hperm, hshows⟩, -, -, hlist, hfind, -⟩ :=
    query_rebuilds scattered hids hnames hroutes hdecodes
  have hrows : l.map PodRecord.name = rows.map PodRow.name :=
    map_eq_of_forall₂ hshows (fun _ _ h ↦ h.columns.name.symm)
  have hmap : (l.map PodRecord.name).Perm ["attic", "cellar"] := by
    rw [hrows]
    exact (hperm.map PodRow.name).trans (.swap "attic" "cellar" [])
  refine ⟨l, hlist, ?_, hfind "1"⟩
  have hsorted : (l.map PodRecord.name).Pairwise (· < ·) :=
    List.pairwise_map.2 (hascending.imp bytes_lt_iff.1)
  exact hmap.eq_of_pairwise (fun a b _ _ hab hba ↦ absurd hba (String.lt_asymm hab)) hsorted
    (by decide)

end PodInventory
