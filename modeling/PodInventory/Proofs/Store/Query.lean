import Mathlib.Data.List.Perm.Basic
import Mathlib.Data.String.Basic
import PodInventory.Proofs.Dict
import PodInventory.Proofs.Keys
import PodInventory.Proofs.Store.Row
import PodInventory.Store.Tables

namespace PodInventory.Tables

/-- The keys of a database. Ids, names and pairs of pod and worker are unique, and every route
belongs to a pod. -/
structure Keyed (t : Tables) : Prop where
  ids : (t.pods.map PodRow.id).Nodup
  names : (t.pods.map PodRow.name).Nodup
  routes : (t.routes.map (fun r ↦ (r.pod, r.worker))).Nodup
  owned : ∀ r ∈ t.routes, r.pod ∈ t.pods.map PodRow.id

/-- The routes of one pod. -/
def routesOf (t : Tables) (id : PodId) : Dict Bool :=
  .ofList ((t.routes.filter (fun r ↦ r.pod == id)).map (fun r ↦ (r.worker, r.routable)))

/-- The record of a row together with its routes. -/
def recordOf (t : Tables) (row : PodRow) : Except StoreError PodRecord :=
  row.record.map (fun r ↦ { r with routable := t.routesOf row.id })

def routeBefore : Option RouteRow → Option RouteRow → Prop
  | none, _ => True
  | some _, none => False
  | some r, some s => r.worker ≤ s.worker

theorem Joined.before_iff {a b : Joined} :
    a.before b = true ↔ a.1.name < b.1.name ∨ a.1.name = b.1.name ∧
      (a.1.id < b.1.id ∨ a.1.id = b.1.id ∧ routeBefore a.2 b.2) := by
  obtain ⟨a, r⟩ := a
  obtain ⟨b, s⟩ := b
  unfold before
  by_cases hname : a.name = b.name
  · by_cases hid : a.id = b.id
    · cases r <;> cases s <;> simp [hname, hid, routeBefore]
    · simp [hname, hid]
  · simp [hname]

theorem routeBefore_trans {r s u : Option RouteRow} (hrs : routeBefore r s)
    (hsu : routeBefore s u) : routeBefore r u := by
  cases r with
  | none => trivial
  | some r =>
    cases s with
    | none => exact hrs.elim
    | some s =>
      cases u with
      | none => exact hsu.elim
      | some u => exact String.le_trans hrs hsu

theorem routeBefore_total (r s : Option RouteRow) : routeBefore r s ∨ routeBefore s r := by
  cases r with
  | none => exact .inl trivial
  | some r =>
    cases s with
    | none => exact .inr trivial
    | some s => exact String.le_total r.worker s.worker

theorem Joined.before_trans (a b c : Joined) (hab : a.before b = true) (hbc : b.before c = true) :
    a.before c = true := by
  rw [before_iff] at hab hbc ⊢
  rcases hab with hab | ⟨hab, hids⟩
  · rcases hbc with hbc | ⟨hbc, -⟩
    · exact .inl (String.lt_trans hab hbc)
    · exact .inl (hbc ▸ hab)
  · rcases hbc with hbc | ⟨hbc, hids'⟩
    · exact .inl (hab ▸ hbc)
    · refine .inr ⟨hab.trans hbc, ?_⟩
      rcases hids with hid | ⟨hid, hroutes⟩
      · rcases hids' with hid' | ⟨hid', -⟩
        · exact .inl (String.lt_trans hid hid')
        · exact .inl (hid' ▸ hid)
      · rcases hids' with hid' | ⟨hid', hroutes'⟩
        · exact .inl (hid ▸ hid')
        · exact .inr ⟨hid.trans hid', routeBefore_trans hroutes hroutes'⟩

theorem lt_or_eq_or_gt (s t : String) : s < t ∨ s = t ∨ t < s := by
  rcases String.le_total s t with h | h
  · exact (Std.le_iff_lt_or_eq.1 h).imp_right .inl
  · exact (Std.le_iff_lt_or_eq.1 h).elim (fun h ↦ .inr (.inr h)) (fun h ↦ .inr (.inl h.symm))

theorem Joined.before_total (a b : Joined) : (a.before b || b.before a) = true := by
  rw [Bool.or_eq_true, before_iff, before_iff]
  rcases lt_or_eq_or_gt a.1.name b.1.name with h | h | h
  · exact .inl (.inl h)
  · rcases lt_or_eq_or_gt a.1.id b.1.id with h' | h' | h'
    · exact .inl (.inr ⟨h, .inl h'⟩)
    · exact (routeBefore_total a.2 b.2).imp (fun h'' ↦ .inr ⟨h, .inr ⟨h', h''⟩⟩)
        (fun h'' ↦ .inr ⟨h.symm, .inr ⟨h'.symm, h''⟩⟩)
    · exact .inr (.inr ⟨h.symm, .inl h'⟩)
  · exact .inr (.inl h)

/-- Two joined rows that stand before each other agree on the pod and on the worker. -/
theorem Joined.of_before_before {a b : Joined} (hab : a.before b = true)
    (hba : b.before a = true) :
    a.1.id = b.1.id ∧ a.2.map RouteRow.worker = b.2.map RouteRow.worker := by
  rw [before_iff] at hab hba
  have hname : ¬ a.1.name < b.1.name := by
    intro h
    rcases hba with h' | ⟨h', -⟩
    · exact String.lt_asymm h h'
    · exact String.ne_of_lt h h'.symm
  obtain ⟨heq, hab⟩ := hab.resolve_left hname
  obtain ⟨-, hba⟩ := hba.resolve_left (heq ▸ String.lt_irrefl _)
  have hid : ¬ a.1.id < b.1.id := by
    intro h
    rcases hba with h' | ⟨h', -⟩
    · exact String.lt_asymm h h'
    · exact String.ne_of_lt h h'.symm
  obtain ⟨heq', hab⟩ := hab.resolve_left hid
  obtain ⟨-, hba⟩ := hba.resolve_left (heq' ▸ String.lt_irrefl _)
  refine ⟨heq', ?_⟩
  cases hr : a.2 <;> cases hs : b.2 <;> simp only [hr, hs] at hab hba
  · rfl
  · exact hba.elim
  · exact hab.elim
  · exact congrArg some (String.le_antisymm hab hba)

theorem joinedWith_filterMap (t : Tables) (row : PodRow) :
    (t.joinedWith row).filterMap Prod.snd = t.routes.filter (fun r ↦ r.pod == row.id) := by
  unfold joinedWith
  split
  · rename_i h
    exact h.symm
  · simp [List.filterMap_map]

/-- A joined row is a row with one of its routes, or with none where it has none. -/
theorem of_mem_joinedWith {t : Tables} {row : PodRow} {j : Joined} (h : j ∈ t.joinedWith row) :
    j.1 = row ∧ ∀ r, j.2 = some r → r ∈ t.routes ∧ r.pod = row.id := by
  unfold joinedWith at h
  split at h
  · obtain rfl := List.mem_singleton.1 h
    exact ⟨rfl, fun r hr ↦ nomatch hr⟩
  · obtain ⟨r, hr, rfl⟩ := List.mem_map.1 h
    refine ⟨rfl, fun s hs ↦ ?_⟩
    obtain rfl := Option.some.inj hs
    obtain ⟨hr, hpod⟩ := List.mem_filter.1 hr
    exact ⟨hr, by simpa using hpod⟩

theorem joinedWith_ne_nil (t : Tables) (row : PodRow) : t.joinedWith row ≠ [] := by
  unfold joinedWith
  split
  · simp
  · rename_i hne
    simpa using hne

/-- The joined rows of one pod in the order of a query. -/
def group (t : Tables) (row : PodRow) : List Joined := (t.joinedWith row).mergeSort Joined.before

theorem of_mem_group {t : Tables} {row : PodRow} {j : Joined} (h : j ∈ t.group row) :
    j.1 = row ∧ ∀ r, j.2 = some r → r ∈ t.routes ∧ r.pod = row.id :=
  of_mem_joinedWith (List.mem_mergeSort.1 h)

theorem addRoute_id (r : PodRecord) (route : Option RouteRow) : (addRoute r route).id = r.id := by
  cases route <;> rfl

theorem foldl_addRoute (r : PodRecord) (js : List Joined) :
    js.foldl (fun r j ↦ addRoute r j.2) r =
      { r with routable := ((js.filterMap Prod.snd).map (fun s ↦ (s.worker, s.routable))).foldl
                 (fun d e ↦ d.insert e.1 e.2) r.routable } := by
  induction js generalizing r with
  | nil => rfl
  | cons j js ih =>
    obtain ⟨row, route⟩ := j
    cases route with
    | none => exact ih r
    | some s => exact ih _

theorem gather_ofPod (current : PodRecord) (js rest : List Joined)
    (h : ∀ j ∈ js, j.1.id = current.id) :
    gather current (js ++ rest) = gather (js.foldl (fun r j ↦ addRoute r j.2) current) rest := by
  induction js generalizing current with
  | nil => rfl
  | cons j js ih =>
    obtain ⟨row, route⟩ := j
    rw [List.cons_append, gather, if_pos (h _ List.mem_cons_self)]
    refine ih _ (fun j hj ↦ ?_)
    rw [addRoute_id]
    exact h j (List.mem_cons_of_mem _ hj)

section Sorted

variable {t : Tables} (ht : t.Keyed)

include ht

theorem Keyed.nodup_workers (id : PodId) :
    (((t.routes.filter (fun r ↦ r.pod == id)).map (fun r ↦ (r.worker, r.routable))).map
      Prod.fst).Nodup := by
  rw [List.map_map]
  refine List.Nodup.map_on (fun r hr s hs heq ↦ ?_) (ht.routes.of_map _ |>.filter _)
  obtain ⟨hr, hrpod⟩ := List.mem_filter.1 hr
  obtain ⟨hs, hspod⟩ := List.mem_filter.1 hs
  refine List.inj_on_of_nodup_map ht.routes hr hs (Prod.ext ?_ heq)
  rw [eq_of_beq hrpod, eq_of_beq hspod]

/-- The routes in a group make up the routes of its pod, in whatever order they come. -/
theorem Keyed.foldl_group (row : PodRow) (r : PodRecord) (hr : r.routable = ∅) :
    (t.group row).foldl (fun r j ↦ addRoute r j.2) r =
      { r with routable := t.routesOf row.id } := by
  have hperm := ((List.mergeSort_perm (t.joinedWith row) Joined.before).filterMap Prod.snd).map
    (fun s ↦ (s.worker, s.routable))
  rw [joinedWith_filterMap] at hperm
  rw [foldl_addRoute, hr, routesOf,
    Dict.ofList_perm hperm.symm (ht.nodup_workers row.id)]
  rfl

theorem Keyed.select_eq (p : PodRow → Bool) :
    t.select p =
      ((t.pods.filter p).mergeSort (fun a b ↦ a.name ≤ b.name)).flatMap t.group := by
  have hperm : (t.select p).Perm
      (((t.pods.filter p).mergeSort (fun a b ↦ a.name ≤ b.name)).flatMap t.group) :=
    (List.mergeSort_perm _ _).trans
      (List.Perm.flatMap (List.mergeSort_perm _ _).symm (fun _ _ ↦ (List.mergeSort_perm _ _).symm))
  have hmem : ∀ j ∈ t.select p, ∃ row ∈ t.pods, j ∈ t.joinedWith row := by
    intro j hj
    obtain ⟨row, hrow, hj⟩ := List.mem_flatMap.1 (List.mem_mergeSort.1 hj)
    exact ⟨row, (List.mem_filter.1 hrow).1, hj⟩
  have hsorted : (((t.pods.filter p).mergeSort (fun a b ↦ a.name ≤ b.name)).flatMap
      t.group).Pairwise (fun a b ↦ a.before b = true) := by
    refine List.pairwise_flatMap.2 ⟨fun row _ ↦
      List.pairwise_mergeSort Joined.before_trans Joined.before_total _, ?_⟩
    have hnames : ((t.pods.filter p).mergeSort (fun a b ↦ a.name ≤ b.name)).Pairwise
        (fun a b ↦ a.name ≠ b.name) := by
      refine (List.Perm.pairwise_iff (fun h ↦ Ne.symm h) (List.mergeSort_perm _ _)).2 ?_
      exact (List.pairwise_map.1 ht.names).filter _
    refine ((pairwise_mergeSort_key PodRow.name _).and hnames).imp (fun {a b} hab x hx y hy ↦ ?_)
    rw [Joined.before_iff, (of_mem_group hx).1, (of_mem_group hy).1]
    exact .inl (Std.lt_of_le_of_ne hab.1 hab.2)
  refine List.Perm.eq_of_pairwise (fun a b ha hb hab hba ↦ ?_)
    (List.pairwise_mergeSort Joined.before_trans Joined.before_total _) hsorted hperm
  obtain ⟨row, hrow, ha⟩ := hmem a ha
  obtain ⟨row', hrow', hb⟩ := hmem b (hperm.mem_iff.2 hb)
  obtain ⟨hid, hworker⟩ := Joined.of_before_before hab hba
  obtain ⟨rfl, har⟩ := of_mem_joinedWith ha
  obtain ⟨rfl, hbr⟩ := of_mem_joinedWith hb
  refine Prod.ext (List.inj_on_of_nodup_map ht.ids hrow hrow' hid) ?_
  cases hr : a.2 <;> cases hs : b.2 <;> simp only [hr, hs] at hworker
  · rfl
  · cases hworker
  · cases hworker
  · rename_i r s
    obtain ⟨hrmem, hrpod⟩ := har r hr
    obtain ⟨hsmem, hspod⟩ := hbr s hs
    refine congrArg some (List.inj_on_of_nodup_map ht.routes hrmem hsmem ?_)
    exact Prod.ext (hrpod.trans (hid.trans hspod.symm)) (Option.some.inj hworker)

/-- Once its first row is read, the rest of a group only adds to the record. -/
theorem Keyed.group_eq_cons (row : PodRow) :
    ∃ route js, t.group row = (row, route) :: js ∧ ∀ (r : PodRecord) rest, row.record = .ok r →
      gather (addRoute r route) (js ++ rest) =
        gather { r with routable := t.routesOf row.id } rest := by
  cases hgroup : t.group row with
  | nil =>
    have hperm := List.mergeSort_perm (t.joinedWith row) Joined.before
    rw [← group, hgroup] at hperm
    exact absurd hperm.nil_eq.symm (joinedWith_ne_nil t row)
  | cons j js =>
    have hmem : ∀ j' ∈ j :: js, j'.1 = row := fun j' hj' ↦ (of_mem_group (hgroup ▸ hj')).1
    obtain ⟨row', route⟩ := j
    obtain rfl : row' = row := hmem _ List.mem_cons_self
    refine ⟨route, js, rfl, fun r rest hr ↦ ?_⟩
    have hreads := PodRow.reads_of_record_eq hr
    have hfold := ht.foldl_group row' r hreads.routable
    rw [hgroup, List.foldl_cons] at hfold
    rw [gather_ofPod, hfold]
    intro j hj
    rw [addRoute_id, hmem j (List.mem_cons_of_mem _ hj), hreads.id]

theorem Keyed.gather_group (row : PodRow) (current : PodRecord) (h : row.id ≠ current.id)
    (rest : List Joined) :
    gather current (t.group row ++ rest) =
      (do let r ← t.recordOf row; return current :: (← gather r rest)) := by
  obtain ⟨route, js, hgroup, hrest⟩ := ht.group_eq_cons row
  rw [hgroup, List.cons_append, gather, if_neg h, recordOf]
  cases hr : row.record with
  | error e => rfl
  | ok r =>
    simp only [bind, Except.bind, Except.map, hrest r rest hr]

theorem Keyed.records_group (row : PodRow) (rest : List Joined) :
    records (t.group row ++ rest) = (do gather (← t.recordOf row) rest) := by
  obtain ⟨route, js, hgroup, hrest⟩ := ht.group_eq_cons row
  rw [hgroup, List.cons_append, records, recordOf]
  cases hr : row.record with
  | error e => rfl
  | ok r =>
    simp only [bind, Except.bind, Except.map, hrest r rest hr]

omit ht in
theorem record_of_recordOf {row : PodRow} {r : PodRecord} (h : t.recordOf row = .ok r) :
    row.record = .ok { r with routable := ∅ } ∧ r.routable = t.routesOf row.id := by
  unfold recordOf at h
  cases hr : row.record with
  | error e =>
    rw [hr] at h
    cases h
  | ok r' =>
    rw [hr] at h
    cases h
    refine ⟨?_, rfl⟩
    rw [← (PodRow.reads_of_record_eq hr).routable]

omit ht in
theorem recordOf_id {row : PodRow} {r : PodRecord} (h : t.recordOf row = .ok r) : r.id = row.id :=
  (PodRow.reads_of_record_eq (record_of_recordOf h).1).id.symm

omit ht in
theorem recordOf_eq_error_iff {row : PodRow} {e : StoreError} :
    t.recordOf row = .error e ↔ row.record = .error e := by
  unfold recordOf
  cases row.record with
  | error e' => exact Iff.rfl
  | ok r => exact iff_of_false (fun h ↦ nomatch h) (fun h ↦ nomatch h)

/-- Gathering the groups of further pods reads each of them with its routes. -/
theorem Keyed.gather_groups (rows : List PodRow) (current : PodRecord)
    (h : (current.id :: rows.map PodRow.id).Nodup) :
    gather current (rows.flatMap t.group) =
      (do return current :: (← rows.mapM t.recordOf)) := by
  induction rows generalizing current with
  | nil => rfl
  | cons row rows ih =>
    obtain ⟨hcurrent, hrows⟩ := List.nodup_cons.1 h
    have hne : row.id ≠ current.id := by
      intro heq
      exact hcurrent (by simp [heq])
    rw [List.flatMap_cons, ht.gather_group row current hne, List.mapM_cons]
    cases hr : t.recordOf row with
    | error e => rfl
    | ok r =>
      have hnodup : (r.id :: rows.map PodRow.id).Nodup := by
        rw [recordOf_id hr]
        exact hrows
      simp only [bind, Except.bind, ih r hnodup]

/-- A query reads the records of the rows that it selects, by ascending name. -/
theorem Keyed.query_eq (p : PodRow → Bool) :
    t.query p = ((t.pods.filter p).mergeSort (fun a b ↦ a.name ≤ b.name)).mapM t.recordOf := by
  have hnodup :
      (((t.pods.filter p).mergeSort (fun a b ↦ a.name ≤ b.name)).map PodRow.id).Nodup := by
    refine ((List.mergeSort_perm _ _).map _).nodup_iff.2 ?_
    exact List.Nodup.sublist (List.filter_sublist.map _) ht.ids
  rw [query, ht.select_eq]
  generalize (t.pods.filter p).mergeSort (fun a b ↦ a.name ≤ b.name) = rows at hnodup ⊢
  cases rows with
  | nil => rfl
  | cons row rows =>
    rw [List.flatMap_cons, ht.records_group, List.mapM_cons]
    cases hr : t.recordOf row with
    | error e => rfl
    | ok r =>
      have hcons : (r.id :: rows.map PodRow.id).Nodup := by
        rw [recordOf_id hr]
        exact hnodup
      exact ht.gather_groups rows r hcons

theorem Keyed.list_eq :
    t.list = (t.pods.mergeSort (fun a b ↦ a.name ≤ b.name)).mapM t.recordOf := by
  rw [list, ht.query_eq, List.filter_eq_self.2 (fun _ _ ↦ rfl)]

/-- A query for a key reads the row of that key, if there is one. -/
theorem Keyed.query_head (p : PodRow → Bool) (h : (t.pods.filter p).length ≤ 1) :
    (t.query p).map List.head? = (t.pods.find? p).elim (.ok none) (fun row ↦
      (t.recordOf row).map some) := by
  rw [ht.query_eq, ← List.head?_filter]
  match hrows : t.pods.filter p, h with
  | [], _ =>
    rw [List.mergeSort_nil, List.mapM_nil]
    rfl
  | [row], _ =>
    rw [List.mergeSort_singleton, List.mapM_cons, List.mapM_nil, List.head?_cons, Option.elim_some]
    cases t.recordOf row with
    | error e => rfl
    | ok r => rfl

theorem Keyed.find_eq (id : PodId) :
    t.find id = (t.pods.find? (fun row ↦ row.id == id)).elim (.ok none) (fun row ↦
      (t.recordOf row).map some) :=
  ht.query_head _ (length_filter_le_one ht.ids id)

theorem Keyed.findNamed_eq (name : String) :
    t.findNamed name = (t.pods.find? (fun row ↦ row.name == name)).elim (.ok none) (fun row ↦
      (t.recordOf row).map some) :=
  ht.query_head _ (length_filter_le_one ht.names name)

end Sorted

end PodInventory.Tables
