import Mathlib.Data.List.Forall2
import PodInventory.Proofs.Store.Equivalence

namespace PodInventory.Tables

variable {t : Tables}

theorem routesOf_congr {t' : Tables} {id : PodId}
    (h : t'.routes.filter (fun r ↦ r.pod == id) = t.routes.filter (fun r ↦ r.pod == id)) :
    t'.routesOf id = t.routesOf id := by
  rw [routesOf, routesOf, h]

/-- With the same row and the same routes a pod reads as the same record. -/
theorem Keyed.find_congr (ht : t.Keyed) {t' : Tables} (ht' : t'.Keyed) {id : PodId}
    (hpods : t'.pods.find? (fun row ↦ row.id == id) = t.pods.find? (fun row ↦ row.id == id))
    (hroutes : t'.routes.filter (fun r ↦ r.pod == id) = t.routes.filter (fun r ↦ r.pod == id)) :
    t'.find id = t.find id := by
  rw [ht.find_eq, ht'.find_eq, hpods]
  cases hrow : t.pods.find? (fun row ↦ row.id == id) with
  | none => rfl
  | some row =>
    have hid := List.find?_some hrow
    obtain rfl : row.id = id := eq_of_beq hid
    simp only [Option.elim_some, recordOf, routesOf_congr hroutes]

theorem Keyed.find_of_mem (ht : t.Keyed) {row : PodRow} (h : row ∈ t.pods) :
    t.find row.id = (t.recordOf row).map some := by
  rw [ht.find_eq, find?_eq_some_of_mem ht.ids h]
  rfl

theorem Keyed.id_ne_of_find (ht : t.Keyed) {id : PodId} (h : t.find id = .ok none) :
    ∀ row ∈ t.pods, row.id ≠ id := by
  intro row hrow hid
  rw [← hid, ht.find_of_mem hrow] at h
  cases hrecord : t.recordOf row with
  | error e =>
    rw [hrecord] at h
    cases h
  | ok r =>
    rw [hrecord] at h
    cases h

theorem Keyed.of_find (ht : t.Keyed) {id : PodId} {r : PodRecord} (h : t.find id = .ok (some r)) :
    ∃ row ∈ t.pods, row.id = id ∧ t.recordOf row = .ok r := by
  rw [ht.find_eq] at h
  cases hrow : t.pods.find? (fun row ↦ row.id == id) with
  | none =>
    rw [hrow] at h
    cases h
  | some row =>
    rw [hrow, Option.elim_some] at h
    have hid := List.find?_some hrow
    refine ⟨row, List.mem_of_find?_eq_some hrow, eq_of_beq hid, ?_⟩
    cases hr : t.recordOf row with
    | error e =>
      rw [hr] at h
      cases h
    | ok r' =>
      rw [hr] at h
      cases h
      rfl

theorem mapM_eq_ok_iff {α β : Type} {f : α → Except StoreError β} {l : List α} {bs : List β} :
    l.mapM f = .ok bs ↔ List.Forall₂ (fun a b ↦ f a = .ok b) l bs := by
  induction l generalizing bs with
  | nil =>
    rw [List.mapM_nil, List.forall₂_nil_left_iff]
    exact ⟨fun h ↦ (Except.ok.inj h).symm, fun h ↦ congrArg Except.ok h.symm⟩
  | cons a l ih =>
    rw [List.mapM_cons]
    constructor
    · intro h
      cases ha : f a with
      | error e =>
        rw [ha] at h
        cases h
      | ok b =>
        cases hl : l.mapM f with
        | error e =>
          rw [ha, hl] at h
          cases h
        | ok bs' =>
          rw [ha, hl] at h
          cases h
          exact .cons ha (ih.1 hl)
    · rintro (_ | ⟨ha, hl⟩)
      rw [ha, ih.2 hl]
      rfl

theorem exists_of_mem_mapM {α : Type} {f : α → Except StoreError PodRecord} {l : List α}
    {rs : List PodRecord} (h : l.mapM f = .ok rs) {r : PodRecord} (hr : r ∈ rs) :
    ∃ a ∈ l, f a = .ok r := by
  have hread := mapM_eq_ok_iff.1 h
  clear h
  induction hread with
  | nil => cases hr
  | cons ha _ ih =>
    rcases List.mem_cons.1 hr with rfl | hr
    · exact ⟨_, List.mem_cons_self, ha⟩
    · obtain ⟨b, hb, hread⟩ := ih hr
      exact ⟨b, List.mem_cons_of_mem _ hb, hread⟩

theorem Keyed.find_without (ht : t.Keyed) (id : PodId) (ht' : (t.without id).Keyed) (id' : PodId) :
    (t.without id).find id' = if id' = id then .ok none else t.find id' := by
  by_cases hid : id' = id
  · rw [if_pos hid, ht'.find_eq]
    have hnone : (t.without id).pods.find? (fun row ↦ row.id == id') = none := by
      refine List.find?_eq_none.2 (fun row hrow heq ↦ ?_)
      have hne := (List.mem_filter.1 hrow).2
      rw [eq_of_beq heq, hid] at hne
      simp at hne
    rw [hnone]
    rfl
  · rw [if_neg hid]
    refine ht.find_congr ht' ?_ (filter_ne_filter hid t.routes)
    rw [← List.head?_filter, ← List.head?_filter, without, filter_ne_filter hid]

/-- The tables with the row and the routes of a record behind those that they have. -/
def storing (t : Tables) (r : PodRecord) : Tables where
  pods := t.pods ++ [.ofRecord r]
  routes := t.routes ++ r.routeRows

/-- One record is written over what stood under its key, if anything did, and the rest is left. -/
structure Puts (t : Tables) (row : PodRow) (r : PodRecord) (t' : Tables) : Prop where
  before : t.Keyed
  after : t'.Keyed
  pods : t'.pods.Perm (row :: t.pods.filter (fun other ↦ other.id != r.id))
  reads : t'.recordOf row = .ok r
  others : ∀ other ∈ t.pods, other.id ≠ r.id → t'.recordOf other = t.recordOf other
  named : ∀ other ∈ t.pods, other.id = r.id ↔ other.name = r.name

namespace Puts

variable {t' : Tables} {row : PodRow} {r : PodRecord} (h : t.Puts row r t')

include h

theorem row_id : row.id = r.id := (recordOf_id h.reads).symm

theorem row_name : row.name = r.name :=
  (PodRow.reads_of_record_eq (record_of_recordOf h.reads).1).name

/-- A key finds what was written, or else what it found before. -/
theorem lookUp {f : PodRow → String} (hf : (t'.pods.map f).Nodup)
    (hkey : ∀ other ∈ t.pods, other.id = r.id ↔ f other = f row) (key : String) :
    ((t'.pods.find? (fun row ↦ f row == key)).elim (.ok none)
      (fun row ↦ (t'.recordOf row).map some) : Except StoreError (Option PodRecord)) =
        if key = f row then .ok (some r) else
          (t.pods.find? (fun row ↦ f row == key)).elim (.ok none)
            (fun row ↦ (t.recordOf row).map some) := by
  rw [find?_perm h.pods ((h.pods.map f).nodup_iff.1 hf)]
  by_cases hrow : key = f row
  · rw [if_pos hrow, List.find?_cons_of_pos (by simpa using hrow.symm), Option.elim_some, h.reads]
    rfl
  · rw [if_neg hrow, List.find?_cons_of_neg (by simpa using Ne.symm hrow)]
    have hfilter : (t.pods.filter (fun other ↦ other.id != r.id)).filter (fun row ↦ f row == key) =
        t.pods.filter (fun row ↦ f row == key) := by
      rw [List.filter_filter]
      refine List.filter_congr (fun other hother ↦ ?_)
      by_cases heq : f other = key
      · have hne : other.id ≠ r.id := fun hid ↦
          hrow (heq.symm.trans ((hkey other hother).1 hid))
        simp [heq, hne]
      · simp [heq]
    rw [← List.head?_filter, hfilter, List.head?_filter]
    cases hfind : t.pods.find? (fun row ↦ f row == key) with
    | none => rfl
    | some other =>
      have hother := List.mem_of_find?_eq_some hfind
      have hfound : f other = key := eq_of_beq (List.find?_some (p := fun row ↦ f row == key) hfind)
      have hne : other.id ≠ r.id := fun hid ↦
        hrow (hfound.symm.trans ((hkey other hother).1 hid))
      rw [Option.elim_some, Option.elim_some, h.others other hother hne]

theorem find_eq (id : PodId) : t'.find id = if id = r.id then .ok (some r) else t.find id := by
  rw [h.after.find_eq, h.before.find_eq, ← h.row_id]
  exact h.lookUp h.after.ids (fun _ _ ↦ by rw [h.row_id]) id

theorem findNamed_eq (name : String) :
    t'.findNamed name = if name = r.name then .ok (some r) else t.findNamed name := by
  rw [h.after.findNamed_eq, h.before.findNamed_eq, ← h.row_name]
  exact h.lookUp h.after.names (fun other hother ↦ by rw [h.row_name]; exact h.named other hother)
    name

theorem forall₂_others {rows : List PodRow} {rs : List PodRecord}
    (hrows : ∀ row ∈ rows, row ∈ t.pods)
    (hread : List.Forall₂ (fun row r ↦ t.recordOf row = .ok r) rows rs) :
    List.Forall₂ (fun row r ↦ t'.recordOf row = .ok r)
      (rows.filter (fun other ↦ other.id != r.id)) (rs.filter (fun other ↦ other.id != r.id)) := by
  induction hread with
  | nil => exact .nil
  | @cons other r' rows rs hother _ ih =>
    have hid := recordOf_id hother
    have hrest := ih (fun row hrow ↦ hrows row (List.mem_cons_of_mem _ hrow))
    by_cases heq : other.id = r.id
    · rw [List.filter_cons_of_neg (by simpa using heq),
        List.filter_cons_of_neg (by simpa [hid] using heq)]
      exact hrest
    · rw [List.filter_cons_of_pos (by simpa using heq),
        List.filter_cons_of_pos (by simpa [hid] using heq)]
      exact .cons ((h.others other (hrows other List.mem_cons_self) heq).trans hother) hrest

/-- A list of all records changes in one place. -/
theorem list_eq {l : List PodRecord} (hl : t.list = .ok l) :
    ∃ l', t'.list = .ok l' ∧ l'.Perm (r :: l.filter (fun other ↦ other.id != r.id)) := by
  rw [h.before.list_eq, mapM_eq_ok_iff] at hl
  have hothers := h.forall₂_others (fun row hrow ↦ List.mem_mergeSort.1 hrow) hl
  have hperm : (t'.pods.mergeSort (fun a b ↦ a.name ≤ b.name)).Perm
      (row :: (t.pods.mergeSort (fun a b ↦ a.name ≤ b.name)).filter
        (fun other ↦ other.id != r.id)) :=
    (List.mergeSort_perm _ _).trans
      (h.pods.trans (((List.mergeSort_perm _ _).symm.filter _).cons row))
  obtain ⟨l', hread, hl'⟩ := List.perm_comp_forall₂ hperm (.cons h.reads hothers)
  exact ⟨l', by rw [h.after.list_eq, mapM_eq_ok_iff]; exact hread, hl'⟩

end Puts

theorem Keyed.puts_storing (ht : t.Keyed) {r : PodRecord} (ht' : (t.storing r).Keyed) :
    t.Puts (.ofRecord r) r (t.storing r) := by
  have hid : ∀ row ∈ t.pods, row.id ≠ r.id := by
    intro row hrow
    have hnodup := ht'.ids
    rw [storing, List.map_append, List.nodup_append] at hnodup
    exact hnodup.2.2 row.id (List.mem_map_of_mem hrow) r.id (List.mem_singleton_self _)
  have hname : ∀ row ∈ t.pods, row.name ≠ r.name := by
    intro row hrow
    have hnodup := ht'.names
    rw [storing, List.map_append, List.nodup_append] at hnodup
    exact hnodup.2.2 row.name (List.mem_map_of_mem hrow) r.name (List.mem_singleton_self _)
  have hnone : t.routes.filter (fun route ↦ route.pod == r.id) = [] := by
    refine List.filter_eq_nil_iff.2 (fun route hroute heq ↦ ?_)
    obtain ⟨row, hrow, hpod⟩ := List.mem_map.1 (ht.owned route hroute)
    exact hid row hrow (hpod.trans (eq_of_beq heq))
  refine ⟨ht, ht', ?_, ?_, fun other _ hne ↦ ?_, fun other hother ↦ ?_⟩
  · have hall : t.pods.filter (fun other ↦ other.id != r.id) = t.pods :=
      List.filter_eq_self.2 (fun row hrow ↦ by simpa using hid row hrow)
    rw [hall]
    exact List.perm_append_singleton _ _
  · have hroutes : (t.storing r).routesOf r.id = r.routable := by
      rw [routesOf, storing, List.filter_append, hnone, filter_routeRows r (· == r.id),
        beq_self_eq_true, if_pos rfl, List.nil_append, map_routeRows, Dict.ofList_entries]
    rw [recordOf, (PodRow.reads_ofRecord r).record_eq]
    exact congrArg (fun d ↦ Except.ok { r with routable := d }) hroutes
  · have hroutes : (t.storing r).routesOf other.id = t.routesOf other.id := by
      refine routesOf_congr ?_
      rw [storing, List.filter_append, filter_routeRows r (· == other.id),
        if_neg (by simpa using Ne.symm hne), List.append_nil]
    rw [recordOf, recordOf, hroutes]
  · exact iff_of_false (hid other hother) (hname other hother)

theorem Keyed.puts_replacing (ht : t.Keyed) {old new : PodRecord}
    (hold : t.find old.id = .ok (some old)) (ht' : (t.replacing new).Keyed)
    (hnew : new = { old with
      discovered := new.discovered
      routable := new.routable
      version := new.version
      updatedAt := new.updatedAt }) : ∃ row, t.Puts row new (t.replacing new) := by
  have hid : new.id = old.id := by rw [hnew]
  have hname : new.name = old.name := by rw [hnew]
  obtain ⟨row, hrow, hrowid, hrecord⟩ := ht.of_find hold
  have hrowname : row.name = old.name :=
    (PodRow.reads_of_record_eq (record_of_recordOf hrecord).1).name
  refine ⟨row.withDiscovered (PodRow.ofRecord new).discovered, ht, ht', ?_, ?_,
    fun other _ hne ↦ ?_, fun other hother ↦ ?_⟩
  · have hperm := (perm_cons_filter_ne ht.ids hrow).map (fun row ↦
      if row.id = new.id then row.withDiscovered (PodRow.ofRecord new).discovered else row)
    have hothers : (t.pods.filter (fun other ↦ other.id != row.id)).map (fun row ↦
        if row.id = new.id then row.withDiscovered (PodRow.ofRecord new).discovered else row) =
          t.pods.filter (fun other ↦ other.id != new.id) := by
      rw [hrowid, ← hid]
      refine (List.map_congr_left (fun other hother ↦ if_neg ?_)).trans (List.map_id _)
      simpa using (List.mem_filter.1 hother).2
    rw [List.map_cons, if_pos (hrowid.trans hid.symm), hothers] at hperm
    exact hperm
  · have hroutes : (t.replacing new).routesOf old.id = new.routable := by
      have hothers : (t.routes.filter (fun route ↦ route.pod != old.id)).filter
          (fun route ↦ route.pod == old.id) = [] := by
        rw [List.filter_filter]
        exact List.filter_eq_nil_iff.2 (fun route _ ↦ by simp)
      rw [routesOf, replacing, List.filter_append, hid, hothers, filter_routeRows new (· == old.id),
        hid, beq_self_eq_true, if_pos rfl, List.nil_append, map_routeRows, Dict.ofList_entries]
    have hreads := (PodRow.reads_of_record_eq (record_of_recordOf hrecord).1).withDiscovered new
    have hrowid' : (row.withDiscovered (PodRow.ofRecord new).discovered).id = old.id := hrowid
    rw [recordOf, hreads.record_eq, hrowid', hroutes]
    exact congrArg Except.ok hnew.symm
  · have hroutes : (t.replacing new).routesOf other.id = t.routesOf other.id := by
      refine routesOf_congr ?_
      have hnone : new.routeRows.filter (fun route ↦ route.pod == other.id) = [] := by
        rw [filter_routeRows new (· == other.id), if_neg (by simpa using Ne.symm hne)]
      rw [replacing, List.filter_append, hnone, List.append_nil, filter_ne_filter hne]
    rw [recordOf, recordOf, hroutes]
  · rw [hid, hname, ← hrowid, ← hrowname]
    constructor
    · intro heq
      rw [List.inj_on_of_nodup_map ht.ids hother hrow heq]
    · intro heq
      rw [List.inj_on_of_nodup_map ht.names hother hrow heq]

theorem Keyed.find_adding (ht : t.Keyed) {r : PodRecord} (ht' : (t.adding (.ofRecord r)).Keyed)
    (hroutes : r.routable = ∅) (id : PodId) :
    (t.adding (.ofRecord r)).find id = if id = r.id then .ok (some r) else t.find id := by
  have hstoring : t.adding (.ofRecord r) = t.storing r := by
    rw [adding, storing, PodRecord.routeRows, hroutes]
    exact congrArg (Tables.mk _) (List.append_nil _).symm
  rw [hstoring] at ht' ⊢
  exact (ht.puts_storing ht').find_eq id

/-- A record written over its own row reads back as it was given, and no other pod changes. -/
theorem Keyed.find_replacing (ht : t.Keyed) {old new : PodRecord}
    (hold : t.find old.id = .ok (some old)) (ht' : (t.replacing new).Keyed)
    (hnew : new = { old with
      discovered := new.discovered
      routable := new.routable
      version := new.version
      updatedAt := new.updatedAt }) (id : PodId) :
    (t.replacing new).find id = if id = old.id then .ok (some new) else t.find id := by
  have hid : new.id = old.id := by rw [hnew]
  obtain ⟨row, hputs⟩ := ht.puts_replacing hold ht' hnew
  rw [← hid]
  exact hputs.find_eq id

end PodInventory.Tables
