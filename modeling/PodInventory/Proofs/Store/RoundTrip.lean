import PodInventory.Proofs.Store.Overwriting

namespace PodInventory.TableStore

open Connection

variable {s : TableStore} {r : PodRecord}

/-- The statements that write a record, with a row for each of its routes, as a new pod. -/
def insertion (r : PodRecord) : List Statement :=
  [.begin, .lookUpName r.name, .insertPod (.ofRecord r)] ++ r.routeRows.map .insertRoute
    ++ [.commit]

theorem through_insertion (t : Tables) (r : PodRecord) :
    ((opened t).through (insertion r)).committed = t.storing r := by
  rw [insertion, through_append, through_append, through_insertRoutes]
  rfl

/-- The tables that are committed once statements have run, as far as they get. -/
def leaves (s : TableStore) (statements : List Statement) : Tables :=
  ((opened s.tables).perform s.refuses 0 statements).2.committed

theorem leaves_of_passes {statements : List Statement}
    (h : ((opened s.tables).perform s.refuses 0 statements).1 = none) :
    s.leaves statements = ((opened s.tables).through statements).committed := by
  rw [leaves, perform_snd_of_none h]

theorem keyed_leaves (h : s.tables.Keyed) (statements : List Statement) :
    (s.leaves statements).Keyed :=
  (Keyed.perform ⟨h, h⟩ 0 statements).committed

/-- Statements that pass, and write a record so that every query reads just this record in its place
and the others as before. -/
structure ReadsBack (s : TableStore) (statements : List Statement) (r : PodRecord) : Prop where
  passes : ((opened s.tables).perform s.refuses 0 statements).1 = none
  find : ∀ id, (s.leaves statements).find id =
    if id = r.id then .ok (some r) else s.tables.find id
  findNamed : ∀ name, (s.leaves statements).findNamed name =
    if name = r.name then .ok (some r) else s.tables.findNamed name
  list : ∀ l, s.tables.list = .ok l → ∃ l', (s.leaves statements).list = .ok l' ∧
    l'.Perm (r :: l.filter (fun other ↦ other.id != r.id))

theorem readsBack_of_puts {statements : List Statement} {row : PodRow}
    (hpasses : ((opened s.tables).perform s.refuses 0 statements).1 = none)
    (h : s.tables.Puts row r (s.leaves statements)) : s.ReadsBack statements r :=
  ⟨hpasses, h.find_eq, h.findNamed_eq, fun _ ↦ h.list_eq⟩

theorem Accepts.perform_insertion (hs : s.Accepts) (hkeyed : s.tables.Keyed)
    (hfree : ∀ row ∈ s.tables.pods, row.id ≠ r.id ∧ row.name ≠ r.name) :
    ((opened s.tables).perform s.refuses 0 (insertion r)).1 = none := by
  have hinsert : (Statement.insertPod (.ofRecord r)).violation? s.tables = none := by
    rw [Statement.violation?, if_neg, if_neg]
    · simp only [List.any_eq_true, beq_iff_eq, not_exists, not_and]
      exact fun row hrow ↦ (hfree row hrow).2
    · simp only [List.any_eq_true, beq_iff_eq, not_exists, not_and]
      exact fun row hrow ↦ (hfree row hrow).1
  rw [insertion, List.append_assoc, List.cons_append, perform_cons_of_accepted hs rfl]
  refine (congrArg Prod.fst (perform_cons_of_accepted hs rfl _ _)).trans ?_
  refine (congrArg Prod.fst (perform_cons_of_accepted hs hinsert _ _)).trans ?_
  refine (perform_insertRoutes hs r.routeRows [.commit] _ _
    (fun _ ↦ PodRecord.pod_of_mem_routeRows) ?_ r.nodup_worker_routeRows ?_).trans ?_
  · exact List.mem_map.2 ⟨.ofRecord r, List.mem_append_right _ (List.mem_singleton_self _), rfl⟩
  · intro _ _ route hroute hpod
    obtain ⟨row, hrow, hid⟩ := List.mem_map.1 (hkeyed.owned route hroute)
    exact absurd (hid.trans hpod) (hfree row hrow).1
  · exact congrArg Prod.fst (perform_cons_of_accepted hs rfl _ [])

theorem Accepts.readsBack_insertion (hs : s.Accepts) (hkeyed : s.tables.Keyed)
    (hfree : ∀ row ∈ s.tables.pods, row.id ≠ r.id ∧ row.name ≠ r.name) :
    s.ReadsBack (insertion r) r := by
  have hpasses := hs.perform_insertion hkeyed hfree
  have hafter := keyed_leaves hkeyed (insertion r)
  have hleaves := (leaves_of_passes hpasses).trans (through_insertion s.tables r)
  rw [hleaves] at hafter
  exact readsBack_of_puts hpasses (hleaves ▸ hkeyed.puts_storing hafter)

theorem Accepts.readsBack_replacement (hs : s.Accepts) (hkeyed : s.tables.Keyed) {old : PodRecord}
    (hold : s.tables.find r.id = .ok (some old))
    (hr : r = { old with
      discovered := r.discovered
      routable := r.routable
      version := r.version
      updatedAt := r.updatedAt }) :
    s.ReadsBack (.begin :: .lookUpPod r.id :: replacement r) r := by
  have hid : r.id = old.id := by rw [hr]
  have hstored : r.id ∈ s.tables.pods.map PodRow.id := by
    obtain ⟨row, hrow, heq, -⟩ := hkeyed.of_find hold
    exact heq ▸ List.mem_map_of_mem hrow
  have hpasses : ((opened s.tables).perform s.refuses 0
      (.begin :: .lookUpPod r.id :: replacement r)).1 = none :=
    hs.perform_replacement r hstored
  have hafter := keyed_leaves hkeyed (.begin :: .lookUpPod r.id :: replacement r)
  have hleaves := (leaves_of_passes hpasses).trans (through_replacement s.tables r)
  rw [hleaves] at hafter
  obtain ⟨row, hputs⟩ := hkeyed.puts_replacing (hid ▸ hold) hafter hr
  exact readsBack_of_puts hpasses (hleaves ▸ hputs)

/-- Every record reads back from the database as it was given, whether it is inserted as a new pod
or written over what was known of its pod. -/
theorem record_reads_back (hs : s.Accepts) (hkeyed : s.tables.Keyed) (r : PodRecord) :
    ((∀ row ∈ s.tables.pods, row.id ≠ r.id ∧ row.name ≠ r.name) →
      s.ReadsBack (insertion r) r) ∧
    ∀ old, s.tables.find r.id = .ok (some old) →
      r = { old with
        discovered := r.discovered
        routable := r.routable
        version := r.version
        updatedAt := r.updatedAt } →
      s.ReadsBack (.begin :: .lookUpPod r.id :: replacement r) r :=
  ⟨hs.readsBack_insertion hkeyed, fun _ ↦ hs.readsBack_replacement hkeyed⟩

/-- A pod with quotes and control characters in its texts, numbers at their limits, a mapped
address, and a route to a worker without a name. -/
def awkward : PodRecord where
  id := "1\x00"
  name := "\"rack\"\\\n"
  kind := "virsh"
  zone := ""
  pool := "\u2028"
  powerParameters := .ofList [("", "\t"), ("power_address", "qemu+ssh://::1")]
  address := some (.v6 0 0 0 0 0 65535 258 772)
  discovered :=
    ⟨["amd64", "\x7f"], 4294967295, 0, 18446744073709551615, 9223372036854775808,
      ⟨4294967295, 1, 18446744073709551615, 0⟩,
      [⟨"", "pool\"", "dir", "/\\", 18446744073709551615⟩]⟩
  routable := .ofList [("", true), ("b\"", false)]
  version := 18446744073709551615
  createdAt := "then"
  updatedAt := "now"

theorem record_reads_back_awkward :
    empty.ReadsBack (insertion awkward) awkward ∧
      (TableStore.mk (empty.leaves (insertion { awkward with routable := ∅, version := 0 }))
        (fun _ _ _ ↦ none)).ReadsBack
          (.begin :: .lookUpPod awkward.id :: replacement awkward) awkward := by
  have hkeyed : Tables.empty.Keyed :=
    ⟨List.nodup_nil, List.nodup_nil, List.nodup_nil, fun _ h ↦ nomatch h⟩
  have hplain := (record_reads_back (s := empty) (fun _ _ _ ↦ rfl) hkeyed
    { awkward with routable := ∅, version := 0 }).1 (fun _ h ↦ nomatch h)
  refine ⟨(record_reads_back (s := empty) (fun _ _ _ ↦ rfl) hkeyed awkward).1
    (fun _ h ↦ nomatch h), ?_⟩
  refine (record_reads_back (fun _ _ _ ↦ rfl) (keyed_leaves hkeyed _) awkward).2
    { awkward with routable := ∅, version := 0 } ?_ rfl
  exact hplain.find awkward.id

end PodInventory.TableStore
