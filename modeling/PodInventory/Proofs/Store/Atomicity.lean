import PodInventory.Proofs.Store.Operation
import PodInventory.Proofs.Store.Writes

namespace PodInventory

/-- Whether an answer is an error. -/
def Answer.failed : Answer → Bool
  | .record result => !result.isOk
  | .reconciled result => !result.isOk
  | .deleted result => !result.isOk
  | .found result => !result.isOk
  | .listed result => !result.isOk

/-- A write of a single store. -/
inductive Write
  | create (id : PodId) (time : String) (pod : NewPod)
  | apply (time : String) (id : PodId) (update : Update)
  | delete (id : PodId)

def Write.operation : Write → Operation
  | .create id time pod => .create id time pod
  | .apply time id update => .apply time id update
  | .delete id => .delete id

namespace TableStore

variable {α : Type} {s : TableStore}

def scriptOf (t : Tables) : Write → List Statement
  | .create id time pod => (creation id time pod).script t
  | .apply time id update => (change time id update).script t
  | .delete id => (deletion id).script t

/-- The points at which a write fails: what it finds stored stops it, or one statement of its
transaction fails. The insertion of a route may be turned down for some of the workers only. -/
inductive Stops (s : TableStore) : Write → Prop
  | nameTaken {id time pod row} : row ∈ s.tables.pods → row.name = pod.name →
      Stops s (.create id time pod)
  | nothingToUpdate {time id update} : (∀ row ∈ s.tables.pods, row.id ≠ id) →
      Stops s (.apply time id update)
  | nothingToDelete {id} : (∀ row ∈ s.tables.pods, row.id ≠ id) → Stops s (.delete id)
  | undecodable {time id update row e} : row ∈ s.tables.pods → row.id = id →
      row.record = .error e → Stops s (.apply time id update)
  | statement {w i st} : (scriptOf s.tables w)[i]? = some st →
      (s.failureAt? (scriptOf s.tables w) i st).isSome = true → Stops s w
  | route {time id update old worker} (rejected : WorkerId → Prop) :
      (∀ i row t, rejected row.worker → (s.refuses i (.insertRoute row) t).isSome) →
      s.tables.find id = .ok (some old) → old.differs update = true →
      worker ∈ update.routable.keys → rejected worker → Stops s (.apply time id update)

theorem transact_fails_iff {x : Transaction α} (hx : x.Tidy) :
    (!(s.transact x).answer.isOk) = true ↔
      (∃ e, x.body s.tables = .error e) ∨
        (∃ draft e, x.body s.tables = .ok draft ∧ draft.answer = .error e) ∨
        ∃ i st, (x.script s.tables)[i]? = some st ∧
          (s.failureAt? (x.script s.tables) i st).isSome = true := by
  rw [transact_eq hx]
  unfold failureAt?
  rw [← Connection.perform_fails_iff]
  cases hperform : ((Connection.opened s.tables).perform s.refuses 0 (x.script s.tables)).1 with
  | some message => exact iff_of_true rfl (.inr (.inr rfl))
  | none =>
    cases hbody : x.body s.tables with
    | error e => exact iff_of_true rfl (.inl ⟨e, rfl⟩)
    | ok draft =>
      cases ha : draft.answer with
      | error e =>
        simp only [ha]
        exact iff_of_true rfl (.inr (.inl ⟨draft, e, rfl, ha⟩))
      | ok a =>
        simp only [ha]
        refine iff_of_false Bool.false_ne_true ?_
        intro hor
        rcases hor with ⟨e, he⟩ | ⟨draft', e, hdraft, he⟩ | h
        · cases he
        · cases hdraft
          cases ha.symm.trans he
        · cases h

theorem creation_error_iff {id : PodId} {time : String} {pod : NewPod} {t : Tables} :
    (∃ e, (creation id time pod).body t = .error e) ↔ ∃ row ∈ t.pods, row.name = pod.name := by
  simp only [creation]
  split
  · rename_i h
    exact iff_of_true ⟨_, rfl⟩ (by simpa using h)
  · rename_i h
    refine iff_of_false ?_ (by simpa using h)
    intro hex
    obtain ⟨e, he⟩ := hex
    cases he

theorem change_error_iff {time : String} {id : PodId} {u : Update} {t : Tables} (ht : t.Keyed) :
    (∃ e, (change time id u).body t = .error e) ↔
      (∀ row ∈ t.pods, row.id ≠ id) ∨
        ∃ row ∈ t.pods, row.id = id ∧ ∃ e, row.record = .error e := by
  have hfind := ht.find_eq id
  cases hrow : t.pods.find? (fun row ↦ row.id == id) with
  | none =>
    rw [hrow] at hfind
    refine iff_of_true ⟨.missing id, ?_⟩ (.inl (by simpa using hrow))
    simp only [change, hfind, Option.elim, bind, Except.bind]
    rfl
  | some row =>
    have hmem := List.mem_of_find?_eq_some hrow
    have hid : row.id = id := by simpa using List.find?_some hrow
    rw [hrow, Option.elim_some] at hfind
    cases hrecord : t.recordOf row with
    | error e =>
      rw [hrecord] at hfind
      refine iff_of_true ⟨e, ?_⟩ (.inr ⟨row, hmem, hid, e, Tables.recordOf_eq_error_iff.1 hrecord⟩)
      simp only [change, hfind, Except.map, bind, Except.bind]
    | ok old =>
      rw [hrecord] at hfind
      refine iff_of_false ?_ ?_
      · intro hex
        obtain ⟨e, he⟩ := hex
        cases hu : old.differs u
        · rw [change_body_unchanged _ hfind hu] at he
          cases he
        · rw [change_body_of_find _ hfind hu] at he
          cases he
      · intro hor
        rcases hor with hnone | ⟨row', hmem', hid', e, he⟩
        · exact hnone row hmem hid
        · obtain rfl := List.inj_on_of_nodup_map ht.ids hmem hmem' (hid.trans hid'.symm)
          cases hrecord.symm.trans (Tables.recordOf_eq_error_iff.2 he)

theorem change_answer_ok {time : String} {id : PodId} {u : Update} {t : Tables}
    {draft : Draft PodRecord} {e : StoreError} (h : (change time id u).body t = .ok draft) :
    draft.answer ≠ .error e := by
  intro he
  simp only [change, bind, Except.bind] at h
  split at h
  · cases h
  · split at h
    · cases h
    · split at h
      · cases h
        cases he
      · cases h
        cases he

theorem deletion_error_iff {id : PodId} {t : Tables} :
    (∃ draft e, (deletion id).body t = .ok draft ∧ draft.answer = .error e) ↔
      ∀ row ∈ t.pods, row.id ≠ id := by
  simp only [deletion]
  split
  · rename_i h
    refine iff_of_false ?_ (by simpa using h)
    intro hex
    obtain ⟨draft, e, hdraft, he⟩ := hex
    cases hdraft
    cases he
  · rename_i h
    exact iff_of_true ⟨_, _, rfl, rfl⟩ (by simpa using h)

/-- A rejected route stands somewhere among the statements of a changed record. -/
theorem mem_script_of_route (time : String) {id : PodId} {u : Update} {t : Tables}
    {old : PodRecord} {worker : WorkerId} (h : t.find id = .ok (some old))
    (hu : old.differs u = true) (hworker : worker ∈ u.routable.keys) :
    ∃ row : RouteRow, row.worker = worker ∧
      .insertRoute row ∈ (change time id u).script t := by
  obtain ⟨e, hmem, rfl⟩ := List.mem_map.1 hworker
  refine ⟨⟨old.id, e.1, e.2⟩, rfl, ?_⟩
  have hroutes : (old.apply time u).routeRows =
      u.routable.entries.map (fun e ↦ ⟨old.id, e.1, e.2⟩) := by
    rw [PodRecord.apply, if_pos hu]
    rfl
  rw [Transaction.script, change_body_of_find _ h hu]
  refine List.mem_append_right _ (List.mem_append_left _ (List.mem_append_right _ ?_))
  rw [hroutes]
  exact List.mem_map_of_mem (List.mem_map_of_mem hmem)

/-- A write fails at the points listed, and at no other. -/
theorem stops_iff (hs : s.tables.Keyed) (w : Write) :
    Stops s w ↔ (w.operation.perform s).answer.failed = true := by
  constructor
  · intro h
    cases h with
    | nameTaken hrow hname =>
      exact (transact_fails_iff (tidy_creation _ _ _)).2
        (.inl (creation_error_iff.2 ⟨_, hrow, hname⟩))
    | nothingToUpdate hnone =>
      exact (transact_fails_iff (tidy_change _ _ _)).2 (.inl ((change_error_iff hs).2 (.inl hnone)))
    | nothingToDelete hnone =>
      exact (transact_fails_iff (tidy_deletion _)).2 (.inr (.inl (deletion_error_iff.2 hnone)))
    | undecodable hrow hid he =>
      exact (transact_fails_iff (tidy_change _ _ _)).2
        (.inl ((change_error_iff hs).2 (.inr ⟨_, hrow, hid, _, he⟩)))
    | statement hst hfails =>
      cases w with
      | create =>
        exact (transact_fails_iff (tidy_creation _ _ _)).2 (.inr (.inr ⟨_, _, hst, hfails⟩))
      | apply => exact (transact_fails_iff (tidy_change _ _ _)).2 (.inr (.inr ⟨_, _, hst, hfails⟩))
      | delete => exact (transact_fails_iff (tidy_deletion _)).2 (.inr (.inr ⟨_, _, hst, hfails⟩))
    | @route time _ _ _ _ rejected hrefuses hfind hdiffers hworker hrejected =>
      obtain ⟨row, rfl, hmem⟩ := mem_script_of_route time hfind hdiffers hworker
      obtain ⟨i, hi⟩ := List.mem_iff_getElem?.1 hmem
      refine (transact_fails_iff (tidy_change _ _ _)).2 (.inr (.inr ⟨i, _, hi, ?_⟩))
      rw [failureAt?, Connection.failure?, Option.isSome_or, hrefuses _ _ _ hrejected]
      rfl
  · intro h
    cases w with
    | create id time pod =>
      rcases (transact_fails_iff (tidy_creation _ _ _)).1 h with he | ⟨draft, e, hdraft, he⟩ |
        ⟨i, st, hst, hfails⟩
      · obtain ⟨row, hrow, hname⟩ := creation_error_iff.1 he
        exact .nameTaken hrow hname
      · simp only [creation] at hdraft
        split at hdraft
        · cases hdraft
        · cases hdraft
          cases he
      · exact .statement hst hfails
    | apply time id update =>
      rcases (transact_fails_iff (tidy_change _ _ _)).1 h with he | ⟨draft, e, hdraft, he⟩ |
        ⟨i, st, hst, hfails⟩
      · rcases (change_error_iff hs).1 he with hnone | ⟨row, hrow, hid, e, he⟩
        · exact .nothingToUpdate hnone
        · exact .undecodable hrow hid he
      · exact absurd he (change_answer_ok hdraft)
      · exact .statement hst hfails
    | delete id =>
      rcases (transact_fails_iff (tidy_deletion _)).1 h with ⟨e, he⟩ | hnone | ⟨i, st, hst, hfails⟩
      · simp only [deletion] at he
        split at he <;> cases he
      · exact .nothingToDelete (deletion_error_iff.1 hnone)
      · exact .statement hst hfails

theorem transact_of_fails {x : Transaction α} (hx : x.Tidy)
    (h : (!(s.transact x).answer.isOk) = true) :
    (s.transact x).store = s ∧ (s.transact x).events = [] := by
  cases ha : (s.transact x).answer with
  | error e => exact transact_of_error hx ha
  | ok a =>
    rw [ha] at h
    cases h

theorem write_of_fails (time : String) (id : PodId) (plan : Except SyncError Update)
    (h : (!(Reconciled.write s time id plan).answer.isOk) = true) :
    (Reconciled.write s time id plan).store = s ∧
      (Reconciled.write s time id plan).events = [] := by
  cases plan with
  | error e => exact ⟨rfl, rfl⟩
  | ok u =>
    refine transact_of_fails (tidy_change time id u) ?_
    have hanswer : (Reconciled.write s time id (.ok u)).answer =
        (s.transact (change time id u)).answer.mapError .ofStore := rfl
    rw [hanswer] at h
    cases ha : (s.transact (change time id u)).answer with
    | error e => rfl
    | ok a =>
      rw [ha] at h
      cases h

/-- An operation that fails leaves the store as it was, and tells nobody. -/
theorem perform_of_failed (o : Operation) (h : (o.perform s).answer.failed = true) :
    (o.perform s).store = s ∧ (o.perform s).events = [] := by
  cases o with
  | create id time pod => exact transact_of_fails (tidy_creation id time pod) h
  | apply time id update => exact transact_of_fails (tidy_change time id update) h
  | reconcile time pod result => exact write_of_fails time pod.id (Plan.update result) h
  | commit time y =>
    obtain ⟨hanswer, hstore, hevents⟩ := y.commit_eq s time
    have hfails : (!(y.commit s time).answer.isOk) = true := h
    rw [hanswer] at hfails
    obtain ⟨hsame, hnone⟩ := write_of_fails time y.pod.id y.plan hfails
    exact ⟨hstore.trans hsame, hevents.trans hnone⟩
  | delete id => exact transact_of_fails (tidy_deletion id) h
  | _ => exact ⟨rfl, rfl⟩

/-- Performs operations one after the other, each of them while the database refuses what stands
beside it. -/
def performUnder (t : Tables) : List (Refusal × Operation) → List Answer × Tables × List Event
  | [] => ([], t, [])
  | (refuses, o) :: rest =>
    let p := o.perform (TableStore.mk t refuses)
    let (answers, t, events) := performUnder p.store.tables rest
    (p.answer :: answers, t, p.events ++ events)

/-- The operations that do not fail. -/
def successes (t : Tables) : List (Refusal × Operation) → List (Refusal × Operation)
  | [] => []
  | (refuses, o) :: rest =>
    let p := o.perform (TableStore.mk t refuses)
    if p.answer.failed then successes p.store.tables rest
    else (refuses, o) :: successes p.store.tables rest

/-- Operations that fail might as well never have been issued. -/
theorem performUnder_successes (history : List (Refusal × Operation)) (t : Tables) :
    performUnder t (successes t history) =
      ((performUnder t history).1.filter (fun a ↦ !a.failed), (performUnder t history).2) := by
  induction history generalizing t with
  | nil => rfl
  | cons step rest ih =>
    obtain ⟨refuses, o⟩ := step
    simp only [successes, performUnder]
    by_cases h : (o.perform (TableStore.mk t refuses)).answer.failed = true
    · obtain ⟨hstore, hevents⟩ := perform_of_failed o h
      rw [if_pos h, hstore, hevents, ih]
      simp [h]
    · rw [if_neg h, performUnder]
      simp [h, ih]

/-- An update that brings nothing new inserts no route, so that nothing can turn it down which only
turns down routes. -/
theorem apply_unchanged {time : String} {id : PodId} {old : PodRecord}
    (hrefuses : ∀ i st t, (∀ row, st ≠ .insertRoute row) → s.refuses i st t = none)
    (hfind : s.tables.find id = .ok (some old)) :
    (s.apply time id ⟨old.discovered, old.routable⟩).answer = .ok old ∧
      (s.apply time id ⟨old.discovered, old.routable⟩).store = s ∧
      (s.apply time id ⟨old.discovered, old.routable⟩).events = [] := by
  have hu : old.differs ⟨old.discovered, old.routable⟩ = false := by simp [PodRecord.differs]
  have hready : s.Ready := by
    intro i st t hst
    refine hrefuses i st t (fun row hrow ↦ ?_)
    subst hrow
    exact hst
  obtain ⟨hstore, hevents⟩ := store_apply_of_unchanged time hfind hu
  exact ⟨hready.apply_of_unchanged time hfind hu, hstore, hevents⟩

/-- Writes are all or nothing. A write fails just where something stops it. One that fails leaves
both tables as they were and tells nobody, so that a whole history runs as if its failures had never
been issued. An update that brings nothing new succeeds even where no route can be inserted. -/
theorem writes_all_or_nothing (s : TableStore) (hs : s.tables.Keyed) :
    (∀ w : Write, Stops s w → (w.operation.perform s).answer.failed = true ∧
      (w.operation.perform s).store = s ∧ (w.operation.perform s).events = []) ∧
    (∀ w : Write, (w.operation.perform s).answer.failed = true → Stops s w) ∧
    (∀ history, performUnder s.tables (successes s.tables history) =
      ((performUnder s.tables history).1.filter (fun a ↦ !a.failed),
        (performUnder s.tables history).2)) ∧
    (∀ time id old, (∀ i st t, (∀ row, st ≠ .insertRoute row) → s.refuses i st t = none) →
      s.tables.find id = .ok (some old) →
      (s.apply time id ⟨old.discovered, old.routable⟩).answer = .ok old ∧
        (s.apply time id ⟨old.discovered, old.routable⟩).store = s ∧
        (s.apply time id ⟨old.discovered, old.routable⟩).events = []) := by
  refine ⟨fun w hw ↦ ?_, fun w hw ↦ (stops_iff hs w).2 hw,
    fun history ↦ performUnder_successes history s.tables,
    fun time id old hrefuses hfind ↦ apply_unchanged hrefuses hfind⟩
  have hfailed := (stops_iff hs w).1 hw
  exact ⟨hfailed, perform_of_failed w.operation hfailed⟩

/-- A pod that was never synced. -/
def unsynced : PodRecord := .create "1" "then" ⟨"rack", "virsh", "default", "default", ∅⟩

/-- A database of one pod that rejects the routes of a worker. -/
def rejecting (worker : WorkerId) : TableStore :=
  ⟨⟨[.ofRecord unsynced], []⟩, guarded [.routeInsert worker]⟩

theorem rejecting_keyed (worker : WorkerId) : (rejecting worker).tables.Keyed where
  ids := List.nodup_singleton _
  names := List.nodup_singleton _
  routes := List.nodup_nil
  owned _ h := nomatch h

theorem rejecting_find (worker : WorkerId) :
    (rejecting worker).tables.find "1" = .ok (some unsynced) := by
  rw [(rejecting_keyed worker).find_eq]
  have hfind : (rejecting worker).tables.pods.find? (fun row ↦ row.id == "1") =
      some (.ofRecord unsynced) := rfl
  rw [hfind, Option.elim_some, Tables.recordOf, (PodRow.reads_ofRecord unsynced).record_eq]
  rfl

theorem rejecting_refuses (worker : WorkerId) (i : Nat) (row : RouteRow) (t : Tables) :
    ((rejecting worker).refuses i (.insertRoute row) t).isSome = (row.worker == worker) := by
  cases h : row.worker == worker <;>
    simp [rejecting, guarded, Guard.stops, h]

/-- The second of two routes is rejected, and an update without news passes. -/
theorem writes_all_or_nothing_rejecting :
    (rejecting "b").tables.Keyed ∧
    ((Write.apply "now" "1" ⟨.blank, .ofList [("a", true), ("b", false)]⟩).operation.perform
      (rejecting "b")).store = rejecting "b" ∧
    ((rejecting "b").apply "now" "1" ⟨.blank, ∅⟩).answer = .ok unsynced := by
  obtain ⟨hstops, -, -, hunchanged⟩ := writes_all_or_nothing (rejecting "b") (rejecting_keyed "b")
  refine ⟨rejecting_keyed "b",
    (hstops _ (.route (· = "b") ?_ (rejecting_find "b") (by decide) (by decide) rfl)).2.1,
    (hunchanged "now" "1" unsynced ?_ (rejecting_find "b")).1⟩
  · intro i row t hrow
    rw [rejecting_refuses]
    exact beq_iff_eq.2 hrow
  · intro i st t hst
    cases st with
    | insertRoute row => exact absurd rfl (hst row)
    | _ => rfl

end TableStore

end PodInventory
