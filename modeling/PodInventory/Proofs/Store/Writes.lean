import PodInventory.Proofs.Store.Transaction

namespace PodInventory

namespace PodRecord

theorem nodup_worker_routeRows (r : PodRecord) : (r.routeRows.map RouteRow.worker).Nodup := by
  rw [routeRows, List.map_map]
  exact List.pairwise_map.2 (r.routable.ascending.imp String.ne_of_lt)

theorem pod_of_mem_routeRows {r : PodRecord} {row : RouteRow} (h : row ∈ r.routeRows) :
    row.pod = r.id := by
  obtain ⟨e, -, rfl⟩ := List.mem_map.1 h
  rfl

end PodRecord

namespace Tables

def adding (t : Tables) (row : PodRow) : Tables := { t with pods := t.pods ++ [row] }

/-- The tables with a record written over the row and the routes that it had. -/
def replacing (t : Tables) (r : PodRecord) : Tables where
  pods := t.pods.map (fun row ↦
    if row.id = r.id then row.withDiscovered (PodRow.ofRecord r).discovered else row)
  routes := t.routes.filter (fun route ↦ route.pod != r.id) ++ r.routeRows

def without (t : Tables) (id : PodId) : Tables where
  pods := t.pods.filter (fun row ↦ row.id != id)
  routes := t.routes.filter (fun route ↦ route.pod != id)

end Tables

namespace Statement

/-- The statements that break no key on any tables. -/
def Harmless (st : Statement) : Prop := ∀ t, st.violation? t = none

theorem harmless_of_looksUp {st : Statement} (h : st.LooksUp) : st.Harmless := by
  cases st with
  | lookUpName name => exact fun _ ↦ rfl
  | lookUpPod id => exact fun _ ↦ rfl
  | _ => exact h.elim

/-- The statements that find nothing to write on these tables. -/
def Idle (t : Tables) : Statement → Prop
  | .insertPod _ | .updatePod _ _ | .insertRoute _ => False
  | st => st.effect t = t

theorem idle_of_looksUp {st : Statement} (h : st.LooksUp) (t : Tables) : st.Idle t := by
  cases st with
  | lookUpName name => exact rfl
  | lookUpPod id => exact rfl
  | _ => exact h.elim

theorem Idle.harmless {t : Tables} {st : Statement} (h : st.Idle t) : st.Harmless := by
  cases st with
  | insertPod row => exact h.elim
  | insertRoute row => exact h.elim
  | _ => exact fun _ ↦ rfl

end Statement

namespace Connection

theorem after_of_idle {t : Tables} {st : Statement} (h : st.Idle t) :
    (opened t).after st = opened t := by
  cases st with
  | insertPod row => exact h.elim
  | updatePod id columns => exact h.elim
  | insertRoute row => exact h.elim
  | deletePod id => exact congrArg (Connection.mk t) h
  | deleteRoutes pod => exact congrArg (Connection.mk t) h
  | _ => rfl

theorem through_insertRoutes (c : Connection) (rows : List RouteRow) :
    c.through (rows.map .insertRoute) =
      { c with working := { c.working with routes := c.working.routes ++ rows } } := by
  induction rows generalizing c with
  | nil => simp [through]
  | cons row rows ih =>
    refine (ih (c.after (.insertRoute row))).trans ?_
    simp [after, Statement.effect]

theorem through_append (c : Connection) (a b : List Statement) :
    c.through (a ++ b) = (c.through a).through b := List.foldl_append

theorem through_replacement (t : Tables) (r : PodRecord) :
    ((opened t).through (TableStore.replacement r)).committed = t.replacing r := by
  rw [TableStore.replacement, through_append, through_append, through_insertRoutes]
  rfl

theorem through_deletion (t : Tables) (id : PodId) :
    ((opened t).through [.deleteRoutes id, .deletePod id, .commit]).committed = t.without id := by
  simp [through, after, opened, Statement.effect, Tables.without]

theorem perform_cons_of_accepted {refuses : Refusal} (hrefuses : ∀ i st t, refuses i st t = none)
    {c : Connection} {st : Statement} (h : st.violation? c.working = none) (position : Nat)
    (rest : List Statement) :
    c.perform refuses position (st :: rest) = (c.after st).perform refuses (position + 1) rest := by
  refine perform_cons_of_passes ?_ rest
  rw [failure?, hrefuses, Option.none_or, h]

theorem perform_of_harmless {refuses : Refusal} (hrefuses : ∀ i st t, refuses i st t = none)
    (statements : List Statement) (h : ∀ st ∈ statements, st.Harmless) {position : Nat}
    {c : Connection} : (c.perform refuses position statements).1 = none := by
  rw [perform_eq_through_iff]
  intro i st hi
  rw [failure?, hrefuses, Option.none_or, h st (List.mem_of_getElem? hi)]

theorem perform_of_idle {refuses : Refusal}
    (hrefuses : ∀ i st t, st.Idle t → refuses i st t = none) {t : Tables}
    (statements : List Statement) (h : ∀ st ∈ statements, st.Idle t) (position : Nat) :
    ((opened t).perform refuses position statements).1 = none := by
  induction statements generalizing position with
  | nil => rfl
  | cons st rest ih =>
    have hst := h st List.mem_cons_self
    have hpasses : (opened t).failure? refuses position st = none := by
      rw [failure?, hst.harmless, Option.or_none]
      exact hrefuses position st t hst
    rw [perform_cons_of_passes hpasses, after_of_idle hst]
    exact ih (fun st' hst' ↦ h st' (List.mem_cons_of_mem _ hst')) (position + 1)

/-- New routes of one stored pod break no key. -/
theorem perform_insertRoutes {refuses : Refusal} (hrefuses : ∀ i st t, refuses i st t = none)
    {id : PodId} (rows : List RouteRow) (rest : List Statement) (position : Nat) (c : Connection)
    (hrows : ∀ row ∈ rows, row.pod = id) (hid : id ∈ c.working.pods.map PodRow.id)
    (hnodup : (rows.map RouteRow.worker).Nodup)
    (hnew : ∀ row ∈ rows, ∀ route ∈ c.working.routes, route.pod = id → route.worker ≠ row.worker) :
    (c.perform refuses position (rows.map .insertRoute ++ rest)).1 =
      ((c.through (rows.map .insertRoute)).perform refuses (position + rows.length) rest).1 := by
  induction rows generalizing position c with
  | nil => rfl
  | cons row rows ih =>
    obtain ⟨hworker, hnodup⟩ := List.nodup_cons.1 (by simpa only [List.map_cons] using hnodup)
    have hpod := hrows row List.mem_cons_self
    have hkeys : (Statement.insertRoute row).violation? c.working = none := by
      rw [Statement.violation?, if_neg, if_neg]
      · obtain ⟨pod, hmem, heq⟩ := List.mem_map.1 hid
        simpa [hpod] using ⟨pod, hmem, heq⟩
      · simp only [List.any_eq_true, Bool.and_eq_true, beq_iff_eq, not_exists, not_and]
        exact fun route hroute heq ↦
          hnew row List.mem_cons_self route hroute (heq.trans hpod)
    rw [List.map_cons, List.cons_append, perform_cons_of_accepted hrefuses hkeys]
    refine (ih (position + 1) (c.after (.insertRoute row))
      (fun r hr ↦ hrows r (List.mem_cons_of_mem _ hr)) hid hnodup ?_).trans ?_
    · intro r hr route hroute hroutepod
      rcases List.mem_append.1 hroute with hroute | hroute
      · exact hnew r (List.mem_cons_of_mem _ hr) route hroute hroutepod
      · obtain rfl := List.mem_singleton.1 hroute
        exact fun heq ↦ hworker (heq ▸ List.mem_map_of_mem hr)
    · rw [List.length_cons, Nat.add_right_comm, Nat.add_assoc]
      rfl

end Connection

namespace TableStore

open Connection

variable {s : TableStore}

theorem transact_of_ok {α : Type} {x : Transaction α} (hx : x.Tidy) {a : α}
    (h : (s.transact x).answer = .ok a) :
    ∃ draft, x.body s.tables = .ok draft ∧ draft.answer = .ok a ∧
      (s.transact x).store = s.dropping ((opened s.tables).through draft.statements) ∧
      (s.transact x).events = draft.events := by
  rw [transact_eq hx] at h ⊢
  cases hperform : ((opened s.tables).perform s.refuses 0 (x.script s.tables)).1 with
  | some message =>
    rw [hperform] at h
    cases h
  | none =>
    cases hbody : x.body s.tables with
    | error e =>
      rw [hperform, hbody] at h
      cases h
    | ok draft =>
      cases ha : draft.answer with
      | error e =>
        simp only [hperform, hbody, ha] at h
        cases h
      | ok a' =>
        simp only [hperform, hbody, ha] at h
        cases h
        refine ⟨draft, rfl, ha, ?_, ?_⟩
        · simp only [ha]
        · simp only [ha]

theorem change_body_of_missing (time : String) {id : PodId} {u : Update} {t : Tables}
    (h : t.find id = .ok none) : (change time id u).body t = .error (.missing id) := by
  simp only [change, h, bind, Except.bind]
  rfl

theorem change_body_of_find (time : String) {id : PodId} {u : Update} {t : Tables}
    {old : PodRecord} (h : t.find id = .ok (some old)) (hu : old.differs u = true) :
    (change time id u).body t = .ok
      { answer := .ok (old.apply time u)
        statements := replacement (old.apply time u)
        events := [.synced old (old.apply time u)] } := by
  simp only [change, h, bind, Except.bind, hu, ↓reduceIte]
  rfl

theorem change_body_unchanged (time : String) {id : PodId} {u : Update} {t : Tables}
    {old : PodRecord} (h : t.find id = .ok (some old)) (hu : old.differs u = false) :
    (change time id u).body t = .ok
      { answer := .ok old
        statements := []
        notes := [⟨.debug, "Pod " ++ id ++ " unchanged, nothing to write"⟩] } := by
  simp only [change, h, bind, Except.bind, hu, Bool.false_eq_true, ↓reduceIte]
  rfl

theorem create_of_ok {id : PodId} {time : String} {pod : NewPod} {r : PodRecord}
    (h : (s.create id time pod).answer = .ok r) :
    r = .create id time pod ∧
      (s.create id time pod).store = { s with tables := s.tables.adding (.ofRecord r) } := by
  obtain ⟨draft, hbody, ha, hstore, -⟩ := transact_of_ok (tidy_creation id time pod) h
  simp only [creation] at hbody
  split at hbody
  · cases hbody
  · cases hbody
    cases ha
    exact ⟨rfl, hstore⟩

/-- An update that succeeds has either written its record or found it as it is. -/
theorem apply_of_ok {time : String} {id : PodId} {u : Update} {r : PodRecord}
    (h : (s.apply time id u).answer = .ok r) :
    ∃ old, s.tables.find id = .ok (some old) ∧ r = old.apply time u ∧
      (s.apply time id u).store =
        if old.differs u then { s with tables := s.tables.replacing r } else s := by
  obtain ⟨draft, hbody, ha, hstore, -⟩ := transact_of_ok (tidy_change time id u) h
  change (s.apply time id u).store = _ at hstore
  cases hfind : s.tables.find id with
  | error e =>
    simp only [change, hfind, bind, Except.bind] at hbody
    cases hbody
  | ok found =>
    cases found with
    | none =>
      rw [change_body_of_missing time hfind] at hbody
      cases hbody
    | some old =>
      refine ⟨old, rfl, ?_⟩
      cases hu : old.differs u with
      | false =>
        rw [change_body_unchanged time hfind hu] at hbody
        cases hbody
        cases ha
        rw [hstore, PodRecord.apply, hu]
        exact ⟨rfl, rfl⟩
      | true =>
        rw [change_body_of_find time hfind hu] at hbody
        cases hbody
        cases ha
        rw [hstore, dropping, through_replacement]
        exact ⟨rfl, rfl⟩

theorem delete_of_ok {id : PodId} (h : (s.delete id).answer = .ok ()) :
    (∃ row ∈ s.tables.pods, row.id = id) ∧
      (s.delete id).store = { s with tables := s.tables.without id } := by
  obtain ⟨draft, hbody, ha, hstore, -⟩ := transact_of_ok (tidy_deletion id) h
  simp only [deletion] at hbody
  split at hbody
  · rename_i hany
    cases hbody
    rw [delete, hstore, dropping, through_deletion]
    exact ⟨by simpa using hany, rfl⟩
  · cases hbody
    cases ha

/-- A transaction that fails leaves the store as it was, and tells nobody. -/
theorem transact_of_error {α : Type} {x : Transaction α} (hx : x.Tidy) {e : StoreError}
    (h : (s.transact x).answer = .error e) :
    (s.transact x).store = s ∧ (s.transact x).events = [] := by
  rw [transact_eq hx] at h ⊢
  cases hperform : ((opened s.tables).perform s.refuses 0 (x.script s.tables)).1 with
  | some message => exact ⟨rfl, rfl⟩
  | none =>
    cases hbody : x.body s.tables with
    | error e => exact ⟨rfl, rfl⟩
    | ok draft =>
      cases ha : draft.answer with
      | error e => exact ⟨by simp only [ha], by simp only [ha]⟩
      | ok a =>
        simp only [hperform, hbody, ha] at h
        cases h

/-- An update without news leaves the store as it was, whether or not the database lets it pass. -/
theorem store_apply_of_unchanged (time : String) {id : PodId} {u : Update} {old : PodRecord}
    (h : s.tables.find id = .ok (some old)) (hu : old.differs u = false) :
    (s.apply time id u).store = s ∧ (s.apply time id u).events = [] := by
  have hbody := change_body_unchanged time h hu
  rw [apply, transact_eq (tidy_change time id u), hbody]
  cases ((opened s.tables).perform s.refuses 0 ((change time id u).script s.tables)).1 with
  | some message => exact ⟨rfl, rfl⟩
  | none => exact ⟨rfl, rfl⟩

/-- A database that turns down no statement which finds nothing to write. -/
def Ready (s : TableStore) : Prop := ∀ i st t, st.Idle t → s.refuses i st t = none

theorem Guard.stops_of_idle {t : Tables} {st : Statement} (h : st.Idle t) (g : Guard) :
    g.stops t st = false := by
  cases st with
  | insertPod row => exact h.elim
  | updatePod id columns => exact h.elim
  | insertRoute row => exact h.elim
  | deletePod id =>
    have hpods : t.pods.filter (fun r ↦ r.id != id) = t.pods := congrArg Tables.pods h
    cases g with
    | podDelete name =>
      simp only [Guard.stops, List.any_eq_false, Bool.and_eq_true, not_and]
      intro row hrow hid
      simpa [eq_of_beq hid] using List.filter_eq_self.1 hpods row hrow
    | _ => rfl
  | deleteRoutes pod =>
    have hroutes : t.routes.filter (fun r ↦ r.pod != pod) = t.routes := congrArg Tables.routes h
    cases g with
    | routeDelete worker =>
      simp only [Guard.stops, List.any_eq_false, Bool.and_eq_true, not_and]
      intro route hroute hpod
      simpa [eq_of_beq hpod] using List.filter_eq_self.1 hroutes route hroute
    | _ => rfl
  | _ => cases g <;> rfl

/-- Guards on writes stop no statement that writes nothing. -/
theorem ready_guarded (t : Tables) (guards : List Guard) : Ready ⟨t, guarded guards⟩ := by
  intro i st t' hst
  refine if_neg ?_
  simp [Guard.stops_of_idle hst]

theorem idle_begin_reads {α : Type} {x : Transaction α} (hx : x.Tidy) (t : Tables) :
    ∀ st ∈ Statement.begin :: x.reads, st.Idle t := by
  intro st hst
  rcases List.mem_cons.1 hst with rfl | hst
  · exact rfl
  · exact Statement.idle_of_looksUp (hx.reads st hst) t

theorem Ready.transact_of_error {α : Type} (hs : s.Ready) {x : Transaction α} (hx : x.Tidy)
    {e : StoreError} (hbody : x.body s.tables = .error e) :
    s.transact x = { answer := .error e, store := s } := by
  have hpasses : ((opened s.tables).perform s.refuses 0 (x.script s.tables)).1 = none := by
    refine perform_of_idle hs _ (fun st hst ↦ ?_) 0
    rw [Transaction.script, hbody, List.append_nil] at hst
    exact idle_begin_reads hx s.tables st hst
  rw [transact_eq hx, hpasses, hbody]

theorem Ready.perform_script {α : Type} (hs : s.Ready) {x : Transaction α} (hx : x.Tidy)
    {draft : Draft α} (hbody : x.body s.tables = .ok draft)
    (h : ∀ st ∈ draft.statements, st.Idle s.tables) :
    ((opened s.tables).perform s.refuses 0 (x.script s.tables)).1 = none := by
  refine perform_of_idle hs _ (fun st hst ↦ ?_) 0
  rw [Transaction.script, hbody] at hst
  rcases List.mem_append.1 hst with hst | hst
  · exact idle_begin_reads hx s.tables st hst
  · exact h st hst

theorem Ready.apply_of_missing (hs : s.Ready) (time : String) {id : PodId} (u : Update)
    (h : s.tables.find id = .ok none) :
    s.apply time id u = { answer := .error (.missing id), store := s } :=
  hs.transact_of_error (tidy_change time id u) (change_body_of_missing time h)

theorem Ready.apply_of_unchanged (hs : s.Ready) (time : String) {id : PodId} {u : Update}
    {old : PodRecord} (h : s.tables.find id = .ok (some old)) (hu : old.differs u = false) :
    (s.apply time id u).answer = .ok old := by
  have hbody := change_body_unchanged time h hu
  have hpasses := hs.perform_script (tidy_change time id u) hbody (fun st hst ↦ nomatch hst)
  rw [apply, transact_eq (tidy_change time id u), hpasses, hbody]

theorem deletion_body_of_missing {id : PodId} {t : Tables} (h : ∀ row ∈ t.pods, row.id ≠ id) :
    (deletion id).body t =
      .ok { answer := .error (.missing id), statements := [.deleteRoutes id, .deletePod id] } :=
  if_neg (by simpa using h)

/-- Only a route without its pod could make the deletion of a missing pod delete anything. -/
theorem Ready.delete_of_missing (hs : s.Ready) (hkeyed : s.tables.Keyed) {id : PodId}
    (h : ∀ row ∈ s.tables.pods, row.id ≠ id) :
    s.delete id = { answer := .error (.missing id), store := s } := by
  have hbody := deletion_body_of_missing h
  have hroutes : s.tables.routes.filter (fun r ↦ r.pod != id) = s.tables.routes := by
    refine List.filter_eq_self.2 (fun route hroute ↦ ?_)
    obtain ⟨row, hrow, heq⟩ := List.mem_map.1 (hkeyed.owned route hroute)
    simpa [← heq] using h row hrow
  have hpods : s.tables.pods.filter (fun r ↦ r.id != id) = s.tables.pods :=
    List.filter_eq_self.2 (fun row hrow ↦ by simpa using h row hrow)
  have hpasses := hs.perform_script (tidy_deletion id) hbody (fun st hst ↦ ?_)
  · rw [delete, transact_eq (tidy_deletion id), hpasses, hbody]
  · simp only [List.mem_cons, List.not_mem_nil, or_false] at hst
    rcases hst with rfl | rfl
    · exact congrArg (Tables.mk s.tables.pods) hroutes
    · exact congrArg₂ Tables.mk hpods hroutes

/-- A database that refuses nothing of its own accord. -/
def Accepts (s : TableStore) : Prop := ∀ i st t, s.refuses i st t = none

theorem Accepts.ready (hs : s.Accepts) : s.Ready := fun i st t _ ↦ hs i st t

theorem harmless_begin_reads {α : Type} {x : Transaction α} (hx : x.Tidy) :
    ∀ st ∈ Statement.begin :: x.reads, st.Harmless := by
  intro st hst t
  rcases List.mem_cons.1 hst with rfl | hst
  · rfl
  · exact Statement.harmless_of_looksUp (hx.reads st hst) t

/-- Without any insertion a transaction passes. -/
theorem Accepts.perform_script {α : Type} (hs : s.Accepts) {x : Transaction α} (hx : x.Tidy)
    {draft : Draft α} (hbody : x.body s.tables = .ok draft)
    (h : ∀ st ∈ draft.statements, st.Harmless) :
    ((opened s.tables).perform s.refuses 0 (x.script s.tables)).1 = none := by
  refine perform_of_harmless hs _ (fun st hst ↦ ?_)
  rw [Transaction.script, hbody] at hst
  rcases List.mem_append.1 hst with hst | hst
  · exact harmless_begin_reads hx st hst
  · exact h st hst

theorem Accepts.create_of_taken (hs : s.Accepts) (id : PodId) (time : String) {pod : NewPod}
    (h : ∃ row ∈ s.tables.pods, row.name = pod.name) :
    s.create id time pod = { answer := .error (.nameTaken pod.name), store := s } := by
  refine hs.ready.transact_of_error (tidy_creation id time pod) ?_
  exact if_pos (by simpa using h)

theorem Accepts.create_of_free (hs : s.Accepts) {id : PodId} (time : String) {pod : NewPod}
    (hname : ∀ row ∈ s.tables.pods, row.name ≠ pod.name)
    (hid : ∀ row ∈ s.tables.pods, row.id ≠ id) :
    s.create id time pod =
      { answer := .ok (.create id time pod)
        store := { s with tables := s.tables.adding (.ofRecord (.create id time pod)) }
        events := [.created (.create id time pod)] } := by
  have hnameless : ¬ s.tables.pods.any (fun r ↦ r.name == pod.name) = true := by simpa using hname
  have hidless : ¬ s.tables.pods.any (fun r ↦ r.id == id) = true := by simpa using hid
  have hbody : (creation id time pod).body s.tables = .ok
      { answer := .ok (.create id time pod)
        statements := [.insertPod (.ofRecord (.create id time pod)), .commit]
        events := [.created (.create id time pod)] } := if_neg hnameless
  have hpasses : ((opened s.tables).perform s.refuses 0
      ((creation id time pod).script s.tables)).1 = none := by
    have hviolation : (Statement.insertPod (.ofRecord (.create id time pod))).violation?
        s.tables = none := by
      rw [Statement.violation?]
      exact (if_neg hidless).trans (if_neg hnameless)
    rw [Transaction.script, hbody]
    rw [List.cons_append, perform_cons_of_accepted hs rfl]
    refine (congrArg Prod.fst (perform_cons_of_accepted hs rfl _ _)).trans ?_
    refine (congrArg Prod.fst (perform_cons_of_accepted hs hviolation _ _)).trans ?_
    exact congrArg Prod.fst (perform_cons_of_accepted hs rfl _ [])
  rw [create, transact_eq (tidy_creation id time pod), hpasses, hbody]
  rfl

/-- The statements that write a changed record pass on tables with unbroken keys. -/
theorem Accepts.perform_replacement (hs : s.Accepts) {id : PodId} (r : PodRecord)
    (hid : r.id ∈ s.tables.pods.map PodRow.id) :
    ((opened s.tables).perform s.refuses 0
      (.begin :: [.lookUpPod id] ++ replacement r)).1 = none := by
  rw [replacement, List.cons_append, perform_cons_of_accepted hs rfl]
  refine (congrArg Prod.fst (perform_cons_of_accepted hs rfl _ _)).trans ?_
  refine (congrArg Prod.fst (perform_cons_of_accepted hs rfl _ _)).trans ?_
  refine (congrArg Prod.fst (perform_cons_of_accepted hs rfl _ _)).trans ?_
  refine (perform_insertRoutes hs r.routeRows [.commit] _ _
    (fun _ ↦ PodRecord.pod_of_mem_routeRows) ?_ r.nodup_worker_routeRows ?_).trans ?_
  · exact (Statement.map_id_updatePod s.tables r.id _).1 ▸ hid
  · intro row _ route hroute hpod
    exact absurd hpod (by simpa using (List.mem_filter.1 hroute).2)
  · exact congrArg Prod.fst (perform_cons_of_accepted hs rfl _ [])

theorem Accepts.apply_of_changed (hs : s.Accepts) (time : String) {id : PodId} {u : Update}
    {old : PodRecord} (h : s.tables.find id = .ok (some old)) (hu : old.differs u = true)
    (hid : old.id ∈ s.tables.pods.map PodRow.id) :
    s.apply time id u =
      { answer := .ok (old.apply time u)
        store := { s with tables := s.tables.replacing (old.apply time u) }
        events := [.synced old (old.apply time u)] } := by
  have hbody := change_body_of_find time h hu
  have hnew : (old.apply time u).id = old.id := by
    rw [PodRecord.apply, if_pos hu]
  have hpasses : ((opened s.tables).perform s.refuses 0
      ((change time id u).script s.tables)).1 = none := by
    rw [Transaction.script, hbody]
    exact hs.perform_replacement _ (hnew ▸ hid)
  rw [apply, transact_eq (tidy_change time id u), hpasses, hbody]
  simp only [dropping, through_replacement]

theorem Accepts.delete_of_stored (hs : s.Accepts) {id : PodId}
    (h : ∃ row ∈ s.tables.pods, row.id = id) :
    s.delete id =
      { answer := .ok (), store := { s with tables := s.tables.without id },
        events := [.deleted id] } := by
  have hbody : (deletion id).body s.tables =
      .ok { answer := .ok (), statements := [.deleteRoutes id, .deletePod id, .commit],
            events := [.deleted id] } :=
    if_pos (by simpa using h)
  have hpasses := hs.perform_script (tidy_deletion id) hbody (fun st hst ↦ ?_)
  · rw [delete, transact_eq (tidy_deletion id), hpasses, hbody]
    simp only [dropping, through_deletion]
  · simp only [List.mem_cons, List.not_mem_nil, or_false] at hst
    rcases hst with rfl | rfl | rfl <;> exact fun _ ↦ rfl

end TableStore

end PodInventory
