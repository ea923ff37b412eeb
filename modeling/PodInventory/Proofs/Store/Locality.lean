import PodInventory.Proofs.Pod.Record
import PodInventory.Proofs.Store.Overwriting

namespace PodInventory

namespace Tables

/-- The rows of one pod. -/
def only (id : PodId) (t : Tables) : Tables where
  pods := t.pods.filter (fun row ↦ row.id == id)
  routes := t.routes.filter (fun route ↦ route.pod == id)

theorem find_only (id : PodId) (t : Tables) : (t.only id).find id = t.find id := by
  have hjoined : ∀ row ∈ t.pods.filter (fun row ↦ row.id == id),
      (t.only id).joinedWith row = t.joinedWith row := by
    intro row hrow
    obtain rfl : row.id = id := eq_of_beq (List.mem_filter.1 hrow).2
    simp only [joinedWith, only, List.filter_filter, Bool.and_self]
  have hrows : ((t.only id).pods.filter (fun row ↦ row.id == id)).flatMap (t.only id).joinedWith =
      (t.pods.filter (fun row ↦ row.id == id)).flatMap t.joinedWith := by
    simp only [only, List.filter_filter, Bool.and_self]
    exact List.flatMap_congr hjoined
  rw [find, find, query, query, select, select, hrows]

theorem any_only (id : PodId) (t : Tables) :
    (t.only id).pods.any (fun row ↦ row.id == id) = t.pods.any (fun row ↦ row.id == id) := by
  simp only [only, List.any_filter, Bool.and_self]

theorem any_pods_only (id : PodId) (t : Tables) (p : PodRow → Bool) :
    (t.only id).pods.any (fun row ↦ row.id == id && p row) =
      t.pods.any (fun row ↦ row.id == id && p row) := by
  simp only [only, List.any_filter, ← Bool.and_assoc, Bool.and_self]

theorem any_routes_only (id : PodId) (t : Tables) (p : RouteRow → Bool) :
    (t.only id).routes.any (fun route ↦ route.pod == id && p route) =
      t.routes.any (fun route ↦ route.pod == id && p route) := by
  simp only [only, List.any_filter, ← Bool.and_assoc, Bool.and_self]

end Tables

namespace Statement

/-- The statements that concern the rows of one pod. -/
def About (id : PodId) : Statement → Prop
  | .begin | .commit => True
  | .lookUpPod id' | .updatePod id' _ | .deletePod id' | .deleteRoutes id' => id' = id
  | .insertRoute row => row.pod = id
  | .lookUpName _ | .insertPod _ => False

theorem filter_id_map (l : List PodRow) {g : PodRow → PodRow} (hg : ∀ row, (g row).id = row.id)
    (id : PodId) :
    (l.map g).filter (fun row ↦ row.id == id) = (l.filter (fun row ↦ row.id == id)).map g := by
  rw [List.filter_map]
  refine congrArg (List.map g) (List.filter_congr (fun row _ ↦ ?_))
  rw [Function.comp_apply, hg]

theorem id_withDiscovered_if (id : PodId) (columns : Discovered) (row : PodRow) :
    (if row.id = id then row.withDiscovered columns else row).id = row.id := by
  split <;> rfl

variable {id : PodId} {st : Statement}

/-- A statement does with the rows of its pod what it does with them among all rows. -/
theorem About.only_effect (h : st.About id) (t : Tables) :
    (st.effect t).only id = st.effect (t.only id) := by
  cases st with
  | lookUpName name => exact h.elim
  | insertPod row => exact h.elim
  | updatePod id' columns =>
    exact congrArg (Tables.mk · _) (filter_id_map _ (id_withDiscovered_if id' columns) id)
  | deletePod id' => exact congrArg₂ Tables.mk (List.filter_comm ..) (List.filter_comm ..)
  | insertRoute row =>
    obtain rfl : row.pod = id := h
    refine congrArg (Tables.mk _) ?_
    simp [effect, Tables.only]
  | deleteRoutes id' => exact congrArg (Tables.mk _) (List.filter_comm ..)
  | _ => rfl

theorem About.only_effect_other (h : st.About id) {other : PodId} (hne : other ≠ id)
    (t : Tables) : (st.effect t).only other = t.only other := by
  cases st with
  | lookUpName name => exact h.elim
  | insertPod row => exact h.elim
  | updatePod id' columns =>
    obtain rfl : id' = id := h
    refine congrArg (Tables.mk · _) ?_
    refine (filter_id_map _ (id_withDiscovered_if id' columns) other).trans ?_
    refine (List.map_congr_left (fun row hrow ↦ if_neg ?_)).trans (List.map_id _)
    rw [eq_of_beq (List.mem_filter.1 hrow).2]
    exact hne
  | deletePod id' =>
    obtain rfl : id' = id := h
    exact congrArg₂ Tables.mk (filter_ne_filter hne _) (filter_ne_filter hne _)
  | insertRoute row =>
    obtain rfl : row.pod = id := h
    refine congrArg (Tables.mk _) ?_
    simp [effect, Ne.symm hne]
  | deleteRoutes id' =>
    obtain rfl : id' = id := h
    exact congrArg (Tables.mk _) (filter_ne_filter hne _)
  | _ => rfl

theorem About.violation?_only (h : st.About id) (t : Tables) :
    st.violation? (t.only id) = st.violation? t := by
  cases st with
  | insertPod row => exact h.elim
  | insertRoute row =>
    obtain rfl : row.pod = id := h
    rw [violation?, violation?, Tables.any_routes_only, Tables.any_only]
  | _ => rfl

end Statement

/-- Refusals that look at no more than the rows of the pod that a statement is about. -/
def Refusal.Local (refuses : Refusal) : Prop :=
  ∀ i id st t, Statement.About id st → refuses i st (t.only id) = refuses i st t

namespace Connection

variable {refuses : Refusal} {id : PodId}

def only (id : PodId) (c : Connection) : Connection := ⟨c.committed.only id, c.working.only id⟩

theorem only_after (c : Connection) {st : Statement} (h : st.About id) :
    (c.after st).only id = (c.only id).after st := by
  cases st with
  | «begin» => rfl
  | commit => rfl
  | _ => exact congrArg (Connection.mk _) (h.only_effect c.working)

theorem failure?_only (hlocal : refuses.Local) (position : Nat) (c : Connection) {st : Statement}
    (h : st.About id) :
    (c.only id).failure? refuses position st = c.failure? refuses position st := by
  have hrefuses := hlocal position id st c.working h
  have hviolation := h.violation?_only c.working
  rw [failure?, failure?, ← hrefuses, ← hviolation]
  rfl

theorem perform_only (hlocal : refuses.Local) {statements : List Statement}
    (h : ∀ st ∈ statements, st.About id) (position : Nat) (c : Connection) :
    ((c.only id).perform refuses position statements).1 =
      (c.perform refuses position statements).1 := by
  induction statements generalizing position c with
  | nil => rfl
  | cons st rest ih =>
    obtain ⟨hst, hrest⟩ := List.forall_mem_cons.1 h
    have hsame := failure?_only hlocal position c hst
    cases hfails : c.failure? refuses position st with
    | some message =>
      rw [perform_cons_of_fails hfails, perform_cons_of_fails (hsame.trans hfails)]
    | none =>
      rw [perform_cons_of_passes hfails, perform_cons_of_passes (hsame.trans hfails),
        ← only_after c hst]
      exact ih hrest (position + 1) (c.after st)

theorem only_through (c : Connection) {statements : List Statement}
    (h : ∀ st ∈ statements, st.About id) :
    (c.through statements).only id = (c.only id).through statements := by
  induction statements generalizing c with
  | nil => rfl
  | cons st rest ih =>
    obtain ⟨hst, hrest⟩ := List.forall_mem_cons.1 h
    refine (ih (c.after st) hrest).trans ?_
    rw [only_after c hst]
    rfl

theorem only_after_other {c : Connection} {other : PodId} {t : Tables}
    (hc : c.only other = opened t) {st : Statement} (h : st.About id) (hne : other ≠ id) :
    (c.after st).only other = opened t := by
  obtain ⟨hcommitted, hworking⟩ := Connection.mk.inj hc
  cases st with
  -- a transaction begins on what is committed and commits what it has worked on
  | «begin» => exact congrArg opened hcommitted
  | commit => exact congrArg opened hworking
  | _ => exact congrArg₂ Connection.mk hcommitted ((h.only_effect_other hne _).trans hworking)

theorem only_through_other {c : Connection} {other : PodId} {t : Tables}
    (hc : c.only other = opened t) {statements : List Statement}
    (h : ∀ st ∈ statements, st.About id) (hne : other ≠ id) :
    (c.through statements).only other = opened t := by
  induction statements generalizing c with
  | nil => exact hc
  | cons st rest ih =>
    obtain ⟨hst, hrest⟩ := List.forall_mem_cons.1 h
    exact ih (only_after_other hc hst hne) hrest

end Connection

namespace TableStore

open Connection

def only (id : PodId) (s : TableStore) : TableStore := { s with tables := s.tables.only id }

/-- A transaction that reads and writes no rows but those of one pod. -/
structure Transaction.On {α : Type} (id : PodId) (x : Transaction α) (t : Tables) : Prop where
  body : x.body (t.only id) = x.body t
  reads : ∀ st ∈ x.reads, st.About id
  statements : ∀ draft, x.body t = .ok draft → ∀ st ∈ draft.statements, st.About id

variable {α : Type} {x : Transaction α} {s : TableStore} {id : PodId}

theorem Transaction.On.script_only {t : Tables} (h : x.On id t) :
    x.script (t.only id) = x.script t := by
  rw [Transaction.script, Transaction.script, h.body]

theorem Transaction.On.script {t : Tables} (h : x.On id t) : ∀ st ∈ x.script t, st.About id := by
  intro st hst
  rcases List.mem_append.1 hst with hst | hst
  · rcases List.mem_cons.1 hst with rfl | hst
    · trivial
    · exact h.reads st hst
  · cases hbody : x.body t with
    | error e =>
      rw [hbody] at hst
      cases hst
    | ok draft =>
      rw [hbody] at hst
      exact h.statements draft hbody st hst

/-- A transaction on one pod comes to the same on the rows of this pod alone. -/
theorem transact_only (hx : x.Tidy) (hlocal : s.refuses.Local) (h : x.On id s.tables) :
    Agrees (fun s' s ↦ s' = only id s) ((s.only id).transact x) (s.transact x) := by
  have hperform : ((opened (s.tables.only id)).perform s.refuses 0 (x.script s.tables)).1 =
      ((opened s.tables).perform s.refuses 0 (x.script s.tables)).1 :=
    perform_only hlocal h.script 0 (opened s.tables)
  rw [transact_eq hx, transact_eq hx]
  simp only [only, h.script_only, h.body, hperform]
  cases ((opened s.tables).perform s.refuses 0 (x.script s.tables)).1 with
  | some message => exact ⟨rfl, rfl, rfl⟩
  | none =>
    cases hbody : x.body s.tables with
    | error e => exact ⟨rfl, rfl, rfl⟩
    | ok draft =>
      have hthrough := only_through (opened s.tables) (h.statements draft hbody)
      cases ha : draft.answer with
      | error e =>
        simp only [ha]
        exact ⟨rfl, rfl, rfl⟩
      | ok a =>
        simp only [ha]
        refine ⟨rfl, rfl, ?_⟩
        exact congrArg (TableStore.mk · s.refuses) (congrArg Connection.committed hthrough.symm)

theorem only_transact_other (hx : x.Tidy) (h : x.On id s.tables) {other : PodId}
    (hne : other ≠ id) : (s.transact x).store.only other = s.only other := by
  cases hanswer : (s.transact x).answer with
  | error e => rw [(transact_of_error hx hanswer).1]
  | ok a =>
    obtain ⟨draft, hbody, -, hstore, -⟩ := transact_of_ok hx hanswer
    have hthrough : ((opened s.tables).through draft.statements).only other =
        opened (s.tables.only other) :=
      only_through_other rfl (h.statements draft hbody) hne
    rw [hstore]
    exact congrArg (TableStore.mk · s.refuses) (congrArg Connection.committed hthrough)

theorem about_replacement (r : PodRecord) : ∀ st ∈ replacement r, st.About r.id := by
  intro st hst
  simp only [replacement, List.mem_append, List.mem_cons, List.not_mem_nil, or_false,
    List.mem_map] at hst
  rcases hst with ((rfl | rfl) | ⟨row, hrow, rfl⟩) | rfl
  · exact rfl
  · exact rfl
  · exact PodRecord.pod_of_mem_routeRows hrow
  · trivial

theorem on_change {t : Tables} (ht : t.Keyed) (time : String) (id : PodId) (u : Update) :
    (change time id u).On id t where
  body := by simp only [change, Tables.find_only]
  reads := List.forall_mem_singleton.2 rfl
  statements draft hbody := by
    cases hfind : t.find id with
    | error e =>
      simp only [change, hfind, bind, Except.bind] at hbody
      cases hbody
    | ok found =>
      cases found with
      | none =>
        rw [change_body_of_missing time hfind] at hbody
        cases hbody
      | some old =>
        obtain ⟨row, -, rfl, hrow⟩ := ht.of_find hfind
        have hid : (old.apply time u).id = row.id :=
          (old.samePod_apply time u).id.trans (Tables.recordOf_id hrow)
        cases hu : old.differs u with
        | false =>
          rw [change_body_unchanged time hfind hu] at hbody
          cases hbody
          exact List.forall_mem_nil _
        | true =>
          rw [change_body_of_find time hfind hu] at hbody
          cases hbody
          exact hid ▸ about_replacement (old.apply time u)

theorem on_deletion (t : Tables) (id : PodId) : (deletion id).On id t where
  body := by simp only [deletion, Tables.any_only]
  reads := List.forall_mem_nil _
  statements draft hbody := by
    simp only [deletion] at hbody
    split at hbody
    · cases hbody
      simp [Statement.About]
    · cases hbody
      simp [Statement.About]

theorem Guard.stops_only {st : Statement} (h : st.About id) (t : Tables) (g : Guard) :
    g.stops (t.only id) st = g.stops t st := by
  cases st with
  | updatePod id' columns =>
    obtain rfl : id' = id := h
    cases g with
    | podUpdate name => exact Tables.any_pods_only id' t (fun row ↦ row.name == name)
    | _ => rfl
  | deletePod id' =>
    obtain rfl : id' = id := h
    cases g with
    | podDelete name => exact Tables.any_pods_only id' t (fun row ↦ row.name == name)
    | _ => rfl
  | deleteRoutes id' =>
    obtain rfl : id' = id := h
    cases g with
    | routeDelete worker => exact Tables.any_routes_only id' t (fun route ↦ route.worker == worker)
    | _ => rfl
  | _ => cases g <;> rfl

theorem local_guarded (guards : List Guard) : (guarded guards).Local := by
  intro i id st t hst
  simp only [guarded, Guard.stops_only hst]

end TableStore

end PodInventory
