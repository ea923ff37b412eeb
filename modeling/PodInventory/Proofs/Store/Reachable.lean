import Mathlib.Data.List.Induction
import PodInventory.Proofs.Store.Holding

namespace PodInventory

theorem Represents.find_of_mem {t : Tables} {k : KeyedStore} (h : Represents t k) {r : PodRecord}
    (hr : r ∈ k.pods) : t.find r.id = .ok (some r) := by
  rw [h.find_eq]
  exact congrArg Except.ok (find?_eq_some_of_mem h.ids hr)

namespace TableStore

def reached (history : List (Refusal × Operation)) : Tables := (performUnder .empty history).2.1

theorem performUnder_append (t : Tables) (before later : List (Refusal × Operation)) :
    (performUnder t (before ++ later)).2.1 =
      (performUnder (performUnder t before).2.1 later).2.1 := by
  induction before generalizing t with
  | nil => rfl
  | cons step before ih => exact ih _

theorem reached_append_singleton (history : List (Refusal × Operation)) (refuses : Refusal)
    (o : Operation) :
    reached (history ++ [(refuses, o)]) =
      (o.perform (TableStore.mk (reached history) refuses)).store.tables :=
  performUnder_append _ _ _

/-- The last step of a history that changed what is stored of a pod handed out this record. -/
def LastChange (history : List (Refusal × Operation)) (id : PodId) (r : PodRecord) : Prop :=
  ∃ before refuses o later, history = before ++ (refuses, o) :: later ∧
    (o.perform (TableStore.mk (reached before) refuses)).answer.record? = some r ∧
    (reached before).find id ≠ .ok (some r) ∧
    ∀ n, (reached (before ++ (refuses, o) :: later.take n)).find id = .ok (some r)

section LastChange

variable {history : List (Refusal × Operation)} {refuses : Refusal} {o : Operation} {id : PodId}
  {r : PodRecord}

theorem lastChange_of_record
    (hrecord : (o.perform (TableStore.mk (reached history) refuses)).answer.record? = some r)
    (hbefore : (reached history).find id ≠ .ok (some r))
    (hafter : (reached (history ++ [(refuses, o)])).find id = .ok (some r)) :
    LastChange (history ++ [(refuses, o)]) id r := by
  refine ⟨history, refuses, o, [], rfl, hrecord, hbefore, fun n ↦ ?_⟩
  rw [List.take_nil]
  exact hafter

theorem LastChange.append (h : LastChange history id r) (step : Refusal × Operation)
    (hafter : (reached (history ++ [step])).find id = .ok (some r)) :
    LastChange (history ++ [step]) id r := by
  obtain ⟨before, refuses, o, later, rfl, hrecord, hbefore, hlater⟩ := h
  refine ⟨before, refuses, o, later ++ [step], by simp, hrecord, hbefore, fun n ↦ ?_⟩
  by_cases hn : n ≤ later.length
  · rw [List.take_append_of_le_length hn]
    exact hlater n
  · rw [List.take_of_length_le (by simp; omega)]
    simpa using hafter

theorem represents_reached (history : List (Refusal × Operation)) :
    ∃ k, Represents (reached history) k ∧ ∀ r ∈ k.pods, LastChange history r.id r := by
  induction history using List.reverseRecOn with
  | nil => exact ⟨.empty, .empty, fun r hr ↦ nomatch hr⟩
  | append_singleton history step ih =>
    obtain ⟨refuses, o⟩ := step
    obtain ⟨k, hk, hlast⟩ := ih
    -- A record that the step leaves alone was last changed when it was before.
    have hreached := reached_append_singleton history refuses o
    have hkept {k' : KeyedStore} (hs : Represents (reached (history ++ [(refuses, o)])) k')
        {r : PodRecord} (hr : r ∈ k.pods) (hr' : r ∈ k'.pods) :
        LastChange (history ++ [(refuses, o)]) r.id r :=
      (hlast r hr).append _ (hs.find_of_mem hr')
    cases TableStore.holding.effect (s := ⟨reached history, refuses⟩) hk o with
    | nothing hnothing hevents hs =>
      rw [← hreached] at hs
      exact ⟨k, hs, fun r hr ↦ hkept hs hr hr⟩
    | creates id time pod hwrite haccepted hname hrecord hevents hs =>
      rw [← hreached] at hs
      refine ⟨_, hs, fun r hr ↦ ?_⟩
      rcases List.mem_cons.1 hr with rfl | hr'
      · refine lastChange_of_record hrecord ?_ (hs.find_of_mem hr)
        intro hfind
        rw [hk.find_eq] at hfind
        have hstored := (KeyedStore.of_find?_eq_some (Except.ok.inj hfind)).1
        exact List.find?_eq_none.1 hname _ hstored (beq_self_eq_true _)
      · exact hkept hs (List.mem_filter.1 hr').1 hr
    | keeps time id u old hwrite haccepted hold hu hevents hs =>
      rw [← hreached] at hs
      exact ⟨k, hs, fun r hr ↦ hkept hs hr hr⟩
    | changes time id u old hwrite haccepted hold hu hrecord hevents hs =>
      rw [← hreached] at hs
      refine ⟨_, hs, fun r hr ↦ ?_⟩
      rcases List.mem_cons.1 hr with rfl | hr'
      · refine lastChange_of_record hrecord ?_ (hs.find_of_mem hr)
        obtain ⟨hmem, rfl⟩ := KeyedStore.of_find?_eq_some hold
        rw [(old.samePod_apply time u).id, hk.find_of_mem hmem]
        intro hsame
        exact old.apply_ne_self time hu (Option.some.inj (Except.ok.inj hsame)).symm
      · exact hkept hs (List.mem_filter.1 hr').1 hr
    | deletes id old hwrite haccepted hold hevents hs =>
      rw [← hreached] at hs
      exact ⟨_, hs, fun r hr ↦ hkept hs (List.mem_filter.1 hr).1 hr⟩

end LastChange

section Violation

variable {t : Tables} {k : KeyedStore}

theorem passes_of_answer {α : Type} {s : TableStore} {x : Transaction α} (hx : x.Tidy)
    (h : ∀ message, (s.transact x).answer ≠ .error (.internal message)) :
    ((Connection.opened s.tables).perform s.refuses 0 (x.script s.tables)).1 = none := by
  cases hperform : ((Connection.opened s.tables).perform s.refuses 0 (x.script s.tables)).1 with
  | none => rfl
  | some message =>
    have hanswer : (s.transact x).answer = .error (.internal message) := by
      rw [transact_eq hx, hperform]
    exact absurd hanswer (h message)

theorem violation?_of_represents (h : Represents t k) {w : Write}
    (hnew : ∀ id time pod, w = .create id time pod → k.find? id = none) {i : Nat} {st : Statement}
    (hst : (scriptOf t w)[i]? = some st) :
    st.violation? ((Connection.opened t).through ((scriptOf t w).take i)).working = none := by
  -- Where nothing else is refused, a broken key would show as an internal error in the answer. The
  -- same write of pods in memory has no such answer.
  have hs : (TableStore.mk t (fun _ _ _ ↦ none)).Stores k := ⟨fun _ _ _ ↦ rfl, h⟩
  have hpasses : ((Connection.opened t).perform (fun _ _ _ ↦ none) 0 (scriptOf t w)).1 = none := by
    cases w with
    | create id time pod =>
      refine passes_of_answer (s := ⟨t, fun _ _ _ ↦ none⟩) (tidy_creation id time pod) ?_
      intro message hanswer
      have hagrees := hs.create id time pod (fun _ ↦ hnew id time pod rfl)
      rw [← TableStore.create, hagrees.answer, KeyedStore.create] at hanswer
      split at hanswer <;> cases hanswer
    | apply time id u =>
      refine passes_of_answer (s := ⟨t, fun _ _ _ ↦ none⟩) (tidy_change time id u) ?_
      intro message hanswer
      have hagrees := hs.apply time id u
      rw [← TableStore.apply, hagrees.answer, KeyedStore.apply] at hanswer
      split at hanswer
      · cases hanswer
      · split at hanswer <;> cases hanswer
    | delete id =>
      refine passes_of_answer (s := ⟨t, fun _ _ _ ↦ none⟩) (tidy_deletion id) ?_
      intro message hanswer
      have hagrees := hs.delete id
      rw [← TableStore.delete, hagrees.answer, KeyedStore.delete] at hanswer
      split at hanswer <;> cases hanswer
  have hfailure := Connection.perform_eq_through_iff.1 hpasses i st hst
  exact (Option.or_eq_none_iff.1 hfailure).2

end Violation

section Conflict

variable {s : TableStore} {id : PodId} {time : String} {pod : NewPod}

theorem name_of_conflict {detail : String}
    (h : (s.create id time pod).answer = .error (.conflict detail)) :
    ∃ row ∈ s.tables.pods, row.name = pod.name := by
  rw [create, transact_eq (tidy_creation id time pod)] at h
  cases hperform : ((Connection.opened s.tables).perform s.refuses 0
      ((creation id time pod).script s.tables)).1 with
  | some message =>
    rw [hperform] at h
    cases h
  | none =>
    cases hbody : (creation id time pod).body s.tables with
    | error e => exact creation_error_iff.1 ⟨e, hbody⟩
    | ok draft =>
      have hok : ∃ r, draft.answer = .ok r := by
        simp only [creation] at hbody
        split at hbody
        · cases hbody
        · cases hbody
          exact ⟨_, rfl⟩
      obtain ⟨r, hr⟩ := hok
      simp only [hperform, hbody, hr] at h
      cases h

theorem conflict_of_name (h : ∃ row ∈ s.tables.pods, row.name = pod.name)
    (hbegin : s.refuses 0 .begin s.tables = none)
    (hlookUp : s.refuses 1 (.lookUpName pod.name) s.tables = none) :
    (s.create id time pod).answer = .error (.nameTaken pod.name) := by
  have hbody : (creation id time pod).body s.tables = .error (.nameTaken pod.name) :=
    if_pos (by simpa using h)
  have hpasses : ((Connection.opened s.tables).perform s.refuses 0
      ((creation id time pod).script s.tables)).1 = none := by
    rw [Transaction.script, hbody, List.append_nil, Connection.perform_cons_of_passes]
    · rw [creation, Connection.perform_cons_of_passes]
      · rfl
      · exact Option.or_eq_none_iff.2 ⟨hlookUp, rfl⟩
    · exact Option.or_eq_none_iff.2 ⟨hbegin, rfl⟩
  rw [create, transact_eq (tidy_creation id time pod), hpasses, hbody]

end Conflict

section Absent

variable {history : List (Refusal × Operation)} {id : PodId}

theorem absent_append_singleton (h : ∀ row ∈ (reached history).pods, row.id ≠ id)
    (refuses : Refusal) {o : Operation} (ho : ∀ time pod, o ≠ .create id time pod) :
    ∀ row ∈ (reached (history ++ [(refuses, o)])).pods, row.id ≠ id := by
  obtain ⟨k, hk, -⟩ := represents_reached history
  have habsent : ∀ r ∈ k.pods, r.id ≠ id :=
    fun r hr ↦ h _ (hk.pods.mem_iff.2 (List.mem_map_of_mem hr))
  have hrows {t : Tables} {k' : KeyedStore} (hs : Represents t k')
      (hk' : ∀ r ∈ k'.pods, r.id ≠ id) : ∀ row ∈ t.pods, row.id ≠ id := by
    intro row hrow
    obtain ⟨r, hr, rfl⟩ := List.mem_map.1 (hs.pods.mem_iff.1 hrow)
    exact hk' r hr
  rw [reached_append_singleton]
  cases TableStore.holding.effect (s := ⟨reached history, refuses⟩) hk o with
  | nothing hnothing hevents hs => exact hrows hs habsent
  | creates id' time pod hwrite haccepted hname hrecord hevents hs =>
    refine hrows hs (fun r hr ↦ ?_)
    rcases List.mem_cons.1 hr with rfl | hr
    · intro hid
      exact ho time pod (hid ▸ Operation.eq_create hwrite)
    · exact habsent r (List.mem_filter.1 hr).1
  | keeps time id' u old hwrite haccepted hold hu hevents hs => exact hrows hs habsent
  | changes time id' u old hwrite haccepted hold hu hrecord hevents hs =>
    refine hrows hs (fun r hr ↦ ?_)
    rcases List.mem_cons.1 hr with rfl | hr
    · rw [(old.samePod_apply time u).id]
      exact habsent old (KeyedStore.of_find?_eq_some hold).1
    · exact habsent r (List.mem_filter.1 hr).1
  | deletes id' old hwrite haccepted hold hevents hs =>
    exact hrows hs (fun r hr ↦ habsent r (List.mem_filter.1 hr).1)

theorem absent_append {later : List (Refusal × Operation)}
    (h : ∀ row ∈ (reached history).pods, row.id ≠ id)
    (hlater : ∀ refuses time pod, (refuses, .create id time pod) ∉ later) :
    ∀ row ∈ (reached (history ++ later)).pods, row.id ≠ id := by
  induction later generalizing history with
  | nil =>
    rw [List.append_nil]
    exact h
  | cons step later ih =>
    obtain ⟨refuses, o⟩ := step
    have hstep := absent_append_singleton h refuses
      (fun time pod heq ↦ hlater refuses time pod (heq ▸ List.mem_cons_self))
    rw [List.append_cons]
    exact ih hstep (fun refuses' time pod hmem ↦
      hlater refuses' time pod (List.mem_cons_of_mem _ hmem))

theorem absent_of_deleted {refuses : Refusal}
    (h : ((TableStore.mk (reached history) refuses).delete id).answer = .ok ()) :
    ∀ row ∈ (reached (history ++ [(refuses, .delete id)])).pods, row.id ≠ id := by
  intro row hrow
  rw [reached_append_singleton] at hrow
  have hstore := (delete_of_ok h).2
  have hdeleted : ((Operation.delete id).perform (TableStore.mk (reached history) refuses)).store =
      ((TableStore.mk (reached history) refuses).delete id).store := rfl
  rw [hdeleted, hstore] at hrow
  simpa using (List.mem_filter.1 hrow).2

end Absent

/-- Whatever is done to an empty database, and whatever it refuses, both tables keep their keys, and
the routes of a pod are those of the record that was handed out when it was last changed. No
statement of a write breaks a key, a create fails over its name just if a pod has that name, and
nothing is left of a pod that was deleted. -/
theorem reached_sound (history : List (Refusal × Operation)) :
    let t := reached history
    ((t.pods.map PodRow.id).Nodup ∧ (t.pods.map PodRow.name).Nodup ∧
      (∀ route ∈ t.routes, ∃ row ∈ t.pods, row.id = route.pod) ∧
      (t.routes.map (fun route ↦ (route.pod, route.worker))).Nodup) ∧
    (∀ row ∈ t.pods, ∃ r, LastChange history row.id r ∧
      ((t.routes.filter (fun route ↦ route.pod == row.id)).map RouteRow.worker).Perm
        r.routable.keys) ∧
    (∀ w : Write, (∀ id time pod, w = .create id time pod → ∀ row ∈ t.pods, row.id ≠ id) →
      ∀ (i : Nat) (st : Statement), (scriptOf t w)[i]? = some st →
        st.violation? ((Connection.opened t).through ((scriptOf t w).take i)).working = none) ∧
    (∀ refuses id time pod,
      (∀ detail, ((TableStore.mk t refuses).create id time pod).answer =
        .error (.conflict detail) → ∃ row ∈ t.pods, row.name = pod.name) ∧
      ((∃ row ∈ t.pods, row.name = pod.name) → refuses 0 .begin t = none →
        refuses 1 (.lookUpName pod.name) t = none →
        ((TableStore.mk t refuses).create id time pod).answer = .error (.nameTaken pod.name))) ∧
    (∀ before refuses id later, history = before ++ (refuses, .delete id) :: later →
      ((TableStore.mk (reached before) refuses).delete id).answer = .ok () →
      (∀ refuses' time pod, (refuses', .create id time pod) ∉ later) →
      (∀ row ∈ t.pods, row.id ≠ id) ∧ ∀ route ∈ t.routes, route.pod ≠ id) := by
  intro t
  obtain ⟨k, hk, hlast⟩ := represents_reached history
  have hkeyed := hk.keyed
  refine ⟨⟨hkeyed.ids, hkeyed.names, ?_, hkeyed.routes⟩, ?_, ?_, ?_, ?_⟩
  · intro route hroute
    exact List.mem_map.1 (hkeyed.owned route hroute)
  · intro row hrow
    obtain ⟨r, hr, rfl⟩ := List.mem_map.1 (hk.pods.mem_iff.1 hrow)
    refine ⟨r, hlast r hr, ?_⟩
    have hworkers : r.routeRows.map RouteRow.worker = r.routable.keys := by
      rw [PodRecord.routeRows, List.map_map]
      rfl
    have hroutes := (hk.routes_of_mem hr).map RouteRow.worker
    rw [hworkers] at hroutes
    exact hroutes
  · intro w hnew i st hst
    refine violation?_of_represents hk (fun id time pod hw ↦ ?_) hst
    refine List.find?_eq_none.2 (fun r hr heq ↦ ?_)
    have hrow : PodRow.ofRecord r ∈ t.pods := hk.pods.mem_iff.2 (List.mem_map_of_mem hr)
    exact hnew id time pod hw _ hrow (eq_of_beq heq)
  · intro refuses id time pod
    exact ⟨fun detail ↦ name_of_conflict, conflict_of_name (s := ⟨t, refuses⟩)⟩
  · rintro before refuses id later rfl hdeleted hlater
    have habsent := absent_append (absent_of_deleted hdeleted) hlater
    rw [List.append_assoc] at habsent
    refine ⟨habsent, fun route hroute hpod ↦ ?_⟩
    obtain ⟨row, hrow, hid⟩ := List.mem_map.1 (hkeyed.owned route hroute)
    exact habsent row hrow (hid.trans hpod)

end TableStore

end PodInventory
