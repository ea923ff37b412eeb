import PodInventory.Proofs.Store.Laws

namespace PodInventory

namespace Operation

variable {σ : Type} [PodStore σ]

/-- What one operation can do to what a store finds under an id. -/
inductive Turn (s : σ) (o : Operation) (id : PodId) : Prop
  | keeps (h : PodStore.find (o.perform s).store id = PodStore.find s id)
  | creates (time : String) (pod : NewPod) (ho : o = .create id time pod)
    (h : PodStore.find (o.perform s).store id = .ok (some (.create id time pod)))
  | commits (time : String) (u : Update) (old : PodRecord) (ho : o.Commits s id u)
    (hold : PodStore.find s id = .ok (some old))
    (h : PodStore.find (o.perform s).store id = .ok (some (old.apply time u)))
  | deletes (ho : o = .delete id) (h : PodStore.find (o.perform s).store id = .ok none)

end Operation

namespace Lawful

open Operation

variable {σ : Type} [PodStore σ] {Sound : σ → Prop} (hσ : Lawful Sound) {s : σ} (h : Sound s)

include hσ h

theorem turn_of_update? {o : Operation} {id' : PodId} {u : Update}
    (ho : o.update? = some (id', u)) : Sound (o.perform s).store ∧ ∀ id, Turn s o id := by
  obtain ⟨time, hrecord, hstore⟩ := perform_of_update? ho s
  cases hanswer : (PodStore.apply s time id' u).answer with
  | error e =>
    obtain ⟨hsame, -⟩ := hσ.apply_error h hanswer
    have hkept : (o.perform s).store = s := hstore.trans hsame
    exact ⟨hkept.symm ▸ h, fun id ↦ .keeps (by rw [hkept])⟩
  | ok r =>
    obtain ⟨⟨old, hold, rfl⟩, hsound, hfind⟩ := hσ.apply_ok h hanswer
    refine ⟨hstore ▸ hsound, fun id ↦ ?_⟩
    have hafter := (congrArg (PodStore.find · id) hstore).trans (hfind id)
    by_cases hid : id = id'
    · subst hid
      refine .commits time u old ⟨ho, ?_⟩ hold (hafter.trans (if_pos rfl))
      rw [hrecord, hanswer]
      rfl
    · exact .keeps (hafter.trans (if_neg hid))

/-- Whatever an operation does, every pod takes one of four turns. -/
theorem turn (o : Operation) : Sound (o.perform s).store ∧ ∀ id, Turn s o id := by
  cases hupdate : o.update? with
  | some update => exact hσ.turn_of_update? h hupdate
  | none =>
    cases o with
    | create id' time pod =>
      have hstore : ((Operation.create id' time pod).perform s).store =
        (PodStore.create s id' time pod).store := rfl
      cases hanswer : (PodStore.create s id' time pod).answer with
      | error e =>
        have hkept := hstore.trans (hσ.create_error h hanswer).1
        exact ⟨hkept.symm ▸ h, fun id ↦ .keeps (by rw [hkept])⟩
      | ok r =>
        obtain ⟨rfl, hsound, hfind⟩ := hσ.create_ok h hanswer
        refine ⟨hsound, fun id ↦ ?_⟩
        by_cases hid : id = id'
        · subst hid
          exact .creates time pod rfl ((hfind id).trans (if_pos rfl))
        · exact .keeps ((hfind id).trans (if_neg hid))
    | delete id' =>
      have hstore : ((Operation.delete id').perform s).store = (PodStore.delete s id').store := rfl
      cases hanswer : (PodStore.delete s id').answer with
      | error e =>
        have hkept := hstore.trans (hσ.delete_error h hanswer).1
        exact ⟨hkept.symm ▸ h, fun id ↦ .keeps (by rw [hkept])⟩
      | ok r =>
        obtain ⟨-, hsound, hfind⟩ := hσ.delete_ok h hanswer
        refine ⟨hsound, fun id ↦ ?_⟩
        by_cases hid : id = id'
        · subst hid
          exact .deletes rfl ((hfind id).trans (if_pos rfl))
        · exact .keeps ((hfind id).trans (if_neg hid))
    | apply time id' u => cases hupdate
    | reconcile time pod result =>
      have hkept : ((Operation.reconcile time pod result).perform s).store = s :=
        Reconciled.write_of_none s time pod.id (Option.map_eq_none_iff.1 hupdate)
      exact ⟨hkept.symm ▸ h, fun id ↦ .keeps (by rw [hkept])⟩
    | commit time y =>
      have hkept : ((Operation.commit time y).perform s).store = s :=
        (y.commit_eq s time).2.1.trans
          (Reconciled.write_of_none s time y.pod.id (Option.map_eq_none_iff.1 hupdate))
      exact ⟨hkept.symm ▸ h, fun id ↦ .keeps (by rw [hkept])⟩
    | find id' => exact ⟨h, fun _ ↦ .keeps rfl⟩
    | findNamed name => exact ⟨h, fun _ ↦ .keeps rfl⟩
    | list => exact ⟨h, fun _ ↦ .keeps rfl⟩

/-- The record that an update hands out is what it has made of the record found. -/
theorem of_update? {o : Operation} {id : PodId} {u : Update} (ho : o.update? = some (id, u))
    {r : PodRecord} (hr : (o.perform s).answer.record? = some r) :
    ∃ time old, PodStore.find s id = .ok (some old) ∧ r = old.apply time u ∧
      PodStore.find (o.perform s).store id = .ok (some r) := by
  obtain ⟨time, hrecord, hstore⟩ := perform_of_update? ho s
  obtain ⟨⟨old, hold, heq⟩, -, hfind⟩ :=
    hσ.apply_ok h (eq_ok_of_toOption (hrecord.symm.trans hr))
  refine ⟨time, old, hold, heq, ?_⟩
  rw [hstore, hfind, if_pos rfl]

/-- An update that is taken can be read back, fields and routes alike. -/
theorem find_of_commits {o : Operation} {id : PodId} {u : Update} (ho : o.Commits s id u) :
    ∃ r, PodStore.find (o.perform s).store id = .ok (some r) ∧ r.discovered = u.discovered ∧
      r.routable = u.routable := by
  obtain ⟨r, hr⟩ := Option.isSome_iff_exists.1 ho.accepted
  obtain ⟨time, old, -, rfl, hfind⟩ := hσ.of_update? h ho.update hr
  exact ⟨old.apply time u, hfind, old.apply_content time⟩

/-- Whatever record an operation hands out, the store holds it then. -/
theorem find_of_record? {o : Operation} {r : PodRecord}
    (hr : (o.perform s).answer.record? = some r) :
    PodStore.find (o.perform s).store r.id = .ok (some r) := by
  cases ho : o.update? with
  | some update =>
    obtain ⟨id, u⟩ := update
    obtain ⟨-, -, -, -, hfind⟩ := hσ.of_update? h ho hr
    obtain rfl : r.id = id := hσ.find_id (hσ.turn h o).1 hfind
    exact hfind
  | none =>
    by_cases hcreate : ∃ id time pod, o = .create id time pod
    · obtain ⟨id, time, pod, rfl⟩ := hcreate
      obtain ⟨rfl, -, hfind⟩ := hσ.create_ok h (eq_ok_of_toOption hr)
      exact (hfind id).trans (if_pos rfl)
    · have hnone := record?_of_update?_none ho (by simpa using hcreate) s
      cases hnone.symm.trans hr

end Lawful

end PodInventory
