import PodInventory.Pod.Record

namespace PodInventory.PodRecord

variable (r : PodRecord) (time : String) {u : Update}

theorem differs_eq_false_iff : r.differs u = false ↔ u = ⟨r.discovered, r.routable⟩ := by
  obtain ⟨discovered, routable⟩ := u
  simp only [differs, Bool.or_eq_false_iff, bne_eq_false_iff_eq, Update.mk.injEq]
  exact and_congr eq_comm eq_comm

theorem apply_unchanged (hu : r.differs u = false) : r.apply time u = r := by
  rw [apply, hu]
  rfl

theorem apply_changed (hu : r.differs u = true) :
    r.apply time u = { r with
      discovered := u.discovered
      routable := u.routable
      version := r.version + 1
      updatedAt := time } := by
  rw [apply, if_pos hu]

theorem apply_ne_self (hu : r.differs u = true) : r.apply time u ≠ r := by
  intro hsame
  have hversion := congrArg version hsame
  rw [r.apply_changed time hu] at hversion
  simp at hversion

/-- Whether or not an update brings anything new, its content is there afterwards. -/
theorem apply_content :
    (r.apply time u).discovered = u.discovered ∧ (r.apply time u).routable = u.routable := by
  cases hu : r.differs u with
  | false =>
    rw [r.apply_unchanged time hu, r.differs_eq_false_iff.1 hu]
    exact ⟨rfl, rfl⟩
  | true =>
    rw [r.apply_changed time hu]
    exact ⟨rfl, rfl⟩

theorem differs_apply (u : Update) : (r.apply time u).differs u = false := by
  obtain ⟨hdiscovered, hroutable⟩ := r.apply_content time (u := u)
  rw [differs_eq_false_iff, hdiscovered, hroutable]

/-- Two records of one pod, at whatever times: they agree on all that a discovery asks for. -/
structure SamePod (r r' : PodRecord) : Prop where
  id : r.id = r'.id
  name : r.name = r'.name
  kind : r.kind = r'.kind
  powerParameters : r.powerParameters = r'.powerParameters

theorem SamePod.refl (r : PodRecord) : r.SamePod r := ⟨rfl, rfl, rfl, rfl⟩

theorem SamePod.symm {r r' : PodRecord} (h : r.SamePod r') : r'.SamePod r :=
  ⟨h.id.symm, h.name.symm, h.kind.symm, h.powerParameters.symm⟩

theorem SamePod.trans {r r' r'' : PodRecord} (h : r.SamePod r') (h' : r'.SamePod r'') :
    r.SamePod r'' :=
  ⟨h.id.trans h'.id, h.name.trans h'.name, h.kind.trans h'.kind,
    h.powerParameters.trans h'.powerParameters⟩

theorem samePod_apply (u : Update) : (r.apply time u).SamePod r := by
  rw [apply]
  split
  · exact ⟨rfl, rfl, rfl, rfl⟩
  · exact .refl r

end PodInventory.PodRecord
