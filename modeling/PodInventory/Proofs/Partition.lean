import Mathlib.Data.List.Dedup
import PodInventory.Partition
import PodInventory.Proofs.Dict

namespace PodInventory

namespace Outcome

variable {α β : Type}

def success? (o : Outcome α) : Option α := o.toOption

def failure? : Outcome α → Option WorkerError
  | .ok _ => none
  | .error e => some e

end Outcome

namespace Partition

variable {α β : Type}

/-- The outcome under an id, if there is one. -/
def get? (p : Partition α) (id : WorkerId) : Option (Outcome α) :=
  match p.succeeded.get? id with
  | some a => some (.ok a)
  | none => (p.failed.get? id).map .error

/-- No id among both the successes and the failures. -/
def Disjoint (p : Partition α) : Prop :=
  ∀ id, p.succeeded.get? id = none ∨ p.failed.get? id = none

theorem get?_record (p : Partition α) (id : WorkerId) (o : Outcome α) (id' : WorkerId) :
    (p.record id o).get? id' = if id' = id then some o else p.get? id' := by
  by_cases hid : id' = id
  · cases o <;> simp [record, get?, Dict.get?_erase, hid]
  · cases o <;> simp [record, get?, Dict.get?_insert, Dict.get?_erase, hid]

theorem disjoint_record {p : Partition α} (h : p.Disjoint) (id : WorkerId) (o : Outcome α) :
    (p.record id o).Disjoint := by
  intro id'
  by_cases hid : id' = id
  · cases o with
    | ok a => exact .inr (by simp only [record, Dict.get?_erase, if_pos hid])
    | error e => exact .inl (by simp only [record, Dict.get?_erase, if_pos hid])
  · cases o with
    | ok a => simpa only [record, Dict.get?_insert, Dict.get?_erase, if_neg hid] using h id'
    | error e => simpa only [record, Dict.get?_insert, Dict.get?_erase, if_neg hid] using h id'

theorem get?_foldl_record (l : List (WorkerId × Outcome α)) (p : Partition α) (id : WorkerId) :
    (l.foldl (fun p o ↦ p.record o.1 o.2) p).get? id = (l.reverse.lookup id).or (p.get? id) := by
  induction l generalizing p with
  | nil => rfl
  | cons o l ih =>
    rw [List.foldl_cons, ih, get?_record, List.reverse_cons, List.lookup_append, Option.or_assoc]
    congr 1
    rw [List.lookup_cons]
    by_cases h : id = o.1
    · simp [h]
    · simp [h, beq_eq_false_iff_ne.2 h]

/-- Of all outcomes of a worker the last one stays. -/
theorem get?_ofOutcomes (l : List (WorkerId × Outcome α)) (id : WorkerId) :
    (ofOutcomes l).get? id = l.reverse.lookup id := by
  rw [ofOutcomes, get?_foldl_record]
  exact Option.or_none

theorem disjoint_ofOutcomes (l : List (WorkerId × Outcome α)) : (ofOutcomes l).Disjoint := by
  have hfold : ∀ (l : List (WorkerId × Outcome α)) (p : Partition α), p.Disjoint →
      (l.foldl (fun p o ↦ p.record o.1 o.2) p).Disjoint := by
    intro l
    induction l with
    | nil => exact fun _ h ↦ h
    | cons o l ih => exact fun p h ↦ ih _ (disjoint_record h o.1 o.2)
  exact hfold l empty (fun _ ↦ .inl rfl)

theorem get?_eq_ok_iff {p : Partition α} {id : WorkerId} {a : α} :
    p.get? id = some (.ok a) ↔ p.succeeded.get? id = some a := by
  unfold get?
  cases h : p.succeeded.get? id with
  | some b => simp
  | none => cases p.failed.get? id <;> simp

theorem get?_eq_error_iff {p : Partition α} (hp : p.Disjoint) {id : WorkerId} {e : WorkerError} :
    p.get? id = some (.error e) ↔ p.failed.get? id = some e := by
  unfold get?
  cases h : p.succeeded.get? id with
  | some b =>
    have hnone := (hp id).resolve_left (by simp [h])
    simp [hnone]
  | none => cases p.failed.get? id <;> simp

/-- A partition is what it answers. -/
theorem ext_get? {p q : Partition α} (hp : p.Disjoint) (hq : q.Disjoint)
    (h : ∀ id, p.get? id = q.get? id) : p = q := by
  have hsucceeded : p.succeeded = q.succeeded := by
    refine Dict.ext_get? (fun id ↦ ?_)
    ext a
    rw [← get?_eq_ok_iff, ← get?_eq_ok_iff, h]
  have hfailed : p.failed = q.failed := by
    refine Dict.ext_get? (fun id ↦ ?_)
    ext e
    rw [← get?_eq_error_iff hp, ← get?_eq_error_iff hq, h]
  cases p
  cases q
  cases hsucceeded
  cases hfailed
  rfl

/-- With one outcome for each worker their order does not matter. -/
theorem ofOutcomes_perm {l l' : List (WorkerId × Outcome α)} (h : l.Perm l')
    (hl : (l.map Prod.fst).Nodup) : ofOutcomes l = ofOutcomes l' := by
  have hnodup {m : List (WorkerId × Outcome α)} (hm : m.Perm l) :
      (m.reverse.map Prod.fst).Nodup :=
    (((List.reverse_perm m).trans hm).map Prod.fst).nodup_iff.2 hl
  refine ext_get? (disjoint_ofOutcomes l) (disjoint_ofOutcomes l') (fun id ↦ ?_)
  rw [get?_ofOutcomes, get?_ofOutcomes]
  ext o
  rw [Dict.lookup_eq_some_iff_mem (hnodup (.refl l)), Dict.lookup_eq_some_iff_mem (hnodup h.symm),
    List.mem_reverse, List.mem_reverse, h.mem_iff]

/-- All ids, those of successes first. -/
def ids (p : Partition α) : List WorkerId := p.succeeded.keys ++ p.failed.keys

theorem mem_ids_iff {p : Partition α} {id : WorkerId} : id ∈ p.ids ↔ ∃ o, p.get? id = some o := by
  rw [ids, List.mem_append, Dict.mem_keys_iff, Dict.mem_keys_iff, get?]
  cases p.succeeded.get? id with
  | some a => simp
  | none => cases p.failed.get? id <;> simp

theorem nodup_ids {p : Partition α} (hp : p.Disjoint) : p.ids.Nodup := by
  have hkeys {γ : Type} (d : Dict γ) : d.keys.Nodup := Dict.nodup_fst_of_ascending d.ascending
  refine List.nodup_append.2 ⟨hkeys p.succeeded, hkeys p.failed, ?_⟩
  rintro id hid _ hid' rfl
  obtain ⟨a, ha⟩ := Dict.mem_keys_iff.1 hid
  obtain ⟨e, he⟩ := Dict.mem_keys_iff.1 hid'
  rcases hp id with h | h
  · cases h.symm.trans ha
  · cases h.symm.trans he

theorem contains_iff {p : Partition α} {id : WorkerId} : p.contains id = true ↔ id ∈ p.ids := by
  rw [contains, Bool.or_eq_true, ids, List.mem_append, Dict.mem_keys_iff, Dict.mem_keys_iff]
  exact or_congr Option.isSome_iff_exists Option.isSome_iff_exists

theorem size_eq (p : Partition α) : p.size = p.ids.length := by
  simp [size, ids, Dict.size, Dict.keys]

theorem mem_ids_ofOutcomes {l : List (WorkerId × Outcome α)} {id : WorkerId} :
    id ∈ (ofOutcomes l).ids ↔ id ∈ l.map Prod.fst := by
  rw [mem_ids_iff, get?_ofOutcomes, ← Option.isSome_iff_exists, Dict.isSome_lookup_iff,
    List.map_reverse, List.mem_reverse]

theorem ids_ofOutcomes_perm (l : List (WorkerId × Outcome α)) :
    (ofOutcomes l).ids.Perm (l.map Prod.fst).dedup := by
  refine (List.perm_ext_iff_of_nodup (nodup_ids (disjoint_ofOutcomes l)) (List.nodup_dedup _)).2 ?_
  intro id
  rw [mem_ids_ofOutcomes, List.mem_dedup]

theorem get?_ofOutcomes_of_last {before after : List (WorkerId × Outcome α)} {id : WorkerId}
    (o : Outcome α) (h : id ∉ after.map Prod.fst) :
    (ofOutcomes (before ++ (id, o) :: after)).get? id = some o := by
  have hnone : after.reverse.lookup id = none := by
    rw [← Option.not_isSome_iff_eq_none, Dict.isSome_lookup_iff, List.map_reverse, List.mem_reverse]
    exact h
  rw [get?_ofOutcomes, List.reverse_append, List.reverse_cons, List.append_assoc,
    List.lookup_append, hnone, Option.none_or, List.singleton_append, List.lookup_cons_self]

/-- Converts one success among others that came before. -/
def convertInto (convert : α → Outcome β) (q : Partition β) (e : WorkerId × α) : Partition β :=
  match convert e.2 with
  | .ok b => ⟨q.succeeded.insert e.1 b, q.failed⟩
  | .error err => ⟨q.succeeded, q.failed.insert e.1 err⟩

theorem get?_convertInto (convert : α → Outcome β) (q : Partition β) (e : WorkerId × α)
    (id : WorkerId) :
    ((convertInto convert q e).succeeded.get? id =
      if id = e.1 then (convert e.2).success?.or (q.succeeded.get? id)
      else q.succeeded.get? id) ∧
    ((convertInto convert q e).failed.get? id =
      if id = e.1 then (convert e.2).failure?.or (q.failed.get? id) else q.failed.get? id) := by
  unfold convertInto
  cases convert e.2 with
  | ok b =>
    refine ⟨(Dict.get?_insert _ _ _ _).trans rfl, ?_⟩
    exact (ite_self _).symm
  | error err =>
    refine ⟨?_, (Dict.get?_insert _ _ _ _).trans rfl⟩
    exact (ite_self _).symm

/-- Conversions of different workers do not get in each other's way. -/
theorem get?_foldl_convertInto (convert : α → Outcome β) (l : List (WorkerId × α))
    (hl : (l.map Prod.fst).Nodup) (q : Partition β) (id : WorkerId) :
    ((l.foldl (convertInto convert) q).succeeded.get? id =
      ((l.lookup id).bind (fun a ↦ (convert a).success?)).or (q.succeeded.get? id)) ∧
    ((l.foldl (convertInto convert) q).failed.get? id =
      ((l.lookup id).bind (fun a ↦ (convert a).failure?)).or (q.failed.get? id)) := by
  induction l generalizing q with
  | nil => exact ⟨rfl, rfl⟩
  | cons e l ih =>
    obtain ⟨hnew, hl⟩ := List.nodup_cons.1 (by simpa only [List.map_cons] using hl)
    obtain ⟨hsucceeded, hfailed⟩ := ih hl (convertInto convert q e)
    obtain ⟨hsucceeded', hfailed'⟩ := get?_convertInto convert q e id
    rw [List.foldl_cons, hsucceeded, hfailed, hsucceeded', hfailed', List.lookup_cons]
    by_cases hid : id = e.1
    · have hnone : l.lookup id = none := by
        rw [← Option.not_isSome_iff_eq_none, Dict.isSome_lookup_iff, hid]
        exact hnew
      simp [hid, hid ▸ hnone]
    · simp [hid, beq_eq_false_iff_ne.2 hid]

theorem get?_tryMap_sides (convert : α → Outcome β) (p : Partition α) (id : WorkerId) :
    ((p.tryMap convert).succeeded.get? id =
      (p.succeeded.get? id).bind (fun a ↦ (convert a).success?)) ∧
    ((p.tryMap convert).failed.get? id =
      ((p.succeeded.get? id).bind (fun a ↦ (convert a).failure?)).or (p.failed.get? id)) := by
  obtain ⟨hsucceeded, hfailed⟩ := get?_foldl_convertInto convert p.succeeded.entries
    (Dict.nodup_fst_of_ascending p.succeeded.ascending) ⟨∅, p.failed⟩ id
  exact ⟨hsucceeded.trans Option.or_none, hfailed⟩

theorem disjoint_tryMap {p : Partition α} (hp : p.Disjoint) (convert : α → Outcome β) :
    (p.tryMap convert).Disjoint := by
  intro id
  obtain ⟨hsucceeded, hfailed⟩ := get?_tryMap_sides convert p id
  rw [hsucceeded, hfailed]
  cases ha : p.succeeded.get? id with
  | none => exact .inl rfl
  | some a =>
    have hnone := (hp id).resolve_left (by simp [ha])
    cases hb : convert a with
    | ok b => exact .inr (by simp [hb, Outcome.failure?, hnone])
    | error e => exact .inl (by simp [hb, Outcome.success?, Except.toOption])

/-- A conversion acts on the outcome of each worker by itself. -/
theorem get?_tryMap {p : Partition α} (hp : p.Disjoint) (convert : α → Outcome β)
    (id : WorkerId) : (p.tryMap convert).get? id = (p.get? id).map (·.bind convert) := by
  obtain ⟨hsucceeded, hfailed⟩ := get?_tryMap_sides convert p id
  rw [get?, hsucceeded, hfailed, get?]
  cases ha : p.succeeded.get? id with
  | none => cases he : p.failed.get? id <;> simp [Except.bind]
  | some a =>
    have hnone := (hp id).resolve_left (by simp [ha])
    cases hb : convert a <;> simp [hb, hnone, Outcome.success?, Outcome.failure?, Except.toOption,
      Except.bind]

theorem tryMap_ofOutcomes (convert : α → Outcome β) (l : List (WorkerId × Outcome α)) :
    (ofOutcomes l).tryMap convert = ofOutcomes (l.map (fun e ↦ (e.1, e.2.bind convert))) := by
  refine ext_get? (disjoint_tryMap (disjoint_ofOutcomes l) convert) (disjoint_ofOutcomes _)
    (fun id ↦ ?_)
  rw [get?_tryMap (disjoint_ofOutcomes l), get?_ofOutcomes, get?_ofOutcomes, ← List.map_reverse]
  exact (Dict.lookup_map_snd (·.bind convert) l.reverse id).symm

section TryMap

variable {p : Partition α} (hp : p.Disjoint) (convert : α → Outcome β) {id : WorkerId}

include hp

theorem mem_ids_tryMap : id ∈ (p.tryMap convert).ids ↔ id ∈ p.ids := by
  rw [mem_ids_iff, mem_ids_iff, get?_tryMap hp, ← Option.isSome_iff_exists,
    ← Option.isSome_iff_exists, Option.isSome_map]

theorem failed_tryMap {e : WorkerError} (h : p.failed.get? id = some e) :
    (p.tryMap convert).failed.get? id = some e := by
  have hnone := (hp id).resolve_right (by simp [h])
  rw [(get?_tryMap_sides convert p id).2, hnone, Option.bind_none, Option.none_or, h]

end TryMap

/-- Outcomes are sorted by the last one of each worker, in whatever order those of different workers
come, and converting what was sorted is the same as sorting what was converted. -/
theorem ofOutcomes_laws (l : List (WorkerId × Outcome α)) :
    let p := ofOutcomes l
    ((∀ id, p.succeeded.get? id = none ∨ p.failed.get? id = none) ∧
      (p.succeeded.keys ++ p.failed.keys).Perm (l.map Prod.fst).dedup ∧
      (∀ before id o after, l = before ++ (id, o) :: after → id ∉ after.map Prod.fst →
        (∀ a, o = .ok a → p.succeeded.get? id = some a) ∧
          ∀ e, o = .error e → p.failed.get? id = some e)) ∧
    (p.size = (l.map Prod.fst).dedup.length ∧
      ∀ id, p.contains id = true ↔ id ∈ l.map Prod.fst) ∧
    (∀ l', l'.Perm l → (l.map Prod.fst).Nodup → ofOutcomes l' = p) ∧
    ∀ (β : Type) (convert : α → Outcome β),
      p.tryMap convert = ofOutcomes (l.map (fun e ↦ (e.1, e.2.bind convert))) ∧
        (∀ id, (p.tryMap convert).succeeded.get? id = none ∨
          (p.tryMap convert).failed.get? id = none) ∧
        (∀ id, (p.tryMap convert).contains id = p.contains id) ∧
        ∀ id e, p.failed.get? id = some e → (p.tryMap convert).failed.get? id = some e := by
  intro p
  have hp : p.Disjoint := disjoint_ofOutcomes l
  have hids : p.ids.Perm (l.map Prod.fst).dedup := ids_ofOutcomes_perm l
  refine ⟨⟨hp, hids, ?_⟩, ⟨?_, fun id ↦ ?_⟩, ?_, fun β convert ↦ ⟨?_, ?_, fun id ↦ ?_, ?_⟩⟩
  · rintro before id o after rfl hlast
    have hget : p.get? id = some o := get?_ofOutcomes_of_last o hlast
    refine ⟨?_, ?_⟩
    · rintro a rfl
      exact get?_eq_ok_iff.1 hget
    · rintro e rfl
      exact (get?_eq_error_iff hp).1 hget
  · rw [size_eq, hids.length_eq]
  · rw [contains_iff, mem_ids_ofOutcomes]
  · exact fun l' hperm hnodup ↦ (ofOutcomes_perm hperm.symm hnodup).symm
  · exact tryMap_ofOutcomes convert l
  · exact disjoint_tryMap hp convert
  · rw [Bool.eq_iff_iff, contains_iff, contains_iff, mem_ids_tryMap hp convert]
  · exact fun id e h ↦ failed_tryMap hp convert h

end Partition

end PodInventory
