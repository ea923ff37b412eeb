import PodInventory.Dict
import Mathlib.Data.List.Nodup
import Mathlib.Data.List.Sort

namespace PodInventory.Dict

variable {α β : Type}

theorem nodup_fst_of_ascending {l : List (String × α)} (h : l.Pairwise (fun a b ↦ a.1 < b.1)) :
    (l.map Prod.fst).Nodup :=
  List.pairwise_map.2 (h.imp String.ne_of_lt)

/-- With distinct keys a lookup finds every entry. -/
theorem lookup_eq_some_iff_mem {κ : Type} [BEq κ] [LawfulBEq κ] {l : List (κ × α)}
    (h : (l.map Prod.fst).Nodup) {k : κ} {v : α} : l.lookup k = some v ↔ (k, v) ∈ l := by
  induction l with
  | nil => simp
  | cons e l ih =>
    obtain ⟨he, hl⟩ := List.nodup_cons.1 (by simpa only [List.map_cons] using h)
    rw [List.lookup_cons, List.mem_cons]
    by_cases hk : k = e.1
    · subst hk
      have hv : (e.1, v) ∉ l := fun hm ↦ he (List.mem_map.2 ⟨_, hm, rfl⟩)
      simp only [beq_self_eq_true, Option.some.injEq, hv, or_false]
      exact ⟨fun h ↦ h ▸ rfl, fun h ↦ (congrArg Prod.snd h).symm⟩
    · have hne : (k, v) ≠ e := fun h ↦ hk (congrArg Prod.fst h)
      simp only [beq_eq_false_iff_ne.2 hk, hne, false_or]
      exact ih hl

theorem get?_eq_some_iff {d : Dict α} {k : String} {v : α} :
    d.get? k = some v ↔ (k, v) ∈ d.entries :=
  lookup_eq_some_iff_mem (nodup_fst_of_ascending d.ascending)

theorem nodup_entries (d : Dict α) : d.entries.Nodup :=
  (nodup_fst_of_ascending d.ascending).of_map _

theorem entries_injective {d e : Dict α} (h : d.entries = e.entries) : d = e := by
  cases d
  cases e
  cases h
  rfl

/-- A dictionary is what it answers. -/
theorem ext_get? {d e : Dict α} (h : ∀ k, d.get? k = e.get? k) : d = e := by
  apply entries_injective
  have hp : d.entries.Perm e.entries := by
    rw [List.perm_ext_iff_of_nodup d.nodup_entries e.nodup_entries]
    intro entry
    obtain ⟨k, v⟩ := entry
    rw [← get?_eq_some_iff, ← get?_eq_some_iff, h k]
  exact hp.eq_of_pairwise (fun a b _ _ hab hba ↦ absurd hba (String.lt_asymm hab))
    d.ascending e.ascending

@[simp] theorem get?_empty (k : String) : (∅ : Dict α).get? k = none := rfl

theorem lookup_place (k : String) (v : α) (l : List (String × α)) (k' : String) :
    (place k v l).lookup k' = if k' = k then some v else l.lookup k' := by
  induction l with
  | nil =>
    simp only [place, List.lookup_cons, List.lookup_nil]
    split <;> simp_all
  | cons e l ih =>
    simp only [place]
    split
    · rw [List.lookup_cons]
      split <;> simp_all
    · split
      · rename_i _ he
        subst he
        rw [List.lookup_cons, List.lookup_cons]
        split <;> simp_all
      · rename_i _ he
        rw [List.lookup_cons, List.lookup_cons, ih]
        split <;> grind

theorem get?_insert (d : Dict α) (k : String) (v : α) (k' : String) :
    (d.insert k v).get? k' = if k' = k then some v else d.get? k' :=
  lookup_place k v d.entries k'

@[simp] theorem get?_insert_self (d : Dict α) (k : String) (v : α) :
    (d.insert k v).get? k = some v := by rw [get?_insert, if_pos rfl]

theorem get?_filter (p : String → α → Bool) (d : Dict α) (k : String) :
    (d.filter p).get? k = (d.get? k).filter (p k) := by
  ext v
  rw [get?_eq_some_iff, Option.filter_eq_some_iff, get?_eq_some_iff]
  exact List.mem_filter

theorem get?_erase (d : Dict α) (k k' : String) :
    (d.erase k).get? k' = if k' = k then none else d.get? k' := by
  rw [erase, get?_filter]
  by_cases h : k' = k
  · subst h
    cases d.get? k' <;> simp
  · cases d.get? k' <;> simp [h]

/-- A key is looked up with success just if some entry has it. -/
theorem isSome_lookup_iff {l : List (String × α)} {k : String} :
    (l.lookup k).isSome = true ↔ k ∈ l.map Prod.fst := by
  rw [List.lookup_isSome_iff, List.mem_map]
  simp only [beq_iff_eq, @eq_comm _ k]

/-- The values of a list of entries can be changed before one is looked up or after. -/
theorem lookup_map_snd (f : α → β) (l : List (String × α)) (k : String) :
    (l.map (fun e ↦ (e.1, f e.2))).lookup k = (l.lookup k).map f := by
  induction l with
  | nil => rfl
  | cons e l ih =>
    rw [List.map_cons, List.lookup_cons, List.lookup_cons, ih]
    cases k == e.1 <;> rfl

theorem get?_map (f : α → β) (d : Dict α) (k : String) : (d.map f).get? k = (d.get? k).map f :=
  lookup_map_snd f d.entries k

/-- Entries that are inserted one after the other: the last one with a key counts. -/
theorem get?_foldl_insert (l : List (String × α)) (d : Dict α) (k : String) :
    (l.foldl (fun d e ↦ d.insert e.1 e.2) d).get? k = (l.reverse.lookup k).or (d.get? k) := by
  induction l generalizing d with
  | nil => rfl
  | cons e l ih =>
    rw [List.foldl_cons, ih, get?_insert, List.reverse_cons, List.lookup_append, Option.or_assoc]
    congr 1
    rw [List.lookup_cons, List.lookup_nil]
    by_cases h : k = e.1
    · simp [h]
    · simp [h, beq_eq_false_iff_ne.2 h]

theorem get?_ofList (l : List (String × α)) (k : String) :
    (ofList l).get? k = l.reverse.lookup k := by
  rw [ofList, get?_foldl_insert]
  exact Option.or_none

theorem get?_insertAll (d e : Dict α) (k : String) :
    (d.insertAll e).get? k = (e.get? k).or (d.get? k) := by
  have hnodup : (e.entries.reverse.map Prod.fst).Nodup := by
    rw [List.map_reverse, List.nodup_reverse]
    exact nodup_fst_of_ascending e.ascending
  rw [insertAll, get?_foldl_insert]
  congr 1
  ext v
  rw [lookup_eq_some_iff_mem hnodup, List.mem_reverse, get?_eq_some_iff]

/-- The order of entries does not matter as long as their keys are distinct. -/
theorem ofList_perm {l l' : List (String × α)} (h : l.Perm l') (hl : (l.map Prod.fst).Nodup) :
    ofList l = ofList l' := by
  have hnodup {m : List (String × α)} (hm : m.Perm l) : (m.reverse.map Prod.fst).Nodup :=
    (((List.reverse_perm m).trans hm).map Prod.fst).nodup_iff.2 hl
  refine ext_get? (fun k ↦ ?_)
  rw [get?_ofList, get?_ofList]
  ext v
  rw [lookup_eq_some_iff_mem (hnodup (.refl l)), lookup_eq_some_iff_mem (hnodup h.symm),
    List.mem_reverse, List.mem_reverse, h.mem_iff]

theorem entries_ofList_perm {l : List (String × α)} (hl : (l.map Prod.fst).Nodup) :
    (ofList l).entries.Perm l := by
  have hnodup : (l.reverse.map Prod.fst).Nodup := by
    rw [List.map_reverse, List.nodup_reverse]
    exact hl
  rw [List.perm_ext_iff_of_nodup (ofList l).nodup_entries (hl.of_map _)]
  intro e
  rw [← Prod.mk.eta (p := e), ← get?_eq_some_iff, get?_ofList, lookup_eq_some_iff_mem hnodup,
    List.mem_reverse]

theorem ofList_entries (d : Dict α) : ofList d.entries = d := by
  have hnodup : (d.entries.reverse.map Prod.fst).Nodup := by
    rw [List.map_reverse, List.nodup_reverse]
    exact nodup_fst_of_ascending d.ascending
  refine ext_get? (fun k ↦ ?_)
  rw [get?_ofList]
  ext v
  rw [lookup_eq_some_iff_mem hnodup, List.mem_reverse, get?_eq_some_iff]

theorem mem_keys_iff {d : Dict α} {k : String} : k ∈ d.keys ↔ ∃ v, d.get? k = some v := by
  simp only [keys, List.mem_map, get?_eq_some_iff]
  constructor
  · intro hex
    obtain ⟨⟨k', v⟩, h, rfl⟩ := hex
    exact ⟨v, h⟩
  · intro hex
    obtain ⟨v, h⟩ := hex
    exact ⟨(k, v), h, rfl⟩

/-- The first entry is the one with the lowest key. -/
theorem first?_eq_some_iff {d : Dict α} {k : String} {v : α} :
    d.first? = some (k, v) ↔ d.get? k = some v ∧ ∀ k' ∈ d.keys, k ≤ k' := by
  obtain ⟨l, hl⟩ := d
  simp only [get?_eq_some_iff, first?, keys]
  cases l with
  | nil => simp
  | cons e l =>
    obtain ⟨he, -⟩ := List.pairwise_cons.1 hl
    simp only [List.head?_cons, Option.some.injEq, List.mem_cons]
    constructor
    · rintro rfl
      refine ⟨.inl rfl, fun k' hk' ↦ ?_⟩
      obtain ⟨e', he', rfl⟩ := List.mem_map.1 hk'
      rcases List.mem_cons.1 he' with rfl | he'
      · exact String.le_refl _
      · exact Std.le_of_lt (he e' he')
    · intro hex
      obtain ⟨h | h, hlow⟩ := hex
      · exact h.symm
      · have hle : k ≤ e.1 := hlow e.1 (by simp)
        exact absurd (he _ h) (String.not_lt.2 hle)

theorem first?_eq_none_iff {d : Dict α} : d.first? = none ↔ ∀ k, d.get? k = none := by
  rw [first?, List.head?_eq_none_iff]
  constructor
  · intro h k
    rw [get?, h, List.lookup_nil]
  · intro h
    have hd : d = ∅ := ext_get? (fun k ↦ by rw [h k, get?_empty])
    rw [hd]
    rfl

end PodInventory.Dict
