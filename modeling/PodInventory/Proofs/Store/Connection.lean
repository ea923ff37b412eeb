import PodInventory.Proofs.Store.Query

namespace PodInventory

namespace Statement

/-- The statements that only look something up. -/
def LooksUp : Statement → Prop
  | .lookUpName _ | .lookUpPod _ => True
  | _ => False

variable {t : Tables}

theorem insertPod_keyed (ht : t.Keyed) {row : PodRow}
    (h : (insertPod row).violation? t = none) : ((insertPod row).effect t).Keyed := by
  simp only [violation?] at h
  split at h
  · cases h
  rename_i hid
  split at h
  · cases h
  rename_i hname
  simp only [List.any_eq_true, beq_iff_eq, not_exists, not_and] at hid hname
  refine ⟨?_, ?_, ht.routes, fun r hr ↦ ?_⟩
  · rw [effect, List.map_append, List.nodup_append]
    refine ⟨ht.ids, List.nodup_singleton _, fun a ha b hb ↦ ?_⟩
    obtain ⟨other, hother, rfl⟩ := List.mem_map.1 ha
    obtain rfl := List.mem_singleton.1 hb
    exact hid other hother
  · rw [effect, List.map_append, List.nodup_append]
    refine ⟨ht.names, List.nodup_singleton _, fun a ha b hb ↦ ?_⟩
    obtain ⟨other, hother, rfl⟩ := List.mem_map.1 ha
    obtain rfl := List.mem_singleton.1 hb
    exact hname other hother
  · rw [effect, List.map_append]
    exact List.mem_append_left _ (ht.owned r hr)

theorem insertRoute_keyed (ht : t.Keyed) {row : RouteRow}
    (h : (insertRoute row).violation? t = none) : ((insertRoute row).effect t).Keyed := by
  simp only [violation?] at h
  split at h
  · cases h
  rename_i hpair
  split at h
  · cases h
  rename_i howner
  simp only [List.any_eq_true, Bool.and_eq_true, beq_iff_eq, not_exists, not_and] at hpair
  simp only [Bool.not_eq_true', Bool.not_eq_false, List.any_eq_true, beq_iff_eq] at howner
  refine ⟨ht.ids, ht.names, ?_, fun r hr ↦ ?_⟩
  · rw [effect, List.map_append, List.nodup_append]
    refine ⟨ht.routes, List.nodup_singleton _, fun a ha b hb ↦ ?_⟩
    obtain ⟨other, hother, rfl⟩ := List.mem_map.1 ha
    obtain rfl := List.mem_singleton.1 hb
    exact fun heq ↦ hpair other hother (Prod.ext_iff.1 heq).1 (Prod.ext_iff.1 heq).2
  · rcases List.mem_append.1 hr with hr | hr
    · exact ht.owned r hr
    · obtain rfl := List.mem_singleton.1 hr
      obtain ⟨pod, hpod, heq⟩ := howner
      exact heq ▸ List.mem_map_of_mem hpod

theorem map_id_updatePod (t : Tables) (id : PodId) (columns : Discovered) :
    ((updatePod id columns).effect t).pods.map PodRow.id = t.pods.map PodRow.id ∧
      ((updatePod id columns).effect t).pods.map PodRow.name = t.pods.map PodRow.name := by
  simp only [effect, List.map_map]
  constructor
  · refine List.map_congr_left (fun row _ ↦ ?_)
    simp only [Function.comp_apply]
    split <;> rfl
  · refine List.map_congr_left (fun row _ ↦ ?_)
    simp only [Function.comp_apply]
    split <;> rfl

theorem updatePod_keyed (ht : t.Keyed) (id : PodId) (columns : Discovered) :
    ((updatePod id columns).effect t).Keyed := by
  obtain ⟨hids, hnames⟩ := map_id_updatePod t id columns
  exact ⟨hids ▸ ht.ids, hnames ▸ ht.names, ht.routes, fun r hr ↦ hids ▸ ht.owned r hr⟩

theorem deletePod_keyed (ht : t.Keyed) (id : PodId) : ((deletePod id).effect t).Keyed where
  ids := ht.ids.sublist (List.filter_sublist.map _)
  names := ht.names.sublist (List.filter_sublist.map _)
  routes := ht.routes.sublist (List.filter_sublist.map _)
  owned r hr := by
    obtain ⟨hr, hne⟩ := List.mem_filter.1 hr
    obtain ⟨row, hrow, heq⟩ := List.mem_map.1 (ht.owned r hr)
    exact heq ▸ List.mem_map_of_mem (List.mem_filter.2 ⟨hrow, heq ▸ hne⟩)

theorem deleteRoutes_keyed (ht : t.Keyed) (pod : PodId) : ((deleteRoutes pod).effect t).Keyed where
  ids := ht.ids
  names := ht.names
  routes := ht.routes.sublist (List.filter_sublist.map _)
  owned r hr := ht.owned r (List.mem_filter.1 hr).1

/-- A statement that breaks no key leaves all keys unbroken. -/
theorem effect_keyed (ht : t.Keyed) {s : Statement} (h : s.violation? t = none) :
    (s.effect t).Keyed := by
  cases s with
  | insertPod row => exact insertPod_keyed ht h
  | updatePod id columns => exact updatePod_keyed ht id columns
  | deletePod id => exact deletePod_keyed ht id
  | insertRoute row => exact insertRoute_keyed ht h
  | deleteRoutes pod => exact deleteRoutes_keyed ht pod
  | _ => exact ht

end Statement

namespace Connection

variable {refuses : Refusal}

/-- The message of a statement that fails on a connection. -/
def failure? (refuses : Refusal) (position : Nat) (c : Connection) (s : Statement) :
    Option String :=
  (refuses position s c.working).or (s.violation? c.working)

/-- Where statements lead that all pass. -/
def through (c : Connection) (statements : List Statement) : Connection :=
  statements.foldl after c

theorem perform_cons_of_fails {position : Nat} {c : Connection} {s : Statement} {message : String}
    (h : c.failure? refuses position s = some message) (rest : List Statement) :
    c.perform refuses position (s :: rest) = (some message, c) := by
  rw [failure?] at h
  rw [perform, h]

theorem perform_cons_of_passes {position : Nat} {c : Connection} {s : Statement}
    (h : c.failure? refuses position s = none) (rest : List Statement) :
    c.perform refuses position (s :: rest) =
      (c.after s).perform refuses (position + 1) rest := by
  rw [failure?] at h
  rw [perform, h]

theorem perform_append (a b : List Statement) (position : Nat) (c : Connection)
    (h : (c.perform refuses position a).1 = none) :
    c.perform refuses position (a ++ b) =
      (c.through a).perform refuses (position + a.length) b := by
  induction a generalizing position c with
  | nil => rfl
  | cons s a ih =>
    cases hs : c.failure? refuses position s with
    | some message =>
      rw [perform_cons_of_fails hs] at h
      cases h
    | none =>
      rw [perform_cons_of_passes hs] at h
      rw [List.cons_append, perform_cons_of_passes hs, ih _ _ h, List.length_cons,
        Nat.add_right_comm, ← Nat.add_assoc]
      rfl

theorem perform_append_of_fails (a b : List Statement) (position : Nat) (c : Connection)
    {message : String} (h : (c.perform refuses position a).1 = some message) :
    c.perform refuses position (a ++ b) = c.perform refuses position a := by
  induction a generalizing position c with
  | nil => cases h
  | cons s a ih =>
    cases hs : c.failure? refuses position s with
    | some message => rw [List.cons_append, perform_cons_of_fails hs, perform_cons_of_fails hs]
    | none =>
      rw [perform_cons_of_passes hs] at h
      rw [List.cons_append, perform_cons_of_passes hs, perform_cons_of_passes hs, ih _ _ h]

/-- Statements run to their end just if each of them passes where those before it lead. -/
theorem perform_eq_through_iff {statements : List Statement} {position : Nat} {c : Connection} :
    (c.perform refuses position statements).1 = none ↔
      ∀ i s, statements[i]? = some s →
        (c.through (statements.take i)).failure? refuses (position + i) s = none := by
  induction statements generalizing position c with
  | nil => simp [perform]
  | cons s rest ih =>
    cases hs : c.failure? refuses position s with
    | some message =>
      rw [perform_cons_of_fails hs]
      refine iff_of_false (by simp) (fun h ↦ ?_)
      have h0 := h 0 s rfl
      rw [List.take_zero] at h0
      exact absurd (hs.symm.trans h0) (by simp)
    | none =>
      rw [perform_cons_of_passes hs, ih]
      constructor
      · intro h i s' hi
        cases i with
        | zero =>
          obtain rfl : s = s' := by simpa using hi
          exact hs
        | succ i =>
          rw [List.take_succ_cons, Nat.add_comm i, ← Nat.add_assoc]
          exact h i s' (by simpa using hi)
      · intro h i s' hi
        have hnext := h (i + 1) s' (by simpa using hi)
        rw [List.take_succ_cons, Nat.add_comm i, ← Nat.add_assoc] at hnext
        exact hnext

theorem perform_fails_iff {statements : List Statement} {c : Connection} :
    (c.perform refuses 0 statements).1.isSome = true ↔
      ∃ i s, statements[i]? = some s ∧
        ((c.through (statements.take i)).failure? refuses i s).isSome = true := by
  rw [← Option.ne_none_iff_isSome, Ne, perform_eq_through_iff]
  simp only [Nat.zero_add, not_forall, ← Option.ne_none_iff_isSome, exists_prop, Ne]

theorem perform_snd_of_none {statements : List Statement} {position : Nat} {c : Connection}
    (h : (c.perform refuses position statements).1 = none) :
    (c.perform refuses position statements).2 = c.through statements := by
  have happend := perform_append statements [] position c h
  rw [List.append_nil] at happend
  rw [happend]
  rfl

theorem after_committed (c : Connection) {s : Statement} (h : s ≠ .commit) :
    (c.after s).committed = c.committed := by
  cases s with
  | commit => exact absurd rfl h
  | _ => rfl

theorem through_committed {statements : List Statement} (h : .commit ∉ statements)
    (c : Connection) : (c.through statements).committed = c.committed := by
  induction statements generalizing c with
  | nil => rfl
  | cons s rest ih =>
    obtain ⟨hs, hrest⟩ := not_or.1 (mt List.mem_cons.2 h)
    exact (ih hrest (c.after s)).trans (c.after_committed (Ne.symm hs))

/-- Statements that fail before a commit leave the committed tables as they are. -/
theorem perform_committed_of_fails {statements : List Statement} {position : Nat} {c : Connection}
    {message : String} (hcommit : .commit ∉ statements.dropLast)
    (h : (c.perform refuses position statements).1 = some message) :
    (c.perform refuses position statements).2.committed = c.committed := by
  induction statements generalizing position c with
  | nil => cases h
  | cons s rest ih =>
    cases hs : c.failure? refuses position s with
    | some message => rw [perform_cons_of_fails hs]
    | none =>
      rw [perform_cons_of_passes hs] at h ⊢
      cases rest with
      | nil => cases h
      | cons s' rest =>
        rw [List.dropLast_cons_of_ne_nil (by simp)] at hcommit
        obtain ⟨hne, hrest⟩ := not_or.1 (mt List.mem_cons.2 hcommit)
        rw [ih hrest h, c.after_committed (Ne.symm hne)]

theorem perform_committed {statements : List Statement} (hcommit : .commit ∉ statements)
    (position : Nat) (c : Connection) :
    (c.perform refuses position statements).2.committed = c.committed := by
  cases h : (c.perform refuses position statements).1 with
  | some message =>
    exact perform_committed_of_fails (fun hmem ↦ hcommit (List.dropLast_subset _ hmem)) h
  | none =>
    rw [perform_snd_of_none h, through_committed hcommit]

theorem after_of_looksUp (c : Connection) {s : Statement} (h : s.LooksUp) : c.after s = c := by
  cases s with
  | lookUpName name => rfl
  | lookUpPod id => rfl
  | _ => exact h.elim

theorem through_of_looksUp (c : Connection) {statements : List Statement}
    (h : ∀ s ∈ statements, s.LooksUp) : c.through statements = c := by
  induction statements with
  | nil => rfl
  | cons s rest ih =>
    have hs := c.after_of_looksUp (h s List.mem_cons_self)
    exact (congrArg (through · rest) hs).trans (ih (fun s' hs' ↦ h s' (List.mem_cons_of_mem _ hs')))

/-- Both the committed and the working tables keep their keys. -/
structure Keyed (c : Connection) : Prop where
  committed : c.committed.Keyed
  working : c.working.Keyed

theorem Keyed.after {c : Connection} (hc : c.Keyed) {s : Statement}
    (h : s.violation? c.working = none) : (c.after s).Keyed := by
  cases s with
  | «begin» => exact ⟨hc.committed, hc.committed⟩
  | commit => exact ⟨hc.working, hc.working⟩
  | _ => exact ⟨hc.committed, Statement.effect_keyed hc.working h⟩

theorem Keyed.perform {c : Connection} (hc : c.Keyed) (position : Nat)
    (statements : List Statement) : (c.perform refuses position statements).2.Keyed := by
  induction statements generalizing position c with
  | nil => exact hc
  | cons s rest ih =>
    cases hs : c.failure? refuses position s with
    | some message =>
      rw [perform_cons_of_fails hs]
      exact hc
    | none =>
      rw [perform_cons_of_passes hs]
      exact ih (hc.after (Option.or_eq_none_iff.1 hs).2) _

end Connection

end PodInventory
