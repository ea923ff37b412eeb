import Mathlib.Data.List.Nodup
import Mathlib.Data.List.Perm.Basic
import Mathlib.Data.String.Basic

namespace PodInventory

variable {α κ : Type} [BEq κ] [LawfulBEq κ] {f : α → κ} {l : List α}

theorem length_filter_le_one (h : (l.map f).Nodup) (k : κ) :
    (l.filter (fun a ↦ f a == k)).length ≤ 1 := by
  rw [← List.countP_eq_length_filter]
  have hcount := List.nodup_iff_count_le_one.1 h k
  rw [List.count, List.countP_map] at hcount
  exact hcount

theorem filter_eq_singleton (h : (l.map f).Nodup) {a : α} (ha : a ∈ l) :
    l.filter (fun b ↦ f b == f a) = [a] := by
  have hlength := length_filter_le_one h (f a)
  have hmem : a ∈ l.filter (fun b ↦ f b == f a) := List.mem_filter.2 ⟨ha, beq_self_eq_true _⟩
  match hfilter : l.filter (fun b ↦ f b == f a), hlength with
  | [], _ => rw [hfilter] at hmem; cases hmem
  | [b], _ =>
    rw [hfilter] at hmem
    rw [List.mem_singleton.1 hmem]

theorem find?_eq_some_of_mem (h : (l.map f).Nodup) {a : α} (ha : a ∈ l) :
    l.find? (fun b ↦ f b == f a) = some a := by
  rw [← List.head?_filter, filter_eq_singleton h ha]
  rfl

/-- In whatever order entries with distinct keys stand, a key finds the same one. -/
theorem find?_perm {l' : List α} (hperm : l'.Perm l) (h : (l.map f).Nodup) (k : κ) :
    l'.find? (fun a ↦ f a == k) = l.find? (fun a ↦ f a == k) := by
  cases hfind : l.find? (fun a ↦ f a == k) with
  | none =>
    rw [List.find?_eq_none] at hfind ⊢
    exact fun a ha ↦ hfind a (hperm.mem_iff.1 ha)
  | some a =>
    obtain rfl : f a = k := eq_of_beq (List.find?_some (p := fun a ↦ f a == k) hfind)
    exact find?_eq_some_of_mem ((hperm.map f).nodup_iff.2 h)
      (hperm.mem_iff.2 (List.mem_of_find?_eq_some hfind))

/-- Without the entry of one key the others are left. -/
theorem perm_cons_filter_ne (h : (l.map f).Nodup) {a : α} (ha : a ∈ l) :
    l.Perm (a :: l.filter (fun b ↦ f b != f a)) := by
  have hperm := List.filter_append_perm (fun b ↦ f b == f a) l
  rw [filter_eq_singleton h ha] at hperm
  exact hperm.symm

theorem filter_ne_filter {x y : κ} (h : y ≠ x) (l : List α) :
    (l.filter (fun a ↦ f a != x)).filter (fun a ↦ f a == y) = l.filter (fun a ↦ f a == y) := by
  rw [List.filter_filter]
  refine List.filter_congr (fun a _ ↦ ?_)
  by_cases ha : f a = y
  · simp [ha, h]
  · simp [ha]

/-- Sorting by a text leaves that text ascending. -/
theorem pairwise_mergeSort_key (key : α → String) (l : List α) :
    (l.mergeSort (fun a b ↦ key a ≤ key b)).Pairwise (fun a b ↦ key a ≤ key b) := by
  have hsorted : (l.mergeSort (fun a b ↦ key a ≤ key b)).Pairwise
      (fun a b ↦ decide (key a ≤ key b) = true) :=
    List.pairwise_mergeSort
      (fun a b c hab hbc ↦ by
        simpa using String.le_trans (by simpa using hab) (by simpa using hbc))
      (fun a b ↦ by simpa using String.le_total (key a) (key b)) l
  exact hsorted.imp of_decide_eq_true

/-- A split of a list that ends in one more entry leaves that entry in its last part. -/
theorem split_append_singleton {a b : α} {before after : List α}
    (h : l ++ [a] = before ++ b :: after) :
    before = l ∧ b = a ∧ after = [] ∨ ∃ rest, after = rest ++ [a] ∧ l = before ++ b :: rest := by
  rcases List.eq_nil_or_concat after with rfl | ⟨rest, a', rfl⟩
  · obtain ⟨hbefore, hlast⟩ := List.append_inj' h rfl
    exact .inl ⟨hbefore.symm, (List.singleton_inj.1 hlast).symm, rfl⟩
  · rw [List.concat_eq_append, ← List.cons_append, ← List.append_assoc] at h
    obtain ⟨hl, hlast⟩ := List.append_inj' h rfl
    obtain rfl := List.singleton_inj.1 hlast
    exact .inr ⟨rest, List.concat_eq_append, hl⟩

end PodInventory
