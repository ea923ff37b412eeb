import Mathlib.Data.List.Infix
import Mathlib.Data.List.TakeWhile
import PodInventory.Text.Split

namespace PodInventory.Text

variable {mark : Char} {s : List Char}

theorem afterScheme?_cons {c : Char} (h : ¬ [':', '/', '/'] <+: c :: s) :
    afterScheme? (c :: s) = afterScheme? s := by
  rw [afterScheme?]
  intro rest hc hs
  rw [hc, hs] at h
  exact h ⟨rest, rfl⟩

theorem afterScheme?_eq_none (h : ¬ [':', '/', '/'] <:+: s) : afterScheme? s = none := by
  induction s with
  | nil => rfl
  | cons c s ih =>
    rw [afterScheme?_cons (fun hpre ↦ h hpre.isInfix)]
    exact ih (fun hin ↦ h (List.infix_cons hin))

/-- The first separator is the one behind the scheme: none begins in the scheme and ends beyond
it. -/
theorem afterScheme?_append (h : ¬ [':', '/', '/'] <:+: s) (rest : List Char) :
    afterScheme? (s ++ ':' :: '/' :: '/' :: rest) = some rest := by
  induction s with
  | nil => rfl
  | cons c s ih =>
    have hpre : ¬ [':', '/', '/'] <+: c :: (s ++ ':' :: '/' :: '/' :: rest) := by
      intro hex
      obtain ⟨behind, heq⟩ := hex
      match s with
      | [] => simp at heq
      | [d] => simp at heq
      | d :: e :: s =>
        simp only [List.cons_append, List.cons.injEq] at heq
        obtain ⟨rfl, rfl, rfl, -⟩ := heq
        exact h (List.IsPrefix.isInfix ⟨s, rfl⟩)
    rw [List.cons_append, afterScheme?_cons hpre]
    exact ih (fun hin ↦ h (List.infix_cons hin))

theorem splitFirst?_append (h : mark ∉ s) (rest : List Char) :
    splitFirst? mark (s ++ mark :: rest) = some (s, rest) := by
  induction s with
  | nil => exact if_pos rfl
  | cons c s ih =>
    obtain ⟨hc, hs⟩ := not_or.1 (List.mem_cons.not.1 h)
    rw [List.cons_append, splitFirst?, if_neg (Ne.symm hc), ih hs]
    rfl

theorem splitFirst?_eq_none (h : mark ∉ s) : splitFirst? mark s = none := by
  induction s with
  | nil => rfl
  | cons c s ih =>
    obtain ⟨hc, hs⟩ := not_or.1 (List.mem_cons.not.1 h)
    rw [splitFirst?, if_neg (Ne.symm hc), ih hs]
    rfl

theorem takeWhile_append_cons {p : Char → Bool} (hs : ∀ c ∈ s, p c = true) {c : Char}
    (hc : p c = false) (rest : List Char) : (s ++ c :: rest).takeWhile p = s := by
  rw [List.takeWhile_append_of_pos hs, List.takeWhile_cons_of_neg (by simp [hc]), List.append_nil]

theorem afterLast_of_not_mem (h : mark ∉ s) : afterLast mark s = s := by
  rw [afterLast, List.takeWhile_eq_self_iff.2, List.reverse_reverse]
  intro c hc
  rw [bne_iff_ne]
  rintro rfl
  exact h (List.mem_reverse.1 hc)

theorem afterLast_append (front : List Char) (h : mark ∉ s) :
    afterLast mark (front ++ mark :: s) = s := by
  have hreverse : (front ++ mark :: s).reverse = s.reverse ++ mark :: front.reverse := by simp
  have hs : ∀ c ∈ s.reverse, (c != mark) = true := by
    intro c hc
    rw [bne_iff_ne]
    rintro rfl
    exact h (List.mem_reverse.1 hc)
  rw [afterLast, hreverse, takeWhile_append_cons hs (by simp), List.reverse_reverse]

/-- What follows a scheme stands behind the separator. -/
theorem of_afterScheme? {rest : List Char} (h : afterScheme? s = some rest) :
    ∃ scheme, s = scheme ++ [':', '/', '/'] ++ rest := by
  fun_induction afterScheme? s with
  | case1 => cases h
  | case2 rest' =>
    obtain rfl := Option.some.inj h
    exact ⟨[], rfl⟩
  | case3 c s _ ih =>
    obtain ⟨scheme, rfl⟩ := ih h
    exact ⟨c :: scheme, rfl⟩

theorem of_splitFirst? {before after : List Char}
    (h : splitFirst? mark s = some (before, after)) : s = before ++ mark :: after := by
  induction s generalizing before with
  | nil => cases h
  | cons c s ih =>
    rw [splitFirst?] at h
    split at h
    · rename_i hc
      cases h
      rw [hc]
      rfl
    · obtain ⟨⟨before', after'⟩, hsplit, heq⟩ := Option.map_eq_some_iff.1 h
      cases heq
      rw [ih hsplit]
      rfl

theorem splitFirst?_eq_some_iff {before after : List Char} :
    splitFirst? mark s = some (before, after) ↔ mark ∉ before ∧ s = before ++ mark :: after := by
  refine ⟨fun h ↦ ⟨fun hmem ↦ ?_, of_splitFirst? h⟩, ?_⟩
  · obtain ⟨front, rest, rfl, hfront⟩ := List.eq_append_cons_of_mem hmem
    rw [of_splitFirst? h, List.append_assoc, List.cons_append, splitFirst?_append hfront] at h
    obtain ⟨hbefore, -⟩ := Prod.mk.inj (Option.some.inj h)
    simpa using congrArg List.length hbefore
  · rintro ⟨hbefore, rfl⟩
    exact splitFirst?_append hbefore after

/-- What follows the last mark ends the text, and the mark stands in front of it. -/
theorem exists_afterLast (mark : Char) (s : List Char) :
    ∃ front, s = front ++ afterLast mark s ∧ (front = [] ∨ [mark] <:+ front) := by
  have hsplit : s.reverse.takeWhile (· != mark) ++ s.reverse.dropWhile (· != mark) = s.reverse :=
    List.takeWhile_append_dropWhile
  refine ⟨(s.reverse.dropWhile (· != mark)).reverse, ?_, ?_⟩
  · rw [afterLast, ← List.reverse_append, hsplit, List.reverse_reverse]
  · cases hrest : s.reverse.dropWhile (· != mark) with
    | nil => exact .inl rfl
    | cons c rest =>
      have hc := List.head?_dropWhile_not (· != mark) s.reverse
      rw [hrest] at hc
      obtain rfl : c = mark := by simpa using hc
      exact .inr ⟨rest.reverse, (List.reverse_cons).symm⟩

end PodInventory.Text
