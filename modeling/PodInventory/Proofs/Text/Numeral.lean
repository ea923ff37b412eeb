import Mathlib.Data.List.Induction
import PodInventory.Text.Numeral

namespace PodInventory.Text

/-- The digits of a number, the highest one first. -/
def digitsOf (base n : Nat) : List Nat :=
  if _h : 1 < base ∧ base ≤ n then digitsOf base (n / base) ++ [n % base] else [n]
termination_by n
decreasing_by exact Nat.div_lt_self (by omega) (by omega)

theorem digitsOf_of_lt {base n : Nat} (h : n < base) : digitsOf base n = [n] := by
  rw [digitsOf, dif_neg (by omega)]

theorem digitsOf_of_le {base n : Nat} (hb : 1 < base) (h : base ≤ n) :
    digitsOf base n = digitsOf base (n / base) ++ [n % base] := by
  rw [digitsOf, dif_pos ⟨hb, h⟩]

/-- Follows the digits of a number from the highest one down. -/
theorem digitsOf_induction {base : Nat} (hb : 1 < base) {P : Nat → List Nat → Prop}
    (last : ∀ n, n < base → P n [n])
    (more : ∀ n ds, base ≤ n → ds = digitsOf base (n / base) → P (n / base) ds →
      P n (ds ++ [n % base])) (n : Nat) : P n (digitsOf base n) := by
  induction n using Nat.strongRecOn with
  | ind n ih =>
    by_cases h : n < base
    · rw [digitsOf_of_lt h]
      exact last n h
    · have hle : base ≤ n := by omega
      rw [digitsOf_of_le hb hle]
      exact more n _ hle rfl (ih (n / base) (Nat.div_lt_self (by omega) hb))

theorem toDigits_eq_map {base : Nat} (hb : 1 < base) (n : Nat) :
    Nat.toDigits base n = (digitsOf base n).map Nat.digitChar := by
  refine digitsOf_induction (P := fun n ds ↦ Nat.toDigits base n = ds.map Nat.digitChar) hb
    (fun n h ↦ Nat.toDigits_of_lt_base h) (fun n ds h _ ih ↦ ?_) n
  rw [Nat.toDigits_of_base_le hb h, ih, List.map_append]
  rfl

theorem length_digitsOf {base : Nat} (hb : 1 < base) (n : Nat) :
    (digitsOf base n).length = (Nat.toDigits base n).length := by
  rw [toDigits_eq_map hb, List.length_map]

theorem lt_of_mem_digitsOf {base : Nat} (hb : 1 < base) (n : Nat) :
    ∀ d ∈ digitsOf base n, d < base := by
  refine digitsOf_induction (P := fun _ ds ↦ ∀ d ∈ ds, d < base) hb
    (fun n h ↦ by simpa using h) (fun n ds _ _ ih ↦ ?_) n
  intro d hd
  rcases List.mem_append.1 hd with hd | hd
  · exact ih d hd
  · rw [List.mem_singleton.1 hd]
    exact Nat.mod_lt n (by omega)

theorem ofDigits_append_singleton (base d : Nat) (ds : List Nat) :
    ofDigits base (ds ++ [d]) = ofDigits base ds * base + d := by
  simp only [ofDigits, List.foldl_append, List.foldl_cons, List.foldl_nil]

theorem ofDigits_digitsOf {base : Nat} (hb : 1 < base) (n : Nat) :
    ofDigits base (digitsOf base n) = n := by
  refine digitsOf_induction (P := fun n ds ↦ ofDigits base ds = n) hb
    (fun n _ ↦ by simp [ofDigits]) (fun n ds _ _ ih ↦ ?_) n
  rw [ofDigits_append_singleton, ih]
  exact Nat.div_add_mod' n base

theorem digitsOf_ne_nil (base n : Nat) : digitsOf base n ≠ [] := by
  rw [digitsOf]
  split <;> simp

/-- Only zero itself is written with a zero in front. -/
theorem digitsOf_eq_zero_cons {base n : Nat} (hb : 1 < base) {ds : List Nat}
    (h : digitsOf base n = 0 :: ds) : n = 0 ∧ ds = [] := by
  refine digitsOf_induction
    (P := fun n l ↦ ∀ ds, l = 0 :: ds → n = 0 ∧ ds = []) hb ?_ ?_ n ds h
  · intro n _ ds h
    obtain ⟨rfl, rfl⟩ := List.cons.inj h
    exact ⟨rfl, rfl⟩
  · intro n l hn hl ih ds h
    cases l with
    | nil => exact absurd hl.symm (digitsOf_ne_nil base _)
    | cons d l =>
      obtain ⟨rfl, -⟩ := List.cons.inj h
      have hpos : 0 < n / base := Nat.div_pos hn (by omega)
      have hzero := (ih l rfl).1
      omega

/-- Whether a text has no digit at its front. -/
def StopsAt (digit : Char → Option Nat) (s : List Char) : Prop :=
  ∀ c rest, s = c :: rest → digit c = none

theorem stopsAt_nil (digit : Char → Option Nat) : StopsAt digit [] := by
  intro c rest h
  cases h

theorem stopsAt_cons {digit : Char → Option Nat} {c : Char} (h : digit c = none)
    (rest : List Char) : StopsAt digit (c :: rest) := by
  intro c' rest' he
  cases he
  exact h

theorem takeDigits_of_stopsAt {digit : Char → Option Nat} {s : List Char}
    (h : StopsAt digit s) : takeDigits digit s = ([], s) := by
  cases s with
  | nil => rfl
  | cons c rest =>
    rw [takeDigits, h c rest rfl]

theorem takeDigits_map_digitChar {digit : Char → Option Nat} {ds : List Nat} {rest : List Char}
    (hds : ∀ d ∈ ds, digit d.digitChar = some d) (hrest : StopsAt digit rest) :
    takeDigits digit (ds.map Nat.digitChar ++ rest) = (ds, rest) := by
  induction ds with
  | nil => exact takeDigits_of_stopsAt hrest
  | cons d ds ih =>
    rw [List.map_cons, List.cons_append, takeDigits, hds d (by simp),
      ih (fun e he ↦ hds e (by simp [he]))]

theorem digit?_digitChar : ∀ d < 10, digit? (Nat.digitChar d) = some d := by decide

theorem hexDigit?_digitChar : ∀ d < 16, hexDigit? (Nat.digitChar d) = some d := by decide

theorem decimal_eq_map (n : Nat) : decimal n = (digitsOf 10 n).map Nat.digitChar :=
  toDigits_eq_map (by decide) n

theorem hexadecimal_eq_map (n : Nat) : hexadecimal n = (digitsOf 16 n).map Nat.digitChar :=
  toDigits_eq_map (by decide) n

theorem takeDigits_decimal (n : Nat) {rest : List Char} (h : StopsAt digit? rest) :
    takeDigits digit? (decimal n ++ rest) = (digitsOf 10 n, rest) := by
  rw [decimal_eq_map]
  exact takeDigits_map_digitChar
    (fun d hd ↦ digit?_digitChar d (lt_of_mem_digitsOf (by decide) n d hd)) h

theorem takeDigits_hexadecimal (n : Nat) {rest : List Char} (h : StopsAt hexDigit? rest) :
    takeDigits hexDigit? (hexadecimal n ++ rest) = (digitsOf 16 n, rest) := by
  rw [hexadecimal_eq_map]
  exact takeDigits_map_digitChar
    (fun d hd ↦ hexDigit?_digitChar d (lt_of_mem_digitsOf (by decide) n d hd)) h

/-- What was taken is the front of the text, digit by digit. -/
theorem of_takeDigits {digit : Char → Option Nat} {s rest : List Char} {ds : List Nat}
    (h : takeDigits digit s = (ds, rest)) : ∃ t, s = t ++ rest ∧ t.map digit = ds.map some := by
  induction s generalizing ds with
  | nil =>
    cases h
    exact ⟨[], rfl, rfl⟩
  | cons c s ih =>
    rw [takeDigits] at h
    cases hc : digit c with
    | none =>
      rw [hc] at h
      cases h
      exact ⟨[], rfl, rfl⟩
    | some d =>
      rw [hc] at h
      obtain ⟨rfl, hrest⟩ := Prod.mk.inj h
      obtain ⟨t, rfl, ht⟩ := ih (Prod.ext rfl hrest)
      exact ⟨c :: t, rfl, by rw [List.map_cons, List.map_cons, hc, ht]⟩

theorem of_digit? {c : Char} {d : Nat} (h : digit? c = some d) : d < 10 ∧ c = Nat.digitChar d := by
  rw [digit?] at h
  split at h
  · rename_i hc
    obtain rfl := Option.some.inj h
    have hlow : '0'.toNat ≤ c.toNat := Char.le_def.1 hc.1
    have hhigh : c.toNat ≤ '9'.toNat := Char.le_def.1 hc.2
    have hnine : '9'.toNat = '0'.toNat + 9 := rfl
    have hlt : c.toNat - '0'.toNat < 10 := by omega
    have hall : ∀ d < 10, Char.ofNat ('0'.toNat + d) = Nat.digitChar d := by decide
    refine ⟨hlt, ?_⟩
    rw [← hall _ hlt, Nat.add_sub_cancel' hlow, Char.ofNat_toNat]
  · cases h

theorem of_takeDigits_digit? {s rest : List Char} {ds : List Nat}
    (h : takeDigits digit? s = (ds, rest)) :
    s = ds.map Nat.digitChar ++ rest ∧ ∀ d ∈ ds, d < 10 := by
  obtain ⟨t, rfl, ht⟩ := of_takeDigits h
  clear h
  induction ds generalizing t with
  | nil =>
    obtain rfl := List.map_eq_nil_iff.1 ht
    exact ⟨rfl, fun d hd ↦ nomatch hd⟩
  | cons d ds ih =>
    obtain ⟨c, t', rfl, hc, hds⟩ := List.map_eq_cons_iff.1 ht
    obtain ⟨hd, rfl⟩ := of_digit? hc
    obtain ⟨heq, hall⟩ := ih t' hds
    refine ⟨?_, List.forall_mem_cons.2 ⟨hd, hall⟩⟩
    rw [List.cons_append, heq]
    rfl

/-- Reading digits undoes writing them, as long as no zero stands in front. -/
theorem digitsOf_ofDigits {base : Nat} (hb : 1 < base) {ds : List Nat} (hds : ∀ d ∈ ds, d < base)
    (hne : ds ≠ []) (hzero : 1 < ds.length → ds.head? ≠ some 0) :
    digitsOf base (ofDigits base ds) = ds := by
  induction ds using List.reverseRecOn with
  | nil => exact absurd rfl hne
  | append_singleton ds d ih =>
    have hd : d < base := hds d (by simp)
    rw [ofDigits_append_singleton]
    cases ds with
    | nil => simpa [ofDigits] using digitsOf_of_lt hd
    | cons e ds =>
      have he : e ≠ 0 := by simpa using hzero
      have hinit := ih (fun d' hd' ↦ hds d' (List.mem_append_left [d] hd')) (List.cons_ne_nil e ds)
        (fun _ ↦ by simpa using he)
      have hpos : 0 < ofDigits base (e :: ds) := by
        refine Nat.pos_of_ne_zero (fun hnone ↦ he ?_)
        rw [hnone, digitsOf_of_lt (by omega)] at hinit
        exact (List.cons.inj hinit).1.symm
      have hle : base ≤ ofDigits base (e :: ds) * base + d :=
        Nat.le_add_right_of_le (Nat.le_mul_of_pos_left base hpos)
      rw [digitsOf_of_le hb hle, Nat.mul_add_mod', Nat.mod_eq_of_lt hd, Nat.add_comm,
        Nat.add_mul_div_right d _ (by omega), Nat.div_eq_of_lt hd, Nat.zero_add, hinit]

end PodInventory.Text
