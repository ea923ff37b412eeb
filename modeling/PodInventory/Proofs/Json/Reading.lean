import PodInventory.Json.Render
import PodInventory.Proofs.Json.Spelling

namespace PodInventory

mutual

/-- Whether a value is written so that a reader gets it back: its numbers are natural and below
`2 ^ 64`, and at most `room` brackets stand around its scalars. -/
def Json.Fits (room : Nat) : Json → Prop
  | .null | .bool _ | .text _ => True
  | .number n => ∃ k : Nat, k < UInt64.size ∧ n = .integer k
  | .list xs => 0 < room ∧ Json.FitsItems (room - 1) xs
  | .object ms => 0 < room ∧ Json.FitsMembers (room - 1) ms

def Json.FitsItems (room : Nat) : List Json → Prop
  | [] => True
  | x :: xs => Json.Fits room x ∧ Json.FitsItems room xs

def Json.FitsMembers (room : Nat) : List (String × Json) → Prop
  | [] => True
  | (_, v) :: ms => Json.Fits room v ∧ Json.FitsMembers room ms

end

namespace Grammar

open Json

section Texts

theorem codeUnit?_padded : ∀ n < 32, codeUnit? (Text.padded 16 4 n) = some n := by decide

/-- Every character is written as one piece that stands for it. -/
theorem exists_piece (c : Char) : ∃ p : Piece, p.chars = escape c ∧
    ∀ ps, charsOf? (p :: ps) = (charsOf? ps).map (c :: ·) := by
  have hshort {letter : Char} (h : Scan.shortEscape? letter = some c) :
      ∃ p : Piece, p.chars = ['\\', letter] ∧
        ∀ ps, charsOf? (p :: ps) = (charsOf? ps).map (c :: ·) :=
    ⟨.short letter c h, rfl, fun _ ↦ rfl⟩
  unfold escape
  split_ifs with h₁ h₂ h₃ h₄ h₅ h₆ h₇ h₈
  · exact hshort (by subst c; decide)
  · exact hshort (by subst c; decide)
  · exact hshort (by subst c; decide)
  · exact hshort (by subst c; decide)
  · exact hshort (by subst c; decide)
  · exact hshort (by subst c; decide)
  · exact hshort (by subst c; decide)
  · refine ⟨.unit _ c.toNat (codeUnit?_padded c.toNat h₈), rfl, fun ps ↦ ?_⟩
    rw [charsOf?_of_neither, Char.ofNat_toNat]
    · simp only [isLow, Bool.and_eq_false_iff, decide_eq_false_iff_not]
      omega
    · simp only [isHigh, Bool.and_eq_false_iff, decide_eq_false_iff_not]
      omega
  · exact ⟨.plain c h₁ h₂ h₈, rfl, fun _ ↦ rfl⟩

theorem exists_pieces (cs : List Char) :
    ∃ ps, written ps = cs.flatMap escape ∧ charsOf? ps = some cs := by
  induction cs with
  | nil => exact ⟨[], rfl, rfl⟩
  | cons c cs ih =>
    obtain ⟨p, hp, hchars⟩ := exists_piece c
    obtain ⟨ps, hps, hcs⟩ := ih
    refine ⟨p :: ps, ?_, by rw [hchars, hcs]; rfl⟩
    rw [written, List.flatMap_cons, ← written, hp, hps, List.flatMap_cons]

theorem exists_quoted (s : String) : ∃ ps, quotedChars ps = quoted s ∧ textOf? ps = some s := by
  obtain ⟨ps, hps, hcs⟩ := exists_pieces s.toList
  refine ⟨ps, by rw [quotedChars, hps]; rfl, ?_⟩
  rw [textOf?, hcs, Option.map_some, String.ofList_toList]

end Texts

section Numerals

theorem le_foldl_digits (ds : List Nat) (n : Nat) :
    n ≤ ds.foldl (fun n d ↦ n * 10 + d) n := by
  induction ds generalizing n with
  | nil => exact Nat.le_refl _
  | cons d ds ih =>
    have h := ih (n * 10 + d)
    rw [List.foldl_cons]
    omega

/-- Digits of a number below `2 ^ 64` are all taken. -/
theorem absorb_of_lt (ds : List Nat) (n : Nat)
    (h : ds.foldl (fun n d ↦ n * 10 + d) n < UInt64.size) :
    Scan.absorb n ds = (ds.foldl (fun n d ↦ n * 10 + d) n, 0) := by
  induction ds generalizing n with
  | nil => rfl
  | cons d ds ih =>
    rw [List.foldl_cons] at h ⊢
    have hle := le_foldl_digits ds (n * 10 + d)
    rw [Scan.absorb, if_neg (by omega), ih _ h]

theorem exists_numeral {k : Nat} (hk : k < UInt64.size) :
    ∃ n : Numeral, n.chars = Text.decimal k ∧ n.value? = some (.integer k) := by
  have hleading (d : Nat) (more : List Nat) : Text.digitsOf 10 k ≠ 0 :: d :: more :=
    fun h ↦ List.cons_ne_nil _ _ (Text.digitsOf_eq_zero_cons (by decide) h).2
  let whole : Figures := ⟨Text.digitsOf 10 k, Text.digitsOf_ne_nil 10 k,
    Text.lt_of_mem_digitsOf (by decide) k⟩
  have hfold : (Text.digitsOf 10 k).foldl (fun n d ↦ n * 10 + d) 0 = k :=
    Text.ofDigits_digitsOf (by decide) k
  refine ⟨⟨false, whole, hleading, none, none⟩, ?_, ?_⟩
  · simp [Numeral.chars, Numeral.fractionChars, Numeral.exponentChars, Figures.chars, whole,
      Text.decimal_eq_map]
  · simp only [Numeral.value?, Numeral.parts, Scan.Parts.value, whole, Option.elim_none,
      Option.map_none, absorb_of_lt (Text.digitsOf 10 k) 0 (by omega), hfold, Scan.absorb]
    rfl

end Numerals

section Lists

/-- The comma in front of items that are not the first. -/
def lead {α : Type} (first : Bool) (l : List α) : List Char := if l.isEmpty then [] else comma first

theorem compactItems_cons (x : Json) (xs : List Json) :
    compactItems (x :: xs) = x.compact ++ (lead false xs ++ compactItems xs) := by
  cases xs <;> simp [compactItems, lead, comma]

theorem compactMembers_cons (k : String) (v : Json) (ms : List (String × Json)) :
    compactMembers ((k, v) :: ms) =
      quoted k ++ ':' :: (v.compact ++ (lead false ms ++ compactMembers ms)) := by
  cases ms <;> simp [compactMembers, lead, comma]

mutual

/-- A value that fits is written in its compact text. -/
theorem exists_value : ∀ (j : Json) (room : Nat), j.Fits room →
    ∃ v : Value, v.chars = j.compact ∧ v.json? room = some j
  | .null, _, _ => ⟨.null, rfl, rfl⟩
  | .bool true, _, _ => ⟨.bool true, rfl, rfl⟩
  | .bool false, _, _ => ⟨.bool false, rfl, rfl⟩
  | .number _, room, hj => by
    obtain ⟨k, hk, rfl⟩ := hj
    obtain ⟨n, hn, hvalue⟩ := exists_numeral hk
    refine ⟨.number n, ?_, by rw [Value.json?, hvalue]; rfl⟩
    simp [Value.chars, hn, compact, Number.text]
  | .text s, room, _ => by
    obtain ⟨ps, hps, htext⟩ := exists_quoted s
    exact ⟨.text ps, hps, by rw [Value.json?, htext]; rfl⟩
  | .list xs, 0, hj => absurd hj.1 (Nat.lt_irrefl 0)
  | .list xs, room + 1, hj => by
    obtain ⟨items, hitems, hjsons⟩ := exists_items xs room true hj.2
    refine ⟨.list items, ?_, by rw [Value.json?, hjsons]; rfl⟩
    cases xs <;> simp [Value.chars, hitems, compact, lead, comma]
  | .object ms, 0, hj => absurd hj.1 (Nat.lt_irrefl 0)
  | .object ms, room + 1, hj => by
    obtain ⟨members, hmembers, hjsons⟩ := exists_members ms room true hj.2
    refine ⟨.object members, ?_, by rw [Value.json?, hjsons]; rfl⟩
    cases ms <;> simp [Value.chars, hmembers, compact, lead, comma]

theorem exists_items : ∀ (xs : List Json) (room : Nat) (first : Bool), FitsItems room xs →
    ∃ items : Items, items.chars first = lead first xs ++ compactItems xs ++ [']'] ∧
      items.jsons? room = some xs
  | [], _, _, _ => ⟨.done noBlanks, rfl, rfl⟩
  | x :: xs, room, first, hj => by
    obtain ⟨v, hv, hjson⟩ := exists_value x room hj.1
    obtain ⟨items, hitems, hjsons⟩ := exists_items xs room false hj.2
    refine ⟨.item noBlanks noBlanks v items, ?_, by simp [Items.jsons?, hjson, hjsons]⟩
    rw [compactItems_cons]
    simp [Items.chars, noBlanks, hv, hitems, lead]

theorem exists_members : ∀ (ms : List (String × Json)) (room : Nat) (first : Bool),
    FitsMembers room ms →
      ∃ members : Members, members.chars first = lead first ms ++ compactMembers ms ++ ['}'] ∧
        members.jsons? room = some ms
  | [], _, _, _ => ⟨.done noBlanks, rfl, rfl⟩
  | (k, x) :: ms, room, first, hj => by
    obtain ⟨name, hname, htext⟩ := exists_quoted k
    obtain ⟨v, hv, hjson⟩ := exists_value x room hj.1
    obtain ⟨members, hmembers, hjsons⟩ := exists_members ms room false hj.2
    refine ⟨.member noBlanks noBlanks name noBlanks noBlanks v members, ?_,
      by simp [Members.jsons?, htext, hjson, hjsons]⟩
    rw [compactMembers_cons]
    simp [Members.chars, noBlanks, hname, hv, hmembers, lead]

end

end Lists

end Grammar

/-- A value that fits reads back whole from its compact text, with any reader that gets it from a
node which holds the value. -/
theorem Decode.ofText_compactText {α : Type} (d : Decoder α) {j : Json} {a : α}
    (hj : j.Fits Document.depthLimit) (hd : ∀ n, Decode.json n = .ok j → d n = .ok a) :
    Decode.ofText d j.compactText = .ok a := by
  obtain ⟨v, hv, hjson⟩ := Grammar.exists_value j _ hj
  have hspells : Grammar.Spells j.compactText v :=
    ⟨Grammar.noBlanks, Grammar.noBlanks, by simp [Json.compactText, Grammar.noBlanks, hv]⟩
  obtain ⟨n, rest, hstep, hrest, hshows⟩ := hspells.shows
  have hn : Decode.json n = .ok j := by
    have h := hshows.json (Nat.zero_le _)
    rw [Nat.sub_zero, hjson] at h
    cases hn : Decode.json n with
    | ok j' => rw [hn] at h; exact congrArg Except.ok (Option.some.inj h)
    | error f => rw [hn] at h; cases h
  rw [Decode.ofText, hstep]
  simp only [hd n hn, hrest]
  rfl

end PodInventory
