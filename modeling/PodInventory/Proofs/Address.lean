import PodInventory.Address
import PodInventory.Proofs.Text.Numeral

namespace PodInventory.Address

open Text

theorem octet?_decimal (o : UInt8) {rest : List Char} (h : StopsAt digit? rest) :
    octet? (decimal o.toNat ++ rest) = some (o, rest) := by
  have hlt : o.toNat < 256 := o.toNat_lt
  have hlength : (digitsOf 10 o.toNat).length ≤ 3 := by
    rw [length_digitsOf (by decide)]
    exact (Nat.length_toDigits_le_iff (by decide) (by decide)).2 (by omega)
  have hzero : ¬ (1 < (digitsOf 10 o.toNat).length ∧ (digitsOf 10 o.toNat).head? = some 0) := by
    intro hex
    obtain ⟨hlong, hhead⟩ := hex
    cases hds : digitsOf 10 o.toNat with
    | nil => exact digitsOf_ne_nil 10 _ hds
    | cons d ds =>
      rw [hds] at hlong hhead
      obtain rfl : d = 0 := by simpa using hhead
      rw [(digitsOf_eq_zero_cons (by decide) hds).2] at hlong
      exact absurd hlong (by decide)
  have hbound :
      ¬ (digitsOf 10 o.toNat = [] ∨ 3 < (digitsOf 10 o.toNat).length ∨ 255 < o.toNat) := by
    intro hor
    rcases hor with hnil | hlong | hlarge
    · exact digitsOf_ne_nil 10 _ hnil
    · omega
    · omega
  simp only [octet?, takeDigits_decimal _ h, ofDigits_digitsOf (by decide : 1 < 10)]
  rw [if_neg hbound, if_neg hzero, Nat.toUInt8_eq, UInt8.ofNat_toNat]

theorem quad?_quadText (a b c d : UInt8) {rest : List Char} (h : StopsAt digit? rest) :
    quad? (quadText a b c d ++ rest) = some ((a, b, c, d), rest) := by
  have hdot (s : List Char) : StopsAt digit? ('.' :: s) := stopsAt_cons (by decide) s
  simp only [quad?, quadText, joinWith, List.map_cons, List.map_nil, List.append_assoc,
    List.cons_append, List.nil_append, octet?_decimal _ (hdot _), octet?_decimal _ h, dot?,
    Option.bind_eq_bind, Option.bind_some, Option.pure_def]

theorem quad?_eq_none {s : List Char} (h : dot? (takeDigits digit? s).2 = none) :
    quad? s = none := by
  simp only [quad?, octet?]
  split
  · rfl
  · split
    · rfl
    · simp only [Option.bind_eq_bind, Option.bind_some, h, Option.bind_none]

/-- What may stand behind a group of an address. -/
def EndsGroup (s : List Char) : Prop := s = [] ∨ ∃ rest, s = ':' :: rest

theorem EndsGroup.stopsAt {s : List Char} (h : EndsGroup s) : StopsAt hexDigit? s := by
  rcases h with rfl | ⟨rest, rfl⟩
  · exact stopsAt_nil _
  · exact stopsAt_cons (by decide) rest

theorem EndsGroup.no_dot {s : List Char} (h : EndsGroup s) :
    dot? (takeDigits digit? s).2 = none := by
  rcases h with rfl | ⟨rest, rfl⟩
  · rfl
  · rw [takeDigits_of_stopsAt (stopsAt_cons (by decide) rest)]
    rfl

theorem digit?_hexadecimal :
    ∀ d < 16, Nat.digitChar d ≠ '.' ∧ (d < 10 → digit? (Nat.digitChar d) = some d) ∧
      (10 ≤ d → digit? (Nat.digitChar d) = none) := by decide

/-- A dotted quad never begins with a hexadecimal group. -/
theorem quad?_hexadecimal (n : Nat) (rest : List Char) (h : EndsGroup rest) :
    quad? (hexadecimal n ++ rest) = none := by
  have hdigits : ∀ ds : List Nat, (∀ d ∈ ds, d < 16) →
      dot? (takeDigits digit? (ds.map Nat.digitChar ++ rest)).2 = none := by
    intro ds
    induction ds with
    | nil => exact fun _ ↦ h.no_dot
    | cons d ds ih =>
      intro hds
      obtain ⟨hdot, hlow, hhigh⟩ := digit?_hexadecimal d (hds d (by simp))
      rw [List.map_cons, List.cons_append, takeDigits]
      by_cases hd : d < 10
      · rw [hlow hd]
        exact ih (fun e he ↦ hds e (by simp [he]))
      · rw [hhigh (by omega)]
        unfold dot?
        split
        · rename_i heq
          exact absurd (List.cons.inj heq).1 hdot
        · rfl
  rw [hexadecimal_eq_map]
  exact quad?_eq_none (hdigits _ (lt_of_mem_digitsOf (by decide) n))

theorem quad?_colon (rest : List Char) : quad? (':' :: rest) = none :=
  quad?_eq_none (EndsGroup.no_dot (.inr ⟨rest, rfl⟩))

theorem group?_hexadecimal (g : UInt16) (rest : List Char) (h : EndsGroup rest) :
    group? (hexadecimal g.toNat ++ rest) = some (g, rest) := by
  have hlt : g.toNat < 65536 := g.toNat_lt
  have hlength : (digitsOf 16 g.toNat).length ≤ 4 := by
    rw [length_digitsOf (by decide)]
    exact (Nat.length_toDigits_le_iff (by decide) (by decide)).2 (by omega)
  have hbound : ¬ (digitsOf 16 g.toNat = [] ∨ 4 < (digitsOf 16 g.toNat).length) := by
    intro hor
    rcases hor with hnil | hlong
    · exact digitsOf_ne_nil 16 _ hnil
    · omega
  simp only [group?, takeDigits_hexadecimal _ h.stopsAt, ofDigits_digitsOf (by decide : 1 < 16)]
  rw [if_neg hbound, Nat.toUInt16_eq, UInt16.ofNat_toNat]

theorem group?_colon (rest : List Char) : group? (':' :: rest) = none := by
  have hcolon : hexDigit? ':' = none := by decide
  simp only [group?, takeDigits_of_stopsAt (stopsAt_cons hcolon rest), true_or, ↓reduceIte]

/-- Where no further group can be read: at the end, or in front of two colons. -/
def EndsGroups (s : List Char) : Prop := s = [] ∨ ∃ rest, s = ':' :: ':' :: rest

theorem EndsGroups.endsGroup {s : List Char} (h : EndsGroups s) : EndsGroup s :=
  h.imp_right (fun ⟨rest, hrest⟩ ↦ ⟨':' :: rest, hrest⟩)

theorem groups_of_endsGroups {s : List Char} (h : EndsGroups s) (limit : Nat) (first : Bool) :
    groups limit first s = ([], false, s) := by
  cases limit with
  | zero => rfl
  | succ limit =>
    rcases h with rfl | ⟨rest, rfl⟩ <;> cases first
    · rfl
    · simp [groups, afterColon?, quad?_eq_none (s := []) rfl, group?, takeDigits]
    · simp [groups, afterColon?, quad?_colon, group?_colon]
    · simp [groups, afterColon?, quad?_colon, group?_colon]

/-- Groups that each have a colon in front. -/
def colonText (gs : List UInt16) : List Char := gs.flatMap (fun g ↦ ':' :: hexadecimal g.toNat)

theorem groupsText_cons (g : UInt16) (gs : List UInt16) :
    groupsText (g :: gs) = hexadecimal g.toNat ++ colonText gs := by
  induction gs generalizing g with
  | nil => simp [groupsText, joinWith, colonText]
  | cons h gs ih =>
    have hh : groupsText (g :: h :: gs) =
        hexadecimal g.toNat ++ [':'] ++ groupsText (h :: gs) := rfl
    rw [hh, ih, colonText, colonText, List.flatMap_cons, List.append_assoc]
    rfl

theorem endsGroup_colonText (gs : List UInt16) {rest : List Char} (h : EndsGroup rest) :
    EndsGroup (colonText gs ++ rest) := by
  cases gs with
  | nil => exact h
  | cons g gs => exact .inr ⟨_, rfl⟩

theorem groups_colonText {rest : List Char} (h : EndsGroups rest) (gs : List UInt16) :
    ∀ limit, gs.length ≤ limit →
      groups limit false (colonText gs ++ rest) = (gs, false, rest) := by
  induction gs with
  | nil => exact fun limit _ ↦ groups_of_endsGroups h limit false
  | cons g gs ih =>
    intro limit hlimit
    obtain ⟨limit, rfl⟩ : ∃ n, limit = n + 1 := ⟨limit - 1, by simp at hlimit; omega⟩
    have hends := endsGroup_colonText gs h.endsGroup
    have htext : colonText (g :: gs) ++ rest =
        ':' :: (hexadecimal g.toNat ++ (colonText gs ++ rest)) := by
      rw [colonText, List.flatMap_cons, List.cons_append, List.cons_append, List.append_assoc]
      rfl
    rw [htext, groups]
    simp only [afterColon?, Bool.false_eq_true, ↓reduceIte, quad?_hexadecimal _ _ hends,
      ite_self, group?_hexadecimal g _ hends, ih limit (by simpa using hlimit)]

theorem groups_groupsText (rest : List Char) (h : EndsGroups rest) (gs : List UInt16) (limit : Nat)
    (hlimit : gs.length ≤ limit) :
    groups limit true (groupsText gs ++ rest) = (gs, false, rest) := by
  cases gs with
  | nil => exact groups_of_endsGroups h limit true
  | cons g gs =>
    obtain ⟨limit, rfl⟩ : ∃ n, limit = n + 1 := ⟨limit - 1, by simp at hlimit; omega⟩
    have hends := endsGroup_colonText gs h.endsGroup
    rw [groupsText_cons, List.append_assoc, groups]
    simp only [afterColon?, ↓reduceIte, quad?_hexadecimal _ _ hends, ite_self,
      group?_hexadecimal g _ hends, groups_colonText h gs limit (by simpa using hlimit)]

theorem quad?_groupsText (gs : List UInt16) (rest : List Char) (h : EndsGroups rest) :
    quad? (groupsText gs ++ rest) = none := by
  cases gs with
  | nil => exact quad?_eq_none h.endsGroup.no_dot
  | cons g gs =>
    rw [groupsText_cons, List.append_assoc]
    exact quad?_hexadecimal _ _ (endsGroup_colonText gs h.endsGroup)

theorem zeroRun_spec (gs : List UInt16) :
    gs = List.replicate (zeroRun gs) 0 ++ gs.drop (zeroRun gs) := by
  induction gs with
  | nil => rfl
  | cons g gs ih =>
    by_cases hg : g = 0
    · subst hg
      have hrun : zeroRun (0 :: gs) = zeroRun gs + 1 := rfl
      rw [hrun, List.replicate_succ, List.drop_succ_cons, List.cons_append, ← ih]
    · have hrun : zeroRun (g :: gs) = 0 := by
        rw [zeroRun, List.takeWhile_cons_of_neg (by simpa using hg)]
        rfl
      rw [hrun]
      rfl

/-- The longest run consists of zero groups. -/
theorem longestRun_spec (gs : List UInt16) :
    gs = gs.take (longestRun gs).1 ++ List.replicate (longestRun gs).2 0 ++
      gs.drop ((longestRun gs).1 + (longestRun gs).2) := by
  induction gs with
  | nil => rfl
  | cons g gs ih =>
    simp only [longestRun]
    split
    · simpa using zeroRun_spec (g :: gs)
    · have hstart : (longestRun gs).1 + 1 + (longestRun gs).2 =
          (longestRun gs).1 + (longestRun gs).2 + 1 := by omega
      rw [hstart, List.take_succ_cons, List.drop_succ_cons, List.cons_append, List.cons_append]
      exact congrArg (g :: ·) ih

theorem readV6?_v6Text {gs : List UInt16} (hgs : gs.length = 8) :
    readV6? (v6Text gs) = (ofGroups? gs).map (·, []) := by
  unfold v6Text
  generalize hrun : longestRun gs = run
  obtain ⟨start, length⟩ := run
  have hspec := longestRun_spec gs
  simp only [hrun] at hspec ⊢
  split
  · rename_i hlong
    generalize hfront : gs.take start = front at hspec ⊢
    generalize hback : gs.drop (start + length) = back at hspec ⊢
    have htotal : front.length + length + back.length = 8 := by
      rw [← hgs, hspec]
      simp only [List.length_append, List.length_replicate]
    have hread := groups_groupsText (':' :: ':' :: groupsText back) (.inr ⟨_, rfl⟩) front 8
      (by omega)
    have hreadBack := groups_groupsText [] (.inl rfl) back (8 - (front.length + 1))
      (by omega)
    rw [List.append_nil] at hreadBack
    have hgap : 8 - front.length - back.length = length := by omega
    have hne : front.length ≠ 8 := by omega
    rw [List.append_assoc]
    simp only [readV6?, List.cons_append, List.nil_append, hread, if_neg hne, Bool.false_eq_true,
      ↓reduceIte, hreadBack, hgap]
    rw [← hspec]
  · have hread := groups_groupsText [] (.inl rfl) gs 8 (by omega)
    rw [List.append_nil] at hread
    simp only [readV6?, hread, hgs, ↓reduceIte]

theorem quad?_v6Text (gs : List UInt16) : quad? (v6Text gs) = none := by
  unfold v6Text
  generalize longestRun gs = run
  simp only
  split
  · rw [List.append_assoc]
    exact quad?_groupsText _ _ (.inr ⟨_, rfl⟩)
  · have h := quad?_groupsText gs [] (.inl rfl)
    rwa [List.append_nil] at h

theorem pair_high_low (g : UInt16) : pair (high g) (low g) = g := by
  apply UInt16.toNat_inj.1
  have hg : g.toNat < 65536 := g.toNat_lt
  simp [pair, high, low]
  omega

/-- A version 4 address in the last two groups. -/
theorem readV6?_mapped (g h : UInt16) :
    readV6? ("::ffff:".toList ++ quadText (high g) (low g) (high h) (low h)) =
      some (v6 0 0 0 0 0 0xffff g h, []) := by
  have hquad := quad?_quadText (high g) (low g) (high h) (low h) (stopsAt_nil digit?)
  rw [List.append_nil] at hquad
  generalize quadText (high g) (low g) (high h) (low h) = text at hquad ⊢
  have hfront := groups_of_endsGroups (s := ':' :: ':' :: 'f' :: 'f' :: 'f' :: 'f' :: ':' :: text)
    (.inr ⟨_, rfl⟩) 8 true
  have hgroup := group?_hexadecimal 0xffff (':' :: text) (.inr ⟨_, rfl⟩)
  have hnot := quad?_hexadecimal (0xffff : UInt16).toNat (':' :: text) (.inr ⟨_, rfl⟩)
  have hhex : hexadecimal (0xffff : UInt16).toNat ++ ':' :: text =
      'f' :: 'f' :: 'f' :: 'f' :: ':' :: text := rfl
  rw [hhex] at hgroup hnot
  have hback : groups 7 true ('f' :: 'f' :: 'f' :: 'f' :: ':' :: text) =
      ([0xffff, g, h], true, []) := by
    simp [groups, afterColon?, hnot, hgroup, hquad, pair_high_low]
  simp [readV6?, hfront, hback, ofGroups?, List.replicate]

/-- The text of an address reads back as the address. -/
theorem ofText?_toText (a : Address) : ofText? a.toText = some a := by
  rw [ofText?, toText, String.toList_ofList, parse?]
  have hread : read? a.text = some (a, []) := by
    cases a with
    | v4 a b c d =>
      have h := quad?_quadText a b c d (stopsAt_nil digit?)
      rw [List.append_nil] at h
      simp only [read?, text, readV4?, h, Option.map_some, Option.some_or]
    | v6 a b c d e f g h =>
      simp only [read?, text]
      split
      · rename_i heq
        simp only [List.cons.injEq, and_true] at heq
        obtain ⟨rfl, rfl, rfl, rfl, rfl, rfl⟩ := heq
        rw [readV6?_mapped]
        simp [readV4?, quad?_colon]
      · have hlength : [a, b, c, d, e, f, g, h].length = 8 := rfl
        simp only [readV4?, quad?_v6Text, readV6?_v6Text hlength, ofGroups?,
          Option.map_none, Option.map_some, Option.none_or]
  rw [hread]

end PodInventory.Address
