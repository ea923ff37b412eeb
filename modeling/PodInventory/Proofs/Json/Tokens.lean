import PodInventory.Proofs.Json.Grammar
import PodInventory.Proofs.Text.Numeral
import Mathlib.Tactic.SplitIfs

namespace PodInventory.Scan

open Text

theorem escape_short {x c : Char} (h : shortEscape? x = some c) (rest : List Char) (p : Place) :
    escape ⟨x :: rest, p⟩ = ⟨.ok c, .ok ⟨rest, p.after x⟩⟩ := by
  have hx : x ≠ 'u' := by
    rintro rfl
    simp [shortEscape?] at h
  simp only [escape, hx, h, ↓reduceIte, Cursor.next]

theorem text_plain {x : Char} (h₁ : x ≠ '"') (h₂ : x ≠ '\\') (h₃ : ¬ x.toNat < 0x20)
    (fuel : Nat) (read : Except Fault (List Char)) (rest : List Char) (p : Place) :
    text (fuel + 1) read ⟨x :: rest, p⟩ =
      text fuel (push read (.ok x)) ⟨rest, p.after x⟩ := by
  rw [text]
  split
  · rename_i heq
    exact absurd heq (List.cons_ne_nil _ _)
  · rename_i heq
    exact absurd (List.cons.inj heq).1 h₁
  · rename_i heq
    exact absurd (List.cons.inj heq).1 h₂
  · rename_i heq
    obtain ⟨rfl, -⟩ := List.cons.inj heq
    simp only [h₃, ↓reduceIte, Cursor.next]

/-- Whether a numeral can end before this text. -/
def EndsNumeral (s : List Char) : Prop :=
  ∀ c rest, s = c :: rest → digit? c = none ∧ c ≠ '.' ∧ c ≠ 'e' ∧ c ≠ 'E'

theorem EndsNumeral.stopsAt {s : List Char} (h : EndsNumeral s) : StopsAt digit? s :=
  fun c rest hs ↦ (h c rest hs).1

theorem exponentPart_of_endsNumeral {p : Parts} (h : EndsNumeral p.stop.rest) :
    exponentPart p = finish p := by
  unfold exponentPart
  split
  · rename_i x _ hx
    obtain ⟨-, -, he, hE⟩ := h x _ hx
    rw [if_neg (by simp [he, hE])]
  · rfl

end PodInventory.Scan

namespace PodInventory.Grammar

open Text Scan

theorem utf8Size_of_hexDigit? {c : Char} {d : Nat} (h : hexDigit? c = some d) : c.utf8Size = 1 := by
  have hle (x : Char) (hx : x.toNat < 128) (hc : c ≤ x) : c.utf8Size = 1 := by
    have hlt : c.toNat ≤ x.toNat := Char.le_def.1 hc
    refine Char.utf8Size_eq_one_iff.2 ?_
    rw [UInt32.le_iff_toNat_le]
    change c.toNat ≤ 127
    omega
  rw [hexDigit?] at h
  split_ifs at h with h₁ h₂ h₃
  · exact hle '9' (by decide) h₁.2
  · exact hle 'f' (by decide) h₂.2
  · exact hle 'F' (by decide) h₃.2

section Units

theorem codeUnit?_eq_some_iff {digits : List Char} {n : Nat} : codeUnit? digits = some n ↔
    ∃ w x y z a b c d, digits = [w, x, y, z] ∧ hexDigit? w = some a ∧ hexDigit? x = some b ∧
      hexDigit? y = some c ∧ hexDigit? z = some d ∧ n = ofDigits 16 [a, b, c, d] := by
  constructor
  · intro h
    unfold codeUnit? at h
    split at h
    · rename_i w x y z
      simp only [Option.bind_eq_bind, Option.bind_eq_some_iff, Option.pure_def,
        Option.some.injEq] at h
      obtain ⟨a, ha, b, hb, c, hc, d, hd, rfl⟩ := h
      exact ⟨w, x, y, z, a, b, c, d, rfl, ha, hb, hc, hd, rfl⟩
    · cases h
  · rintro ⟨w, x, y, z, a, b, c, d, rfl, ha, hb, hc, hd, rfl⟩
    simp only [codeUnit?, ha, hb, hc, hd]
    rfl

theorem hexUnit_of_codeUnit? {digits : List Char} {n : Nat} (h : codeUnit? digits = some n)
    (rest : List Char) (p : Place) :
    ∃ p', hexUnit ⟨digits ++ rest, p⟩ = .ok (n, ⟨rest, p'⟩) := by
  obtain ⟨w, x, y, z, a, b, c, d, rfl, ha, hb, hc, hd, rfl⟩ := codeUnit?_eq_some_iff.1 h
  refine ⟨⟨p.line, p.column + 4⟩, ?_⟩
  simp only [hexUnit, List.cons_append, List.nil_append, List.take_succ_cons, List.take_zero,
    List.foldl_cons, List.foldl_nil, utf8Size_of_hexDigit? ha, utf8Size_of_hexDigit? hb,
    utf8Size_of_hexDigit? hc, utf8Size_of_hexDigit? hd, ha, hb, hc, hd]
  rfl

theorem codeUnit?_of_hexUnit {c c' : Cursor} {n : Nat} (h : hexUnit c = .ok (n, c')) :
    ∃ digits, codeUnit? digits = some n ∧ c.rest = digits ++ c'.rest := by
  unfold hexUnit at h
  simp only at h
  split at h
  · cases h
  · split at h
    · rename_i w x y z rest hrest
      split at h
      · rename_i a b c d ha hb hc hd
        obtain ⟨rfl, rfl⟩ := Prod.mk.inj (Except.ok.inj h)
        refine ⟨[w, x, y, z], ?_, hrest⟩
        exact codeUnit?_eq_some_iff.2 ⟨w, x, y, z, a, b, c, d, rfl, ha, hb, hc, hd, rfl⟩
      · cases h
    · cases h

end Units

section Surrogates

variable {digits digits' : List Char} {n low : Nat} {h : codeUnit? digits = some n}
  {h' : codeUnit? digits' = some low} {ps : List Piece}

theorem charsOf?_of_low (hlow : isLow n = true) : charsOf? (.unit digits n h :: ps) = none := by
  cases ps with
  | nil => simp [charsOf?, hlow]
  | cons p ps => cases p <;> simp [charsOf?, hlow]

theorem charsOf?_of_neither (hlow : isLow n = false) (hhigh : isHigh n = false) :
    charsOf? (.unit digits n h :: ps) = (charsOf? ps).map (Char.ofNat n :: ·) := by
  cases ps with
  | nil => simp [charsOf?, hlow, hhigh]
  | cons p ps => cases p <;> simp [charsOf?, hlow, hhigh]

theorem charsOf?_of_high (hn : isLow n = false) (hhigh : isHigh n = true) :
    charsOf? (.unit digits n h :: .unit digits' low h' :: ps) =
      if isLow low then (charsOf? ps).map (ofPair n low :: ·) else none := by
  simp [charsOf?, hn, hhigh]

end Surrogates

/-- The pieces of a text with their closing quote. -/
def closing (ps : List Piece) (rest : List Char) : List Char :=
  written ps ++ '"' :: rest

theorem closing_cons (p : Piece) (ps : List Piece) (rest : List Char) :
    closing (p :: ps) rest = p.chars ++ closing ps rest := by
  simp [closing, written]

/-- An escape that stands in front of pieces: what a reader gets from it, and the pieces that it
goes on with. It may have taken two, for a surrogate pair. -/
def Escapes (p : Piece) (ps : List Piece) (rest : List Char) (token : Token Char) : Prop :=
  ∃ qs place, token.rest = .ok ⟨closing qs rest, place⟩ ∧ qs.length ≤ ps.length ∧
    charsOf? (p :: ps) = token.value.toOption.bind (fun c ↦ (charsOf? qs).map (c :: ·))

section Escapes

variable (ps : List Piece) (rest : List Char) (place : Place)

theorem escapes_short {letter c : Char} (h : shortEscape? letter = some c) :
    Escapes (.short letter c h) ps rest (escape ⟨letter :: closing ps rest, place⟩) := by
  rw [escape_short h]
  exact ⟨ps, _, rfl, Nat.le_refl _, rfl⟩

/-- A high surrogate with no escape of four digits behind it. -/
theorem lowHalf_alone (high : Nat) {s : List Char} (hsome : s ≠ []) (hlone : s ≠ ['\\'])
    (h : ∀ more, s ≠ '\\' :: 'u' :: more) :
    ∃ f, lowHalf high ⟨s, place⟩ = ⟨.error f, .ok ⟨s, place⟩⟩ := by
  match s with
  | [] => exact absurd rfl hsome
  | [c] =>
    have hc : c ≠ '\\' := fun hc ↦ hlone (by rw [hc])
    refine ⟨Cursor.ahead ⟨[c], place⟩ .unfinishedSurrogate, ?_⟩
    simp [lowHalf, hc]
  | c :: x :: more =>
    by_cases hc : c = '\\'
    · have hx : x ≠ 'u' := fun hx ↦ h more (by rw [hc, hx])
      refine ⟨Cursor.ahead ⟨x :: more, place.after '\\'⟩ .unfinishedSurrogate, ?_⟩
      simp [lowHalf, hc, hx, Cursor.next]
    · refine ⟨Cursor.ahead ⟨c :: x :: more, place⟩ .unfinishedSurrogate, ?_⟩
      simp [lowHalf, hc]

/-- What stands behind a high surrogate is looked at along with it if it is an escape of four
digits. -/
theorem lowHalf_closing {high : Nat} {digits : List Char} (h : codeUnit? digits = some high)
    (hlow : isLow high = false) (hhigh : isHigh high = true) :
    Escapes (.unit digits high h) ps rest (lowHalf high ⟨closing ps rest, place⟩) := by
  have halone (hsome : closing ps rest ≠ []) (hlone : closing ps rest ≠ ['\\'])
      (hother : ∀ more, closing ps rest ≠ '\\' :: 'u' :: more)
      (hnone : charsOf? (.unit digits high h :: ps) = none) :
      Escapes (.unit digits high h) ps rest (lowHalf high ⟨closing ps rest, place⟩) := by
    obtain ⟨f, hf⟩ := lowHalf_alone place high hsome hlone hother
    rw [hf]
    exact ⟨ps, place, rfl, Nat.le_refl _, hnone⟩
  cases ps with
  | nil =>
    refine halone ?_ ?_ ?_ (by simp [charsOf?, hlow, hhigh])
    all_goals simp [closing, written]
  | cons p ps =>
    cases p with
    | plain c hquote hbackslash hcontrol =>
      refine halone ?_ ?_ ?_ (by simp [charsOf?, hlow, hhigh])
      all_goals simp [closing, written, Piece.chars, hbackslash]
    | short letter c hshort =>
      have hletter : letter ≠ 'u' := by
        rintro rfl
        simp [shortEscape?] at hshort
      refine halone ?_ ?_ ?_ (by simp [charsOf?, hlow, hhigh])
      all_goals simp [closing, written, Piece.chars, hletter]
    | unit digits' low hunit =>
      obtain ⟨place', hdigits⟩ :=
        hexUnit_of_codeUnit? hunit (closing ps rest) ((place.after '\\').after 'u')
      have hclosing : closing (.unit digits' low hunit :: ps) rest =
          '\\' :: 'u' :: (digits' ++ closing ps rest) := closing_cons _ _ _
      have hpair : lowHalf high ⟨closing (.unit digits' low hunit :: ps) rest, place⟩ =
          if low < 0xdc00 ∨ 0xdfff < low then
            ⟨.error (Cursor.here ⟨closing ps rest, place'⟩ .loneSurrogate),
              .ok ⟨closing ps rest, place'⟩⟩
          else ⟨.ok (ofPair high low), .ok ⟨closing ps rest, place'⟩⟩ := by
        rw [hclosing, lowHalf]
        simp only [Cursor.next, hdigits]
        rfl
      rw [hpair]
      refine ⟨ps, place', ?_, Nat.le_succ _, ?_⟩
      · split <;> rfl
      · rw [charsOf?_of_high hlow hhigh]
        have hrange : isLow low = true ↔ ¬ (low < 0xdc00 ∨ 0xdfff < low) := by
          simp only [isLow, Bool.and_eq_true, decide_eq_true_eq]
          omega
        by_cases hout : low < 0xdc00 ∨ 0xdfff < low
        · rw [if_neg (fun hin ↦ hrange.1 hin hout), if_pos hout]
          rfl
        · rw [if_pos (hrange.2 hout), if_neg hout]
          rfl

theorem escapes_unit {n : Nat} {digits : List Char} (h : codeUnit? digits = some n) :
    Escapes (.unit digits n h) ps rest (escape ⟨'u' :: (digits ++ closing ps rest), place⟩) := by
  obtain ⟨place', hunit⟩ := hexUnit_of_codeUnit? h (closing ps rest) (place.after 'u')
  have hescape : escape ⟨'u' :: (digits ++ closing ps rest), place⟩ =
      if 0xdc00 ≤ n ∧ n ≤ 0xdfff then
        ⟨.error (Cursor.here ⟨closing ps rest, place'⟩ .loneSurrogate),
          .ok ⟨closing ps rest, place'⟩⟩
      else if 0xd800 ≤ n ∧ n ≤ 0xdbff then lowHalf n ⟨closing ps rest, place'⟩
      else ⟨.ok (Char.ofNat n), .ok ⟨closing ps rest, place'⟩⟩ := by
    simp only [escape, if_true, Cursor.next, hunit]
  rw [hescape]
  split_ifs with hlow hhigh
  · exact ⟨ps, place', rfl, Nat.le_refl _, charsOf?_of_low (by simpa [isLow] using hlow)⟩
  · refine lowHalf_closing ps rest place' h ?_ ?_
    · simpa [isLow] using hlow
    · simpa [isHigh] using hhigh
  · refine ⟨ps, place', rfl, Nat.le_refl _, charsOf?_of_neither ?_ ?_⟩
    · simpa [isLow] using hlow
    · simpa [isHigh] using hhigh

end Escapes

/-- What an escape leaves is what follows the pieces that it took. -/
theorem written_of_lowHalf {high : Nat} {c c' : Cursor} (h : (lowHalf high c).rest = .ok c') :
    ∃ ps, c.rest = written ps ++ c'.rest := by
  have hsame (h : (Except.ok c : Except Fault Cursor) = .ok c') :
      ∃ ps, c.rest = written ps ++ c'.rest := by
    obtain rfl := Except.ok.inj h
    exact ⟨[], rfl⟩
  obtain ⟨s, place⟩ := c
  unfold lowHalf at h
  split at h
  · cases h
  · rename_i rest hrest
    obtain rfl : s = '\\' :: rest := hrest
    split at h
    · cases h
    · rename_i more hmore
      obtain rfl : rest = 'u' :: more := hmore
      split at h
      · cases h
      · rename_i low rest' hunit
        obtain ⟨digits, hdigits, hbehind⟩ := codeUnit?_of_hexUnit hunit
        have hrest : rest' = c' := by
          split at h
          · exact Except.ok.inj h
          · exact Except.ok.inj h
        subst hrest
        refine ⟨[.unit digits low hdigits], ?_⟩
        have hmore : more = digits ++ rest'.rest := hbehind
        simp [written, Piece.chars, hmore]
    · exact hsame h
  · exact hsame h

theorem written_of_escape {c c' : Cursor} (h : (escape c).rest = .ok c') :
    ∃ ps, '\\' :: c.rest = written ps ++ c'.rest := by
  obtain ⟨s, place⟩ := c
  unfold escape at h
  split at h
  · cases h
  · rename_i x more hs
    obtain rfl : s = x :: more := hs
    split at h
    · rename_i hx
      subst hx
      split at h
      · cases h
      · rename_i n rest hunit
        obtain ⟨digits, hdigits, hbehind⟩ := codeUnit?_of_hexUnit hunit
        have hmore : more = digits ++ rest.rest := hbehind
        have hps : ∃ ps, rest.rest = written ps ++ c'.rest := by
          split at h
          · obtain rfl := Except.ok.inj h
            exact ⟨[], rfl⟩
          · split at h
            · exact written_of_lowHalf h
            · obtain rfl := Except.ok.inj h
              exact ⟨[], rfl⟩
        obtain ⟨ps, hps⟩ := hps
        exact ⟨.unit digits n hdigits :: ps, by simp [written, Piece.chars, hmore, hps]⟩
    · split at h
      · rename_i c hshort
        obtain rfl := Except.ok.inj h
        exact ⟨[.short x c hshort], rfl⟩
      · cases h

theorem closing_of_text {fuel : Nat} {read : Except Fault (List Char)} {c c' : Cursor}
    (h : (text fuel read c).rest = .ok c') : ∃ ps, c.rest = closing ps c'.rest := by
  induction fuel generalizing read c with
  | zero => cases h
  | succ fuel ih =>
    obtain ⟨s, place⟩ := c
    rw [text] at h
    split at h
    · cases read <;> cases h
    · rename_i rest hs
      obtain rfl : s = '"' :: rest := hs
      obtain rfl := Except.ok.inj h
      exact ⟨[], rfl⟩
    · rename_i rest hs
      obtain rfl : s = '\\' :: rest := hs
      simp only at h
      split at h
      · cases read <;> cases h
      · rename_i rest' hrest
        obtain ⟨ps, hps⟩ := written_of_escape hrest
        obtain ⟨qs, hqs⟩ := ih h
        refine ⟨ps ++ qs, ?_⟩
        change '\\' :: rest = written ps ++ rest'.rest at hps
        rw [hqs] at hps
        simpa [closing, written] using hps
    · rename_i x rest hquote hbackslash hs
      obtain rfl : s = x :: rest := hs
      split at h
      · cases read <;> cases h
      · rename_i hcontrol
        obtain ⟨ps, hps⟩ := ih h
        change rest = closing ps c'.rest at hps
        exact ⟨.plain x hquote hbackslash hcontrol :: ps, congrArg (x :: ·) hps⟩

theorem toOption_push (read : Except Fault (List Char)) (char : Except Fault Char) :
    (push read char).toOption =
      read.toOption.bind (fun cs ↦ char.toOption.map (fun c ↦ c :: cs)) := by
  cases read <;> cases char <;> rfl

/-- A reader that has read something has passed over pieces and their closing quote, and adds what
they stand for. -/
def Passes (token : Token String) (read : Except Fault (List Char)) (ps : List Piece)
    (rest : List Char) : Prop :=
  (∃ place, token.rest = .ok ⟨rest, place⟩) ∧
    token.value.toOption =
      read.toOption.bind (fun cs ↦ (charsOf? ps).map (fun ds ↦ .ofList (cs.reverse ++ ds)))

theorem Passes.of_push {token : Token String} {read : Except Fault (List Char)}
    {char : Except Fault Char} {p : Piece} {ps qs : List Piece} {rest : List Char}
    (h : Passes token (push read char) qs rest)
    (hchars : charsOf? (p :: ps) = char.toOption.bind (fun c ↦ (charsOf? qs).map (c :: ·))) :
    Passes token read (p :: ps) rest := by
  refine ⟨h.1, ?_⟩
  rw [h.2, toOption_push, hchars]
  cases read.toOption <;> cases char.toOption <;> cases charsOf? qs <;>
    simp [-String.ofList_append]

theorem passes_closing {ps : List Piece} {fuel : Nat} (hf : ps.length < fuel)
    (read : Except Fault (List Char)) (rest : List Char) (place : Place) :
    Passes (text fuel read ⟨closing ps rest, place⟩) read ps rest := by
  -- one step of fuel takes one piece, or two for a surrogate pair
  induction fuel generalizing ps read place with
  | zero => omega
  | succ fuel ih =>
    cases ps with
    | nil =>
      refine ⟨⟨place.after '"', rfl⟩, ?_⟩
      cases read <;> simp [text, closing, written, charsOf?, Except.map, Except.toOption]
    | cons p ps =>
      rw [List.length_cons] at hf
      have hescaped {s : List Char} (hs : p.chars = '\\' :: s)
          (h : Escapes p ps rest (escape ⟨s ++ closing ps rest, place.after '\\'⟩)) :
          Passes (text (fuel + 1) read ⟨closing (p :: ps) rest, place⟩) read (p :: ps) rest := by
        obtain ⟨qs, place', hrest, hle, hchars⟩ := h
        have htext : text (fuel + 1) read ⟨closing (p :: ps) rest, place⟩ =
            text fuel (push read (escape ⟨s ++ closing ps rest, place.after '\\'⟩).value)
              ⟨closing qs rest, place'⟩ := by
          rw [closing_cons, hs, List.cons_append, text]
          simp only [Cursor.next, hrest]
        rw [htext]
        exact (ih (by omega) _ place').of_push hchars
      cases p with
      | plain c hquote hbackslash hcontrol =>
        have htext : text (fuel + 1) read
            ⟨closing (.plain c hquote hbackslash hcontrol :: ps) rest, place⟩ =
              text fuel (push read (.ok c)) ⟨closing ps rest, place.after c⟩ :=
          text_plain hquote hbackslash hcontrol fuel read _ place
        rw [htext]
        exact (ih (by omega) _ _).of_push rfl
      | short letter c hshort => exact hescaped rfl (escapes_short ps rest _ hshort)
      | unit digits n hunit => exact hescaped rfl (escapes_unit ps rest _ hunit)

section Numbers

/-- The number does not depend on where it stands. Only the place of a fault does. -/
theorem toOption_value_congr {p q : Parts} (hnegative : p.negative = q.negative)
    (hwhole : p.whole = q.whole) (hfraction : p.fraction = q.fraction)
    (hexponent : p.exponent.map (fun e ↦ (e.1, e.2.1)) = q.exponent.map (fun e ↦ (e.1, e.2.1))) :
    p.value.toOption = q.value.toOption := by
  obtain ⟨negative, whole, fraction, exponent, stop⟩ := p
  obtain ⟨_, _, _, exponent', stop'⟩ := q
  obtain rfl : negative = _ := hnegative
  obtain rfl : whole = _ := hwhole
  obtain rfl : fraction = _ := hfraction
  cases exponent with
  | none =>
    obtain rfl := Option.map_eq_none_iff.1 hexponent.symm
    simp only [Parts.value, apply_ite Except.toOption]
    split_ifs
    · rfl
    · rfl
    · split <;> rfl
    · split <;> rfl
  | some e =>
    obtain ⟨e', rfl, heq⟩ := Option.map_eq_some_iff.1 hexponent.symm
    obtain ⟨downward, digits, before⟩ := e
    obtain ⟨downward', digits', before'⟩ := e'
    obtain ⟨rfl, rfl⟩ := Prod.mk.inj heq
    simp only [Parts.value]
    split
    · split <;> rfl
    · simp only [apply_ite Except.toOption]
      rfl

/-- A reader found the parts of a numeral, in whatever place, and rests behind it. -/
structure Found (p : Parts) (n : Numeral) (rest : List Char) : Prop where
  negative : p.negative = n.negative
  whole : p.whole = n.whole.digits
  fraction : p.fraction = n.fraction.elim [] Figures.digits
  exponent : p.exponent.map (fun e ↦ (e.1, e.2.1)) =
    n.exponent.map (fun e ↦ (e.sign == ['-'], e.figures.digits))
  stop : p.stop.rest = rest

variable {p : Parts} {n : Numeral} {rest : List Char}

theorem Found.value (h : Found p n rest) : p.value.toOption = n.value? := by
  refine toOption_value_congr h.negative h.whole h.fraction (h.exponent.trans ?_)
  rw [Numeral.parts, Option.map_map]
  rfl

theorem takeDigits_figures (f : Figures) {rest : List Char} (h : StopsAt digit? rest) :
    takeDigits digit? (f.chars ++ rest) = (f.digits, rest) :=
  takeDigits_map_digitChar (fun d hd ↦ digit?_digitChar d (f.decimal d hd)) h

theorem Figures.exists_cons (f : Figures) :
    ∃ d more, d < 10 ∧ f.digits = d :: more ∧
      f.chars = Nat.digitChar d :: more.map Nat.digitChar := by
  obtain ⟨d, more, hdigits⟩ := List.exists_cons_of_ne_nil f.some
  exact ⟨d, more, f.decimal d (hdigits ▸ List.mem_cons_self), hdigits,
    by simp [Figures.chars, hdigits]⟩

theorem digitChar_ne : ∀ d < 10, Nat.digitChar d ≠ '+' ∧ Nat.digitChar d ≠ '-' := by decide

theorem found_exponentPart (n : Numeral) (hrest : EndsNumeral rest) (place : Place) :
    ∃ q, exponentPart ⟨n.negative, n.whole.digits, n.fraction.elim [] Figures.digits, none,
      ⟨n.exponentChars ++ rest, place⟩⟩ = finish q ∧ Found q n rest := by
  cases he : n.exponent with
  | none =>
    have hchars : n.exponentChars ++ rest = rest := by simp [Numeral.exponentChars, he]
    rw [hchars]
    exact ⟨_, exponentPart_of_endsNumeral hrest, rfl, rfl, rfl, by rw [he]; rfl, rfl⟩
  | some e =>
    obtain ⟨d, more, hd, hdigits, hchars⟩ := e.figures.exists_cons
    obtain ⟨hplus, hminus⟩ := digitChar_ne d hd
    have htake := takeDigits_figures e.figures hrest.stopsAt
    rw [hchars, List.cons_append, hdigits] at htake
    have htext : n.exponentChars ++ rest =
        e.letter :: (e.sign ++ (Nat.digitChar d :: (more.map Nat.digitChar ++ rest))) := by
      simp [Numeral.exponentChars, he, Exponent.chars, hchars]
    have hfound {downward : Bool} (hdownward : downward = (e.sign == ['-'])) (c : Cursor) : Found
        ⟨n.negative, n.whole.digits, n.fraction.elim [] Figures.digits,
          some (downward, d :: more, c),
          c.forward (d :: more).length rest⟩ n rest := by
      refine ⟨rfl, rfl, rfl, ?_, rfl⟩
      rw [he, Option.map_some, Option.map_some, hdigits, hdownward]
    rw [htext, exponentPart]
    simp only [if_pos e.isLetter, Cursor.next]
    rcases e.isSign with hsign | hsign | hsign
    · simp only [hsign, List.nil_append, List.cons.injEq, hplus, hminus, false_and, imp_self,
        implies_true, htake]
      exact ⟨_, rfl, hfound (by rw [hsign]; rfl) _⟩
    · simp only [hsign, List.cons_append, List.nil_append, htake]
      exact ⟨_, rfl, hfound (by rw [hsign]; rfl) _⟩
    · simp only [hsign, List.cons_append, List.nil_append, htake]
      exact ⟨_, rfl, hfound (by rw [hsign]; rfl) _⟩

/-- Digits end where an exponent begins or a number does, and no fraction begins there. -/
theorem head_exponentChars (n : Numeral) (hrest : EndsNumeral rest) {c : Char} {more : List Char}
    (h : n.exponentChars ++ rest = c :: more) : digit? c = none ∧ c ≠ '.' := by
  rw [Numeral.exponentChars] at h
  cases he : n.exponent with
  | none =>
    rw [he] at h
    obtain ⟨hdigit, hdot, -⟩ := hrest c more h
    exact ⟨hdigit, hdot⟩
  | some e =>
    rw [he] at h
    obtain rfl : e.letter = c := (List.cons.inj h).1
    rcases e.isLetter with h | h <;> rw [h] <;> decide

theorem stopsAt_exponentChars (n : Numeral) (hrest : EndsNumeral rest) :
    StopsAt digit? (n.exponentChars ++ rest) :=
  fun _ _ h ↦ (head_exponentChars n hrest h).1

theorem found_fractionPart (n : Numeral) (hrest : EndsNumeral rest) (place : Place) :
    ∃ q, fractionPart ⟨n.negative, n.whole.digits, [], none,
      ⟨n.fractionChars ++ (n.exponentChars ++ rest), place⟩⟩ = finish q ∧ Found q n rest := by
  cases hf : n.fraction with
  | none =>
    have hexponent := found_exponentPart n hrest place
    have hchars : n.fractionChars ++ (n.exponentChars ++ rest) = n.exponentChars ++ rest := by
      simp [Numeral.fractionChars, hf]
    rw [hf, Option.elim_none] at hexponent
    rw [hchars, fractionPart]
    split
    · rename_i heq
      exact absurd rfl (head_exponentChars n hrest heq).2
    · exact hexponent
  | some f =>
    obtain ⟨d, more, hd, hdigits, hchars⟩ := f.exists_cons
    have htake := takeDigits_figures f (stopsAt_exponentChars n hrest)
    rw [hchars, List.cons_append, hdigits] at htake
    have htext : n.fractionChars ++ (n.exponentChars ++ rest) =
        '.' :: Nat.digitChar d :: (more.map Nat.digitChar ++ (n.exponentChars ++ rest)) := by
      simp [Numeral.fractionChars, hf, hchars]
    have hexponent := found_exponentPart n hrest
      ⟨(place.after '.').line, (place.after '.').column + (d :: more).length⟩
    rw [hf, Option.elim_some, hdigits] at hexponent
    rw [htext, fractionPart]
    simp only [Cursor.next, htake]
    exact hexponent

theorem found_unsigned (n : Numeral) (hrest : EndsNumeral rest) (place : Place) :
    ∃ q, unsigned n.negative
      ⟨n.whole.chars ++ (n.fractionChars ++ (n.exponentChars ++ rest)), place⟩ = finish q ∧
        Found q n rest := by
  obtain ⟨d, more, hd, hdigits, hchars⟩ := n.whole.exists_cons
  have hstops : StopsAt digit? (n.fractionChars ++ (n.exponentChars ++ rest)) := by
    rw [Numeral.fractionChars]
    cases n.fraction with
    | none => exact stopsAt_exponentChars n hrest
    | some f => exact stopsAt_cons rfl _
  have htake := takeDigits_figures n.whole hstops
  have hfraction := found_fractionPart n hrest ⟨place.line, place.column + (d :: more).length⟩
  rw [hchars, List.cons_append] at htake ⊢
  rw [hdigits] at htake hfraction
  rw [unsigned]
  simp only [htake]
  split
  · rename_i heq
    cases heq
  · rename_i heq _
    cases heq
  · rename_i heq _
    obtain ⟨hzero, -⟩ := Prod.mk.inj heq
    exact absurd (hdigits.trans hzero) (n.leading _ _)
  · rename_i heq _
    obtain ⟨rfl, rfl⟩ := Prod.mk.inj heq
    exact hfraction

theorem found_number (n : Numeral) (hrest : EndsNumeral rest) (place : Place) :
    ∃ q, number ⟨n.chars ++ rest, place⟩ = finish q ∧ Found q n rest := by
  have hchars : n.chars ++ rest = (if n.negative then ['-'] else []) ++
      (n.whole.chars ++ (n.fractionChars ++ (n.exponentChars ++ rest))) := by
    simp [Numeral.chars]
  obtain ⟨d, more, hd, -, hwhole⟩ := n.whole.exists_cons
  obtain ⟨-, hminus⟩ := digitChar_ne d hd
  rw [hchars, number]
  cases hnegative : n.negative with
  | true =>
    have hunsigned := found_unsigned n hrest (place.after '-')
    rw [hnegative] at hunsigned
    exact hunsigned
  | false =>
    have hunsigned := found_unsigned n hrest place
    rw [hnegative] at hunsigned
    split
    · rename_i heq
      rw [hwhole] at heq
      exact absurd (List.cons.inj heq).1 hminus
    · exact hunsigned

/-- A number is the numeral that it is written as. -/
theorem number_chars (n : Numeral) (hrest : EndsNumeral rest) (place : Place) :
    (∃ place', (number ⟨n.chars ++ rest, place⟩).rest = .ok ⟨rest, place'⟩) ∧
      (number ⟨n.chars ++ rest, place⟩).value.toOption = n.value? := by
  obtain ⟨q, hnumber, hq⟩ := found_number n hrest place
  rw [hnumber]
  exact ⟨⟨q.stop.place, by rw [finish, ← hq.stop]⟩, hq.value⟩

section Endings

variable {c' : Cursor}

theorem figures_of_takeDigits {s rest : List Char} {digits : List Nat}
    (h : takeDigits digit? s = (digits, rest)) (hsome : digits ≠ []) :
    ∃ f : Figures, f.digits = digits ∧ s = f.chars ++ rest := by
  obtain ⟨hs, hdecimal⟩ := of_takeDigits_digit? h
  exact ⟨⟨digits, hsome, hdecimal⟩, rfl, hs⟩

theorem of_exponentPart (h : (exponentPart p).rest = .ok c') :
    ∃ e : Option Exponent, p.stop.rest = e.elim [] Exponent.chars ++ c'.rest := by
  obtain ⟨negative, whole, fraction, exponent, s, place⟩ := p
  have hnone (h : (finish ⟨negative, whole, fraction, exponent, s, place⟩).rest = .ok c') :
      ∃ e : Option Exponent, s = e.elim [] Exponent.chars ++ c'.rest := by
    obtain rfl := Except.ok.inj h
    exact ⟨none, rfl⟩
  unfold exponentPart at h
  split at h
  · rename_i x t hs
    obtain rfl : s = x :: t := hs
    split at h
    · rename_i hletter
      simp only [Cursor.next] at h
      split at h
      · cases h
      · cases h
      · rename_i digits rest hsome htake _
        obtain rfl := Except.ok.inj h
        obtain ⟨f, -, hf⟩ := figures_of_takeDigits htake hsome
        have hsign : ∃ sign, (sign = [] ∨ sign = ['+'] ∨ sign = ['-']) ∧
            t = sign ++ f.chars ++ rest := by
          split at hf
          · exact ⟨['+'], .inr (.inl rfl), by simp [← hf]⟩
          · exact ⟨['-'], .inr (.inr rfl), by simp [← hf]⟩
          · exact ⟨[], .inl rfl, hf⟩
        obtain ⟨sign, hsign, rfl⟩ := hsign
        exact ⟨some ⟨x, sign, f, hletter, hsign⟩, by simp [Exponent.chars, Cursor.forward]⟩
    · exact hnone h
  · exact hnone h

theorem of_fractionPart (h : (fractionPart p).rest = .ok c') :
    ∃ (f : Option Figures) (e : Option Exponent), p.stop.rest =
      f.elim [] (fun f ↦ '.' :: f.chars) ++ (e.elim [] Exponent.chars ++ c'.rest) := by
  obtain ⟨negative, whole, fraction, exponent, s, place⟩ := p
  unfold fractionPart at h
  split at h
  · rename_i t hs
    obtain rfl : s = '.' :: t := hs
    simp only [Cursor.next] at h
    split at h
    · cases h
    · cases h
    · rename_i digits rest hsome _ htake
      obtain ⟨f, -, rfl⟩ := figures_of_takeDigits htake hsome
      obtain ⟨e, he⟩ := of_exponentPart h
      exact ⟨some f, e, congrArg (fun t ↦ '.' :: (f.chars ++ t)) he⟩
  · obtain ⟨e, he⟩ := of_exponentPart h
    exact ⟨none, e, he⟩

theorem of_unsigned {negative : Bool} {c : Cursor} (h : (unsigned negative c).rest = .ok c') :
    ∃ n : Numeral, n.negative = negative ∧
      c.rest = n.whole.chars ++ (n.fractionChars ++ (n.exponentChars ++ c'.rest)) := by
  unfold unsigned at h
  split at h
  · cases h
  · cases h
  · cases h
  · rename_i digits rest hsome hleading htake _
    obtain ⟨whole, rfl, hwhole⟩ := figures_of_takeDigits htake hsome
    obtain ⟨f, e, hbehind⟩ := of_fractionPart h
    change rest = _ at hbehind
    exact ⟨⟨negative, whole, hleading, f, e⟩, rfl, hbehind ▸ hwhole⟩

/-- What a reader takes for a number is written as one. -/
theorem of_number {c : Cursor} (h : (number c).rest = .ok c') :
    ∃ n : Numeral, c.rest = n.chars ++ c'.rest := by
  obtain ⟨s, place⟩ := c
  unfold number at h
  split at h
  · rename_i t hs
    obtain rfl : s = '-' :: t := hs
    obtain ⟨n, hnegative, hn⟩ := of_unsigned h
    refine ⟨n, ?_⟩
    change t = _ at hn
    simp [Numeral.chars, hnegative, hn]
  · obtain ⟨n, hnegative, hn⟩ := of_unsigned h
    refine ⟨n, ?_⟩
    change s = _ at hn
    simp [Numeral.chars, hnegative, hn]

end Endings

end Numbers

end PodInventory.Grammar
