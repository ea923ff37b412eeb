namespace PodInventory.Text

/-- What a first byte announces: its own bits of the code point, how many bytes follow, and the
bounds of the first of them. -/
structure Lead where
  bits : Nat
  more : Nat
  low : UInt8
  high : UInt8

/-- The bounds leave out overlong forms, surrogates and what lies above the last code point. -/
def lead? (b : UInt8) : Option Lead :=
  if b < 0x80 then some ⟨b.toNat, 0, 0, 0⟩
  else if b < 0xc2 then none
  else if b < 0xe0 then some ⟨b.toNat - 0xc0, 1, 0x80, 0xbf⟩
  else if b = 0xe0 then some ⟨0, 2, 0xa0, 0xbf⟩
  else if b = 0xed then some ⟨0xd, 2, 0x80, 0x9f⟩
  else if b < 0xf0 then some ⟨b.toNat - 0xe0, 2, 0x80, 0xbf⟩
  else if b = 0xf0 then some ⟨0, 3, 0x90, 0xbf⟩
  else if b < 0xf4 then some ⟨b.toNat - 0xf0, 3, 0x80, 0xbf⟩
  else if b = 0xf4 then some ⟨4, 3, 0x80, 0x8f⟩
  else none

/-- Reads the bytes that follow a first one, up to the first that does not fit. -/
def further : Nat → UInt8 → UInt8 → Nat → List UInt8 → Option Nat × List UInt8
  | 0, _, _, code, rest => (some code, rest)
  | _ + 1, _, _, _, [] => (none, [])
  | more + 1, low, high, code, b :: rest =>
    if low ≤ b ∧ b ≤ high then further more 0x80 0xbf (code * 64 + (b.toNat - 0x80)) rest
    else (none, b :: rest)

theorem further_length_le (more : Nat) (low high : UInt8) (code : Nat) (s : List UInt8) :
    (further more low high code s).2.length ≤ s.length := by
  induction more generalizing low high code s with
  | zero => exact Nat.le_refl _
  | succ more ih =>
    cases s with
    | nil => exact Nat.le_refl _
    | cons b rest =>
      rw [further]
      split
      · exact Nat.le_succ_of_le (ih _ _ _ _)
      · exact Nat.le_refl _

/-- The first character with the rest behind it. Nothing stands for the longest start of a character
that breaks off. -/
def utf8Char (b : UInt8) (rest : List UInt8) : Option Char × List UInt8 :=
  match lead? b with
  | none => (none, rest)
  | some l =>
    let (code, rest) := further l.more l.low l.high l.bits rest
    (code.map Char.ofNat, rest)

theorem utf8Char_length_le (b : UInt8) (rest : List UInt8) :
    (utf8Char b rest).2.length ≤ rest.length := by
  unfold utf8Char
  split
  · exact Nat.le_refl _
  · exact further_length_le _ _ _ _ _

/-- The characters of a text in UTF-8, with gaps where it is none. -/
def utf8Chars : List UInt8 → List (Option Char)
  | [] => []
  | b :: rest => (utf8Char b rest).1 :: utf8Chars (utf8Char b rest).2
termination_by s => s.length
decreasing_by exact Nat.lt_succ_of_le (utf8Char_length_le b rest)

def ofUtf8? (bytes : List UInt8) : Option String := ((utf8Chars bytes).mapM id).map .ofList

/-- Every gap is filled with a replacement character. -/
def ofUtf8Lossy (bytes : List UInt8) : String :=
  .ofList ((utf8Chars bytes).map (fun c ↦ c.getD '\ufffd'))

end PodInventory.Text
