import PodInventory.Text.Numeral

namespace PodInventory.Text.Punycode

/-- The digits of base 36: letters first, then numerals. -/
def digitChar (d : Nat) : Char :=
  if d < 26 then Char.ofNat ('a'.toNat + d) else Char.ofNat ('0'.toNat + d - 26)

def digitOf? (c : Char) : Option Nat :=
  if c.isLower then some (c.toNat - 'a'.toNat)
  else if c.isUpper then some (c.toNat - 'A'.toNat)
  else if c.isDigit then some (c.toNat - '0'.toNat + 26)
  else none

def threshold (k bias : Nat) : Nat :=
  if k ≤ bias then 1 else if bias + 26 ≤ k then 26 else k - bias

theorem threshold_pos (k bias : Nat) : 1 ≤ threshold k bias := by
  unfold threshold
  split
  · exact Nat.le_refl 1
  · split <;> omega

/-- A number in digits whose weights depend on the bias. -/
def digits (k bias q : Nat) : List Char :=
  let t := threshold k bias
  if q < t then [digitChar q]
  else digitChar (t + (q - t) % (36 - t)) :: digits (k + 36) bias ((q - t) / (36 - t))
termination_by q
decreasing_by
  have := threshold_pos k bias
  have := Nat.div_le_self (q - threshold k bias) (36 - threshold k bias)
  omega

def shrink (k delta : Nat) : Nat :=
  if 455 < delta then shrink (k + 36) (delta / 35) else k + 36 * delta / (delta + 38)
termination_by delta

/-- The bias after a delta was written as the n-th one. -/
def adapt (delta n : Nat) (isFirst : Bool) : Nat :=
  let delta := if isFirst then delta / 700 else delta / 2
  shrink 0 (delta + delta / n)

structure State where
  out : List Char
  delta : Nat
  bias : Nat
  written : Nat

/-- Passes one character of the text while the characters of one code are put in. -/
def pass (basic code : Nat) (st : State) (c : Char) : State :=
  if c.toNat < code then { st with delta := st.delta + 1 }
  else if c.toNat = code then
    { out := st.out ++ digits 36 st.bias st.delta
      delta := 0
      bias := adapt st.delta (st.written + 1) (st.written == basic)
      written := st.written + 1 }
  else st

def insertCodes (s : List Char) (basic : Nat) : List Nat → Nat → State → State
  | [], _, st => st
  | code :: rest, next, st =>
    let st := { st with delta := st.delta + (code - next) * (st.written + 1) }
    let st := s.foldl (pass basic code) st
    insertCodes s basic rest (code + 1) { st with delta := st.delta + 1 }

def isBasic (c : Char) : Bool := c.toNat < 0x80

/-- The ASCII characters, and behind them what tells where the others stand. -/
def encode (s : List Char) : List Char :=
  let basic := s.filter isBasic
  let codes := ((s.filter (!isBasic ·)).map Char.toNat).mergeSort.eraseDups
  let st := insertCodes s basic.length codes 128 ⟨[], 0, 72, basic.length⟩
  (if basic.isEmpty then [] else basic ++ ['-']) ++ st.out

/-- Reads a number in digits whose weights depend on the bias, and adds it to a value. -/
def readDigits? (bias : Nat) (k weight value : Nat) : List Char → Option (Nat × List Char)
  | [] => none
  | c :: rest =>
    match digitOf? c with
    | none => none
    | some d =>
      let t := threshold k bias
      if d < t then some (value + d * weight, rest)
      else readDigits? bias (k + 36) (weight * (36 - t)) (value + d * weight) rest

theorem length_of_readDigits? {bias k weight value : Nat} {s : List Char} {r : Nat × List Char}
    (h : readDigits? bias k weight value s = some r) : r.2.length < s.length := by
  induction s generalizing k weight value with
  | nil => simp [readDigits?] at h
  | cons c rest ih =>
    rw [readDigits?] at h
    split at h
    · simp at h
    · dsimp only at h
      split at h
      · rw [← Option.some.inj h]
        exact Nat.lt_succ_self _
      · exact Nat.lt_succ_of_lt (ih h)

/-- Puts the characters in that the digits tell of. Each one stands at or behind `position`, or has a
higher code than the one before. -/
def insertDecoded? (bias code position : Nat) (out : List Char) (s : List Char) :
    Option (List Char) :=
  if s.isEmpty then some out
  else
    match _h : readDigits? bias 36 1 position s with
    | none => none
    | some (total, rest) =>
      let count := out.length + 1
      let code := code + total / count
      if code.isValidChar then
        insertDecoded? (adapt (total - position) count (position == 0)) code (total % count + 1)
          (out.insertIdx (total % count) (Char.ofNat code)) rest
      else none
termination_by s.length
decreasing_by exact length_of_readDigits? ‹_›

/-- Takes an encoding back. -/
def decode? (s : List Char) : Option (List Char) :=
  let behind := (s.reverse.takeWhile (· != '-')).reverse
  let basic := s.take (s.length - behind.length - 1)
  if s.all isBasic then insertDecoded? 72 128 0 basic (if basic.isEmpty then s else behind) else none

end PodInventory.Text.Punycode
