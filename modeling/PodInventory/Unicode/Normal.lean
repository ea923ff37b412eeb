import PodInventory.Unicode.CombiningClass
import PodInventory.Unicode.Composition

namespace PodInventory.Unicode

/-- A syllable of Hangul in parts: the letters before it and its last letter. -/
def syllableParts? (c : Char) : Option (List Char) :=
  let index := c.toNat - 0xac00
  if c.toNat < 0xac00 ∨ 0xd7a3 < c.toNat then none
  else if index % 28 = 0 then
    some [Char.ofNat (0x1100 + index / 588), Char.ofNat (0x1161 + index % 588 / 28)]
  else some [Char.ofNat (c.toNat - index % 28), Char.ofNat (0x11a7 + index % 28)]

/-- The syllable of Hangul that a letter completes. -/
def syllable? (a b : Char) : Option Char :=
  let leading := a.toNat - 0x1100
  let vowel := b.toNat - 0x1161
  let index := a.toNat - 0xac00
  if 0x1100 ≤ a.toNat ∧ leading < 19 ∧ 0x1161 ≤ b.toNat ∧ vowel < 21 then
    some (Char.ofNat (0xac00 + (leading * 21 + vowel) * 28))
  else if 0xac00 ≤ a.toNat ∧ index < 11172 ∧ index % 28 = 0 ∧ 0x11a7 < b.toNat ∧
      b.toNat < 0x11c3 then
    some (Char.ofNat (a.toNat + (b.toNat - 0x11a7)))
  else none

/-- One step of the canonical decomposition. -/
def parts (c : Char) : List Char :=
  if c.toNat < 0xc0 then [c]
  else (((syllableParts? c).or (composites.get? c)).or (replaced.get? c)).getD [c]

/-- The canonical decomposition. No character takes more than three steps. -/
def decompose (s : List Char) : List Char := Nat.repeat (List.flatMap parts) 3 s

/-- Puts the marks of every character into the order of their classes. Marks that were passed come
in reverse. -/
def arrange (passed : List Char) : List Char → List Char
  | [] => sorted passed
  | c :: rest =>
    if combiningClass c = 0 then sorted passed ++ c :: arrange [] rest
    else arrange (c :: passed) rest
where
  sorted (marks : List Char) : List Char :=
    marks.reverse.mergeSort (fun a b ↦ combiningClass a ≤ combiningClass b)

def composite? (a b : Char) : Option Char :=
  (syllable? a b).or
    ((composites.rows.find? (fun row ↦ row.value == [a, b])).map (fun row ↦ Char.ofNat row.first))

/-- Joins characters to a base. A mark does not reach it past a kept one of the same class. The kept
marks come in reverse, the last of them has class `last`. -/
def joinOnto (base : Char) (kept : List Char) (last : Nat) : List Char → List Char
  | [] => base :: kept.reverse
  | c :: rest =>
    match if kept.isEmpty || last < combiningClass c then composite? base c else none with
    | some joined => joinOnto joined kept last rest
    | none =>
      if combiningClass c = 0 then base :: kept.reverse ++ joinOnto c [] 0 rest
      else joinOnto base (c :: kept) (combiningClass c) rest

/-- The composed normal form. -/
def normal (s : List Char) : List Char :=
  match arrange [] (decompose s) with
  | [] => []
  | c :: rest => joinOnto c [] 0 rest

end PodInventory.Unicode
