import PodInventory.Unicode.Emoji
import PodInventory.Unicode.Joining
import PodInventory.Unicode.Wide

namespace PodInventory.Text

open Unicode

/-- Vowels and final consonants of Hangul, and signs that are drawn around the letters behind
them. -/
def weightless : CharSet := .ofText "
  605 70F 890-891 8E2 D4E 1161-11FF A8FA D7B0-D7C6 D7CB-D7FB 111C2-111C3 113D1 1193F 11941
  11A84-11A89 11D46 11F02"

/-- The columns that a character takes on its own. -/
def charWidth (c : Char) : Nat :=
  if c.toNat < 0x300 then (if c = '\xad' then 0 else 1)
  else if c = '\u2d7f' then 1
  else if c = '\u115f' ∨ c = '\u17a4' then 2
  else if c = '\u17d8' then 3
  else if attaches c || isIgnorable c || weightless.contains c then 0
  else if isWide c then 2
  else 1

/-- Marks that decide between two forms of the character before them. -/
inductive Selector
  | wide
  | text
  | emoji
  deriving DecidableEq

def selector? (c : Char) : Option Selector :=
  if c = '\ufe01' then some .wide
  else if c = '\ufe0e' then some .text
  else if c = '\ufe0f' then some .emoji
  else none

/-- The last letter of a ligature. -/
inductive Partner
  | lamed
  | ya
  /-- The letter ya with its vowel. -/
  | yaWithVowel
  | consonant
  /-- A consonant with the sign that ties it to another one. -/
  | linkedConsonant
  | toneMark
  | orkhonI
  | subscript
  deriving DecidableEq

/-- What stands right behind a character, as far as it bears on the width. -/
inductive Shape
  | plain
  | lineFeed
  | emoji
  | modifier
  | flagLetter
  | flagLetters
  /-- A joiner with an emoji behind it. The shapes that follow stand before one. -/
  | tied
  | tiedKeycap
  | tiedFlagLetter
  /-- Flag letters of which none is left over. -/
  | tiedFlags
  | tiedFlagsAndLetter
  | tiedTags (letters digits : Nat)
  | vowelE
  | vowelAi
  | alef
  | ligature (partner : Partner) (joined : Bool)
  deriving DecidableEq

/-- What stands right behind a character, and a selector before that. -/
structure Right where
  shape : Shape
  selector : Option Selector
  deriving DecidableEq

def lamLetters : CharSet := .ofText "644 6B5-6B8 76A 8A6 8C7"

def alefLetters : CharSet := .ofText "622-623 625 627 671-673 675 773-774 870-882"

/-- The consonants of Tifinagh. -/
def linkableConsonants : CharSet := .ofText "2D31-2D65 2D6F"

/-- The letters of Khmer that have a form below others. -/
def subscriptLetters : CharSet := .ofText "
  1780-1782 1784-1787 1789-178C 178E-1793 1795-1798 179B-179D 17A0 17A2 17A7 17AB-17AC 17AF"

/-- Marks that may stand within a ligature. -/
def ligatureMarks : CharSet := .ofText "34F 17B4-17B5 180B-180D 180F FE00-FE0F E0100-E01EF"

namespace Shape

def ofChar (c : Char) : Shape :=
  if c = '\n' then .lineFeed
  else if c.toNat ≤ 0xa0 then .plain
  else if c = '\u05dc' then .ligature .lamed false
  else if alefLetters.contains c then .alef
  else if subscriptLetters.contains c then .ligature .subscript false
  else if c = '\u1a10' then .ligature .ya false
  else if linkableConsonants.contains c then .ligature .consonant false
  else if c = '\ua4fc' ∨ c = '\ua4fd' then .ligature .toneMark false
  else if c.toNat = 0x10c03 then .ligature .orkhonI false
  else if c.toNat = 0x16d67 then .vowelE
  else if c.toNat = 0x16d68 then .vowelAi
  else if isFlagLetter c then .flagLetter
  else if isModifier c then .modifier
  else if isPictorial c then .emoji
  else .plain

/-- Whether a ligature stands here, which lasts through all selectors. -/
def isLigature : Shape → Bool
  | alef | ligature _ _ => true
  | _ => false

def isTied (s : Shape) : Bool := s = tied || s = tiedKeycap

/-- What a selector leaves of the shape behind it. -/
def under (selector : Selector) (s : Shape) : Shape :=
  if s.isLigature || (selector = .emoji && s.isTied) then s else plain

/-- How many columns a character takes that completes a ligature, with the shape that results. A
negative number takes back what the last letter was given. -/
def completed? (partner : Partner) (joined : Bool) (c : Char) : Option (Int × Shape) :=
  match partner with
  | .lamed => if joined ∧ c = '\u05d0' then some (0, plain) else none
  | .ya => if joined ∧ c = '\u1a17' then some (0, ligature .yaWithVowel true) else none
  | .yaWithVowel => if c = '\u1a15' then some (0, plain) else none
  | .consonant =>
    if c = '\u2d7f' then some (1, ligature .linkedConsonant true)
    else if joined && linkableConsonants.contains c then some (0, plain)
    else none
  | .linkedConsonant => if linkableConsonants.contains c then some (-1, plain) else none
  | .toneMark => if '\ua4f8' ≤ c ∧ c ≤ '\ua4fb' then some (0, plain) else none
  | .orkhonI => if joined ∧ c.toNat = 0x10c32 then some (0, plain) else none
  | .subscript => if c = '\u17d2' then some (-1, plain) else none

/-- Tags between a flag and their end name a region and a part of it. -/
def tagged? (letters digits : Nat) (c : Char) : Option (Int × Shape) :=
  let code := c.toNat
  if 0xe0061 ≤ code ∧ code ≤ 0xe007a ∧ digits = 0 ∧ letters < 6 then
    some (0, tiedTags (letters + 1) 0)
  else if 0xe0030 ≤ code ∧ code ≤ 0xe0039 ∧ (if digits = 0 then letters < 5 else digits < 3) then
    some (0, tiedTags letters (digits + 1))
  else if code = 0x1f3f4 ∧ (if digits = 0 then 3 ≤ letters else digits = 3) then some (0, emoji)
  else none

/-- The columns of a character that is drawn together with what stands behind it, and the shape that
results. -/
def drawn? (s : Shape) (c : Char) : Option (Int × Shape) :=
  let joiner := c = '\u200d'
  match s with
  | plain | lineFeed | tiedKeycap => none
  | emoji => if joiner then some (0, tied) else none
  | modifier =>
    if isTintable c then some (0, emoji) else if joiner then some (0, tied) else none
  | flagLetter => if isFlagLetter c then some (1, flagLetters) else none
  | flagLetters =>
    if isFlagLetter c then some (1, flagLetters) else if joiner then some (0, tied) else none
  | tied =>
    if c = '\u20e3' then some (0, tiedKeycap)
    else if isFlagLetter c then some (1, tiedFlagLetter)
    else if isModifier c then some (0, modifier)
    else if c.toNat = 0xe007f then some (0, tiedTags 0 0)
    else if isPictorial c then some (0, emoji)
    else none
  | tiedFlagLetter => if isFlagLetter c then some (-1, tiedFlags) else none
  | tiedFlags =>
    if isFlagLetter c then some (3, tiedFlagsAndLetter)
    else if joiner then some (0, tied)
    else none
  | tiedFlagsAndLetter =>
    if isFlagLetter c then some (-1, tiedFlags) else if joiner then some (0, tied) else none
  | tiedTags letters digits => tagged? letters digits c
  | vowelE =>
    if c.toNat = 0x16d63 ∨ c.toNat = 0x16d69 then some (0, plain)
    else if c.toNat = 0x16d67 then some (0, vowelAi)
    else if c.toNat = 0x16d68 then some (1, vowelE)
    else none
  | vowelAi => if c.toNat = 0x16d63 then some (0, plain) else none
  | alef =>
    if lamLetters.contains c then some (0, plain)
    else if charWidth c = 0 && isTransparent c then some (0, alef)
    else none
  | ligature partner joined =>
    if joiner then some (0, ligature partner true)
    else if ligatureMarks.contains c then some (0, s)
    else completed? partner joined c

end Shape

def isCurlyQuote (c : Char) : Bool := "‘’“”".toList.contains c

/-- Whether an emoji has a form as text that is as wide as a letter. -/
def hasTextForm (c : Char) : Bool :=
  isSelectable c && isPictorial c && !(0x1f200 ≤ c.toNat && c.toNat ≤ 0x1f2ff)

/-- The columns of a character before `right`. -/
def step (c : Char) (right : Right) : Int × Right :=
  let bare (columns : Int) (shape : Shape) : Int × Right := (columns, ⟨shape, none⟩)
  if right.selector = some .emoji ∧ isSelectable c then
    bare (if right.shape.isTied then 0 else 2) .emoji
  else
    let shape :=
      if right.selector = some .emoji ∧ !right.shape.isLigature then .plain else right.shape
    if c = '\r' ∧ shape = .lineFeed then bare 0 .plain
    else
      match selector? c with
      | some s => (0, ⟨shape.under s, some s⟩)
      | none =>
        if right.selector = some .text ∧ hasTextForm c then bare 1 .plain
        else if right.selector = some .wide ∧ isCurlyQuote c then bare 2 .plain
        else
          match shape.drawn? c with
          | some (columns, shape) => bare columns shape
          | none => bare (charWidth c) (.ofChar c)

/-- The columns that a line takes. -/
def width (s : String) : Nat :=
  (s.toList.foldr (fun c (total, right) ↦
    let (columns, right) := step c right
    (total + columns, right)) ((0 : Int), (⟨.plain, none⟩ : Right))).1.toNat

end PodInventory.Text
