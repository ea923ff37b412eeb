import PodInventory.Json.Decode

namespace PodInventory.Grammar

open Text

/-- What may stand between the signs of a document. -/
structure Blanks where
  chars : List Char
  blank : ∀ c ∈ chars, Cursor.isBlank c = true

section Texts

/-- The number that four hexadecimal digits stand for. -/
def codeUnit? : List Char → Option Nat
  | [w, x, y, z] => do
    return ofDigits 16 [← hexDigit? w, ← hexDigit? x, ← hexDigit? y, ← hexDigit? z]
  | _ => none

/-- A piece of a text: a character as it is, an escape of one letter or one of four digits. -/
inductive Piece
  | plain (c : Char) (quote : c ≠ '"') (backslash : c ≠ '\\') (control : ¬ c.toNat < 0x20)
  | short (letter c : Char) (stands : Scan.shortEscape? letter = some c)
  | unit (digits : List Char) (n : Nat) (stands : codeUnit? digits = some n)

def Piece.chars : Piece → List Char
  | .plain c _ _ _ => [c]
  | .short letter _ _ => ['\\', letter]
  | .unit digits _ _ => '\\' :: 'u' :: digits

def written (ps : List Piece) : List Char := ps.flatMap Piece.chars

def isHigh (n : Nat) : Bool := 0xd800 ≤ n && n ≤ 0xdbff

def isLow (n : Nat) : Bool := 0xdc00 ≤ n && n ≤ 0xdfff

/-- The character of a surrogate pair. -/
def ofPair (high low : Nat) : Char :=
  Char.ofNat ((high - 0xd800) * 0x400 + (low - 0xdc00) + 0x10000)

/-- The characters that pieces stand for, if no half of a surrogate pair stands alone. -/
def charsOf? : List Piece → Option (List Char)
  | [] => some []
  | .plain c _ _ _ :: ps | .short _ c _ :: ps => (charsOf? ps).map (c :: ·)
  | .unit _ n _ :: ps =>
    if isLow n then none
    else if isHigh n then
      match ps with
      | .unit _ low _ :: ps =>
        if isLow low then (charsOf? ps).map (ofPair n low :: ·) else none
      | _ => none
    else (charsOf? ps).map (Char.ofNat n :: ·)

def textOf? (ps : List Piece) : Option String := (charsOf? ps).map .ofList

end Texts

section Numerals

/-- Decimal digits, at least one of them. -/
structure Figures where
  digits : List Nat
  some : digits ≠ []
  decimal : ∀ d ∈ digits, d < 10

def Figures.chars (f : Figures) : List Char := f.digits.map Nat.digitChar

structure Exponent where
  letter : Char
  sign : List Char
  figures : Figures
  isLetter : letter = 'e' ∨ letter = 'E'
  isSign : sign = [] ∨ sign = ['+'] ∨ sign = ['-']

def Exponent.chars (e : Exponent) : List Char := e.letter :: (e.sign ++ e.figures.chars)

/-- A number as it is written. No zero stands in front of other digits. -/
structure Numeral where
  negative : Bool
  whole : Figures
  leading : ∀ d more, whole.digits ≠ 0 :: d :: more
  fraction : Option Figures
  exponent : Option Exponent

namespace Numeral

variable (n : Numeral)

def fractionChars : List Char := n.fraction.elim [] (fun f ↦ '.' :: f.chars)

def exponentChars : List Char := n.exponent.elim [] Exponent.chars

def chars : List Char :=
  (if n.negative then ['-'] else []) ++ n.whole.chars ++ n.fractionChars ++ n.exponentChars

def parts : Scan.Parts where
  negative := n.negative
  whole := n.whole.digits
  fraction := n.fraction.elim [] Figures.digits
  exponent := n.exponent.map (fun e ↦ (e.sign == ['-'], e.figures.digits, default))
  stop := default

/-- The number itself, unless it is out of range. -/
def value? : Option Number := n.parts.value.toOption

end Numeral

end Numerals

mutual

/-- A value as it is written. -/
inductive Value
  | null
  | bool (value : Bool)
  | number (numeral : Numeral)
  | text (pieces : List Piece)
  | list (items : Items)
  | object (members : Members)

/-- What stands behind the opening bracket of a list. There are blanks before a comma and after
it. -/
inductive Items
  | done (before : Blanks)
  | item (before after : Blanks) (head : Value) (tail : Items)

inductive Members
  | done (before : Blanks)
  | member (before after : Blanks) (name : List Piece) (beforeColon afterColon : Blanks)
      (value : Value) (tail : Members)

end

def quotedChars (ps : List Piece) : List Char := '"' :: (written ps ++ ['"'])

/-- No comma stands before what comes first. -/
def comma (first : Bool) : List Char := if first then [] else [',']

mutual

def Value.chars : Value → List Char
  | .null => ['n', 'u', 'l', 'l']
  | .bool true => ['t', 'r', 'u', 'e']
  | .bool false => ['f', 'a', 'l', 's', 'e']
  | .number n => n.chars
  | .text ps => quotedChars ps
  | .list is => '[' :: is.chars true
  | .object ms => '{' :: ms.chars true

def Items.chars : Items → Bool → List Char
  | .done before, _ => before.chars ++ [']']
  | .item before after head tail, first =>
    before.chars ++ comma first ++ after.chars ++ head.chars ++ tail.chars false

def Members.chars : Members → Bool → List Char
  | .done before, _ => before.chars ++ ['}']
  | .member before after name beforeColon afterColon value tail, first =>
    before.chars ++ comma first ++ after.chars ++ quotedChars name ++ beforeColon.chars ++ [':']
      ++ afterColon.chars ++ value.chars ++ tail.chars false

end

mutual

/-- What a value stands for, where so many brackets may be open at once. -/
def Value.json? : Value → Nat → Option Json
  | .null, _ => some .null
  | .bool b, _ => some (.bool b)
  | .number n, _ => n.value?.map .number
  | .text ps, _ => (textOf? ps).map .text
  | .list _, 0 | .object _, 0 => none
  | .list is, room + 1 => (is.jsons? room).map .list
  | .object ms, room + 1 => (ms.jsons? room).map .object

def Items.jsons? : Items → Nat → Option (List Json)
  | .done _, _ => some []
  | .item _ _ head tail, room => do
    return (← head.json? room) :: (← tail.jsons? room)

def Members.jsons? : Members → Nat → Option (List (String × Json))
  | .done _, _ => some []
  | .member _ _ name _ _ value tail, room => do
    return (← textOf? name, ← value.json? room) :: (← tail.jsons? room)

end

def Items.values : Items → List Value
  | .done _ => []
  | .item _ _ head tail => head :: tail.values

/-- The members with their names, as far as these are texts. -/
def Members.entries : Members → List (Option String × Value)
  | .done _ => []
  | .member _ _ name _ _ value tail => (textOf? name, value) :: tail.entries

/-- Whether a text is a document, a value with blanks around it. -/
def Spells (s : String) (v : Value) : Prop :=
  ∃ before after : Blanks, s.toList = before.chars ++ v.chars ++ after.chars

end PodInventory.Grammar
