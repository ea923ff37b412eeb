import PodInventory.Text.Numeral
import PodInventory.Text.Split

namespace PodInventory.Unicode

open Text

/-- A run of code points, both ends included, with what holds of them. -/
structure Row (α : Type) where
  first : Nat
  last : Nat
  value : α

/-- A property of characters, as rows in ascending order that do not meet. -/
structure Table (α : Type) where
  rows : Array (Row α)

abbrev CharSet := Table Unit

/-- The words between blanks and line ends. -/
def words (s : List Char) : List (List Char) :=
  let cut (words : List (List Char)) (word : List Char) :=
    if word.isEmpty then words else word.reverse :: words
  let (done, word) := s.foldl (fun (done, word) c ↦
    if c = ' ' ∨ c = '\n' then (cut done word, []) else (done, c :: word)) ([], [])
  (cut done word).reverse

def hexadecimalValue (s : List Char) : Nat := ofDigits 16 (takeDigits hexDigit? s).1

/-- Characters written as `=69.307`, in hexadecimal. -/
def codes (s : List Char) : List Char :=
  (splitAll '.' (s.drop 1)).map (fun code ↦ Char.ofNat (hexadecimalValue code))

/-- A row written as `41-5A` or `AA`, in hexadecimal, with its value behind it. -/
def Row.ofWord {α : Type} (read : List Char → α) (word : List Char) : Row α :=
  let (first, rest) := takeDigits hexDigit? word
  match rest with
  | '-' :: rest =>
    let (last, rest) := takeDigits hexDigit? rest
    ⟨ofDigits 16 first, ofDigits 16 last, read rest⟩
  | _ => ⟨ofDigits 16 first, ofDigits 16 first, read rest⟩

namespace Table

variable {α : Type}

def ofText (read : List Char → α) (s : String) : Table α :=
  ⟨((words s.toList).map (Row.ofWord read)).toArray⟩

/-- The row of a code point between two places of the table. -/
def search (t : Table α) (code low high : Nat) : Option (Row α) :=
  if low < high then
    let middle := (low + high) / 2
    match t.rows[middle]? with
    | none => none
    | some row =>
      if code < row.first then t.search code low middle
      else if row.last < code then t.search code (middle + 1) high
      else some row
  else none
termination_by high - low

def row? (t : Table α) (c : Char) : Option (Row α) := t.search c.toNat 0 t.rows.size

def get? (t : Table α) (c : Char) : Option α := (t.row? c).map Row.value

end Table

namespace CharSet

def ofText (s : String) : CharSet := Table.ofText (fun _ ↦ ()) s

def contains (s : CharSet) (c : Char) : Bool := (s.row? c).isSome

end CharSet

end PodInventory.Unicode
