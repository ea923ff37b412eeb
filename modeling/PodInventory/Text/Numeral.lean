namespace PodInventory.Text

def digit? (c : Char) : Option Nat :=
  if '0' ≤ c ∧ c ≤ '9' then some (c.toNat - '0'.toNat) else none

def hexDigit? (c : Char) : Option Nat :=
  if '0' ≤ c ∧ c ≤ '9' then some (c.toNat - '0'.toNat)
  else if 'a' ≤ c ∧ c ≤ 'f' then some (c.toNat - 'a'.toNat + 10)
  else if 'A' ≤ c ∧ c ≤ 'F' then some (c.toNat - 'A'.toNat + 10)
  else none

/-- The digits at the front of a text with the rest behind them. -/
def takeDigits (digit : Char → Option Nat) : List Char → List Nat × List Char
  | [] => ([], [])
  | c :: rest =>
    match digit c with
    | some d => ((d :: (takeDigits digit rest).1), (takeDigits digit rest).2)
    | none => ([], c :: rest)

def ofDigits (base : Nat) (digits : List Nat) : Nat :=
  digits.foldl (fun n d ↦ n * base + d) 0

def decimal (n : Nat) : List Char := Nat.toDigits 10 n

def hexadecimal (n : Nat) : List Char := Nat.toDigits 16 n

/-- The power of ten with this many zeros. -/
def tens (zeros : Nat) : Nat := Nat.pow 10 zeros

/-- A numeral of exactly `width` digits, padded in front with zeros. -/
def padded (base width n : Nat) : List Char :=
  List.replicate (width - (Nat.toDigits base n).length) '0' ++ Nat.toDigits base n

end PodInventory.Text
