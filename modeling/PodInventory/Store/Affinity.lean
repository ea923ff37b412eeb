import PodInventory.Text.Numeral

namespace PodInventory

open Text

/-- A decimal as it is written: a sign, the digits without their point, and a power of ten. -/
structure WrittenDecimal where
  negative : Bool
  digits : List Nat
  power : Int
  /-- Whether it is written without a point and without an exponent. -/
  whole : Bool

namespace WrittenDecimal

def isPadding (c : Char) : Bool := c = ' ' || ('\t' ≤ c && c ≤ '\r')

def sign : List Char → Bool × List Char
  | '-' :: rest => (true, rest)
  | '+' :: rest => (false, rest)
  | s => (false, s)

/-- Larger exponents make no difference any more. -/
def exponentLimit : Nat := 10000

def exponent? : List Char → Option Int
  | [] => some 0
  | c :: s =>
    if c = 'e' ∨ c = 'E' then
      let (negative, s) := sign s
      match takeDigits digit? s with
      | (d :: digits, []) =>
        let size := min (ofDigits 10 (d :: digits)) exponentLimit
        some (if negative then -size else size)
      | _ => none
    else none

/-- A whole text, with blanks around it. -/
def ofText? (s : String) : Option WrittenDecimal :=
  let s := ((s.toList.dropWhile isPadding).reverse.dropWhile isPadding).reverse
  let (negative, s) := sign s
  let (before, s) := takeDigits digit? s
  let (pointed, after, s) :=
    match s with
    | '.' :: s => (true, takeDigits digit? s)
    | s => (false, [], s)
  let digits := before ++ after
  if digits.isEmpty then none
  else (exponent? s).map fun e ↦
    { negative, digits, power := e - after.length, whole := !pointed && s.isEmpty }

def exact (d : WrittenDecimal) : Int :=
  if d.negative then -(ofDigits 10 d.digits : Int) else ofDigits 10 d.digits

/-- The nearest double. What is out of range in either direction ends at infinity or zero. -/
def nearest (d : WrittenDecimal) : Float :=
  let digits := d.digits.dropWhile (· == 0)
  let size : Int := digits.length + d.power
  let magnitude : Float :=
    if digits.isEmpty ∨ size < -400 then 0
    else if 400 < size then 1 / 0
    else .ofScientific (ofDigits 10 digits) (d.power < 0) d.power.natAbs
  if d.negative then -magnitude else magnitude

end WrittenDecimal

/-- The integer that a column of integers makes of a text, if the text is a number and the number is
an integer of 64 bits. -/
def integerOfText? (s : String) : Option Int64 := do
  let d ← WrittenDecimal.ofText? s
  let range := Int64.minValue.toInt ≤ d.exact ∧ d.exact ≤ Int64.maxValue.toInt
  if d.whole ∧ range then return .ofInt d.exact
  let n := d.nearest.toInt64
  if n.toFloat == d.nearest ∧ Int64.minValue < n ∧ n < Int64.maxValue then return n
  none

end PodInventory
