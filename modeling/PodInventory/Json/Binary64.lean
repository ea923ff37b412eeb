import PodInventory.Text.Numeral

namespace PodInventory

open Text

/-- A finite double in its bit pattern, so that equality is decidable and tells the zeros apart. -/
structure Binary64 where
  bits : UInt64
  deriving DecidableEq, Inhabited

namespace Binary64

def negative (x : Binary64) : Bool := x.bits >>> 63 == 1

/-- The magnitude is `mantissa * 2 ^ (exponent - 1077)`, where the mantissa carries two extra bits
so that the ends of the rounding interval are whole. -/
def mantissa (x : Binary64) : Nat :=
  let fraction := (x.bits &&& 0xfffffffffffff).toNat
  if (x.bits >>> 52) &&& 0x7ff == 0 then 4 * fraction else 4 * (fraction + 0x10000000000000)

def exponent (x : Binary64) : Nat :=
  let e := ((x.bits >>> 52) &&& 0x7ff).toNat
  if e = 0 then 1 else e

/-- How far below the value its rounding interval reaches, in units of the scaled mantissa. -/
def reach (x : Binary64) : Nat :=
  if x.bits &&& 0xfffffffffffff == 0 ∧ 1 < x.exponent then 1 else 2

def closed (x : Binary64) : Bool := x.mantissa / 4 % 2 == 0

/-- Whether the fraction reads back as the magnitude of `x`. -/
def holds (x : Binary64) (numerator denominator : Nat) : Bool :=
  let value := numerator <<< 1077
  let lowest := ((x.mantissa - x.reach) <<< x.exponent) * denominator
  let highest := ((x.mantissa + 2) <<< x.exponent) * denominator
  if x.closed then lowest ≤ value && value ≤ highest
  else lowest < value && value < highest

/-- A decimal `digits * 10 ^ power`. -/
structure Scientific where
  digits : Nat
  power : Int

def Scientific.numerator (s : Scientific) : Nat := s.digits * tens s.power.toNat

def Scientific.denominator (s : Scientific) : Nat := tens (-s.power).toNat

/-- The largest multiple of `10 ^ power` up to the magnitude. -/
def floor (x : Binary64) (power : Int) : Scientific :=
  ⟨(x.mantissa <<< x.exponent) * tens (-power).toNat / (tens power.toNat <<< 1077), power⟩

/-- The power of ten that the magnitude starts with. -/
def leading (x : Binary64) : Int :=
  let guess : Int := (decimal (x.mantissa <<< x.exponent)).length - (decimal (1 <<< 1077)).length
  if (x.floor guess).digits = 0 then guess - 1 else guess

/-- Of the two neighbours on one decimal grid the nearer one that reads back. -/
def onGrid (x : Binary64) (power : Int) : Option Scientific :=
  let below := x.floor power
  let above : Scientific := ⟨below.digits + 1, power⟩
  let fits (s : Scientific) : Bool := x.holds s.numerator s.denominator
  let middle : Nat := ((below.digits + above.digits) * tens power.toNat) <<< 1077
  let twice : Nat := ((2 * x.mantissa) <<< x.exponent) * tens (-power).toNat
  let lower := twice < middle || (twice == middle && below.digits % 2 == 0)
  if fits below && (lower || !fits above) then some below
  else if fits above then some above
  else none

def stripZeros : Nat → Scientific → Scientific
  | 0, s => s
  | fuel + 1, s =>
    if s.digits ≠ 0 ∧ s.digits % 10 = 0 then stripZeros fuel ⟨s.digits / 10, s.power + 1⟩ else s

/-- The decimal with the fewest digits that reads back, the nearest of those. -/
def shortest (x : Binary64) : Scientific :=
  let found := (List.range 17).findSome? (fun (n : Nat) ↦ x.onGrid (x.leading - n))
  stripZeros 17 (found.getD (x.floor (x.leading - 16)))

def exponentText (e : Int) : List Char :=
  ['e', if e < 0 then '-' else '+'] ++ decimal e.natAbs

def magnitudeText (s : Scientific) : List Char :=
  let digits := decimal s.digits
  let point : Int := digits.length + s.power
  if 0 ≤ s.power ∧ point ≤ 16 then
    digits ++ List.replicate s.power.toNat '0' ++ ['.', '0']
  else if 0 < point ∧ point ≤ 16 then
    digits.take point.toNat ++ ['.'] ++ digits.drop point.toNat
  else if -5 < point ∧ point ≤ 0 then
    ['0', '.'] ++ List.replicate (-point).toNat '0' ++ digits
  else
    digits.take 1 ++ (if digits.length = 1 then [] else '.' :: digits.drop 1)
      ++ exponentText (point - 1)

def text (x : Binary64) : List Char :=
  (if x.negative then ['-'] else [])
    ++ (if x.mantissa = 0 then ['0', '.', '0'] else magnitudeText x.shortest)

def zero (negative : Bool) : Binary64 := ⟨if negative then 0x8000000000000000 else 0⟩

def powerOfTen (n : Nat) : Float := Float.ofScientific 1 false n

/-- Scales by a power of ten in steps of at most 308. Every step rounds. Nothing is left where the
value leaves the finite range. -/
def scale (x : Float) (power : Int) : Option Float :=
  if 308 < power then if x == 0 then some x else none
  else if 0 ≤ power then
    let y := x * powerOfTen power.toNat
    if y.isInf then none else some y
  else if -308 ≤ power then some (x / powerOfTen (-power).toNat)
  else if x == 0 then some x
  else if -616 ≤ power then some (x / powerOfTen 308 / powerOfTen (-power - 308).toNat)
  else some (x / powerOfTen 308 / powerOfTen 308 / powerOfTen 308)

/-- The double for a decimal with a significand below `2 ^ 64`. -/
def ofDecimal (negative : Bool) (significand : Nat) (power : Int) : Option Binary64 :=
  (scale significand.toUInt64.toFloat power).map
    (fun x ↦ ⟨(if negative then -x else x).toBits⟩)

end Binary64

end PodInventory
