import PodInventory.Text.Numeral
import PodInventory.Text.Split

namespace PodInventory

open Text

/-- An IP address. A version 6 address is its eight groups from the left. -/
inductive Address
  | v4 (a b c d : UInt8)
  | v6 (a b c d e f g h : UInt16)
  deriving DecidableEq, Inhabited

namespace Address

/-- A number below 256 without leading zeros. -/
def octet? (s : List Char) : Option (UInt8 × List Char) :=
  let (digits, rest) := takeDigits digit? s
  let n := ofDigits 10 digits
  if digits = [] ∨ 3 < digits.length ∨ 255 < n then none
  else if 1 < digits.length ∧ digits.head? = some 0 then none
  else some (n.toUInt8, rest)

def dot? : List Char → Option (List Char)
  | '.' :: rest => some rest
  | _ => none

def quad? (s : List Char) : Option ((UInt8 × UInt8 × UInt8 × UInt8) × List Char) := do
  let (a, s) ← octet? s
  let (b, s) ← octet? (← dot? s)
  let (c, s) ← octet? (← dot? s)
  let (d, s) ← octet? (← dot? s)
  return ((a, b, c, d), s)

/-- One to four hexadecimal digits of either case. -/
def group? (s : List Char) : Option (UInt16 × List Char) :=
  let (digits, rest) := takeDigits hexDigit? s
  if digits = [] ∨ 4 < digits.length then none
  else some ((ofDigits 16 digits).toUInt16, rest)

def pair (high low : UInt8) : UInt16 := high.toUInt16 * 256 + low.toUInt16

def high (g : UInt16) : UInt8 := (g / 256).toUInt8

def low (g : UInt16) : UInt8 := g.toUInt8

def afterColon? (first : Bool) (s : List Char) : Option (List Char) :=
  if first then some s else
    match s with
    | ':' :: rest => some rest
    | _ => none

/-- Groups joined by colons, at most `limit` of them. A dotted quad may stand for the last two; the
flag tells whether it did. -/
def groups : Nat → Bool → List Char → List UInt16 × Bool × List Char
  | 0, _, s => ([], false, s)
  | limit + 1, first, s =>
    match afterColon? first s with
    | none => ([], false, s)
    | some body =>
      match (if 0 < limit then quad? body else none) with
      | some ((a, b, c, d), rest) => ([pair a b, pair c d], true, rest)
      | none =>
        match group? body with
        | none => ([], false, s)
        | some (g, rest) =>
          let (more, quad, rest) := groups limit false rest
          (g :: more, quad, rest)

def ofGroups? : List UInt16 → Option Address
  | [a, b, c, d, e, f, g, h] => some (v6 a b c d e f g h)
  | _ => none

def readV6? (s : List Char) : Option (Address × List Char) :=
  let (front, quad, rest) := groups 8 true s
  if front.length = 8 then (ofGroups? front).map (·, rest)
  else if quad then none
  else
    match rest with
    | ':' :: ':' :: rest =>
      let (back, _, rest) := groups (8 - (front.length + 1)) true rest
      let gap := List.replicate (8 - front.length - back.length) 0
      (ofGroups? (front ++ gap ++ back)).map (·, rest)
    | _ => none

def readV4? (s : List Char) : Option (Address × List Char) :=
  (quad? s).map (fun ((a, b, c, d), rest) ↦ (v4 a b c d, rest))

def read? (s : List Char) : Option (Address × List Char) :=
  (readV4? s).or (readV6? s)

/-- Reads the text of an address. Nothing may stand before or behind it. -/
def parse? (s : List Char) : Option Address :=
  match read? s with
  | some (a, []) => some a
  | _ => none

def quadText (a b c d : UInt8) : List Char :=
  joinWith ['.'] ([a, b, c, d].map (fun o ↦ decimal o.toNat))

def groupsText (gs : List UInt16) : List Char :=
  joinWith [':'] (gs.map (fun g ↦ hexadecimal g.toNat))

/-- The length of the run of zero groups at the front. -/
def zeroRun (gs : List UInt16) : Nat := (gs.takeWhile (· == 0)).length

/-- Start and length of the first among the longest runs of zero groups. -/
def longestRun : List UInt16 → Nat × Nat
  | [] => (0, 0)
  | g :: gs =>
    let here := zeroRun (g :: gs)
    let (start, length) := longestRun gs
    if length ≤ here then (0, here) else (start + 1, length)

def v6Text (gs : List UInt16) : List Char :=
  let (start, length) := longestRun gs
  if 1 < length then
    groupsText (gs.take start) ++ [':', ':'] ++ groupsText (gs.drop (start + length))
  else groupsText gs

/-- The canonical text: lower case, no leading zeros, the first longest run of two or more zero
groups left out. A mapped version 4 address keeps its dotted form. -/
def text : Address → List Char
  | v4 a b c d => quadText a b c d
  | v6 a b c d e f g h =>
    if [a, b, c, d, e, f] = [0, 0, 0, 0, 0, 0xffff] then
      "::ffff:".toList ++ quadText (high g) (low g) (high h) (low h)
    else v6Text [a, b, c, d, e, f, g, h]

def toText (a : Address) : String := .ofList a.text

def ofText? (s : String) : Option Address := parse? s.toList

end Address

end PodInventory
