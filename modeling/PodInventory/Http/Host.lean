import PodInventory.Address
import PodInventory.Http.Domain
import PodInventory.Text.Percent
import PodInventory.Text.Utf8

namespace PodInventory.Http.Host

open Text

def lower (s : List Char) : List Char := s.map Char.toLower

/-- A number in the notation of its first characters: hexadecimal behind `0x`, octal behind `0`,
otherwise decimal. -/
def number? (s : List Char) : Option Nat :=
  let (base, body) : Nat × List Char := match s with
    | '0' :: 'x' :: rest => (16, rest)
    | '0' :: 'X' :: rest => (16, rest)
    | '0' :: d :: rest => (8, d :: rest)
    | _ => (10, s)
  let (digits, rest) := takeDigits hexDigit? body
  if rest.isEmpty && digits.all (· < base) then some (ofDigits base digits) else none

/-- The labels of a name without an empty one at its end. -/
def labels (s : List Char) : List (List Char) :=
  let parts := splitAll '.' s
  if 1 < parts.length && parts.getLast? == some [] then parts.dropLast else parts

/-- Whether a name can only be a version 4 address. -/
def endsInNumber (s : List Char) : Bool :=
  match (labels s).getLast? with
  | none | some [] => false
  | some label =>
    label.all Char.isDigit ||
      (match label with
        | '0' :: x :: rest => (x == 'x' || x == 'X') && rest.all (fun c ↦ (hexDigit? c).isSome)
        | _ => false)

/-- One to four numbers, the last of which fills all bytes that are left. -/
def quad? (s : List Char) : Option Address := do
  let parts := labels s
  if 4 < parts.length || parts.any List.isEmpty then none
  else
    let numbers ← parts.mapM number?
    let last ← numbers.getLast?
    let front := numbers.dropLast
    let bits := 8 * (4 - front.length)
    if front.any (255 < ·) || 1 <<< bits ≤ last then none
    else
      let n := (front.foldl (fun n byte ↦ n * 256 + byte) 0 <<< bits) + last
      return .v4 (n / 16777216).toUInt8 (n / 65536).toUInt8 (n / 256).toUInt8 n.toUInt8

def domain? (s : List Char) : Option (List Char) := do
  let name ← Domain.text? (← ofUtf8? (percentDecode s)).toList
  if name.isEmpty then none
  else if endsInNumber name then (quad? name).map Address.text
  else some name

def bracketed? (inner : List Char) : Option (List Char) :=
  match inner.reverse with
  | ']' :: address =>
    match Address.readV6? address.reverse with
    | some (.v6 a b c d e f g h, []) =>
      some ('[' :: Address.v6Text [a, b, c, d, e, f, g, h] ++ [']'])
    | _ => none
  | _ => none

/-- The host of a web address in its canonical form. -/
def web? : List Char → Option (List Char)
  | [] => none
  | '[' :: inner => bracketed? inner
  | s => domain? s

def isForbiddenOpaque (c : Char) : Bool :=
  c == '\x00' || c == '\t' || c == '\n' || c == '\r' || " #/:<>?@[\\]^|".toList.contains c

/-- The host of any other address. -/
def opaque? : List Char → Option (List Char)
  | '[' :: inner => bracketed? inner
  | s =>
    if s.any isForbiddenOpaque then none
    else some (percentEncode (fun c ↦ c.toNat < 0x20 || 0x7e < c.toNat) s)

end PodInventory.Http.Host
