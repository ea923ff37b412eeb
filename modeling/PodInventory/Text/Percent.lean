import PodInventory.Text.Numeral

namespace PodInventory.Text

def percentByte (b : UInt8) : List Char :=
  '%' :: (padded 16 2 b.toNat).map Char.toUpper

/-- Writes the bytes of the characters that must not stand as they are in hexadecimal. -/
def percentEncode (escaped : Char → Bool) (s : List Char) : List Char :=
  s.flatMap (fun c ↦ if escaped c then (String.utf8EncodeChar c).flatMap percentByte else [c])

/-- The bytes of a text with its hexadecimal forms taken back. A lone percent sign stands for
itself. -/
def percentDecode : List Char → List UInt8
  | [] => []
  | '%' :: h :: l :: rest =>
    match hexDigit? h, hexDigit? l with
    | some h, some l => (h * 16 + l).toUInt8 :: percentDecode rest
    | _, _ => '%'.toNat.toUInt8 :: percentDecode (h :: l :: rest)
  | c :: rest => String.utf8EncodeChar c ++ percentDecode rest

/-- Neither a control character nor beyond ASCII. -/
def isPlain (c : Char) : Bool := 0x20 ≤ c.toNat && c.toNat < 0x7f

end PodInventory.Text
