import PodInventory.Http.Domain.Label

namespace PodInventory.Http.Domain

open Text Unicode

/-- Characters that no name of a host contains. -/
def isForbidden (c : Char) : Bool :=
  c.toNat ≤ 0x20 || c.toNat == 0x7f || "#%/:<>?@[\\]^|".toList.contains c

/-- A name in ASCII. Where any label runs from right to left, all of them must fit. -/
def text? (s : List Char) : Option (List Char) := do
  let s := normal (s.flatMap (fun c ↦ (mapped? c).getD [c]))
  if s.any isForbidden then none
  let labels ← (splitAll '.' s).mapM label?
  if labels.any hasLeftward && !labels.all directionsFit then none
  return joinWith ['.'] (labels.map labelText)

end PodInventory.Http.Domain
