namespace PodInventory.Text

/-- Whether a code point lies in one of the inclusive ranges. -/
def inRanges (ranges : List (Nat × Nat)) (c : Char) : Bool :=
  ranges.any (fun r ↦ r.1 ≤ c.toNat && c.toNat ≤ r.2)

end PodInventory.Text
