import PodInventory.Address

namespace PodInventory.PowerAddress

open Text

/-- What follows the scheme, or everything where there is no scheme. -/
def withoutScheme (s : List Char) : List Char := (afterScheme? s).getD s

/-- The characters that end the authority part. -/
def endsAuthority (c : Char) : Bool := c == '/' || c == '?' || c == '#'

def authority (s : List Char) : List Char :=
  (withoutScheme s).takeWhile (fun c ↦ !endsAuthority c)

/-- The authority without user info. -/
def hostPort (s : List Char) : List Char := afterLast '@' (authority s)

/-- The host part. Several colons without brackets are a bare version 6 address, a single one
stands before a port. -/
def host? : List Char → Option (List Char)
  | '[' :: inner => (splitFirst? ']' inner).map Prod.fst
  | s => if 1 < s.count ':' then some s else some (s.takeWhile (· != ':'))

/-- The IP address that a power address names as its host. -/
def ip? (s : String) : Option Address :=
  (host? (hostPort s.toList)).bind Address.parse?

end PodInventory.PowerAddress
