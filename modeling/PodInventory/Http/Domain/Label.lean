import PodInventory.Http.Domain.Mapping
import PodInventory.Text.Punycode
import PodInventory.Unicode.Direction
import PodInventory.Unicode.Joining
import PodInventory.Unicode.Normal

namespace PodInventory.Http.Domain

open Text Unicode

/-- A joiner follows a virama. The one that keeps letters apart may also stand where letters would
join. -/
def joinersFit (before : List Char) : List Char → Bool
  | [] => true
  | c :: rest =>
    (!isJoiner c || before.head?.any (combiningClass · == 9) || (c == '\u200c' &&
        (before.dropWhile isTransparent).head?.any joinsBehind &&
        (rest.dropWhile isTransparent).head?.any joinsBefore)) &&
      joinersFit (c :: before) rest

def isEncoded (label : List Char) : Bool := "xn--".toList.isPrefixOf label

/-- Whether a label may be part of a name as it is. -/
def isLabel (label : List Char) : Bool :=
  label.all (fun c ↦ (mapped? c).isNone && isAdmitted c) && normal label == label &&
    !label.head?.any isMark && !isEncoded label && joinersFit [] label

/-- The characters of a label, which may be written in ASCII only. -/
def label? (s : List Char) : Option (List Char) := do
  let label ← if isEncoded s then Punycode.decode? (s.drop 4) else some s
  if isLabel label && !(isEncoded s && label.all Punycode.isBasic) then some label else none

def labelText (label : List Char) : List Char :=
  if label.all Punycode.isBasic then label else "xn--".toList ++ Punycode.encode label

/-- Whether a label has characters that run from right to left. -/
def hasLeftward (label : List Char) : Bool :=
  label.any (fun c ↦ direction c == .leftward || direction c == .arabicNumber)

/-- The directions that a label may have side by side. -/
def directionsFit (label : List Char) : Bool :=
  let directions := label.map direction
  let last := (directions.reverse.dropWhile (· == .attached)).head?
  match directions.head? with
  | none => true
  | some .leftward =>
    directions.all (· != .rightward) &&
      !(directions.contains .europeanNumber && directions.contains .arabicNumber) &&
      last.any (fun d ↦ d == .leftward || d == .europeanNumber || d == .arabicNumber)
  | some .rightward =>
    directions.all (fun d ↦ d != .leftward && d != .arabicNumber) &&
      last.any (fun d ↦ d == .rightward || d == .europeanNumber)
  | some _ => false

end PodInventory.Http.Domain
