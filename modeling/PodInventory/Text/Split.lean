namespace PodInventory.Text

/-- The text on both sides of the first `mark`, if there is one. -/
def splitFirst? (mark : Char) : List Char → Option (List Char × List Char)
  | [] => none
  | c :: rest =>
    if c = mark then some ([], rest)
    else (splitFirst? mark rest).map (fun p ↦ (c :: p.1, p.2))

/-- The parts between all marks. There is one more of them than there are marks. -/
def splitAll (mark : Char) : List Char → List (List Char)
  | [] => [[]]
  | c :: rest =>
    if c = mark then [] :: splitAll mark rest
    else
      match splitAll mark rest with
      | [] => [[c]]
      | part :: parts => (c :: part) :: parts

/-- What follows the last `mark`, or everything where there is none. -/
def afterLast (mark : Char) (s : List Char) : List Char :=
  (s.reverse.takeWhile (· != mark)).reverse

/-- What follows the first `://`. -/
def afterScheme? : List Char → Option (List Char)
  | [] => none
  | ':' :: '/' :: '/' :: rest => some rest
  | _ :: rest => afterScheme? rest

def joinWith (separator : List Char) : List (List Char) → List Char
  | [] => []
  | [x] => x
  | x :: xs => x ++ separator ++ joinWith separator xs

end PodInventory.Text
