import PodInventory.Json.Fault

namespace PodInventory

def Place.after (p : Place) (c : Char) : Place :=
  if c = '\n' then ⟨p.line + 1, 0⟩ else ⟨p.line, p.column + c.utf8Size⟩

/-- A place in a text with what is left to read. -/
structure Cursor where
  rest : List Char
  place : Place
  deriving Inhabited

namespace Cursor

def start (s : String) : Cursor := ⟨s.toList, ⟨1, 0⟩⟩

/-- The place after so many bytes. A character may be cut. -/
def placeAfter (bytes : Nat) (p : Place) : List Char → Place
  | [] => p
  | c :: rest =>
    if bytes = 0 then p
    else if c.utf8Size ≤ bytes then placeAfter (bytes - c.utf8Size) (p.after c) rest
    else ⟨p.line, p.column + bytes⟩

/-- The place that counts the next byte as read. -/
def peeked (c : Cursor) : Place := placeAfter 1 c.place c.rest

def next (c : Cursor) : Cursor :=
  match c.rest with
  | [] => c
  | x :: rest => ⟨rest, c.place.after x⟩

/-- Moves over characters of one byte that end no line. -/
def forward (c : Cursor) (count : Nat) (rest : List Char) : Cursor :=
  ⟨rest, ⟨c.place.line, c.place.column + count⟩⟩

def isBlank (c : Char) : Bool := c == ' ' || c == '\n' || c == '\t' || c == '\r'

def skipBlanks (place : Place) : List Char → Cursor
  | [] => ⟨[], place⟩
  | c :: rest => if isBlank c then skipBlanks (place.after c) rest else ⟨c :: rest, place⟩

def skip (c : Cursor) : Cursor := skipBlanks c.place c.rest

def here (c : Cursor) (r : Reason) : Fault := ⟨r, some c.place⟩

/-- A fault that counts the offending byte. -/
def ahead (c : Cursor) (r : Reason) : Fault := ⟨r, some c.peeked⟩

end Cursor

end PodInventory
