import PodInventory.Json.Basic

namespace PodInventory.Json

open Text

/-- Quotes, backslashes and control characters are escaped, all else is written as it is. -/
def escape (c : Char) : List Char :=
  if c = '"' then ['\\', '"']
  else if c = '\\' then ['\\', '\\']
  else if c = '\n' then ['\\', 'n']
  else if c = '\r' then ['\\', 'r']
  else if c = '\t' then ['\\', 't']
  else if c = '\x08' then ['\\', 'b']
  else if c = '\x0c' then ['\\', 'f']
  else if c.toNat < 0x20 then ['\\', 'u'] ++ padded 16 4 c.toNat
  else [c]

def quoted (s : String) : List Char := '"' :: s.toList.flatMap escape ++ ['"']

mutual

/-- The text without any blanks. -/
def compact : Json → List Char
  | .null => "null".toList
  | .bool b => (if b then "true" else "false").toList
  | .number n => n.text
  | .text s => quoted s
  | .list items => '[' :: compactItems items ++ [']']
  | .object members => '{' :: compactMembers members ++ ['}']

def compactItems : List Json → List Char
  | [] => []
  | [x] => compact x
  | x :: xs => compact x ++ ',' :: compactItems xs

def compactMembers : List (String × Json) → List Char
  | [] => []
  | [(k, v)] => quoted k ++ ':' :: compact v
  | (k, v) :: rest => quoted k ++ ':' :: compact v ++ ',' :: compactMembers rest

end

def newline (depth : Nat) : List Char := '\n' :: List.replicate (2 * depth) ' '

mutual

/-- The text with one item a line, two blanks a level. Empty lists and objects stay closed up. -/
def pretty (depth : Nat) : Json → List Char
  | .list (x :: xs) =>
    '[' :: newline (depth + 1) ++ pretty (depth + 1) x ++ prettyItems (depth + 1) xs
      ++ newline depth ++ [']']
  | .object ((k, v) :: rest) =>
    '{' :: newline (depth + 1) ++ quoted k ++ ": ".toList ++ pretty (depth + 1) v
      ++ prettyMembers (depth + 1) rest ++ newline depth ++ ['}']
  | .list [] => ['[', ']']
  | .object [] => ['{', '}']
  | .null => "null".toList
  | .bool b => (if b then "true" else "false").toList
  | .number n => n.text
  | .text s => quoted s

def prettyItems (depth : Nat) : List Json → List Char
  | [] => []
  | x :: xs => ',' :: newline depth ++ pretty depth x ++ prettyItems depth xs

def prettyMembers (depth : Nat) : List (String × Json) → List Char
  | [] => []
  | (k, v) :: rest =>
    ',' :: newline depth ++ quoted k ++ ": ".toList ++ pretty depth v ++ prettyMembers depth rest

end

def compactText (j : Json) : String := .ofList j.compact

def prettyText (j : Json) : String := .ofList (j.pretty 0)

end PodInventory.Json
