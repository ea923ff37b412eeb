import PodInventory.Text.Numeral
import PodInventory.Text.Split
import PodInventory.Unicode.Category

namespace PodInventory.Text

/-- How a character stands in a quoted text: short escapes for the common ones, the code point for
what does not print, joins the character before it or is not meant to be seen. -/
def quotedChar (c : Char) : List Char :=
  if c = '\x00' then ['\\', '0']
  else if c = '\t' then ['\\', 't']
  else if c = '\r' then ['\\', 'r']
  else if c = '\n' then ['\\', 'n']
  else if c = '\\' then ['\\', '\\']
  else if c = '"' then ['\\', '"']
  else if Unicode.attaches c || Unicode.isIgnorable c || !Unicode.isPrintable c then
    ['\\', 'u', '{'] ++ hexadecimal c.toNat ++ ['}']
  else [c]

def quoted (s : String) : String :=
  .ofList ('"' :: s.toList.flatMap quotedChar ++ ['"'])

def quotedList (items : List String) : String :=
  .ofList ('[' :: joinWith [',', ' '] (items.map (fun s ↦ (quoted s).toList)) ++ [']'])

end PodInventory.Text
