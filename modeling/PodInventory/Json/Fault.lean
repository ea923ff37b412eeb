import PodInventory.Json.Basic
import PodInventory.Text.Quoted

namespace PodInventory

open Text

/-- A place in a text: the line from one, and the bytes read of that line. -/
structure Place where
  line : Nat
  column : Nat
  deriving DecidableEq, Inhabited

/-- What a reader found where it expected something else. -/
inductive Found
  | null
  | bool (value : Bool)
  | number (value : Number)
  | text (value : String)
  | sequence
  | map
  deriving DecidableEq, Inhabited

def Found.words : Found → String
  | .null => "null"
  | .bool b => "boolean `" ++ (if b then "true" else "false") ++ "`"
  | .number (.integer i) => "integer `" ++ .ofList (Number.integer i).text ++ "`"
  | .number (.float x) => "floating point `" ++ .ofList x.text ++ "`"
  | .text s => "string " ++ quoted s
  | .sequence => "sequence"
  | .map => "map"

inductive Reason
  | endInValue
  | endInText
  | endInList
  | endInObject
  | expectedValue
  | expectedWord
  | expectedColon
  | expectedListComma
  | expectedObjectComma
  | keyNotText
  | trailingComma
  | trailingCharacters
  | badNumber
  | numberOutOfRange
  | badEscape
  | loneSurrogate
  | unfinishedSurrogate
  | controlCharacter
  | tooDeep
  | wrongType (found : Found) (expected : String)
  | wrongValue (found : Found) (expected : String)
  | wrongLength (length : Nat) (expected : String)
  | missingField (name : String)
  | duplicateField (name : String)
  | unknownField (name : String) (expected : List String)
  | unknownVariant (name : String) (expected : List String)
  | badAddress
  | durationOverflow
  deriving DecidableEq, Inhabited

def backticked (s : String) : String := "`" ++ s ++ "`"

/-- Two alternatives are joined by a word, more of them stand in a list. -/
def alternatives : List String → String
  | [] => "there are none"
  | [a] => "expected " ++ backticked a
  | [a, b] => "expected " ++ backticked a ++ " or " ++ backticked b
  | names => "expected one of " ++ ", ".intercalate (names.map backticked)

def Reason.words : Reason → String
  | endInValue => "EOF while parsing a value"
  | endInText => "EOF while parsing a string"
  | endInList => "EOF while parsing a list"
  | endInObject => "EOF while parsing an object"
  | expectedValue => "expected value"
  | expectedWord => "expected ident"
  | expectedColon => "expected `:`"
  | expectedListComma => "expected `,` or `]`"
  | expectedObjectComma => "expected `,` or `\x7d`"
  | keyNotText => "key must be a string"
  | trailingComma => "trailing comma"
  | trailingCharacters => "trailing characters"
  | badNumber => "invalid number"
  | numberOutOfRange => "number out of range"
  | badEscape => "invalid escape"
  | loneSurrogate => "lone leading surrogate in hex escape"
  | unfinishedSurrogate => "unexpected end of hex escape"
  | controlCharacter => "control character (\\u0000-\\u001F) found while parsing a string"
  | tooDeep => "recursion limit exceeded"
  | wrongType found expected => "invalid type: " ++ found.words ++ ", expected " ++ expected
  | wrongValue found expected => "invalid value: " ++ found.words ++ ", expected " ++ expected
  | wrongLength n expected =>
    "invalid length " ++ .ofList (decimal n) ++ ", expected " ++ expected
  | missingField name => "missing field " ++ backticked name
  | duplicateField name => "duplicate field " ++ backticked name
  | unknownField name expected =>
    "unknown field " ++ backticked name ++ ", " ++ alternatives expected
  | unknownVariant name expected =>
    "unknown variant " ++ backticked name ++ ", " ++ alternatives expected
  | badAddress => "invalid IP address syntax"
  | durationOverflow => "overflow deserializing Duration"

/-- Why a reading failed, and where if it read a text. -/
structure Fault where
  reason : Reason
  place : Option Place
  deriving DecidableEq, Inhabited

namespace Fault

def message (f : Fault) : String :=
  match f.place with
  | none => f.reason.words
  | some p =>
    f.reason.words ++ " at line " ++ .ofList (decimal p.line) ++ " column " ++
      .ofList (decimal p.column)

/-- A place that is already known stays. -/
def orAt (place : Option Place) (f : Fault) : Fault := ⟨f.reason, f.place.or place⟩

end Fault

end PodInventory
