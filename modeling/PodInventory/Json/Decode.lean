import PodInventory.Json.Document
import PodInventory.Address

namespace PodInventory.Decode

open Document

/-- A reader of one type from a document. -/
abbrev Decoder (α : Type) := Node → Except Fault α

/-- The fault of a reader that expected something else than this value. -/
def unexpected (expected : String) : Node → Fault
  | .null e => ⟨.wrongType .null expected, e.stop⟩
  | .bool e b => ⟨.wrongType (.bool b) expected, e.stop⟩
  | .number e n => ⟨.wrongType (.number n) expected, e.stop⟩
  | .text e s => ⟨.wrongType (.text s) expected, e.stop⟩
  | .list _ start _ => ⟨.wrongType .sequence expected, start⟩
  | .object _ start _ => ⟨.wrongType .map expected, start⟩
  | .fault strict _ _ => strict

def string : Decoder String
  | .text _ s => .ok s
  | n => .error (unexpected "a string" n)

def bool : Decoder Bool
  | .bool _ b => .ok b
  | n => .error (unexpected "a boolean" n)

/-- A natural number below `2 ^ width`. -/
def natural (width : Nat) : Decoder Nat
  | .number e (.integer i) =>
    if 0 ≤ i ∧ i.toNat < 1 <<< width then .ok i.toNat
    else .error
      ⟨.wrongValue (.number (.integer i)) ("u" ++ .ofList (Text.decimal width)), e.stop⟩
  | n => .error (unexpected ("u" ++ .ofList (Text.decimal width)) n)

def word32 : Decoder UInt32 := fun n ↦ (natural 32 n).map (·.toUInt32)

def word64 : Decoder UInt64 := fun n ↦ (natural 64 n).map (·.toUInt64)

def orNull {α : Type} (d : Decoder α) : Decoder (Option α)
  | .null _ => .ok none
  | n => (d n).map some

def ipAddress : Decoder Address
  | .text e s =>
    match Address.ofText? s with
    | some a => .ok a
    | none => .error ⟨.badAddress, e.stop⟩
  | n => .error (unexpected "IP address" n)

def items {α : Type} (d : Decoder α) : Items → Except Fault (List α)
  | .done _ => .ok []
  | .cut _ strict _ => .error strict
  | .item _ head tail => do return (← d head) :: (← items d tail)

def list {α : Type} (d : Decoder α) : Decoder (List α)
  | .list _ _ is => items d is
  | n => .error (unexpected "a sequence" n)

def members {α : Type} (d : Decoder α) (read : Dict α) : Members → Except Fault (Dict α)
  | .done _ => .ok read
  | .cut _ strict _ => .error strict
  | .member _ key value tail => do members d (read.insert (← key).name (← d value)) tail

/-- An object with keys of one's own. Of equal keys the last one counts. -/
def dict {α : Type} (d : Decoder α) : Decoder (Dict α)
  | .object _ _ ms => members d .empty ms
  | n => .error (unexpected "a map" n)

mutual

/-- Any value. -/
def json : Decoder Json
  | .null _ => .ok .null
  | .bool _ b => .ok (.bool b)
  | .number _ n => .ok (.number n)
  | .text _ s => .ok (.text s)
  | .list _ _ is => (jsonItems is).map .list
  | .object _ _ ms => (jsonMembers ms).map .object
  | .fault strict _ _ => .error strict

def jsonItems : Items → Except Fault (List Json)
  | .done _ => .ok []
  | .cut _ strict _ => .error strict
  | .item _ head tail =>
    match json head with
    | .error f => .error f
    | .ok x => (jsonItems tail).map (x :: ·)

/-- The members in the order of the text. -/
def jsonMembers : Members → Except Fault (List (String × Json))
  | .done _ => .ok []
  | .cut _ strict _ => .error strict
  | .member _ key value tail =>
    match key, json value with
    | .error f, _ => .error f
    | .ok _, .error f => .error f
    | .ok k, .ok v => (jsonMembers tail).map ((k.name, v) :: ·)

end

mutual

/-- Puts the members of every object into ascending order. Of equal keys the last one stays. -/
def ordered : Json → Json
  | .list is => .list (orderedItems is)
  | .object ms => .object (Dict.ofList (orderedMembers ms)).entries
  | j => j

def orderedItems : List Json → List Json
  | [] => []
  | x :: xs => ordered x :: orderedItems xs

def orderedMembers : List (String × Json) → List (String × Json)
  | [] => []
  | (k, v) :: rest => (k, ordered v) :: orderedMembers rest

end

def value : Decoder Json := fun n ↦ (json n).map ordered

/-- One field of a record. A field that is not required may be missing from an object, and one that
is not placed may be missing at the end of a list. -/
structure Field where
  name : String
  check : Node → Except Fault Unit
  required : Bool
  placed : Bool

def Field.probe {α : Type} (d : Decoder α) (n : Node) : Except Fault Unit := (d n).map (fun _ ↦ ())

def Field.of {α : Type} (name : String) (d : Decoder α) : Field :=
  ⟨name, probe d, true, true⟩

def Field.defaulted {α : Type} (name : String) (d : Decoder α) : Field :=
  ⟨name, probe d, false, false⟩

/-- It may be missing from an object, but a list always has a place for it. -/
def Field.nullable {α : Type} (name : String) (d : Decoder α) : Field :=
  ⟨name, probe d, false, true⟩

/-- The shape of a record: its fields in order, and whether other members are refused. -/
structure Layout where
  title : String
  fields : List Field
  sealed : Bool := false
  /-- Whether a list of the fields stands for the record as well. -/
  positional : Bool := true

/-- The fields that a record was found to have. -/
abbrev Fields := List (String × Node)

def Layout.names (l : Layout) : List String := l.fields.map Field.name

def Layout.readMembers (l : Layout) (read : Fields) : Members → Except Fault Fields
  | .done halt =>
    match l.fields.find? (fun f ↦ f.required && (read.lookup f.name).isNone) with
    | some f => .error ⟨.missingField f.name, halt⟩
    | none => .ok read
  | .cut _ strict _ => .error strict
  | .member _ key value tail => do
    let key ← key
    match l.fields.find? (fun f ↦ f.name == key.name) with
    | none =>
      if l.sealed then .error ⟨.unknownField key.name l.names, key.halt⟩
      else
        value.skip
        l.readMembers read tail
    | some f =>
      if (read.lookup key.name).isSome then .error ⟨.duplicateField key.name, key.halt⟩
      else
        f.check value
        l.readMembers (read ++ [(key.name, value)]) tail

/-- What stands behind the last field of a list. -/
def surplus (origin : Origin) (count : Nat) : Items → Except Fault Unit
  | .done _ => .ok ()
  | .cut halt strict _ =>
    match strict.reason with
    | .expectedListComma => .error ⟨.trailingCharacters, strict.place⟩
    | .endInValue => .error ⟨.trailingCharacters, halt⟩
    | _ => .error strict
  | .item halt _ tail =>
    match origin with
    | .text =>
      .error ⟨.trailingCharacters, halt.map (fun p ↦ ⟨p.line, p.column + 1⟩)⟩
    | .value => .error ⟨.wrongLength (count + 1 + tail.length) "fewer elements in array", none⟩
    | .buffer =>
      .error ⟨.wrongLength (count + 1 + tail.length)
        (if count = 1 then "1 element in sequence"
          else .ofList (Text.decimal count) ++ " elements in sequence"), none⟩

def Layout.readItems (l : Layout) (origin : Origin) (expected : String) :
    List Field → Fields → Items → Except Fault Fields
  | [], read, is => do
    surplus origin l.fields.length is
    return read
  | _ :: _, _, .cut _ strict _ => .error strict
  | f :: fs, read, .done halt =>
    if f.placed then .error ⟨.wrongLength (l.fields.length - fs.length - 1) expected, halt⟩
    else l.readItems origin expected fs read (.done halt)
  | f :: fs, read, .item _ head tail => do
    f.check head
    l.readItems origin expected fs (read ++ [(f.name, head)]) tail

/-- A record counts its fields where it is too short, unless it is sealed. -/
def Layout.expectedLength (l : Layout) : String :=
  if l.sealed then l.title
  else l.title ++ " with " ++ .ofList (Text.decimal l.fields.length) ++ " elements"

def Layout.read (l : Layout) : Node → Except Fault Fields
  | .object _ _ ms => l.readMembers [] ms
  | .list origin _ is =>
    if l.positional then l.readItems origin l.expectedLength l.fields [] is
    else .error ⟨.wrongType .sequence l.title, is.halt⟩
  | n => .error (unexpected l.title n)

def Fields.need {α : Type} (fields : Fields) (name : String) (d : Decoder α) : Except Fault α :=
  match fields.lookup name with
  | some n => d n
  | none => .error ⟨.missingField name, none⟩

def Fields.getD {α : Type} (fields : Fields) (name : String) (d : Decoder α) (default : α) :
    Except Fault α :=
  match fields.lookup name with
  | some n => d n
  | none => .ok default

def ofJson {α : Type} (d : Decoder α) (j : Json) : Except Fault α := d (Document.ofValue .value j)

/-- Reads a whole text. -/
def ofText {α : Type} (d : Decoder α) (s : String) : Except Fault α := do
  let (node, rest) := Document.ofText s
  let a ← d node
  Document.trailing rest
  return a

end PodInventory.Decode
