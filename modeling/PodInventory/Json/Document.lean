import PodInventory.Json.Scan

namespace PodInventory.Document

/-- Where a document came from. It decides how a list that is too long is reported. -/
inductive Origin
  | text
  | value
  | buffer
  deriving DecidableEq, Inhabited

/-- The extent of a scalar. Values that were never text have no places. -/
structure Extent where
  start : Option Place
  stop : Option Place
  deriving DecidableEq, Inhabited

/-- The name of a member. It ends at `stop`, and a reader that stops behind it and looks for the end
of the object rests at `halt`. -/
structure Key where
  name : String
  stop : Option Place
  halt : Option Place
  deriving DecidableEq, Inhabited

mutual

/-- A JSON document with its faults left where they stand, so that a reader that expects a type
reports whichever comes first in the text, a wrong type or a fault of the text itself. -/
inductive Node
  | null (extent : Extent)
  | bool (extent : Extent) (value : Bool)
  | number (extent : Extent) (value : Number)
  | text (extent : Extent) (value : String)
  | list (origin : Origin) (start : Option Place) (items : Items)
  | object (origin : Origin) (start : Option Place) (members : Members)
  /-- A reader of the value reports `strict`. One that skips the value reports `lenient`, or passes
  where there is none. One that wants a name, which is a text or an object, goes by the first
  character and reports `nameless`. -/
  | fault (strict : Fault) (lenient : Option Fault) (nameless : Fault)

/-- The items of a list. `halt` is where a reader ends up that stops before an item and looks for
the end of the list. -/
inductive Items
  | done (halt : Option Place)
  | cut (halt : Option Place) (strict lenient : Fault)
  | item (halt : Option Place) (head : Node) (tail : Items)

inductive Members
  | done (halt : Option Place)
  | cut (halt : Option Place) (strict lenient : Fault)
  | member (halt : Option Place) (key : Except Fault Key) (value : Node) (tail : Members)

end

instance : Inhabited Node := ⟨.null default⟩

def Items.halt : Items → Option Place
  | .done halt | .cut halt _ _ | .item halt _ _ => halt

def Members.halt : Members → Option Place
  | .done halt | .cut halt _ _ | .member halt _ _ _ => halt

def Items.length : Items → Nat
  | .item _ _ tail => tail.length + 1
  | _ => 0

mutual

/-- Passes over a value of any depth. Only faults of the text itself count. -/
def Node.skip : Node → Except Fault Unit
  | .list _ _ items => items.skip
  | .object _ _ members => members.skip
  | .fault _ (some f) _ => .error f
  | _ => .ok ()

def Items.skip : Items → Except Fault Unit
  | .done _ => .ok ()
  | .cut _ _ lenient => .error lenient
  | .item _ head tail =>
    match head.skip with
    | .error f => .error f
    | .ok () => tail.skip

def Members.skip : Members → Except Fault Unit
  | .done _ => .ok ()
  | .cut _ _ lenient => .error lenient
  | .member _ _ value tail =>
    match value.skip with
    | .error f => .error f
    | .ok () => tail.skip

end

mutual

def ofValue (origin : Origin) : Json → Node
  | .null => .null default
  | .bool b => .bool default b
  | .number n => .number default n
  | .text s => .text default s
  | .list items => .list origin none (ofItems origin items)
  | .object members => .object origin none (ofMembers origin members)

def ofItems (origin : Origin) : List Json → Items
  | [] => .done none
  | x :: xs => .item none (ofValue origin x) (ofItems origin xs)

def ofMembers (origin : Origin) : List (String × Json) → Members
  | [] => .done none
  | (k, v) :: rest => .member none (.ok ⟨k, none, none⟩) (ofValue origin v) (ofMembers origin rest)

end

/-- Where a reader rests that looks for the end of a list. A comma and a closing bracket count as
read. -/
def listHalt (c : Cursor) : Option Place :=
  match c.skip.rest with
  | ']' :: _ => some c.skip.next.place
  | ',' :: _ => some c.skip.next.skip.place
  | _ => some c.skip.place

/-- Where a reader rests that looks for the end of an object. -/
def objectHalt (c : Cursor) : Option Place :=
  match c.skip.rest with
  | '}' :: _ => some c.skip.next.place
  | _ => some c.skip.place

/-- How many brackets may be open at once for a reader that keeps the value. -/
def depthLimit : Nat := 127

/-- A value with the cursor behind it. No cursor is left where nothing can pass. -/
abbrev Step (α : Type) := α × Option Cursor

/-- A fault that every reader reports. -/
def broken (f : Fault) : Node := .fault f (some f) f

def ofToken {α : Type} (start : Cursor) (isName : Bool) (build : Extent → α → Node)
    (token : Scan.Token α) : Step Node :=
  let nameless (strict : Fault) : Fault := if isName then strict else start.ahead .expectedValue
  match token.value, token.rest with
  | .ok a, .ok c => (build ⟨some start.place, some c.place⟩ a, some c)
  | .ok _, .error f => (.fault f (some f) (nameless f), none)
  | .error f, .ok c => (.fault f none (nameless f), some c)
  | .error f, .error g => (.fault f (some g) (nameless f), none)

def ofWord (start : Cursor) (letters : List Char) (build : Extent → Node) : Step Node :=
  match Scan.word letters start.next with
  | .ok c => (build ⟨some start.place, some c.place⟩, some c)
  | .error f => (.fault f (some f) (start.ahead .expectedValue), none)

/-- The outermost value beyond the depth limit turns into a fault for those who would keep it. -/
def limited (depth : Nat) (start : Cursor) (node : Node) : Node :=
  if depth = depthLimit then
    .fault (start.ahead .tooDeep) (match node.skip with | .ok () => none | .error f => some f)
      (start.ahead .tooDeep)
  else node

def colon (c : Cursor) : Except Fault Cursor :=
  match c.skip.rest with
  | [] => .error (c.skip.ahead .endInObject)
  | ':' :: _ => .ok c.skip.next
  | _ => .error (c.skip.ahead .expectedColon)

mutual

def node : Nat → Nat → Cursor → Step Node
  | 0, _, c => (broken (c.here .endInValue), none)
  | fuel + 1, depth, c =>
    let c := c.skip
    match c.rest with
    | [] => (broken (c.here .endInValue), none)
    | 'n' :: _ => ofWord c ['u', 'l', 'l'] .null
    | 't' :: _ => ofWord c ['r', 'u', 'e'] (fun e ↦ .bool e true)
    | 'f' :: _ => ofWord c ['a', 'l', 's', 'e'] (fun e ↦ .bool e false)
    | '"' :: _ => ofToken c true .text (Scan.text (c.rest.length + 1) (.ok []) c.next)
    | '[' :: _ =>
      let (items, rest) := items fuel (depth + 1) true c.next
      (limited depth c (.list .text (some c.place) items), rest)
    | '{' :: _ =>
      let (members, rest) := members fuel (depth + 1) true c.next
      (limited depth c (.object .text (some c.place) members), rest)
    | x :: _ =>
      if x = '-' ∨ x.isDigit then ofToken c false .number (Scan.number c)
      else (broken (c.ahead .expectedValue), none)

def items : Nat → Nat → Bool → Cursor → Step Items
  | 0, _, _, c => (.cut none (c.here .endInList) (c.here .endInList), none)
  | fuel + 1, depth, first, c =>
    let halt := listHalt c
    let c := c.skip
    let item (c : Cursor) : Step Items :=
      match node fuel depth c with
      | (head, none) => (.item halt head (.done none), none)
      | (head, some rest) =>
        let (tail, rest) := items fuel depth false rest
        (.item halt head tail, rest)
    match c.rest with
    | [] => (.cut halt (c.here .endInList) (c.here .endInList), none)
    | ']' :: _ => (.done halt, some c.next)
    | x :: _ =>
      if first then item c
      else if x = ',' then
        let c := c.next.skip
        match c.rest with
        | [] => (.cut halt (c.here .endInValue) (c.here .endInValue), none)
        | ']' :: _ => (.cut halt (c.ahead .trailingComma) (c.ahead .expectedValue), none)
        | _ => item c
      else (.cut halt (c.ahead .expectedListComma) (c.ahead .expectedListComma), none)

def members : Nat → Nat → Bool → Cursor → Step Members
  | 0, _, _, c => (.cut none (c.here .endInObject) (c.here .endInObject), none)
  | fuel + 1, depth, first, c =>
    let halt := objectHalt c
    let c := c.skip
    let member (c : Cursor) : Step Members :=
      let token := Scan.text (c.rest.length + 1) (.ok []) c.next
      match token.rest with
      | .error f =>
        (.cut halt (match token.value with | .error g => g | .ok _ => f) f, none)
      | .ok afterKey =>
        let key := token.value.map fun name ↦ ⟨name, some afterKey.place, objectHalt afterKey⟩
        let (value, rest) : Step Node :=
          match colon afterKey with
          | .error f => (broken f, none)
          | .ok c => node fuel depth c
        match rest with
        | none => (.member halt key value (.done none), none)
        | some rest =>
          let (tail, rest) := members fuel depth false rest
          (.member halt key value tail, rest)
    match c.rest with
    | [] => (.cut halt (c.here .endInObject) (c.here .endInObject), none)
    | '}' :: _ => (.done halt, some c.next)
    | x :: _ =>
      if first then
        if x = '"' then member c
        else (.cut halt (c.ahead .keyNotText) (c.ahead .keyNotText), none)
      else if x = ',' then
        let c := c.next.skip
        match c.rest with
        | [] => (.cut halt (c.here .endInValue) (c.here .endInObject), none)
        | '"' :: _ => member c
        | '}' :: _ => (.cut halt (c.ahead .trailingComma) (c.ahead .keyNotText), none)
        | _ => (.cut halt (c.ahead .keyNotText) (c.ahead .keyNotText), none)
      else (.cut halt (c.ahead .expectedObjectComma) (c.ahead .expectedObjectComma), none)

end

/-- The document at the front of a text. -/
def ofText (s : String) : Step Node :=
  let c := Cursor.start s
  node (2 * c.rest.length + 2) 0 c

/-- Only blanks may follow a document. -/
def trailing (rest : Option Cursor) : Except Fault Unit :=
  match rest with
  | none => .ok ()
  | some c => if c.skip.rest.isEmpty then .ok () else .error (c.skip.ahead .trailingCharacters)

end PodInventory.Document
