import PodInventory.Duration
import PodInventory.Pod.Record

namespace PodInventory

/-- Why one worker did not answer a call. -/
inductive WorkerError
  | cancelled (after : Duration)
  | remote (kind message : String)
  | transport (detail : String)
  | invalidReply (detail : String)
  | aborted (detail : String)
  deriving DecidableEq, Inhabited

namespace WorkerError

/-- A remote failure speaks for itself. -/
def text : WorkerError → String
  | .cancelled after => "call cancelled after " ++ after.text ++ " without a reply"
  | .remote _ message => message
  | .transport detail => "transport error: " ++ detail
  | .invalidReply detail => "invalid reply: " ++ detail
  | .aborted detail => "call aborted: " ++ detail

def isCancelled : WorkerError → Bool
  | .cancelled _ => true
  | _ => false

/-- What happens to a call whose task dies. The number of the task, which counts all tasks of a
process and so depends on more than the call, is left out: the letter N stands in its place. -/
def ofPanic (message : String) : WorkerError :=
  .aborted ("task N panicked with message " ++ Text.quoted message)

def tag : WorkerError → String
  | .cancelled _ => "cancelled"
  | .remote _ _ => "remote"
  | .transport _ => "transport"
  | .invalidReply _ => "invalid_reply"
  | .aborted _ => "aborted"

def detail : WorkerError → Json
  | .cancelled after => .object [("after", after.json)]
  | .remote kind message => .object [("kind", .text kind), ("message", .text message)]
  | .transport d | .invalidReply d | .aborted d => .text d

def json (e : WorkerError) : Json := .object [("error", .text e.tag), ("detail", e.detail)]

open Decode Document

def tags : List String := ["cancelled", "remote", "transport", "invalid_reply", "aborted"]

def title : String := "adjacently tagged enum WorkerError"

def knownTag (place : Option Place) (name : String) : Except Fault String :=
  if tags.contains name then .ok name else .error ⟨.unknownVariant name tags, place⟩

/-- The tag as the first item of a list. -/
def decodeListedTag : Decoder String
  | .text e s => knownTag e.stop s
  | n => .error (unexpected "variant identifier" n)

/-- The tag as a text, or as the only key of an object that holds nothing. -/
def decodeTag : Decoder String
  | .text e s => knownTag e.stop s
  | .object origin start (.member _ key value tail) => do
    let key ← key
    if origin = .value ∧ 0 < count tail then
      .error ⟨.wrongValue .map "map with a single key", start⟩
    else
      let name ← knownTag key.stop key.name
      nothing value
      closed tail
      return name
  | .object .value start (.done _) =>
    .error ⟨.wrongValue .map "map with a single key", start⟩
  | .object _ _ (.done halt) => .error ⟨.expectedValue, halt⟩
  | .object _ _ (.cut _ strict _) => .error strict
  | n => .error (refused n)
where
  count : Members → Nat
    | .member _ _ _ tail => count tail + 1
    | _ => 0
  nothing : Node → Except Fault Unit
    | .null _ => .ok ()
    | n => .error (unexpected "unit" n)
  closed : Members → Except Fault Unit
    | .done _ => .ok ()
    | .cut halt strict _ =>
      .error (if strict.reason = .endInObject then strict else ⟨.expectedValue, halt⟩)
    | .member halt _ _ _ => .error ⟨.expectedValue, halt⟩
  refused (n : Node) : Fault :=
    match n with
    | .null e | .bool e _ | .number e _ | .text e _ =>
      match e.start with
      | some p => ⟨.expectedValue, some ⟨p.line, p.column + 1⟩⟩
      | none => unexpected "string or map" n
    | .list _ start _ | .object _ start _ =>
      match start with
      | some p => ⟨.expectedValue, some ⟨p.line, p.column + 1⟩⟩
      | none => unexpected "string or map" n
    | .fault _ _ nameless => nameless

def cancelledLayout : Layout where
  title := "struct variant WorkerError::Cancelled"
  fields := [.of "after" Duration.decode]
  positional := false

def remoteLayout : Layout where
  title := "struct variant WorkerError::Remote"
  fields := [.of "kind" string, .of "message" string]
  positional := false

def decodeDetail (name : String) : Decoder WorkerError := fun n ↦
  if name = "cancelled" then do
    let fields ← cancelledLayout.read n
    return .cancelled (← fields.need "after" Duration.decode)
  else if name = "remote" then do
    let fields ← remoteLayout.read n
    return .remote (← fields.need "kind" string) (← fields.need "message" string)
  else if name = "transport" then (string n).map .transport
  else if name = "invalid_reply" then (string n).map .invalidReply
  else (string n).map .aborted

/-- The next member that says something about the error. -/
inductive Part
  | done (halt : Option Place)
  | tag (keyHalt : Option Place) (value : Node) (tail : Members)
  | detail (keyHalt : Option Place) (value : Node) (tail : Members)

def nextPart : Members → Except Fault Part
  | .done halt => .ok (.done halt)
  | .cut _ strict _ => .error strict
  | .member _ key value tail => do
    let key ← key
    if key.name = "error" then return .tag key.halt value tail
    else if key.name = "detail" then return .detail key.halt value tail
    else
      value.skip
      nextPart tail

/-- Neither part may come twice. -/
def finish (e : WorkerError) (tail : Members) : Except Fault WorkerError := do
  match ← nextPart tail with
  | .done _ => return e
  | .tag keyHalt _ _ => .error ⟨.duplicateField "error", keyHalt⟩
  | .detail keyHalt _ _ => .error ⟨.duplicateField "detail", keyHalt⟩

/-- A detail that comes before its tag is kept until the tag is known. -/
def decodeMembers (ms : Members) : Except Fault WorkerError := do
  match ← nextPart ms with
  | .done halt => .error ⟨.missingField "error", halt⟩
  | .tag _ value tail =>
    let name ← decodeTag value
    match ← nextPart tail with
    | .done halt => .error ⟨.missingField "detail", halt⟩
    | .tag keyHalt _ _ => .error ⟨.duplicateField "error", keyHalt⟩
    | .detail _ value tail => finish (← decodeDetail name value) tail
  | .detail _ value tail =>
    let kept ← Decode.json value
    match ← nextPart tail with
    | .done halt => .error ⟨.missingField "error", halt⟩
    | .detail keyHalt _ _ => .error ⟨.duplicateField "detail", keyHalt⟩
    | .tag _ value tail =>
      let name ← decodeTag value
      match decodeDetail name (ofValue .buffer kept) with
      | .error f => .error (f.orAt tail.halt)
      | .ok e => finish e tail

def decodeItems (origin : Origin) : Items → Except Fault WorkerError
  | .done halt => .error ⟨.wrongLength 0 title, halt⟩
  | .cut _ strict _ => .error strict
  | .item _ head tail => do
    let name ← decodeListedTag head
    match tail with
    | .done halt => .error ⟨.wrongLength 1 title, halt⟩
    | .cut _ strict _ => .error strict
    | .item _ head tail =>
      let e ← decodeDetail name head
      surplus origin 2 tail
      return e

def decode : Decoder WorkerError
  | .object _ _ ms => decodeMembers ms
  | .list origin _ is => decodeItems origin is
  | n => .error (unexpected title n)

end WorkerError

end PodInventory
