import PodInventory.Http.Status
import PodInventory.Http.Url
import PodInventory.Json.Render
import PodInventory.Note
import PodInventory.Partition
import PodInventory.Worker.Call

namespace PodInventory

namespace Http

/-- A call as it is posted. -/
structure Post where
  url : Url
  contentType : String
  body : String
  deriving Inhabited

/-- A response. The body may have been cut off. -/
structure Response where
  status : Nat
  body : List UInt8
  isWhole : Bool
  deriving DecidableEq, Inhabited

/-- What became of a request. -/
inductive Exchange
  | answered (response : Response)
  /-- The connection was refused, or closed before an answer. -/
  | broken
  /-- No answer ever comes. -/
  | silent
  deriving DecidableEq, Inhabited

/-- A failure in the words of the worker. -/
structure Fault where
  kind : String
  message : String
  deriving DecidableEq, Inhabited

open Decode in
def Fault.layout : Layout where
  title := "struct RemoteFault"
  fields := [.of "kind" string, .of "message" string]

open Decode in
def Fault.decode : Decoder Fault := fun n ↦ do
  let fields ← layout.read n
  return ⟨← fields.need "kind" string, ← fields.need "message" string⟩

def undecodable : String := "error decoding response body"

/-- The reply in the body of a success. -/
def replyOf (r : Response) : Outcome Json :=
  match if r.isWhole then Text.ofUtf8? r.body else none with
  | none => .error (.invalidReply undecodable)
  | some body =>
    match Decode.ofText Decode.value body with
    | .ok reply => .ok reply
    | .error _ => .error (.invalidReply undecodable)

/-- A body that names a kind and a message speaks for the worker, any other is passed on as it
is. -/
def failureOf (r : Response) : WorkerError :=
  let title := "HTTP " ++ statusText r.status ++ ": "
  if r.isWhole then
    let body := Text.ofUtf8Lossy r.body
    match Decode.ofText Fault.decode body with
    | .ok fault => .remote fault.kind fault.message
    | .error _ => .transport (title ++ body)
  else .transport (title ++ "failed to read error body: " ++ undecodable)

def Response.outcome (r : Response) : Outcome Json :=
  if isSuccess r.status then replyOf r else .error (failureOf r)

end Http

/-- A worker behind an HTTP endpoint. -/
structure HttpWorker where
  id : WorkerId
  endpoint : String
  deriving DecidableEq, Inhabited

namespace HttpWorker

open Http

def withoutSlashes (s : List Char) : List Char := (s.reverse.dropWhile (· == '/')).reverse

/-- Where calls go to, however many slashes the endpoint ends in. -/
def rpcAddress (w : HttpWorker) : String :=
  .ofList (withoutSlashes w.endpoint.toList ++ "/rpc".toList)

def url? (w : HttpWorker) : Except WorkerError Url :=
  match Url.parse? w.rpcAddress with
  | none => .error (.transport "builder error")
  | some url =>
    let url := url.anonymous
    if url.isWeb then .ok url
    else .error (.transport ("builder error for url (" ++ url.text ++ ")"))

def post (url : Url) (call : Call) : Post := ⟨url, "application/json", call.json.compactText⟩

/-- What a worker does when it is called. -/
def action (url : Url) : Exchange → Action
  | .answered r =>
    match r.outcome with
    | .ok reply => .reply reply
    | .error e => .fail e
  | .broken => .fail (.transport ("error sending request for url (" ++ url.text ++ ")"))
  | .silent => .hang

/-- A call that is given up before it starts. -/
def abandoned : WorkerError := .transport "call cancelled by caller"

/-- The worker on a network that tells what becomes of each request, and after how many milliseconds
it does. -/
def connect (network : HttpWorker → Url → Nat × Exchange) (w : HttpWorker) : Worker :=
  match w.url? with
  | .error e => ⟨w.id, 0, .fail e⟩
  | .ok url =>
    let (delay, exchange) := network w url
    ⟨w.id, delay, action url exchange⟩

def note (w : HttpWorker) (call : Call) : Note :=
  ⟨.debug, "Calling " ++ call.method ++ " on worker " ++ w.id ++ " at " ++ w.endpoint⟩

end HttpWorker

end PodInventory
